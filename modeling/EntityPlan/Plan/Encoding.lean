import EntityPlan.Model.Encoding
import EntityPlan.Plan.Basic

/-! # Plans as JSON — groups with their layouts and entities -/

namespace EntityPlan

open Json (Value)

/-- A dependency as JSON. -/
def UnitDependency.encoded (d : UnitDependency) : Value :=
  .object [("name", .text d.domain), ("type", .text d.kind.name)]

/-- A layout as JSON. -/
def UnitLayout.encoded (l : UnitLayout) : Value :=
  .object
    [ ("domain", .text l.domain),
      ("moduleType", .text l.kind.name),
      ("baseName", .text l.baseName),
      ("packageName", .text l.packageName),
      ("mainClassName", .text l.mainClass),
      ("group", .text l.group),
      ("version", .text l.version),
      ("coreDependencies", .list (l.dependencies.map (·.encoded))),
      ("includeDb", .boolean l.includesDb),
      ("includeWebService", .boolean l.includesWebService),
      ("includeSecurity", .boolean l.includesSecurity),
      ("includeTest", .boolean l.includesTest) ]

/-- A group as JSON. -/
def Group.encoded (g : Group) : Value :=
  .object
    [ ("name", .text g.name),
      ("packageName", .text g.packageName),
      ("applicationType", .text g.applicationType),
      ("isDefault", .boolean g.isDefault),
      ("layouts", .list (g.layouts.map (·.encoded))),
      ("entities", .list (g.entities.map (·.encoded))) ]

/-- A plan as JSON. -/
def Plan.encoded (p : Plan) : Value := .object [("groups", .list (p.groups.map (·.encoded)))]

end EntityPlan
