import EntityPlan.Application
import EntityPlan.Model.Rules
import EntityPlan.Plan.Basic

/-! # Grouping — which group an entity goes to

    An entity goes to the group of every application that claims it, and to the
    default group when none does.  Groups stand in the order of the applications,
    entities in the order of their declaration.  Applications with one name, and
    those that list what was never declared, are refused. -/

namespace EntityPlan.Plan

/-- The first entity that an application lists and nobody declared. -/
def undeclaredIn? (declared : List String) (a : Application) : Option Failure :=
  (a.listedEntities.find? fun e => !declared.contains e).map fun e => .undeclaredEntity a.name e

/-- The package of an application. -/
def packageOf (g : Generation) (a : Application) : String :=
  a.packageName.getD (ModelRules.packageBelow g.basePackage a.name)

/-- The group of an application. -/
def groupOf (models : List EntityModel) (g : Generation) (a : Application) : Group where
  name := a.name
  packageName := packageOf g a
  applicationType := a.applicationType
  isDefault := false
  layouts := UnitLayout.all a.name (packageOf g a) g
  entities := models.filter fun m => a.claims m.name

/-- The models that no application claims. -/
def unclaimed (models : List EntityModel) (applications : List Application) : List EntityModel :=
  models.filter fun m => !applications.any fun a => a.claims m.name

/-- The default group. -/
def leftOver (g : Generation) (entities : List EntityModel) : Group where
  name := g.defaultModule
  packageName := g.basePackage
  applicationType := Application.defaultType
  isDefault := true
  layouts := UnitLayout.all g.defaultModule g.basePackage g
  entities := entities

/-- The plan of models and applications. -/
def ofModels (models : List EntityModel) (applications : List Application) (g : Generation) :
    Except Failure Plan := do
  let names := applications.map (·.name)
  if let some name := Text.firstRepeated? [] names then throw (.duplicateDeclaration "module" name)
  if let some f := applications.findSome? (undeclaredIn? (models.map (·.name))) then throw f
  let groups := applications.map (groupOf models g)
  match unclaimed models applications with
  | [] => return ⟨groups⟩
  | rest =>
      if names.contains g.defaultModule then throw (.settings (.moduleTaken g.defaultModule))
      return ⟨groups ++ [leftOver g rest]⟩

end EntityPlan.Plan
