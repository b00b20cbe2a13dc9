import EntityPlan.Plan.Basic

/-! # Summaries — a plan at a glance

    One line for each group, then one indented line for each of its entities. -/

namespace EntityPlan

/-- The line of an entity. -/
def EntityModel.summary (m : EntityModel) : String :=
  "    " ++ m.name ++ " -> " ++ m.tableName ++ " (" ++ m.scope.name ++ ", " ++
    toString m.fields.length ++ " fields)\n"

/-- The lines of a group. -/
def Group.summary (g : Group) : String :=
  "✓ Module: " ++ g.name ++ (if g.isDefault then " (unclaimed)" else "") ++ " [" ++
    g.packageName ++ "] " ++ toString g.entities.length ++ " entities\n" ++
    String.join (g.entities.map (·.summary))

/-- The lines of a plan. -/
def Plan.summary (p : Plan) : String := String.join (p.groups.map (·.summary))

end EntityPlan
