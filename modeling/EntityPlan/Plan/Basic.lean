import EntityPlan.Layout
import EntityPlan.Model.Basic

/-! # Plans — the groups of a run

    A plan has one group for each application and, last, a default group for the
    entities that no application claims. -/

namespace EntityPlan

/-- Entities that are written together. -/
structure Group where
  name : String
  packageName : String
  applicationType : String
  /-- it holds what no application claims -/
  isDefault : Bool
  layouts : List UnitLayout
  entities : List EntityModel
  deriving DecidableEq, Repr

namespace Group

/-- The names of the entities, in order. -/
def entityNames (g : Group) : List String := g.entities.map (·.name)

def contains (g : Group) (entity : String) : Bool := g.entityNames.contains entity

end Group

/-- The result of a run. -/
structure Plan where
  groups : List Group
  deriving DecidableEq, Repr

namespace Plan

/-- The first group of this name. -/
def group? (p : Plan) (name : String) : Option Group := p.groups.find? (·.name == name)

/-- The group of the entities that no application claims. -/
def defaultGroup? (p : Plan) : Option Group := p.groups.find? (·.isDefault)

/-- The names of the groups, in order. -/
def groupNames (p : Plan) : List String := p.groups.map (·.name)

/-- The number of different entities in all groups. -/
def entityCount (p : Plan) : Nat := (Text.distinct (p.groups.flatMap (·.entityNames))).length

end Plan

end EntityPlan
