import EntityPlan.Source.Record
import EntityPlan.Text.Case

/-! # Relationships — how one entity refers to another

    A relationship belongs to the entity it is declared from.  The entity on the
    owning side of its cardinality holds the column that joins the two. -/

namespace EntityPlan

/-- How many entities stand on either side. -/
inductive Cardinality
  | oneToOne
  | oneToMany
  | manyToOne
  | manyToMany
  deriving DecidableEq, Repr

namespace Cardinality

/-- The name of a cardinality. -/
def name : Cardinality → String
  | .oneToOne => "OneToOne"
  | .oneToMany => "OneToMany"
  | .manyToOne => "ManyToOne"
  | .manyToMany => "ManyToMany"

/-- Every cardinality. -/
def all : List Cardinality := [.oneToOne, .oneToMany, .manyToOne, .manyToMany]

/-- The cardinality of this name. -/
def ofName? (s : String) : Option Cardinality := all.find? (·.name == s)

theorem name_of_ofName? {s : String} {c : Cardinality} (h : ofName? s = some c) : c.name = s := by
  simpa using List.find?_some h

theorem name_ne_empty (c : Cardinality) : c.name ≠ "" := by cases c <;> decide

/-- The declaring side holds the joining column. -/
def isOwning : Cardinality → Bool
  | .manyToOne | .oneToOne => true
  | .oneToMany | .manyToMany => false

theorem isOwning_iff {c : Cardinality} : c.isOwning = true ↔ c = .manyToOne ∨ c = .oneToOne := by
  cases c <;> decide

/-- The declaring side refers to several entities. -/
def isCollection : Cardinality → Bool
  | .oneToMany | .manyToMany => true
  | .manyToOne | .oneToOne => false

end Cardinality

/-- A relationship as its declaring entity sees it. -/
structure Relationship where
  cardinality : Cardinality
  /-- the property that the declaring entity gets -/
  fieldName : String
  target : String
  required : Bool
  deriving DecidableEq, Repr

/-- A text that is present and not empty. -/
def given (s : Option String) : Option String := s.filter (· ≠ "")

namespace Relationship

/-- The entity that a record is declared from. -/
def declaredFrom (r : Source.RelationshipRecord) : Option String := r.source.bind (·.name)

/-- The relationship of a record of `entity`.  Without a property name the target's
    name serves, its first character in lower case. -/
def ofRecord (entity : String) (r : Source.RelationshipRecord) : Except Failure Relationship :=
  let kind := r.kind.getD ""
  match Cardinality.ofName? kind with
  | none => .error (.malformedRecord "relationship" entity (.unknownCardinality kind))
  | some cardinality =>
      match r.target.bind (·.name) with
      | none => .error (.malformedRecord "relationship" entity .noTarget)
      | some target =>
          .ok
            { cardinality
              fieldName := (r.source.bind (·.injectedField)).getD (Text.lowerFirst target)
              target
              required := (r.source.bind (·.required)).getD false }

end Relationship

end EntityPlan
