import EntityPlan.Application
import EntityPlan.Proofs.Admission

/-! # Declarations — why a record declares nothing

    An entity record is refused as a malformed one, and so are its fields and its
    relationships.  An application record is refused only for want of a name. -/

namespace EntityPlan

/-- A field record is refused as a malformed one. -/
theorem Field.malformed_of_ofRecord {entity : String} {r : Source.FieldRecord} {f : Failure}
    (h : Field.ofRecord entity r = .error f) :
    ∃ kind name fault, f = .malformedRecord kind name fault := by
  cases Field.ofRecord_eq_error_iff.mp h with
  | name | type => exact ⟨_, _, _, rfl⟩

/-- A record that declares a field has a name and a type. -/
theorem Field.parts_of_ofRecord {entity : String} {r : Source.FieldRecord} {x : Field}
    (h : Field.ofRecord entity r = .ok x) :
    given r.name = some x.name ∧ given r.type = some x.type := by
  have hdeclares := Field.ofRecord_eq_ok_iff.mp h
  exact ⟨given_eq_some_iff.mpr hdeclares.name, given_eq_some_iff.mpr hdeclares.type⟩

/-- A relationship record is refused as a malformed one. -/
theorem Relationship.malformed_of_ofRecord {entity : String} {r : Source.RelationshipRecord}
    {f : Failure} (h : Relationship.ofRecord entity r = .error f) :
    ∃ kind name fault, f = .malformedRecord kind name fault := by
  cases Relationship.ofRecord_eq_error_iff.mp h with
  | kind | target => exact ⟨_, _, _, rfl⟩

/-- A record that declares a relationship has a cardinality and a target. -/
theorem Relationship.parts_of_ofRecord {entity : String} {r : Source.RelationshipRecord}
    {x : Relationship} (h : Relationship.ofRecord entity r = .ok x) :
    r.kind = some x.cardinality.name ∧ r.target.bind (·.name) = some x.target ∧
      (r.source.bind (·.injectedField)).getD (Text.lowerFirst x.target) = x.fieldName ∧
        (r.source.bind (·.required)).getD false = x.required := by
  have hdeclares := Relationship.ofRecord_eq_ok_iff.mp h
  exact ⟨hdeclares.kind, hdeclares.target, hdeclares.getD_property, hdeclares.getD_required⟩

/-- An entity record is refused as a malformed one. -/
theorem Entity.malformed_of_ofRecord {r : Source.EntityRecord}
    {relationships : List Source.RelationshipRecord} {f : Failure}
    (h : Entity.ofRecord r relationships = .error f) :
    ∃ kind name fault, f = .malformedRecord kind name fault := by
  cases Entity.ofRecord_eq_error_iff.mp h with
  | name | body => exact ⟨_, _, _, rfl⟩
  | field _ _ _ hlacks => exact Field.malformed_of_ofRecord (Field.ofRecord_eq_error_iff.mpr hlacks)
  | relationship _ _ _ _ hlacks =>
      exact Relationship.malformed_of_ofRecord (Relationship.ofRecord_eq_error_iff.mpr hlacks)

/-- A record that declares an entity has a name and a field list; all its fields and all
    relationships declared from this name are declared with it. -/
theorem Entity.parts_of_ofRecord {r : Source.EntityRecord}
    {relationships : List Source.RelationshipRecord} {e : Entity}
    (h : Entity.ofRecord r relationships = .ok e) :
    given r.name = some e.name ∧ ∃ body, r.body = some body ∧
      body.mapM (Field.ofRecord e.name) = .ok e.fields ∧
        (ownRecords e.name relationships).mapM (Relationship.ofRecord e.name) =
          .ok e.relationships := by
  obtain ⟨name, body, fields, own, hname, hbody, hfields, hown, rfl⟩ := ofRecord_eq_ok_iff.mp h
  exact ⟨hname, body, hbody, hfields, hown⟩

/-- The annotations of an entity are those of its record that have a name. -/
theorem Entity.annotations_of_ofRecord {r : Source.EntityRecord}
    {relationships : List Source.RelationshipRecord} {e : Entity}
    (h : Entity.ofRecord r relationships = .ok e) :
    e.annotations = (r.annotations.getD []).filterMap Annotation.ofRecord? := by
  obtain ⟨name, body, fields, own, -, -, -, -, rfl⟩ := ofRecord_eq_ok_iff.mp h
  rfl

/-- The record gives its application a name that is not empty. -/
def Source.ApplicationRecord.Named (r : Source.ApplicationRecord) : Prop :=
  ∃ config name, r.config = some config ∧ config.baseName = some name ∧ name ≠ ""

/-- An application record is refused only for want of a name. -/
theorem Application.ofRecord_eq_error_iff {r : Source.ApplicationRecord} {f : Failure} :
    Application.ofRecord r = .error f ↔
      ¬ r.Named ∧ f = .malformedRecord "application" "<unnamed>" .namelessApplication := by
  have hgiven : given (r.config.getD {}).baseName = none ↔ ¬ r.Named := by
    unfold given Source.ApplicationRecord.Named
    rw [Option.filter_eq_none_iff]
    cases r.config with
    | none => simp
    | some config => cases config.baseName <;> simp
  rw [← hgiven]
  unfold Application.ofRecord
  dsimp only
  cases given (r.config.getD {}).baseName with
  | none =>
      rw [Except.error.injEq]
      exact ⟨fun h => ⟨rfl, h.symm⟩, fun h => h.2.symm⟩
  | some name => exact ⟨fun h => (nomatch h), fun h => (nomatch h.1)⟩

end EntityPlan
