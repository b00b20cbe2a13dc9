import EntityPlan.Entity
import EntityPlan.Proofs.Requirement

/-! # Admission — which records declare an entity, and what they declare

    An entity record needs a name and a field list, each of its fields a name and a type,
    and each relationship declared from it a cardinality and a target.  The first of these
    that is wanting is why the record is refused (`Source.EntityRecord.Lacks`).  Where none
    is (`Source.EntityRecord.Complete`), each record becomes one declaration, in order
    (`Source.EntityRecord.Declares`), and what is declared from other entities is not
    looked at (`Entity.ofRecord_is_exact`). -/

namespace EntityPlan

variable {α β : Type}

/-- The text is there, and it is not empty. -/
def Stated (o : Option String) : Prop := ∃ s, o = some s ∧ s ≠ ""

theorem given_eq_some_iff {o : Option String} {s : String} :
    given o = some s ↔ o = some s ∧ s ≠ "" := by
  show o.filter (· ≠ "") = some s ↔ _
  rw [Option.filter_eq_some_iff, decide_eq_true_iff]

theorem given_eq_none_iff {o : Option String} : given o = none ↔ ¬ Stated o := by
  rw [Option.eq_none_iff_forall_ne_some, Stated, not_exists]
  exact forall_congr' fun s => not_congr given_eq_some_iff

/-- The records that have a name, each as what it says. -/
def Named (name : α → Option String) (Says : α → β → Prop) (records : Option (List α))
    (items : List β) : Prop :=
  List.Forall₂ Says ((records.getD []).filter fun r => (name r).isSome) items

/-- Records that are left out are those that have no name. -/
theorem filterMap_eq_iff_named {name : α → Option String} {Says : α → β → Prop}
    {adapt : α → Option β} (hadapt : ∀ r x, adapt r = some x ↔ Says r x)
    (hname : ∀ r, (adapt r).isSome = (name r).isSome) {records : Option (List α)}
    {items : List β} :
    (records.getD []).filterMap adapt = items ↔ Named name Says records items := by
  unfold Named
  generalize records.getD [] = l
  induction l generalizing items with
  | nil => simp [eq_comm]
  | cons r rest ih =>
      rw [List.filterMap_cons, List.filter_cons, ← hname r]
      cases hr : adapt r with
      | none => exact ih
      | some x =>
          show x :: rest.filterMap adapt = items ↔ List.Forall₂ Says (r :: rest.filter _) items
          rw [List.forall₂_cons_left_iff]
          constructor
          · rintro rfl
            exact ⟨x, _, (hadapt r x).mp hr, ih.mp rfl, rfl⟩
          · rintro ⟨y, items, hy, hrest, rfl⟩
            obtain rfl : x = y := Option.some.inj (hr.symm.trans ((hadapt r y).mpr hy))
            rw [ih.mpr hrest]

namespace Source

/-- The annotation that a record says. -/
def OptionRecord.Says (r : OptionRecord) (a : Annotation) : Prop :=
  r.name = some a.name ∧ a.value = r.value.bind optionText

/-- The validation that a record says. -/
def ValidationRecord.Says (r : ValidationRecord) (v : Validation) : Prop :=
  r.key = some v.name ∧ v.value = r.value.bind optionText

theorem OptionRecord.says_iff {r : OptionRecord} {a : Annotation} :
    Annotation.ofRecord? r = some a ↔ r.Says a := by
  refine Option.map_eq_some_iff.trans ⟨?_, ?_⟩
  · rintro ⟨n, hn, rfl⟩
    exact ⟨hn, rfl⟩
  · rintro ⟨hname, hvalue⟩
    refine ⟨a.name, hname, ?_⟩
    rw [← hvalue]

theorem ValidationRecord.says_iff {r : ValidationRecord} {v : Validation} :
    Validation.ofRecord? r = some v ↔ r.Says v := by
  refine Option.map_eq_some_iff.trans ⟨?_, ?_⟩
  · rintro ⟨n, hn, rfl⟩
    exact ⟨hn, rfl⟩
  · rintro ⟨hname, hvalue⟩
    refine ⟨v.name, hname, ?_⟩
    rw [← hvalue]

theorem annotations_eq_iff {records : Option (List OptionRecord)} {items : List Annotation} :
    (records.getD []).filterMap Annotation.ofRecord? = items ↔
      Named (·.name) OptionRecord.Says records items :=
  filterMap_eq_iff_named (fun _ _ => OptionRecord.says_iff) fun _ => Option.isSome_map

theorem validations_eq_iff {records : Option (List ValidationRecord)} {items : List Validation} :
    (records.getD []).filterMap Validation.ofRecord? = items ↔
      Named (·.key) ValidationRecord.Says records items :=
  filterMap_eq_iff_named (fun _ _ => ValidationRecord.says_iff) fun _ => Option.isSome_map

/-! ## Fields -/

namespace FieldRecord

/-- The record has what a field needs. -/
structure Complete (r : FieldRecord) : Prop where
  name : Stated r.name
  type : Stated r.type

/-- The failure for the first thing that a field of `entity` lacks. -/
inductive Lacks (entity : String) (r : FieldRecord) : Failure → Prop
  | name : ¬ Stated r.name → Lacks entity r (.malformedRecord "field" entity .namelessField)
  | type {n : String} : r.name = some n ∧ n ≠ "" → ¬ Stated r.type →
      Lacks entity r (.malformedRecord "field" (entity ++ "." ++ n) .untypedField)

/-- What the record declares. -/
structure Declares (r : FieldRecord) (x : Field) : Prop where
  name : r.name = some x.name ∧ x.name ≠ ""
  type : r.type = some x.type ∧ x.type ≠ ""
  description : x.description = r.description
  validations : Named (·.key) ValidationRecord.Says r.validations x.validations
  annotations : Named (·.name) OptionRecord.Says r.annotations x.annotations

end FieldRecord

/-! ## Relationships -/

namespace RelationshipRecord

/-- The record has what a relationship needs. -/
structure Complete (r : RelationshipRecord) : Prop where
  kind : ∃ c : Cardinality, r.kind = some c.name
  target : ∃ n, r.target.bind (·.name) = some n

/-- The failure for the first thing that a relationship of `entity` lacks. -/
inductive Lacks (entity : String) (r : RelationshipRecord) : Failure → Prop
  | kind : (¬ ∃ c : Cardinality, r.kind = some c.name) →
      Lacks entity r
        (.malformedRecord "relationship" entity (.unknownCardinality (r.kind.getD "")))
  | target : (∃ c : Cardinality, r.kind = some c.name) → r.target.bind (·.name) = none →
      Lacks entity r (.malformedRecord "relationship" entity .noTarget)

/-- What the record declares. -/
structure Declares (r : RelationshipRecord) (x : Relationship) : Prop where
  kind : r.kind = some x.cardinality.name
  target : r.target.bind (·.name) = some x.target
  /-- a property that is given is taken as it is -/
  property : ∀ p, r.source.bind (·.injectedField) = some p → x.fieldName = p
  /-- else the property is named after the target -/
  unnamed : r.source.bind (·.injectedField) = none → x.fieldName = Text.lowerFirst x.target
  required : x.required = true ↔ r.source.bind (·.required) = some true

theorem Declares.getD_property {r : RelationshipRecord} {x : Relationship} (h : r.Declares x) :
    (r.source.bind (·.injectedField)).getD (Text.lowerFirst x.target) = x.fieldName := by
  cases hp : r.source.bind (·.injectedField) with
  | none => exact (h.unnamed hp).symm
  | some p => exact (h.property p hp).symm

theorem Declares.getD_required {r : RelationshipRecord} {x : Relationship} (h : r.Declares x) :
    (r.source.bind (·.required)).getD false = x.required := by
  rw [Bool.eq_iff_iff, h.required]
  cases r.source.bind (·.required) <;> simp

end RelationshipRecord

/-! ## Entities -/

namespace EntityRecord

/-- The relationship is declared from the entity of this record. -/
def Owns (r : EntityRecord) (x : RelationshipRecord) : Prop :=
  ∃ n, r.name = some n ∧ Relationship.declaredFrom x = some n

/-- The record has what an entity needs, in a document with these relationships. -/
structure Complete (r : EntityRecord) (relationships : List RelationshipRecord) : Prop where
  name : Stated r.name
  body : ∃ body, r.body = some body ∧ ∀ x ∈ body, x.Complete
  relationships : ∀ x ∈ relationships, r.Owns x → x.Complete

/-- The failure for the first thing that the record lacks. -/
inductive Lacks (r : EntityRecord) (relationships : List RelationshipRecord) : Failure → Prop
  | name : ¬ Stated r.name →
      Lacks r relationships (.malformedRecord "entity" "<unnamed>" .namelessEntity)
  | body {n : String} : r.name = some n ∧ n ≠ "" → r.body = none →
      Lacks r relationships (.malformedRecord "entity" n .noFieldList)
  /-- the first field that lacks something, for the first thing that it lacks -/
  | field {n : String} {body : List FieldRecord} {x : FieldRecord} {f : Failure} :
      r.name = some n ∧ n ≠ "" → r.body = some body → First (fun x => ¬ x.Complete) body x →
      x.Lacks n f → Lacks r relationships f
  /-- the first relationship of the entity that lacks something -/
  | relationship {n : String} {body : List FieldRecord} {x : RelationshipRecord} {f : Failure} :
      r.name = some n ∧ n ≠ "" → r.body = some body → (∀ x ∈ body, x.Complete) →
      First (fun x => r.Owns x ∧ ¬ x.Complete) relationships x → x.Lacks n f →
      Lacks r relationships f

/-- What the record declares. -/
structure Declares (r : EntityRecord) (relationships : List RelationshipRecord) (e : Entity) :
    Prop where
  name : r.name = some e.name ∧ e.name ≠ ""
  tableName : ∀ t, e.tableName = some t ↔ r.tableName = some t ∧ t ≠ ""
  description : e.description = r.description
  fields : ∃ body, r.body = some body ∧ List.Forall₂ FieldRecord.Declares body e.fields
  annotations : Named (·.name) OptionRecord.Says r.annotations e.annotations
  relationships : List.Forall₂ RelationshipRecord.Declares
    (Entity.ownRecords e.name relationships) e.relationships

end EntityRecord

end Source

open Source (FieldRecord RelationshipRecord EntityRecord)

namespace Field

variable {entity : String} {r : FieldRecord} {x : Field} {f : Failure}

theorem ofRecord_eq_ok_iff : ofRecord entity r = .ok x ↔ r.Declares x := by
  constructor
  · intro h
    unfold ofRecord at h
    cases hname : given r.name with
    | none =>
        rw [hname] at h
        exact nomatch h
    | some name =>
        cases htype : given r.type with
        | none =>
            rw [hname, htype] at h
            exact nomatch h
        | some type =>
            rw [hname, htype] at h
            cases h
            exact
              { name := given_eq_some_iff.mp hname
                type := given_eq_some_iff.mp htype
                description := rfl
                validations := Source.validations_eq_iff.mp rfl
                annotations := Source.annotations_eq_iff.mp rfl }
  · intro h
    unfold ofRecord
    rw [given_eq_some_iff.mpr h.name, given_eq_some_iff.mpr h.type]
    dsimp only
    rw [Source.validations_eq_iff.mpr h.validations, Source.annotations_eq_iff.mpr h.annotations,
      ← h.description]

theorem ofRecord_eq_error_iff : ofRecord entity r = .error f ↔ r.Lacks entity f := by
  constructor
  · intro h
    unfold ofRecord at h
    cases hname : given r.name with
    | none =>
        rw [hname] at h
        cases h
        exact .name (given_eq_none_iff.mp hname)
    | some name =>
        cases htype : given r.type with
        | none =>
            rw [hname, htype] at h
            cases h
            exact .type (given_eq_some_iff.mp hname) (given_eq_none_iff.mp htype)
        | some type =>
            rw [hname, htype] at h
            exact nomatch h
  · intro h
    unfold ofRecord
    cases h with
    | name hname => rw [given_eq_none_iff.mpr hname]
    | type hname htype => rw [given_eq_some_iff.mpr hname, given_eq_none_iff.mpr htype]

/-- A field record is refused exactly when it lacks something. -/
theorem exists_error_iff : (∃ f, ofRecord entity r = .error f) ↔ ¬ r.Complete := by
  simp only [ofRecord_eq_error_iff]
  constructor
  · rintro ⟨f, hlacks⟩ hcomplete
    cases hlacks with
    | name hname => exact hname hcomplete.name
    | type _ htype => exact htype hcomplete.type
  · intro h
    by_cases hname : Stated r.name
    · obtain ⟨n, hn⟩ := hname
      exact ⟨_, .type hn fun htype => h ⟨⟨n, hn⟩, htype⟩⟩
    · exact ⟨_, .name hname⟩

end Field

namespace Relationship

variable {entity : String} {r : RelationshipRecord} {x : Relationship} {f : Failure}

theorem ofName?_kind_eq_some_iff {c : Cardinality} :
    Cardinality.ofName? (r.kind.getD "") = some c ↔ r.kind = some c.name := by
  constructor
  · intro h
    have hname := Cardinality.name_of_ofName? h
    cases hkind : r.kind with
    | none =>
        rw [hkind] at hname
        exact absurd hname (Cardinality.name_ne_empty c)
    | some kind =>
        rw [hkind] at hname
        exact congrArg some hname.symm
  · intro h
    rw [h]
    cases c <;> rfl

theorem ofName?_kind_eq_none_iff :
    Cardinality.ofName? (r.kind.getD "") = none ↔ ¬ ∃ c : Cardinality, r.kind = some c.name := by
  rw [Option.eq_none_iff_forall_ne_some, not_exists]
  exact forall_congr' fun c => not_congr ofName?_kind_eq_some_iff

theorem ofRecord_eq_ok_iff : ofRecord entity r = .ok x ↔ r.Declares x := by
  unfold ofRecord
  dsimp only
  constructor
  · intro h
    cases hkind : Cardinality.ofName? (r.kind.getD "") with
    | none =>
        rw [hkind] at h
        exact nomatch h
    | some cardinality =>
        cases htarget : r.target.bind (·.name) with
        | none =>
            rw [hkind, htarget] at h
            exact nomatch h
        | some target =>
            rw [hkind, htarget] at h
            cases h
            refine
              { kind := ofName?_kind_eq_some_iff.mp hkind
                target := htarget
                property := ?_
                unnamed := ?_
                required := ?_ }
            · intro p hp
              exact congrArg (·.getD (Text.lowerFirst target)) hp
            · intro hp
              exact congrArg (·.getD (Text.lowerFirst target)) hp
            · show (r.source.bind (·.required)).getD false = true ↔ _
              cases r.source.bind (·.required) <;> simp
  · intro h
    rw [ofName?_kind_eq_some_iff.mpr h.kind, h.target]
    dsimp only
    rw [h.getD_property, h.getD_required]

theorem ofRecord_eq_error_iff : ofRecord entity r = .error f ↔ r.Lacks entity f := by
  unfold ofRecord
  dsimp only
  constructor
  · intro h
    cases hkind : Cardinality.ofName? (r.kind.getD "") with
    | none =>
        rw [hkind] at h
        cases h
        exact .kind (ofName?_kind_eq_none_iff.mp hkind)
    | some cardinality =>
        cases htarget : r.target.bind (·.name) with
        | none =>
            rw [hkind, htarget] at h
            cases h
            exact .target ⟨cardinality, ofName?_kind_eq_some_iff.mp hkind⟩ htarget
        | some target =>
            rw [hkind, htarget] at h
            exact nomatch h
  · intro h
    cases h with
    | kind hkind => rw [ofName?_kind_eq_none_iff.mpr hkind]
    | target hkind htarget =>
        obtain ⟨c, hc⟩ := hkind
        rw [ofName?_kind_eq_some_iff.mpr hc, htarget]

/-- A relationship record is refused exactly when it lacks something. -/
theorem exists_error_iff : (∃ f, ofRecord entity r = .error f) ↔ ¬ r.Complete := by
  simp only [ofRecord_eq_error_iff]
  constructor
  · rintro ⟨f, hlacks⟩ hcomplete
    cases hlacks with
    | kind hkind => exact hkind hcomplete.kind
    | target _ htarget =>
        obtain ⟨n, hn⟩ := hcomplete.target
        exact nomatch htarget.symm.trans hn
  · intro h
    by_cases hkind : ∃ c : Cardinality, r.kind = some c.name
    · refine ⟨_, .target hkind ?_⟩
      rw [Option.eq_none_iff_forall_ne_some]
      exact fun n hn => h ⟨hkind, n, hn⟩
    · exact ⟨_, .kind hkind⟩

end Relationship

namespace Entity

variable {r : EntityRecord} {relationships : List RelationshipRecord} {e : Entity} {f : Failure}

theorem mem_ownRecords {n : String} {x : RelationshipRecord} :
    x ∈ ownRecords n relationships ↔
      x ∈ relationships ∧ Relationship.declaredFrom x = some n := by
  unfold ownRecords
  rw [List.mem_filter, beq_iff_eq]

/-- A record declares an entity when it has a name and a field list, and all its fields and
    all relationships declared from this name are declared. -/
theorem ofRecord_eq_ok_iff :
    ofRecord r relationships = .ok e ↔
      ∃ name body fields own, given r.name = some name ∧ r.body = some body ∧
        body.mapM (Field.ofRecord name) = .ok fields ∧
        (ownRecords name relationships).mapM (Relationship.ofRecord name) = .ok own ∧
        e = { name
              tableName := given r.tableName
              description := r.description
              fields
              annotations := (r.annotations.getD []).filterMap Annotation.ofRecord?
              relationships := own } := by
  unfold ofRecord
  cases given r.name with
  | none =>
      refine ⟨fun h => (nomatch h), ?_⟩
      rintro ⟨name, body, fields, own, hname, -⟩
      exact nomatch hname
  | some name =>
      cases r.body with
      | none =>
          refine ⟨fun h => (nomatch h), ?_⟩
          rintro ⟨name, body, fields, own, -, hbody, -⟩
          exact nomatch hbody
      | some body =>
          simp only [bind_eq_ok_iff]
          constructor
          · rintro ⟨fields, hfields, own, hown, h⟩
            exact ⟨name, body, fields, own, rfl, rfl, hfields, hown, (Except.ok.inj h).symm⟩
          · rintro ⟨_, _, fields, own, ⟨⟩, ⟨⟩, hfields, hown, rfl⟩
            exact ⟨fields, hfields, own, hown, rfl⟩

/-- The entity of a record is what the record declares. -/
theorem ofRecord_eq_ok_iff_declares :
    ofRecord r relationships = .ok e ↔ r.Declares relationships e := by
  rw [ofRecord_eq_ok_iff]
  simp only [mapM_eq_ok_iff, Field.ofRecord_eq_ok_iff, Relationship.ofRecord_eq_ok_iff]
  constructor
  · rintro ⟨name, body, fields, own, hname, hbody, hfields, hown, rfl⟩
    exact
      { name := given_eq_some_iff.mp hname
        tableName := fun _ => given_eq_some_iff
        description := rfl
        fields := ⟨body, hbody, hfields⟩
        annotations := Source.annotations_eq_iff.mp rfl
        relationships := hown }
  · intro h
    obtain ⟨body, hbody, hfields⟩ := h.fields
    have htable : given r.tableName = e.tableName :=
      Option.ext fun t => given_eq_some_iff.trans (h.tableName t).symm
    refine ⟨e.name, body, e.fields, e.relationships, given_eq_some_iff.mpr h.name, hbody,
      hfields, h.relationships, ?_⟩
    rw [htable, Source.annotations_eq_iff.mpr h.annotations, ← h.description]

/-- The first refused relationship of an entity, looked for among those of the document. -/
theorem first_own_iff {n : String} (hn : r.name = some n) {x : RelationshipRecord} :
    First (fun x => ∃ f, Relationship.ofRecord n x = .error f) (ownRecords n relationships) x ↔
      First (fun x => r.Owns x ∧ ¬ x.Complete) relationships x := by
  refine First.filter_iff.trans (First.congr fun y _ => and_congr ?_ Relationship.exists_error_iff)
  rw [beq_iff_eq]
  constructor
  · exact fun h => ⟨n, hn, h⟩
  · rintro ⟨m, hm, h⟩
    exact h.trans (hm.symm.trans hn)

/-- A record is refused for the first thing that it lacks. -/
theorem ofRecord_eq_error_iff :
    ofRecord r relationships = .error f ↔ r.Lacks relationships f := by
  unfold ofRecord
  cases hname : given r.name with
  | none =>
      have hnot := given_eq_none_iff.mp hname
      constructor
      · intro h
        cases h
        exact .name hnot
      · intro h
        cases h with
        | name => rfl
        | body hn | field hn | relationship hn => exact absurd ⟨_, hn⟩ hnot
  | some n =>
      have hn := given_eq_some_iff.mp hname
      cases hbody : r.body with
      | none =>
          constructor
          · intro h
            cases h
            exact .body hn hbody
          · intro h
            cases h with
            | name hnot => exact absurd ⟨n, hn⟩ hnot
            | body hm =>
                cases hn.1.symm.trans hm.1
                rfl
            | field _ hsome | relationship _ hsome => exact nomatch hbody.symm.trans hsome
      | some body =>
          -- relationships are looked at once every field is complete
          have hfields : (∃ fields, body.mapM (Field.ofRecord n) = .ok fields) ↔
              ∀ x ∈ body, x.Complete := by
            rw [exists_mapM_eq_ok_iff]
            exact forall₂_congr fun x _ => (not_congr Field.exists_error_iff).trans not_not
          simp only [bind_eq_error_iff]
          constructor
          · rintro (h | ⟨fields, h, hown | ⟨own, -, hend⟩⟩)
            · obtain ⟨x, hx, hf⟩ := mapM_eq_error_iff.mp h
              exact .field hn hbody ((First.congr fun y _ => Field.exists_error_iff).mp hx)
                (Field.ofRecord_eq_error_iff.mp hf)
            · obtain ⟨x, hx, hf⟩ := mapM_eq_error_iff.mp hown
              exact .relationship hn hbody (hfields.mp ⟨fields, h⟩) ((first_own_iff hn.1).mp hx)
                (Relationship.ofRecord_eq_error_iff.mp hf)
            · exact nomatch hend
          · intro h
            cases h with
            | name hnot => exact absurd ⟨n, hn⟩ hnot
            | body _ hnone => exact nomatch hbody.symm.trans hnone
            | field hm hsome hx hf =>
                cases hn.1.symm.trans hm.1
                cases hbody.symm.trans hsome
                exact Or.inl (mapM_eq_error_iff.mpr
                  ⟨_, (First.congr fun y _ => Field.exists_error_iff).mpr hx,
                    Field.ofRecord_eq_error_iff.mpr hf⟩)
            | relationship hm hsome hcomplete hx hf =>
                cases hn.1.symm.trans hm.1
                cases hbody.symm.trans hsome
                obtain ⟨fields, hok⟩ := hfields.mpr hcomplete
                exact Or.inr ⟨fields, hok, Or.inl (mapM_eq_error_iff.mpr
                  ⟨_, (first_own_iff hn.1).mpr hx, Relationship.ofRecord_eq_error_iff.mpr hf⟩)⟩

/-- What declares an entity lacks nothing. -/
theorem complete_of_declares (h : r.Declares relationships e) : r.Complete relationships := by
  refine ⟨⟨e.name, h.name⟩, ?body, ?relationships⟩
  case body =>
    obtain ⟨body, hbody, hfields⟩ := h.fields
    refine ⟨body, hbody, ?_⟩
    intro x hx
    obtain ⟨y, -, hy⟩ := exists_of_mem_left hfields hx
    exact ⟨⟨y.name, hy.name⟩, ⟨y.type, hy.type⟩⟩
  case relationships =>
    rintro x hx ⟨n, hn, hfrom⟩
    cases hn.symm.trans h.name.1
    obtain ⟨y, -, hy⟩ := exists_of_mem_left h.relationships (mem_ownRecords.mpr ⟨hx, hfrom⟩)
    exact ⟨⟨y.cardinality, hy.kind⟩, ⟨y.target, hy.target⟩⟩

theorem not_complete_of_lacks (h : r.Lacks relationships f) : ¬ r.Complete relationships := by
  intro hcomplete
  cases h with
  | name hname => exact hname hcomplete.name
  | body _ hnone =>
      obtain ⟨body, hbody, -⟩ := hcomplete.body
      exact nomatch hnone.symm.trans hbody
  | field _ hsome hx =>
      obtain ⟨body, hbody, hfields⟩ := hcomplete.body
      cases hsome.symm.trans hbody
      exact hx.holds (hfields _ hx.mem)
  | relationship _ _ _ hx => exact hx.holds.2 (hcomplete.relationships _ hx.mem hx.holds.1)

/-- A record declares an entity exactly when nothing is wanting. -/
theorem exists_ofRecord_iff :
    (∃ e, ofRecord r relationships = .ok e) ↔ r.Complete relationships := by
  constructor
  · rintro ⟨e, he⟩
    exact complete_of_declares (ofRecord_eq_ok_iff_declares.mp he)
  · intro hcomplete
    cases h : ofRecord r relationships with
    | ok e => exact ⟨e, rfl⟩
    | error f => exact absurd hcomplete (not_complete_of_lacks (ofRecord_eq_error_iff.mp h))

/-- Relationships declared from other entities may be left out. -/
theorem ofRecord_filter (r : EntityRecord) (relationships : List RelationshipRecord) :
    ofRecord r (relationships.filter fun x => Relationship.declaredFrom x == r.name) =
      ofRecord r relationships := by
  unfold ofRecord
  cases hname : given r.name with
  | none => rfl
  | some n =>
      have hown : ownRecords n (relationships.filter fun x =>
          Relationship.declaredFrom x == r.name) = ownRecords n relationships := by
        unfold ownRecords
        rw [(given_eq_some_iff.mp hname).1, List.filter_filter]
        simp only [Bool.and_self]
      dsimp only
      rw [hown]

/-- A record declares what its attributes say, or it is refused for the first thing that it
    lacks; it declares an entity exactly when it lacks nothing, and what is declared from
    other entities has no part in it. -/
theorem ofRecord_is_exact (r : EntityRecord) (relationships : List RelationshipRecord) :
    (∀ e, ofRecord r relationships = .ok e ↔ r.Declares relationships e) ∧
      (∀ f, ofRecord r relationships = .error f ↔ r.Lacks relationships f) ∧
      ((∃ e, ofRecord r relationships = .ok e) ↔ r.Complete relationships) ∧
      ofRecord r (relationships.filter fun x => Relationship.declaredFrom x == r.name) =
        ofRecord r relationships :=
  ⟨fun _ => ofRecord_eq_ok_iff_declares, fun _ => ofRecord_eq_error_iff, exists_ofRecord_iff,
    ofRecord_filter r relationships⟩

/-- A field without a type counts before a relationship of no kind, and the relationship of
    another entity does not count. -/
example :
    ofRecord ⟨some "Book", none, none, some [⟨some "title", some "", none, none, none⟩], none⟩
        [⟨none, some ⟨some "Shelf", none, none⟩, none⟩,
          ⟨none, some ⟨some "Book", none, none⟩, none⟩] =
      .error (.malformedRecord "field" "Book.title" .untypedField) :=
  rfl

end Entity

end EntityPlan
