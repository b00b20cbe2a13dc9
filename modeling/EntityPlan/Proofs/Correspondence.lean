import EntityPlan.Proofs.Scoping
import EntityPlan.Proofs.Typing

/-! # Correspondence — what a declaration becomes in its model

    The rules by which an entity is built: it fails as its classification does, or else
    for the first field whose type has no row; otherwise each field and each relationship
    becomes one of the model, in order (`Entity.Built`).  Whatever a field gets is said
    by its own validations and annotations, by the row of its own type and by the
    capabilities of its entity, and the rules leave no choice
    (`ModelRules.entityModel_follows_rules`). -/

namespace EntityPlan

/-! ## Annotations and validations -/

/-- The annotation of this name that stands first decides the value. -/
theorem Annotation.firstValue?_eq_some_iff {l : List Annotation} {n v : String} :
    firstValue? l n = some v ↔ ∃ a, First (fun a => a.name = n) l a ∧ a.value = some v := by
  simp only [firstValue?, Option.bind_eq_some_iff, find?_eq_some_iff_first, beq_iff_eq]

theorem Annotation.firstValue?_eq_none_iff {l : List Annotation} {n : String} :
    firstValue? l n = none ↔ ∀ a, First (fun a => a.name = n) l a → a.value = none := by
  simp only [firstValue?, Option.bind_eq_none_iff, find?_eq_some_iff_first, beq_iff_eq]

namespace Field

/-- Some validation of this name has no value or the value `true`. -/
def Flagged (x : Field) (n : String) : Prop :=
  ∃ v ∈ x.validations, v.name = n ∧ (v.value = none ∨ v.value = some "true")

/-- The sample of the field is the value of its first annotation `example`, or that of the
    row if there is no such annotation or the first one has no value. -/
def Sampled (x : Field) (row : TypeRow) (sample : String) : Prop :=
  (∃ a, First (fun a => a.name = "example") x.annotations a ∧ a.value = some sample) ∨
    (∀ a, First (fun a => a.name = "example") x.annotations a → a.value = none) ∧
      sample = row.sample

theorem isFlagged_iff {x : Field} {n : String} : x.isFlagged n = true ↔ x.Flagged n := by
  simp only [isFlagged, Flagged, List.any_eq_true, Bool.and_eq_true, Bool.or_eq_true, beq_iff_eq]

theorem hasAnnotation_iff {x : Field} {n : String} :
    x.hasAnnotation n = true ↔ ∃ a ∈ x.annotations, a.name = n :=
  Annotation.present_iff

theorem sampled_iff {x : Field} {row : TypeRow} {sample : String} :
    x.Sampled row sample ↔ (x.annotation? "example").getD row.sample = sample := by
  unfold Sampled annotation?
  rw [← Annotation.firstValue?_eq_some_iff, ← Annotation.firstValue?_eq_none_iff]
  cases Annotation.firstValue? x.annotations "example" with
  | none => simp [eq_comm]
  | some v => simp

/-- What a field of an entity becomes. -/
structure Becomes (types : TypeTable) (e : Entity) (x : Field) (f : FieldModel) : Prop where
  name : f.name = x.name
  type : f.type = x.type
  /-- the row of the declared type decides target, import, column type and domain -/
  row : ∃ row, types.lookup? x.type = some row ∧ row.decided = f.decided ∧ x.Sampled row f.sample
  column : f.column = Naming.upperSnake x.name
  required : f.required = true ↔ x.Flagged "required"
  nullable : f.nullable = true ↔ ¬ f.required = true
  unique : f.unique = true ↔ x.Flagged "unique"
  description : f.description = x.description
  audited : f.audited = true ↔
    (∃ a ∈ e.annotations, a.name = "auditable") ∧ ¬ ∃ a ∈ x.annotations, a.name = "noAudit"
  searchable : f.searchable = true ↔
    (∃ a ∈ e.annotations, a.name = "searchable") ∧ ¬ ∃ a ∈ x.annotations, a.name = "noSearch"

/-- A field becomes one thing only. -/
theorem eq_of_becomes {types : TypeTable} {e : Entity} {x : Field} {f f' : FieldModel}
    (h : x.Becomes types e f) (h' : x.Becomes types e f') : f = f' := by
  obtain ⟨row, hrow, hdecided, hsample⟩ := h.row
  obtain ⟨row', hrow', hdecided', hsample'⟩ := h'.row
  cases hrow.symm.trans hrow'
  have hsame : f.decided = f'.decided := hdecided.symm.trans hdecided'
  simp only [FieldModel.decided, Prod.mk.injEq] at hsame
  obtain ⟨htarget, himport, hcolumnType, hdomain⟩ := hsame
  have hrequired : f.required = f'.required :=
    Bool.eq_iff_iff.mpr (h.required.trans h'.required.symm)
  have hnullable : f.nullable = f'.nullable :=
    Bool.eq_iff_iff.mpr (h.nullable.trans (hrequired ▸ h'.nullable.symm))
  cases f
  cases f'
  simp only [FieldModel.mk.injEq]
  exact ⟨h.name.trans h'.name.symm, h.type.trans h'.type.symm, htarget, himport,
    h.column.trans h'.column.symm, hcolumnType, hdomain, hrequired, hnullable,
    Bool.eq_iff_iff.mpr (h.unique.trans h'.unique.symm),
    h.description.trans h'.description.symm,
    (sampled_iff.mp hsample).symm.trans (sampled_iff.mp hsample'),
    Bool.eq_iff_iff.mpr (h.audited.trans h'.audited.symm),
    Bool.eq_iff_iff.mpr (h.searchable.trans h'.searchable.symm)⟩

end Field

/-- What a relationship of an entity becomes. -/
structure Relationship.Becomes (x : Relationship) (y : RelationshipModel) : Prop where
  name : y.name = x.fieldName
  target : y.target = x.target
  cardinality : y.cardinality = x.cardinality
  required : y.required = x.required
  /-- a column joins the two entities where the declaring side owns the relationship -/
  joinColumn : ∀ c, y.joinColumn = some c ↔
    (x.cardinality = .manyToOne ∨ x.cardinality = .oneToOne) ∧ c = Naming.snake x.fieldName ++ "_id"

namespace Entity

/-- What an entity becomes, given its classification. -/
structure Becomes (r : ModelRules) (c : Classification) (e : Entity) (m : EntityModel) : Prop where
  name : m.name = e.name
  packageName : m.packageName = ModelRules.packageBelow r.basePackage e.name
  tableName : m.tableName = ModelRules.tableName e
  description : m.description = e.description
  fields : List.Forall₂ (Field.Becomes r.types e) e.fields m.fields
  imports : m.imports = importsOf m.fields
  relationships : List.Forall₂ Relationship.Becomes e.relationships m.relationships
  classified : (⟨m.scope, m.auditable, m.searchable⟩ : Classification) = c

/-- The rules by which an entity is built. -/
inductive Built (r : ModelRules) (e : Entity) : Except Failure EntityModel → Prop
  | unclassified {f : Failure} : Classified r.policy e (.error f) → Built r e (.error f)
  /-- the first field whose type has no row -/
  | unmapped {c : Classification} {x : Field} :
      Classified r.policy e (.ok c) → First (fun x => r.types.lookup? x.type = none) e.fields x →
      Built r e (.error (.unmappedType e.name x.name x.type))
  | built {c : Classification} {m : EntityModel} :
      Classified r.policy e (.ok c) → e.Becomes r c m → Built r e (.ok m)

end Entity

namespace ModelRules

variable {r : ModelRules} {e : Entity} {c : Classification}

theorem becomes_fieldOfRow (hc : Classified r.policy e (.ok c)) {x : Field} {row : TypeRow}
    (hrow : r.types.lookup? x.type = some row) : x.Becomes r.types e (fieldOfRow c x row) := by
  cases hc with
  | settled _ _ _ hauditable hsearchable =>
      refine
        { name := rfl
          type := rfl
          row := ⟨row, hrow, rfl, Field.sampled_iff.mpr rfl⟩
          column := rfl
          required := Field.isFlagged_iff
          nullable := ?_
          unique := Field.isFlagged_iff
          description := rfl
          audited := ?_
          searchable := ?_ }
      · show (!x.isRequired) = true ↔ ¬ x.isRequired = true
        rw [Bool.not_eq_true', Bool.not_eq_true]
      · show (c.auditable && !x.hasAnnotation "noAudit") = true ↔ _
        rw [Bool.and_eq_true, hauditable, Bool.not_eq_true', ← Bool.not_eq_true,
          Field.hasAnnotation_iff]
      · show (c.searchable && !x.hasAnnotation "noSearch") = true ↔ _
        rw [Bool.and_eq_true, hsearchable, Bool.not_eq_true', ← Bool.not_eq_true,
          Field.hasAnnotation_iff]

/-- The model of a field of a classified entity is what the field becomes. -/
theorem fieldModel_eq_ok_iff_becomes (hc : Classified r.policy e (.ok c)) {x : Field}
    {f : FieldModel} : r.fieldModel e.name c x = .ok f ↔ x.Becomes r.types e f := by
  rw [fieldModel_eq_ok_iff]
  constructor
  · rintro ⟨row, hrow, rfl⟩
    exact becomes_fieldOfRow hc hrow
  · intro h
    obtain ⟨row, hrow, -⟩ := h.row
    exact ⟨row, hrow, Field.eq_of_becomes (becomes_fieldOfRow hc hrow) h⟩

theorem relationshipModel_eq_iff_becomes {x : Relationship} {y : RelationshipModel} :
    relationshipModel x = y ↔ x.Becomes y := by
  have hjoin : ∀ c, (relationshipModel x).joinColumn = some c ↔
      (x.cardinality = .manyToOne ∨ x.cardinality = .oneToOne) ∧
        c = Naming.snake x.fieldName ++ "_id" := by
    intro c
    rw [← Cardinality.isOwning_iff]
    exact Option.ite_none_right_eq_some.trans
      (and_congr_right fun _ => Option.some_inj.trans eq_comm)
  constructor
  · rintro rfl
    exact ⟨rfl, rfl, rfl, rfl, hjoin⟩
  · intro h
    have hcolumn : (relationshipModel x).joinColumn = y.joinColumn :=
      Option.ext fun c => (hjoin c).trans (h.joinColumn c).symm
    cases y
    simp only [relationshipModel, RelationshipModel.mk.injEq]
    exact ⟨h.name.symm, h.target.symm, h.cardinality.symm, h.required.symm, hcolumn⟩

/-! ## Entities -/

/-- The model of a classified entity is what the entity becomes. -/
theorem exists_fields_iff_becomes (hc : Classified r.policy e (.ok c)) {m : EntityModel} :
    (∃ fields, e.fields.mapM (r.fieldModel e.name c) = .ok fields ∧
      r.entityOfFields e c fields = m) ↔ e.Becomes r c m := by
  simp only [mapM_eq_ok_iff, fieldModel_eq_ok_iff_becomes hc]
  constructor
  · rintro ⟨fields, hfields, rfl⟩
    refine
      { name := rfl
        packageName := rfl
        tableName := rfl
        description := rfl
        fields := hfields
        imports := rfl
        relationships := ?_
        classified := rfl }
    refine List.forall₂_map_right_iff.mpr (List.forall₂_same.mpr fun x _ => ?_)
    exact relationshipModel_eq_iff_becomes.mp rfl
  · intro h
    have hrelated : e.relationships.map relationshipModel = m.relationships := by
      rw [← List.forall₂_eq_eq_eq, List.forall₂_map_left_iff]
      exact h.relationships.imp fun _ _ => relationshipModel_eq_iff_becomes.mpr
    obtain ⟨hscope, hauditable, hsearchable⟩ := Classification.mk.inj h.classified
    refine ⟨m.fields, h.fields, ?_⟩
    cases m
    simp only [entityOfFields, EntityModel.mk.injEq]
    exact ⟨h.name.symm, h.packageName.symm, h.tableName.symm, h.description.symm, trivial,
      h.imports.symm, hrelated, hscope.symm, hauditable.symm, hsearchable.symm⟩

/-- An entity is built as the rules say, and in no other way. -/
theorem built_iff {x : Except Failure EntityModel} :
    (r.entityModel e).answer = x ↔ e.Built r x := by
  constructor
  · rintro rfl
    cases h : (r.entityModel e).answer with
    | error f =>
        rcases entityModel_eq_error_iff.mp h with hf | ⟨⟨c, hc⟩, x, hx, rfl⟩
        · exact .unclassified (Classification.classified_iff.mp hf)
        · exact .unmapped (Classification.classified_iff.mp hc) hx
    | ok m =>
        obtain ⟨c, fields, hc, hfields, hm⟩ := entityModel_eq_ok_iff.mp h
        have hc := Classification.classified_iff.mp hc
        exact .built hc ((exists_fields_iff_becomes hc).mp ⟨fields, hfields, hm⟩)
  · intro h
    cases h with
    | unclassified hf =>
        exact entityModel_eq_error_iff.mpr (Or.inl (Classification.classified_iff.mpr hf))
    | unmapped hc hx =>
        exact entityModel_eq_error_iff.mpr
          (Or.inr ⟨⟨_, Classification.classified_iff.mpr hc⟩, _, hx, rfl⟩)
    | built hc hm =>
        obtain ⟨fields, hfields, hm⟩ := (exists_fields_iff_becomes hc).mpr hm
        exact entityModel_eq_ok_iff.mpr
          ⟨_, fields, Classification.classified_iff.mpr hc, hfields, hm⟩

/-- What an entity becomes has a row for the type of each of its fields. -/
theorem mapped_of_becomes {m : EntityModel} (h : e.Becomes r c m) :
    ∀ x ∈ e.fields, r.types.lookup? x.type ≠ none := by
  intro x hx hnone
  obtain ⟨f, -, hf⟩ := exists_of_mem_left h.fields hx
  obtain ⟨row, hrow, -⟩ := hf.row
  exact nomatch hnone.symm.trans hrow

/-- There is a model as soon as the entity can be classified and the types of all its fields
    have rows. -/
theorem exists_built_iff :
    (∃ m, e.Built r (.ok m)) ↔
      (∃ c, Classified r.policy e (.ok c)) ∧ ∀ x ∈ e.fields, r.types.lookup? x.type ≠ none := by
  constructor
  · rintro ⟨m, hm⟩
    cases hm with
    | built hc hbecomes => exact ⟨⟨_, hc⟩, mapped_of_becomes hbecomes⟩
  · rintro ⟨⟨c, hc⟩, hrows⟩
    cases h : (r.entityModel e).answer with
    | ok m => exact ⟨m, built_iff.mp h⟩
    | error f =>
        -- neither of the two rules for a failure applies
        cases built_iff.mp h with
        | unclassified hf =>
            exact nomatch (Classification.classified_iff.mpr hc).symm.trans
              (Classification.classified_iff.mpr hf)
        | unmapped _ hx => exact absurd hx.holds (hrows _ hx.mem)

/-- An entity is built as the rules say, and in no other way; and it has a model as soon as
    it can be classified and the types of all its fields have rows. -/
theorem entityModel_follows_rules (r : ModelRules) (e : Entity) :
    (∀ x, (r.entityModel e).answer = x ↔ e.Built r x) ∧
      ((∃ m, (r.entityModel e).answer = .ok m) ↔
        (∃ c, Classified r.policy e (.ok c)) ∧ ∀ x ∈ e.fields, r.types.lookup? x.type ≠ none) := by
  refine ⟨fun x => built_iff, ?_⟩
  rw [← exists_built_iff]
  exact exists_congr fun m => built_iff

/-- An entity with a price that is declared twice over, once as not required and once as
    required, and with a sample of its own. -/
def offer : Entity where
  name := "Offer"
  tableName := none
  description := none
  fields :=
    [ { name := "price"
        type := "BigDecimal"
        description := none
        validations := [⟨"required", some "false"⟩, ⟨"required", none⟩]
        annotations := [⟨"example", some "9.99"⟩, ⟨"noAudit", none⟩] },
      { name := "title"
        type := "String"
        description := none
        validations := [⟨"unique", some "false"⟩]
        annotations := [⟨"example", none⟩, ⟨"example", some "Second"⟩] } ]
  annotations := [⟨"auditable", none⟩]
  relationships := [⟨.manyToOne, "shop", "Shop", true⟩]

theorem entityModel_follows_rules_offer :
    ∃ m, (entityModel ⟨.builtin, "net.example", .strict⟩ offer).answer = .ok m ∧
      offer.Built ⟨.builtin, "net.example", .strict⟩ (.ok m) ∧
      m.fields.map (fun f => (f.required, f.unique, f.audited, f.sample)) =
        [(true, false, false, "9.99"), (false, false, true, "Example String")] := by
  obtain ⟨m, hm, hfields⟩ : ∃ m,
      (entityModel ⟨.builtin, "net.example", .strict⟩ offer).answer = .ok m ∧
        m.fields.map (fun f => (f.required, f.unique, f.audited, f.sample)) =
          [(true, false, false, "9.99"), (false, false, true, "Example String")] :=
    ⟨_, rfl, rfl⟩
  exact ⟨m, hm, ((entityModel_follows_rules _ _).1 _).mp hm, hfields⟩

end ModelRules

end EntityPlan
