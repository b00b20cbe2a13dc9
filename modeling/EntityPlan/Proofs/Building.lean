import EntityPlan.Model.Rules
import EntityPlan.Proofs.Requirement

/-! # Building — which entities have a model, and why the others have none

    An entity has no model when it cannot be classified or the type of a field has
    no row.  The models of all entities fail for a relationship that leads nowhere
    before any entity is built. -/

namespace EntityPlan.ModelRules

/-- The rules have no model for the entity: it cannot be classified, or the type of a
    field has no row. -/
def Unbuildable (r : ModelRules) (e : Entity) : Prop :=
  (∃ f, (Classification.ofEntity r.policy e).answer = .error f) ∨
    ∃ x ∈ e.fields, r.types.lookup? x.type = none

theorem fieldModel_eq_error_iff {r : ModelRules} {entity : String} {c : Classification}
    {x : Field} {f : Failure} :
    r.fieldModel entity c x = .error f ↔
      r.types.lookup? x.type = none ∧ .unmappedType entity x.name x.type = f := by
  unfold fieldModel
  rw [← TypeTable.resolve_eq_error_iff]
  cases r.types.resolve entity x.name x.type with
  | error f' => simp [Except.map]
  | ok row => simp [Except.map]

/-- A field has a model as soon as its type has a row, and what the row gives is in it. -/
theorem fieldModel_eq_ok_iff {r : ModelRules} {entity : String} {c : Classification} {x : Field}
    {f : FieldModel} :
    r.fieldModel entity c x = .ok f ↔
      ∃ row, r.types.lookup? x.type = some row ∧ fieldOfRow c x row = f := by
  unfold fieldModel
  simp only [← r.types.resolve_eq_ok_iff entity x.name x.type]
  cases r.types.resolve entity x.name x.type with
  | error f' => simp [Except.map]
  | ok row => simp [Except.map]

/-- Fields fail for the first one whose type has no row. -/
theorem mapM_fieldModel_eq_error_iff {r : ModelRules} {entity : String} {c : Classification}
    {fields : List Field} {f : Failure} :
    fields.mapM (r.fieldModel entity c) = .error f ↔
      ∃ x, First (fun x => r.types.lookup? x.type = none) fields x ∧
        .unmappedType entity x.name x.type = f := by
  rw [mapM_eq_error_iff]
  refine exists_congr fun x => ?_
  have hbad : ∀ x ∈ fields, (∃ f, r.fieldModel entity c x = .error f) ↔
      r.types.lookup? x.type = none := by
    intro x _
    simp only [fieldModel_eq_error_iff, exists_and_left, exists_eq', and_true]
  rw [First.congr hbad, fieldModel_eq_error_iff]
  exact ⟨fun h => ⟨h.1, h.2.2⟩, fun h => ⟨h.1, h.1.holds, h.2⟩⟩

theorem answer_entityModel (r : ModelRules) (e : Entity) :
    (r.entityModel e).answer = (do
      let c ← (Classification.ofEntity r.policy e).answer
      let fields ← e.fields.mapM (r.fieldModel e.name c)
      .ok (r.entityOfFields e c fields)) := by
  unfold entityModel
  rw [Traced.answer_bind]
  refine bind_congr fun c => ?_
  rw [Traced.answer_bind]
  rfl

/-- The model of an entity has its classification and the models of its fields. -/
theorem entityModel_eq_ok_iff {r : ModelRules} {e : Entity} {m : EntityModel} :
    (r.entityModel e).answer = .ok m ↔
      ∃ c fields, (Classification.ofEntity r.policy e).answer = .ok c ∧
        e.fields.mapM (r.fieldModel e.name c) = .ok fields ∧ r.entityOfFields e c fields = m := by
  rw [answer_entityModel]
  simp only [bind_eq_ok_iff, Except.ok.injEq, exists_and_left]

/-- An entity fails for its classification, or else for the first field whose type has
    no row. -/
theorem entityModel_eq_error_iff {r : ModelRules} {e : Entity} {f : Failure} :
    (r.entityModel e).answer = .error f ↔
      (Classification.ofEntity r.policy e).answer = .error f ∨
        (∃ c, (Classification.ofEntity r.policy e).answer = .ok c) ∧
          ∃ x, First (fun x => r.types.lookup? x.type = none) e.fields x ∧
            .unmappedType e.name x.name x.type = f := by
  rw [answer_entityModel, bind_eq_error_iff]
  refine or_congr Iff.rfl ?_
  -- with a classification only a field can fail
  constructor
  · rintro ⟨c, hc, h⟩
    rcases bind_eq_error_iff.mp h with h | ⟨fields, -, h⟩
    · exact ⟨⟨c, hc⟩, mapM_fieldModel_eq_error_iff.mp h⟩
    · exact nomatch h
  · rintro ⟨⟨c, hc⟩, h⟩
    exact ⟨c, hc, bind_eq_error_iff.mpr (Or.inl (mapM_fieldModel_eq_error_iff.mpr h))⟩

theorem unbuildable_iff {r : ModelRules} {e : Entity} :
    (∃ f, (r.entityModel e).answer = .error f) ↔ r.Unbuildable e := by
  simp only [entityModel_eq_error_iff]
  constructor
  · rintro ⟨f, h | ⟨-, x, hx, -⟩⟩
    · exact Or.inl ⟨f, h⟩
    · exact Or.inr ⟨x, hx.mem, hx.holds⟩
  · intro h
    cases hc : (Classification.ofEntity r.policy e).answer with
    | error f => exact ⟨f, Or.inl rfl⟩ -- whatever its fields are
    | ok c =>
        rcases h with ⟨f, hf⟩ | hfields
        · exact nomatch hc.symm.trans hf
        · obtain ⟨x, hx⟩ := First.exists_iff.mpr hfields
          exact ⟨_, Or.inr ⟨⟨c, rfl⟩, x, hx, rfl⟩⟩

/-- The models fail for a stray relationship, or else for the first entity that has no
    model. -/
theorem answer_models (r : ModelRules) (entities : List Entity) :
    (r.models entities).answer = (do
      refuse (stray? entities)
      entities.mapM fun e => (r.entityModel e).answer) := by
  unfold models
  cases stray? entities with
  | some f => rfl
  | none => exact Traced.answer_each r.entityModel entities

/-- A stray relationship is the first one of the first entity that has any. -/
theorem stray?_eq_some_iff {entities : List Entity} {f : Failure} :
    stray? entities = some f ↔
      ∃ e x,
        First (fun e => ∃ x ∈ e.relationships, x.target ∉ entities.map (·.name)) entities e ∧
          First (fun x => x.target ∉ entities.map (·.name)) e.relationships x ∧
            .undeclaredTarget e.name x.fieldName x.target = f := by
  unfold stray? strayOf?
  rw [findSome?_find?_eq_some_iff_first]
  simp only [Bool.not_eq_true', Bool.eq_false_iff, Ne, List.contains_iff_mem]

/-- No relationship is stray exactly when all lead to entities. -/
theorem stray?_eq_none_iff {entities : List Entity} :
    stray? entities = none ↔
      ∀ e ∈ entities, ∀ x ∈ e.relationships, x.target ∈ entities.map (·.name) := by
  unfold stray? strayOf?
  rw [List.findSome?_eq_none_iff]
  refine forall₂_congr fun e _ => ?_
  rw [Option.map_eq_none_iff, List.find?_eq_none]
  refine forall₂_congr fun x _ => ?_
  rw [Bool.not_eq_true, Bool.not_eq_false', List.contains_iff_mem]

/-- Models are there when every relationship leads to an entity and each entity has one. -/
theorem models_eq_ok_iff {r : ModelRules} {entities : List Entity} {models : List EntityModel} :
    (r.models entities).answer = .ok models ↔ stray? entities = none ∧
      List.Forall₂ (fun e m => (r.entityModel e).answer = .ok m) entities models := by
  rw [answer_models, bind_eq_ok_iff]
  simp only [refuse_eq_ok_iff, exists_const, mapM_eq_ok_iff]

/-- Models are there only if every relationship leads to an entity, and then each is that
    of its entity. -/
theorem models_forall₂ {r : ModelRules} {entities : List Entity} {models : List EntityModel}
    (h : (r.models entities).answer = .ok models) :
    stray? entities = none ∧
      List.Forall₂ (fun e m => ∃ c fields, m = r.entityOfFields e c fields) entities models := by
  obtain ⟨hstray, hmodels⟩ := models_eq_ok_iff.mp h
  refine ⟨hstray, hmodels.imp ?_⟩
  intro e m hm
  obtain ⟨c, fields, -, -, hm⟩ := entityModel_eq_ok_iff.mp hm
  exact ⟨c, fields, hm.symm⟩

/-- The models bear the names of the entities. -/
theorem names_models {r : ModelRules} {entities : List Entity} {models : List EntityModel}
    (h : (r.models entities).answer = .ok models) :
    models.map (·.name) = entities.map (·.name) := by
  have hmodels := (models_forall₂ h).2
  clear h
  induction hmodels with
  | nil => rfl
  | cons he hrest ih =>
      obtain ⟨c, fields, rfl⟩ := he
      rw [List.map_cons, List.map_cons, ih]
      rfl

end EntityPlan.ModelRules
