import EntityPlan.Proofs.Relevance
import EntityPlan.Proofs.Warning

/-! # Typing — where the types of fields come from

    A field in a plan has the target, import, column type and domain of the row that
    the type table of the run has for its declared type.  A field without an import
    has a target that needs none, unless its row is an override that the run has
    warned of (`Run.fields_of_plan`). -/

namespace EntityPlan

/-! ## Targets that need no import -/

/-- A built-in row without an import has this target. -/
def TypeRow.Free (target : String) : Prop :=
  ∃ r ∈ builtin, r.2.importName = none ∧ r.2.target = target

instance (target : String) : Decidable (TypeRow.Free target) :=
  inferInstanceAs (Decidable (∃ r ∈ TypeRow.builtin, _))

theorem TypeRow.mem_freeTargets {target : String} : target ∈ freeTargets ↔ Free target := by
  unfold freeTargets Free
  simp only [List.mem_map, List.mem_filter, beq_iff_eq, and_assoc]

theorem TypeRow.lacksImport_iff {r : TypeRow} :
    r.lacksImport = true ↔ r.importName = none ∧ ¬ Free r.target := by
  unfold lacksImport
  rw [Bool.and_eq_true, beq_iff_eq, Bool.not_eq_true', Bool.eq_false_iff, Ne,
    List.contains_iff_mem, mem_freeTargets]

namespace TypeTable

/-- A row that is found in the built-in table is one of the built-in rows. -/
theorem mem_builtin_of_lookup? {type : String} {row : TypeRow}
    (h : builtin.lookup? type = some row) : (type, row) ∈ TypeRow.builtin :=
  SortedMap.mem_of_lookup?_ofList h

/-- An override is warned of when its row lacks an import. -/
theorem missingImport_mem_overrideWarnings {overrides : SortedMap TypeOverride} {type : String}
    {o : TypeOverride} (ho : overrides.lookup? type = some o)
    (hlacks : (TypeRow.ofOverride o).lacksImport = true) :
    missingImport type (TypeRow.ofOverride o) ∈ overrideWarnings overrides := by
  have hmem : (type, o) ∈ overrides.rows :=
    (SortedMap.lookup_eq_some_iff overrides.nodup_keys).mp ho
  refine List.mem_map.mpr ⟨(type, TypeRow.ofOverride o), List.mem_filter.mpr ⟨?_, hlacks⟩, rfl⟩
  exact List.mem_map.mpr ⟨(type, o), hmem, rfl⟩

end TypeTable

/-! ## Fields and rows -/

/-- What a row decides of a field: target, import, column type and domain. -/
def TypeRow.decided (r : TypeRow) : String × Option String × String × String :=
  (r.target, r.importName, r.columnType, r.domain)

/-- Target, import, column type and domain of a field. -/
def FieldModel.decided (f : FieldModel) : String × Option String × String × String :=
  (f.target, f.importName, f.columnType, f.domain)

/-- Where that comes from which a field gets by its type, and why it has no import if it
    has none. -/
structure FieldModel.Accounted (s : Settings) (f : FieldModel) : Prop where
  /-- the row of the declared type, that of an override or else a built-in one, decides
      what the field gets -/
  row : ∃ row, (Run.types s).lookup? f.type = some row ∧
    Run.effectiveRow? s.types f.type = some row ∧ row.decided = f.decided
  /-- an import is missing only where the target needs none, or where the settings give
      the type a row that is warned of -/
  imported : f.importName = none → TypeRow.Free f.target ∨
    ∃ o, s.types.lookup? f.type = some o ∧
      TypeTable.missingImport f.type (.ofOverride o) ∈ TypeTable.overrideWarnings s.types

/-- The fields of all entities in all groups. -/
def Plan.fields (p : Plan) : List FieldModel :=
  p.groups.flatMap fun x => x.entities.flatMap (·.fields)

theorem Plan.mem_fields {p : Plan} {f : FieldModel} :
    f ∈ p.fields ↔ ∃ x ∈ p.groups, ∃ m ∈ x.entities, f ∈ m.fields := by
  unfold Plan.fields
  simp only [List.mem_flatMap]

namespace ModelRules

/-- The fields of a model are those of its entity, one by each and in order. -/
theorem fields_entityModel {r : ModelRules} {e : Entity} {m : EntityModel}
    (h : (r.entityModel e).answer = .ok m) :
    List.Forall₂ (fun x f => f.name = x.name ∧ f.type = x.type ∧
      ∃ row, r.types.lookup? x.type = some row ∧ row.decided = f.decided) e.fields m.fields := by
  obtain ⟨c, fields, -, hfields, rfl⟩ := entityModel_eq_ok_iff.mp h
  refine (mapM_eq_ok_iff.mp hfields).imp ?_
  intro x f hf
  obtain ⟨row, hrow, rfl⟩ := fieldModel_eq_ok_iff.mp hf
  exact ⟨rfl, rfl, row, hrow, rfl⟩

theorem name_entityModel {r : ModelRules} {e : Entity} {m : EntityModel}
    (h : (r.entityModel e).answer = .ok m) : m.name = e.name := by
  obtain ⟨c, fields, -, -, rfl⟩ := entityModel_eq_ok_iff.mp h
  rfl

end ModelRules

namespace Run

variable {s : Settings} {d : Source.Document} {p : Plan}

/-- Every model in a plan is that of a declared entity. -/
theorem exists_declared_of_mem (h : (plan s d).answer = .ok p) {x : Group} (hx : x ∈ p.groups)
    {m : EntityModel} (hm : m ∈ x.entities) :
    ∃ e ∈ declared d, ((rules s).entityModel e).answer = .ok m := by
  obtain ⟨es, as, models, hes, -, hmodels, hgroups⟩ := groups_of_plan h
  obtain rfl := eq_declared_of_entities hes
  have hmem : m ∈ models := Plan.mem_of_mem_entities (hgroups ▸ hx) hm
  exact exists_of_mem_right (ModelRules.models_eq_ok_iff.mp hmodels).2 hmem

/-- What is decided of a field in a plan is decided by the row of its type. -/
theorem exists_row_of_plan (h : (plan s d).answer = .ok p) {f : FieldModel} (hf : f ∈ p.fields) :
    ∃ row, (types s).lookup? f.type = some row ∧ row.decided = f.decided := by
  obtain ⟨x, hx, m, hm, hf⟩ := Plan.mem_fields.mp hf
  obtain ⟨e, -, hem⟩ := exists_declared_of_mem h hx hm
  obtain ⟨y, -, -, htype, row, hrow, hdecided⟩ :=
    exists_of_mem_right (ModelRules.fields_entityModel hem) hf
  exact ⟨row, htype ▸ hrow, hdecided⟩

/-- A row without an import has a target that needs none, or it is that of an override
    that is warned of. -/
theorem free_or_warned {type : String} {row : TypeRow} (h : (types s).lookup? type = some row)
    (himport : row.importName = none) :
    TypeRow.Free row.target ∨ ∃ o, s.types.lookup? type = some o ∧ TypeRow.ofOverride o = row ∧
      TypeTable.missingImport type row ∈ TypeTable.overrideWarnings s.types := by
  rw [lookup?_types] at h
  rcases Option.or_eq_some_iff.mp h with h | ⟨-, h⟩
  · obtain ⟨o, ho, rfl⟩ := Option.map_eq_some_iff.mp h
    by_cases hfree : TypeRow.Free (TypeRow.ofOverride o).target
    · exact Or.inl hfree
    · have hlacks := TypeRow.lacksImport_iff.mpr ⟨himport, hfree⟩
      exact Or.inr ⟨o, ho, rfl, TypeTable.missingImport_mem_overrideWarnings ho hlacks⟩
  · exact Or.inl ⟨(type, row), TypeTable.mem_builtin_of_lookup? h, himport, rfl⟩

theorem accounted_of_plan (h : (plan s d).answer = .ok p) {f : FieldModel} (hf : f ∈ p.fields) :
    f.Accounted s := by
  obtain ⟨row, hrow, hdecided⟩ := exists_row_of_plan h hf
  refine ⟨⟨row, hrow, (lookup?_types s f.type).symm.trans hrow, hdecided⟩, ?_⟩
  intro himport
  obtain ⟨htarget, hrest⟩ := Prod.mk.inj hdecided
  have himport' : row.importName = none := (Prod.mk.inj hrest).1.trans himport
  rcases free_or_warned hrow himport' with hfree | ⟨o, ho, rfl, hwarned⟩
  · exact Or.inl (htarget ▸ hfree)
  · exact Or.inr ⟨o, ho, hwarned⟩

/-- Each model in a plan has the fields of a declared entity, in order and with their types.
    The row of its type decides what a field gets, alike for all fields of that type, and
    a field lacks an import that its target needs only where the run has first of all
    warned of an override. -/
theorem fields_of_plan (h : (plan s d).answer = .ok p) :
    (∀ x ∈ p.groups, ∀ m ∈ x.entities, ∃ e ∈ declared d, m.name = e.name ∧
        List.Forall₂ (fun y f => f.name = y.name ∧ f.type = y.type) e.fields m.fields) ∧
      (∀ f ∈ p.fields, f.Accounted s) ∧
      (∀ f ∈ p.fields, ∀ f' ∈ p.fields, f.type = f'.type → f.decided = f'.decided) ∧
        TypeTable.overrideWarnings s.types <+: (plan s d).events := by
  refine ⟨?declared, fun f => accounted_of_plan h, ?alike, ?first⟩
  case declared =>
    intro x hx m hm
    obtain ⟨e, he, hem⟩ := exists_declared_of_mem h hx hm
    refine ⟨e, he, ModelRules.name_entityModel hem, ?_⟩
    exact (ModelRules.fields_entityModel hem).imp fun y f hf => ⟨hf.1, hf.2.1⟩
  case alike =>
    intro f hf f' hf' htype
    obtain ⟨row, hrow, hdecided⟩ := exists_row_of_plan h hf
    obtain ⟨row', hrow', hdecided'⟩ := exists_row_of_plan h hf'
    -- both look up the same row
    cases (htype ▸ hrow).symm.trans hrow'
    exact hdecided.symm.trans hdecided'
  case first =>
    rw [events_plan h]
    exact List.prefix_append _ _

/-- A text, which needs no import, and a type that is overridden by a row without one. -/
theorem fields_of_plan_prices :
    ∃ p, (plan (Settings.withTypes {} currencies) (prices ["String", "Money"])).answer = .ok p ∧
      p.fields.map (·.decided) =
        [("String", none, "VARCHAR", "t_text"), ("BigDecimal", none, "VARCHAR", "t_unknown")] ∧
      (∀ f ∈ p.fields, f.Accounted (Settings.withTypes {} currencies)) ∧
      ¬ TypeRow.Free "BigDecimal" ∧
        TypeTable.missingImport "Money" (.ofOverride { target := "BigDecimal" }) ∈
          (plan (Settings.withTypes {} currencies) (prices ["String", "Money"])).events := by
  obtain ⟨p, hp, hfields⟩ : ∃ p,
      (plan (Settings.withTypes {} currencies) (prices ["String", "Money"])).answer = .ok p ∧
        p.fields.map (·.decided) =
          [("String", none, "VARCHAR", "t_text"), ("BigDecimal", none, "VARCHAR", "t_unknown")] :=
    ⟨_, rfl, rfl⟩
  obtain ⟨-, haccounted, -, hfirst⟩ := fields_of_plan hp
  have hwarned : TypeTable.missingImport "Money" (.ofOverride { target := "BigDecimal" }) ∈
      TypeTable.overrideWarnings currencies := by decide
  exact ⟨p, hp, hfields, haccounted, by decide, hfirst.subset hwarned⟩

end Run

end EntityPlan
