import EntityPlan.Proofs.Distinctness

/-! # Relevance — which rows of the type table a run can see

    A run looks up the types that fields of its document declare, and no others.
    Settings that differ in their type overrides alone have the same answer for a
    document as soon as their tables agree on those types
    (`Run.plan_of_agreement`).

    A table with overrides has the row of an override where there is one, and
    otherwise the row that it had before, so an override of a type that no field
    declares changes nothing. -/

namespace EntityPlan

/-! ## Tables with overrides -/

namespace TypeTable

/-- Rows in order of their keys are found in the table that they are written to, and all
    other rows are those from before. -/
theorem lookup?_foldl_withRow {rows : List (String × TypeRow)} (h : Ascending rows)
    (t : TypeTable) (type : String) :
    (rows.foldl (fun t r => t.withRow r.1 r.2) t).lookup? type =
      (rows.lookup type).or (t.lookup? type) := by
  induction rows generalizing t with
  | nil => rfl
  | cons r rest ih =>
      obtain ⟨hbefore, hrest⟩ := List.pairwise_cons.mp h
      rw [List.foldl_cons, ih hrest, lookup?_withRow]
      by_cases htype : type = r.1
      · -- no later row has this key
        have hnone : rest.lookup type = none := by
          refine List.lookup_eq_none_iff.mpr fun r' hr' => ?_
          have hne : type ≠ r'.1 := htype ▸ Text.ne_of_before (hbefore r' hr')
          exact bne_iff_ne.mpr hne
        rw [if_pos htype, hnone, List.lookup_cons, beq_iff_eq.mpr htype]
        rfl
      · rw [if_neg htype, List.lookup_cons, beq_eq_false_iff_ne.mpr htype]

/-- The rows of overrides are in order of their types. -/
theorem ascending_overrideRows (overrides : SortedMap TypeOverride) :
    Ascending (overrideRows overrides) :=
  List.pairwise_map.mpr overrides.ascending

theorem lookup_overrideRows (overrides : SortedMap TypeOverride) (type : String) :
    (overrideRows overrides).lookup type = (overrides.lookup? type).map TypeRow.ofOverride := by
  show (overrides.rows.map fun o => (o.1, TypeRow.ofOverride o.2)).lookup type =
    (overrides.rows.lookup type).map TypeRow.ofOverride
  induction overrides.rows with
  | nil => rfl
  | cons o rest ih =>
      rw [List.map_cons, List.lookup_cons, List.lookup_cons, ih]
      cases type == o.1 <;> rfl

/-- An override is found under its type, and under any other one the row from before. -/
theorem lookup?_withOverrides (t : TypeTable) (overrides : SortedMap TypeOverride)
    (type : String) :
    (t.withOverrides overrides).lookup? type =
      ((overrides.lookup? type).map TypeRow.ofOverride).or (t.lookup? type) := by
  rw [← lookup_overrideRows]
  exact lookup?_foldl_withRow (ascending_overrideRows overrides) t type

end TypeTable

/-! ## Declared types -/

/-- A field record of the document declares the type. -/
def Source.Document.DeclaresType (d : Source.Document) (type : String) : Prop :=
  ∃ r ∈ d.entities.records, ∃ body, r.body = some body ∧ ∃ x ∈ body, x.type = some type

/-- The type of a field of an entity is declared in the document. -/
theorem Run.declaresType_of_mem_fields {d : Source.Document} {e : Entity} {x : Field}
    {es : List Entity} (hes : entities d = .ok es) (he : e ∈ es) (hx : x ∈ e.fields) :
    d.DeclaresType x.type := by
  obtain ⟨r, hr, hre⟩ := exists_of_mem_right (forall₂_records hes) he
  obtain ⟨-, body, hbody, hfields, -⟩ := Entity.parts_of_ofRecord hre
  obtain ⟨y, hy, hyx⟩ := exists_of_mem_right (mapM_eq_ok_iff.mp hfields) hx
  have htype : given y.type = some x.type := (Field.parts_of_ofRecord hyx).2
  exact ⟨r, hr, body, hbody, y, hy, (Option.filter_eq_some_iff.mp htype).1⟩

/-! ## Models -/

/-- The rules with another table. -/
def ModelRules.withTypes (r : ModelRules) (types : TypeTable) : ModelRules := { r with types }

namespace ModelRules

variable {r : ModelRules} {t t' : TypeTable}

/-- Of a table the model of a field sees the row of its type. -/
theorem fieldModel_withTypes {entity : String} {c : Classification} {x : Field}
    (h : t.lookup? x.type = t'.lookup? x.type) :
    (r.withTypes t).fieldModel entity c x = (r.withTypes t').fieldModel entity c x := by
  show (t.resolve entity x.name x.type).map (fieldOfRow c x) =
    (t'.resolve entity x.name x.type).map (fieldOfRow c x)
  unfold TypeTable.resolve
  rw [h]

theorem entityModel_withTypes {e : Entity}
    (h : ∀ x ∈ e.fields, t.lookup? x.type = t'.lookup? x.type) :
    ((r.withTypes t).entityModel e).answer = ((r.withTypes t').entityModel e).answer := by
  rw [answer_entityModel, answer_entityModel]
  refine bind_congr fun c => ?_
  rw [mapM_congr fun x hx => fieldModel_withTypes (h x hx)]
  rfl

theorem models_withTypes {es : List Entity}
    (h : ∀ e ∈ es, ∀ x ∈ e.fields, t.lookup? x.type = t'.lookup? x.type) :
    ((r.withTypes t).models es).answer = ((r.withTypes t').models es).answer := by
  rw [answer_models, answer_models]
  refine bind_congr fun _ => ?_
  exact mapM_congr fun e he => entityModel_withTypes (h e he)

end ModelRules

/-! ## Runs -/

/-- The settings with other type overrides. -/
def Settings.withTypes (s : Settings) (types : SortedMap TypeOverride) : Settings :=
  { s with types }

namespace Run

variable {s : Settings} {d : Source.Document} {a b : SortedMap TypeOverride}

/-- The row that a run sees for a type: that of an override, or else the built-in one. -/
def effectiveRow? (overrides : SortedMap TypeOverride) (type : String) : Option TypeRow :=
  ((overrides.lookup? type).map TypeRow.ofOverride).or (TypeTable.builtin.lookup? type)

theorem lookup?_types (s : Settings) (type : String) :
    (types s).lookup? type = effectiveRow? s.types type :=
  TypeTable.lookup?_withOverrides TypeTable.builtin s.types type

/-- Settings that differ in their type overrides alone have the same answer for a document
    when they give the same rows to the types that it declares. -/
theorem plan_of_agreement
    (h : ∀ type, d.DeclaresType type → effectiveRow? a type = effectiveRow? b type) :
    (plan (s.withTypes a) d).answer = (plan (s.withTypes b) d).answer := by
  have hlookup : ∀ type, d.DeclaresType type →
      (types (s.withTypes a)).lookup? type = (types (s.withTypes b)).lookup? type := by
    intro type htype
    rw [lookup?_types, lookup?_types]
    exact h type htype
  rw [answer_plan, answer_plan]
  cases hes : entities d with
  | error f => rfl -- no type is looked up
  | ok es =>
      have hmodels : ((rules (s.withTypes a)).models es).answer =
          ((rules (s.withTypes b)).models es).answer :=
        ModelRules.models_withTypes (r := rules s) fun e he x hx =>
          hlookup x.type (declaresType_of_mem_fields hes he hx)
      rw [ok_bind, ok_bind, hmodels]
      rfl

/-- A document with one entity and a field for each of these types. -/
def prices (fieldTypes : List String) : Source.Document where
  entities := ⟨[("Price",
    { name := some "Price"
      body := some (fieldTypes.map fun t => { name := some ("as" ++ t), type := some t }) })]⟩
  applications := ⟨[("shop", { config := some { baseName := some "shop" } })]⟩

theorem mem_of_declaresType_prices {fieldTypes : List String} {type : String}
    (h : (prices fieldTypes).DeclaresType type) : type ∈ fieldTypes := by
  obtain ⟨r, hr, body, hbody, x, hx, htype⟩ := h
  obtain rfl := List.mem_singleton.mp hr
  cases hbody
  obtain ⟨t, ht, rfl⟩ := List.mem_map.mp hx
  cases htype
  exact ht

/-- Overrides that repeat the built-in row of a text, and that add a type. -/
def currencies : SortedMap TypeOverride :=
  .ofList
    [ ("String", { target := "String", columnType := some "VARCHAR", domain := some "t_text",
                   sample := some "Example String" }),
      ("Money", { target := "BigDecimal" }) ]

/-- A document whose types the overrides leave as they are; and one with a type that they add,
    where the answers differ. -/
theorem plan_of_agreement_prices :
    (plan (Settings.withTypes {} currencies) (prices ["String", "Long"])).answer =
        (plan {} (prices ["String", "Long"])).answer ∧
      (∃ p, (plan {} (prices ["String", "Long"])).answer = .ok p) ∧
      (∃ p, (plan (Settings.withTypes {} currencies) (prices ["Money"])).answer = .ok p) ∧
        (plan {} (prices ["Money"])).answer = .error (.unmappedType "Price" "asMoney" "Money") := by
  refine ⟨plan_of_agreement ?_, ⟨_, rfl⟩, ⟨_, rfl⟩, rfl⟩
  intro type htype
  have hmem : type ∈ ["String", "Long"] := mem_of_declaresType_prices htype
  have hsame : ∀ t ∈ ["String", "Long"], effectiveRow? currencies t = effectiveRow? .empty t := by
    decide
  exact hsame type hmem

end Run

end EntityPlan
