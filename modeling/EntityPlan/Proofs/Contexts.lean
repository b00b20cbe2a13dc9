import EntityPlan.Proofs.Building
import EntityPlan.Proofs.Faithfulness

/-! # Contexts — in step with the models that they repeat

    Every list of a context knows the places of its items (`Positioned.list_placed`).
    Fields and columns are two lists over the same fields, written with two marks of
    their own, a question mark in the one and `NOT NULL` in the other.  In a model that
    was built the two follow one flag, so that of each field exactly one declaration
    carries its mark (`TemplateContext.ofModel_inStep`). -/

namespace EntityPlan

/-! ## Places -/

namespace Positioned

variable {α : Type}

/-- The items of a list know their places: the index, and whether it is the first or the last
    one, which in a list with items is so for one item each. -/
structure Placed (ps : List (Positioned α)) : Prop where
  index : ∀ (i : Nat) (p : Positioned α), ps[i]? = some p → p.index = i
  first : ∀ (i : Nat) (p : Positioned α), ps[i]? = some p → (p.first = true ↔ i = 0)
  last : ∀ (i : Nat) (p : Positioned α), ps[i]? = some p → (p.last = true ↔ i + 1 = ps.length)
  oneFirst : ps ≠ [] → ps.countP (·.first) = 1
  oneLast : ps ≠ [] → ps.countP (·.last) = 1

theorem length_list (items : List α) : (list items).length = items.length :=
  length_listFrom items.length 0 items

/-- What an item knows of its place is settled by the place and the length of the list. -/
theorem getElem?_list_eq_some_iff {items : List α} {i : Nat} {p : Positioned α} :
    (list items)[i]? = some p ↔
      ∃ a, items[i]? = some a ∧ p = ⟨a, i, i == 0, i + 1 == items.length⟩ := by
  unfold list
  rw [getElem?_listFrom, Option.map_eq_some_iff]
  simp only [Nat.zero_add, eq_comm]

/-- No item is the first one in a list that starts at a later place. -/
theorem countP_first_listFrom (total index : Nat) (items : List α) :
    (listFrom total (index + 1) items).countP (·.first) = 0 := by
  induction items generalizing index with
  | nil => rfl
  | cons a rest ih =>
      show (_ :: listFrom total (index + 1 + 1) rest).countP _ = 0
      rw [List.countP_cons_of_neg (by simp), ih]

/-- The last item of a list that ends at the total is the only last one. -/
theorem countP_last_listFrom (index : Nat) {items : List α} (h : items ≠ []) :
    (listFrom (index + items.length) index items).countP (·.last) = 1 := by
  induction items generalizing index with
  | nil => exact absurd rfl h
  | cons a rest ih =>
      show (_ :: listFrom (index + (rest.length + 1)) (index + 1) rest).countP _ = 1
      -- the head is the last item only where nothing stands behind it
      by_cases hrest : rest = []
      · subst hrest
        simp [listFrom]
      · have hpos : 0 < rest.length := List.length_pos_iff.mpr hrest
        have htotal : index + (rest.length + 1) = index + 1 + rest.length := by omega
        have hearly : index + 1 ≠ index + (rest.length + 1) := by omega
        rw [List.countP_cons_of_neg (by simpa using hearly), htotal, ih _ hrest]

theorem list_placed (items : List α) : Placed (list items) where
  index i p h := by
    obtain ⟨a, -, rfl⟩ := getElem?_list_eq_some_iff.mp h
    rfl
  first i p h := by
    obtain ⟨a, -, rfl⟩ := getElem?_list_eq_some_iff.mp h
    exact beq_iff_eq
  last i p h := by
    obtain ⟨a, -, rfl⟩ := getElem?_list_eq_some_iff.mp h
    rw [length_list]
    exact beq_iff_eq
  oneFirst h := by
    cases items with
    | nil => exact absurd rfl h
    | cons a rest =>
        -- the head is the first item, and behind it the places are no longer zero
        show (_ :: listFrom (rest.length + 1) 1 rest).countP _ = 1
        rw [List.countP_cons_of_pos (by simp), countP_first_listFrom]
  oneLast h := by
    have hitems : items ≠ [] := by
      rintro rfl
      exact h rfl
    have hcount := countP_last_listFrom 0 hitems
    rwa [Nat.zero_add] at hcount

/-- A list over the same elements has at each place what becomes of the element there. -/
theorem exists_item_list_map {β : Type} (f : α → β) {items : List α} {i : Nat} {a : α}
    (h : items[i]? = some a) : ∃ p, (list (items.map f))[i]? = some p ∧ p.item = f a := by
  have hitem : (items.map f)[i]? = some (f a) := by rw [List.getElem?_map, h, Option.map_some]
  exact ⟨_, getElem?_list_eq_some_iff.mpr ⟨f a, hitem, rfl⟩, rfl⟩

end Positioned

/-! ## Declarations -/

/-- How a field is declared, as a property and as a column: the column of a required field is
    marked, and otherwise the property is. -/
inductive FieldModel.Declared (f : FieldModel) : String → String → Prop
  | required : f.required = true →
      Declared f (f.name ++ ": " ++ f.target) (f.column ++ " " ++ f.columnType ++ " NOT NULL")
  | optional : f.required = false →
      Declared f (f.name ++ ": " ++ f.target ++ "?") (f.column ++ " " ++ f.columnType)

/-- The two marks follow one flag when exactly the fields that are not required may be null. -/
theorem FieldModel.declared_of_nullable {f : FieldModel} (h : f.nullable = !f.required) :
    f.Declared f.declaration f.columnDeclaration := by
  unfold declaration columnDeclaration
  -- the question mark hangs on `nullable` and `NOT NULL` on `required`
  cases hrequired : f.required with
  | true =>
      rw [h, hrequired]
      simpa using Declared.required hrequired
  | false =>
      rw [h, hrequired]
      simpa using Declared.optional hrequired

theorem ModelRules.nullable_of_mem_fields {r : ModelRules} {e : Entity} {m : EntityModel}
    (h : (r.entityModel e).answer = .ok m) {f : FieldModel} (hf : f ∈ m.fields) :
    f.nullable = !f.required := by
  obtain ⟨c, fields, -, hfields, rfl⟩ := entityModel_eq_ok_iff.mp h
  obtain ⟨x, -, hx⟩ := exists_of_mem_right (mapM_eq_ok_iff.mp hfields) hf
  obtain ⟨row, -, rfl⟩ := fieldModel_eq_ok_iff.mp hx
  rfl

/-! ## Contexts -/

namespace TemplateContext

/-- The context repeats the model item by item, and a field and its column stand at one place of
    their lists. -/
structure InStep (basePackage : String) (m : EntityModel) (c : TemplateContext) : Prop where
  name : c.name = m.name ∧ c.nameLower = Text.lower m.name
  package : c.packageName = basePackage ++ "." ++ c.nameLower
  lengths : c.fields.length = m.fields.length ∧ c.columns.length = m.fields.length
  /-- what stands at the place of a field of the model -/
  fields : ∀ (i : Nat) (f : FieldModel), m.fields[i]? = some f → ∃ x y, c.fields[i]? = some x ∧ c.columns[i]? = some y ∧
    x.item.field = f ∧ y.item.name = f.column ∧ y.item.domain = f.domain ∧
      f.Declared x.item.declaration y.item.declaration
  imports : c.imports.map (·.item) = m.imports
  relationships : c.relationships.map (·.item) = m.relationships
  fieldsPlaced : Positioned.Placed c.fields
  columnsPlaced : Positioned.Placed c.columns
  importsPlaced : Positioned.Placed c.imports
  relationshipsPlaced : Positioned.Placed c.relationships

variable {r : ModelRules} {e : Entity} {m : EntityModel}

/-- The package of a model that was built ends in the name of the model in lower case. -/
theorem packageName_entityModel (h : (r.entityModel e).answer = .ok m) :
    m.packageName = r.basePackage ++ "." ++ Text.lower m.name := by
  obtain ⟨c, fields, -, -, rfl⟩ := ModelRules.entityModel_eq_ok_iff.mp h
  rfl

theorem ofModel_inStep (h : (r.entityModel e).answer = .ok m) :
    InStep r.basePackage m (ofModel m) where
  name := ⟨rfl, rfl⟩
  package := packageName_entityModel h
  lengths := by
    constructor <;>
      exact (Positioned.length_list _).trans (List.length_map _)
  fields i f hf := by
    have hdeclared : f.Declared f.declaration f.columnDeclaration :=
      FieldModel.declared_of_nullable
        (ModelRules.nullable_of_mem_fields h (List.mem_of_getElem? hf))
    obtain ⟨x, hx, hxf⟩ := Positioned.exists_item_list_map FieldContext.ofField hf
    obtain ⟨y, hy, hyf⟩ := Positioned.exists_item_list_map ColumnContext.ofField hf
    refine ⟨x, y, hx, hy, ?_⟩
    rw [hxf, hyf]
    exact ⟨rfl, rfl, rfl, hdeclared⟩
  imports := (Positioned.map_list id m.imports).trans (List.map_id m.imports)
  relationships := (Positioned.map_list id m.relationships).trans (List.map_id m.relationships)
  fieldsPlaced := Positioned.list_placed _
  columnsPlaced := Positioned.list_placed _
  importsPlaced := Positioned.list_placed _
  relationshipsPlaced := Positioned.list_placed _

/-- Whatever is built, one entity or a whole list of them, has contexts in step with its models,
    and they stand in the base package of the rules. -/
theorem contexts_keep_in_step (r : ModelRules) :
    (∀ e m, (r.entityModel e).answer = .ok m → InStep r.basePackage m (ofModel m)) ∧
      ∀ es ms, (r.models es).answer = .ok ms → ∀ m ∈ ms, InStep r.basePackage m (ofModel m) := by
  refine ⟨fun e m h => ofModel_inStep h, ?_⟩
  intro es ms h m hm
  obtain ⟨e, -, he⟩ := exists_of_mem_right (ModelRules.models_eq_ok_iff.mp h).2 hm
  exact ofModel_inStep he

/-- An entity with a required field and one that is not. -/
def loan : Entity where
  name := "Loan"
  tableName := none
  description := none
  fields :=
    [ { name := "dueOn", type := "LocalDate", description := none,
        validations := [⟨"required", none⟩], annotations := [] },
      { name := "note", type := "TextBlob", description := none,
        validations := [], annotations := [] } ]
  annotations := []
  relationships := [⟨.manyToOne, "book", "Book", true⟩]

theorem contexts_keep_in_step_loan :
    ∃ m, (ModelRules.entityModel ⟨.builtin, "net.example", .strict⟩ loan).answer = .ok m ∧
      InStep "net.example" m (ofModel m) ∧
      (ofModel m).packageName = "net.example.loan" ∧
      (ofModel m).fields.map (fun x => (x.first, x.last, x.item.declaration)) =
        [(true, false, "dueOn: LocalDate"), (false, true, "note: String?")] ∧
      (ofModel m).columns.map (fun y => (y.index, y.item.declaration)) =
        [(0, "DUE_ON DATE NOT NULL"), (1, "NOTE TEXT")] := by
  obtain ⟨m, hm, hshown⟩ : ∃ m,
      (ModelRules.entityModel ⟨.builtin, "net.example", .strict⟩ loan).answer = .ok m ∧
        (ofModel m).packageName = "net.example.loan" ∧
        (ofModel m).fields.map (fun x => (x.first, x.last, x.item.declaration)) =
          [(true, false, "dueOn: LocalDate"), (false, true, "note: String?")] ∧
        (ofModel m).columns.map (fun y => (y.index, y.item.declaration)) =
          [(0, "DUE_ON DATE NOT NULL"), (1, "NOTE TEXT")] :=
    ⟨_, rfl, rfl, rfl, rfl⟩
  exact ⟨m, hm, (contexts_keep_in_step _).1 loan m hm, hshown⟩

end TemplateContext

end EntityPlan
