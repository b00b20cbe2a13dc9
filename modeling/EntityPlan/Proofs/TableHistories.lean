import EntityPlan.Proofs.Relevance
import Mathlib.Data.Finset.Card

/-! # Table histories — the last write to a type decides

    A table comes about by writes: of single rows, and of the overrides of settings, each
    of which writes a row for every type that it names.  One write leaves all other types
    as they were (`TypeTable.lookup?_after`), so after a whole history the row of a type is
    that of the last write to it, or the one that was there at the start; nothing of a row
    that is replaced stays (`TypeTable.last_write_wins`). -/

namespace EntityPlan

namespace SortedMap

variable {α : Type}

/-- A map has as many rows as keys. -/
theorem size_eq_card {m : SortedMap α} {keys : Finset String}
    (h : ∀ key, key ∈ keys ↔ key ∈ m.keys) : m.size = keys.card := by
  obtain rfl : keys = m.keys.toFinset := by
    ext key
    rw [h, List.mem_toFinset]
  rw [List.toFinset_card_of_nodup m.nodup_keys, keys, List.length_map]
  rfl

end SortedMap

namespace TypeTable

/-- A write to a table: of one row, or of the overrides of settings. -/
inductive Write
  | row (type : String) (row : TypeRow)
  | overrides (overrides : SortedMap TypeOverride)

/-- The table after a write. -/
def after (t : TypeTable) : Write → TypeTable
  | .row type row => t.withRow type row
  | .overrides os => t.withOverrides os

/-- The table after a history of writes. -/
def afterAll (t : TypeTable) (history : List Write) : TypeTable := history.foldl after t

/-- The row is that of the override: what it leaves out is filled in, and an import that is blank
    is left out. -/
structure Fills (o : TypeOverride) (row : TypeRow) : Prop where
  target : row.target = o.target
  importName : ∀ name,
    row.importName = some name ↔ o.importName = some name ∧ ∃ c ∈ name.toList, ¬ Text.isBlank c
  columnType : o.columnType = some row.columnType ∨ o.columnType = none ∧ row.columnType = "VARCHAR"
  domain : o.domain = some row.domain ∨ o.domain = none ∧ row.domain = "t_unknown"
  sample : o.sample = some row.sample ∨ o.sample = none ∧ row.sample = o.target

/-- The write gives this row to the type. -/
inductive Writes : Write → String → TypeRow → Prop
  | row {type : String} {row : TypeRow} : Writes (.row type row) type row
  | override {overrides : SortedMap TypeOverride} {type : String} {o : TypeOverride}
      {row : TypeRow} : overrides.lookup? type = some o → Fills o row →
        Writes (.overrides overrides) type row

/-- The write gives no row to the type. -/
def Spares (w : Write) (type : String) : Prop := ∀ row, ¬ Writes w type row

/-- The last write of the history to the type gives it this row. -/
def LastWrites (history : List Write) (type : String) (row : TypeRow) : Prop :=
  ∃ before w later, history = before ++ w :: later ∧ Writes w type row ∧
    ∀ w' ∈ later, Spares w' type

variable {t start : TypeTable} {w : Write} {history : List Write} {type : String} {row : TypeRow}

/-! ## One write -/

/-- The row that a write gives to a type. -/
def Write.row? (type : String) : Write → Option TypeRow
  | .row key row => if type = key then some row else none
  | .overrides os => (os.lookup? type).map TypeRow.ofOverride

/-- A value, or what stands for it where there is none. -/
theorem getD_eq_iff {x : Option String} {s v : String} :
    x.getD s = v ↔ x = some v ∨ x = none ∧ v = s := by
  cases x with
  | none => simp [eq_comm]
  | some a => simp

theorem importName_ofOverride {o : TypeOverride} {name : String} :
    (TypeRow.ofOverride o).importName = some name ↔
      o.importName = some name ∧ ∃ c ∈ name.toList, ¬ Text.isBlank c := by
  show o.importName.filter (fun name => !Text.allBlank name) = some name ↔ _
  rw [Option.filter_eq_some_iff]
  refine and_congr_right fun _ => ?_
  simp only [Text.allBlank, Bool.not_eq_true', List.all_eq_false]

/-- An override is filled in one way only. -/
theorem fills_iff {o : TypeOverride} : Fills o row ↔ TypeRow.ofOverride o = row := by
  constructor
  · intro h
    have hname : (TypeRow.ofOverride o).importName = row.importName :=
      Option.ext fun name => importName_ofOverride.trans (h.importName name).symm
    cases row
    simp only [TypeRow.ofOverride, TypeRow.mk.injEq]
    exact ⟨h.target.symm, hname, getD_eq_iff.mpr h.columnType, getD_eq_iff.mpr h.domain,
      getD_eq_iff.mpr h.sample⟩
  · rintro rfl
    exact ⟨rfl, fun _ => importName_ofOverride, getD_eq_iff.mp rfl, getD_eq_iff.mp rfl,
      getD_eq_iff.mp rfl⟩

theorem writes_iff : Writes w type row ↔ w.row? type = some row := by
  cases w with
  | row key r =>
      constructor
      · rintro ⟨⟩
        exact if_pos rfl
      · intro h
        obtain ⟨rfl, hr⟩ := Option.ite_none_right_eq_some.mp h
        obtain rfl := Option.some.inj hr
        exact .row
  | overrides os =>
      show _ ↔ (os.lookup? type).map TypeRow.ofOverride = some row
      rw [Option.map_eq_some_iff]
      constructor
      · rintro (_ | ⟨ho, hfills⟩)
        exact ⟨_, ho, fills_iff.mp hfills⟩
      · rintro ⟨o, ho, hrow⟩
        exact .override ho (fills_iff.mpr hrow)

theorem spares_iff : Spares w type ↔ w.row? type = none := by
  unfold Spares
  simp only [writes_iff, Option.eq_none_iff_forall_not_mem, Option.mem_def]

/-- After a write the types that it names have its rows, and all others the rows from before. -/
theorem lookup?_after (t : TypeTable) (w : Write) (type : String) :
    (t.after w).lookup? type = (w.row? type).or (t.lookup? type) := by
  cases w with
  | row key row =>
      show (t.withRow key row).lookup? type = (if type = key then some row else none).or _
      rw [lookup?_withRow]
      split <;> rfl
  | overrides os => exact lookup?_withOverrides t os type

/-- Overrides that were just written change nothing. -/
theorem withOverrides_withOverrides (t : TypeTable) (overrides : SortedMap TypeOverride) :
    (t.withOverrides overrides).withOverrides overrides = t.withOverrides overrides := by
  -- a table is what is found in it
  have hlookup : ∀ type, ((t.withOverrides overrides).withOverrides overrides).lookup? type =
      (t.withOverrides overrides).lookup? type := by
    intro type
    rw [lookup?_withOverrides, lookup?_withOverrides, ← Option.or_assoc, Option.or_self]
  exact congrArg TypeTable.mk (SortedMap.ext_lookup? hlookup)

/-! ## Histories -/

theorem lookup?_afterAll (start : TypeTable) (history : List Write) (type : String) :
    (start.afterAll history).lookup? type =
      (history.reverse.findSome? (Write.row? type)).or (start.lookup? type) := by
  induction history generalizing start with
  | nil => rfl
  | cons w rest ih =>
      -- the rest starts from the table after `w`, so what it writes goes before
      show ((start.after w).afterAll rest).lookup? type = _
      rw [ih, lookup?_after, ← Option.or_assoc, List.reverse_cons, List.findSome?_append,
        List.findSome?_singleton]

/-- The last row that is written to a type, looked for from the end. -/
theorem lastWrites_iff :
    LastWrites history type row ↔ history.reverse.findSome? (Write.row? type) = some row := by
  rw [findSome?_reverse_eq_some_iff, LastWrites]
  simp only [writes_iff, spares_iff]

theorem spares_all_iff :
    (∀ w ∈ history, Spares w type) ↔ history.reverse.findSome? (Write.row? type) = none := by
  simp only [findSome?_reverse_eq_none_iff, spares_iff]

theorem lookup?_afterAll_eq_some_iff :
    (start.afterAll history).lookup? type = some row ↔
      LastWrites history type row ∨
        (∀ w ∈ history, Spares w type) ∧ start.lookup? type = some row := by
  rw [lookup?_afterAll, lastWrites_iff, spares_all_iff, Option.or_eq_some_iff]

/-- A type has a row when it had one at the start or some write gave it one. -/
theorem mem_keys_afterAll :
    type ∈ (start.afterAll history).rows.keys ↔
      type ∈ start.rows.keys ∨ ∃ w ∈ history, ∃ row, Writes w type row := by
  have hspared : ¬ (∀ w ∈ history, Spares w type) ↔ ∃ w ∈ history, ∃ row, Writes w type row := by
    simp only [Spares, not_forall, not_not, exists_prop]
  rw [SortedMap.mem_keys_iff, SortedMap.mem_keys_iff, ← hspared, spares_all_iff]
  show (∃ row, (start.afterAll history).lookup? type = some row) ↔
    (∃ row, start.lookup? type = some row) ∨ _
  rw [lookup?_afterAll]
  cases history.reverse.findSome? (Write.row? type) with
  | none => simp
  | some row => simp

/-- What a table is after a history, told from the start and from the writes alone. -/
structure Records (start : TypeTable) (history : List Write) (t : TypeTable) : Prop where
  lookup : ∀ type row, t.lookup? type = some row ↔ LastWrites history type row ∨
    (∀ w ∈ history, Spares w type) ∧ start.lookup? type = some row
  /-- the rows are listed in byte order of their types, each type once -/
  ascending : (t.rows.rows.map (·.1)).Pairwise fun a b => Text.bytes a < Text.bytes b
  listed : ∀ type row, (type, row) ∈ t.rows.rows ↔ t.lookup? type = some row
  size : ∀ types : Finset String,
    (∀ type, type ∈ types ↔
      type ∈ start.rows.keys ∨ ∃ w ∈ history, ∃ row, Writes w type row) → t.size = types.card
  /-- only a type without a row cannot be resolved -/
  resolve : ∀ entity field type,
    (∀ row, t.resolve entity field type = .ok row ↔ t.lookup? type = some row) ∧
      ∀ f, t.resolve entity field type = .error f ↔
        t.lookup? type = none ∧ .unmappedType entity field type = f

theorem records_afterAll (start : TypeTable) (history : List Write) :
    Records start history (start.afterAll history) where
  lookup _ _ := lookup?_afterAll_eq_some_iff
  ascending := List.pairwise_map.mpr (start.afterAll history).rows.ascending
  listed _ _ := (SortedMap.lookup_eq_some_iff (start.afterAll history).rows.nodup_keys).symm
  size _ htypes := SortedMap.size_eq_card fun type => (htypes type).trans mem_keys_afterAll.symm
  resolve _ _ _ := ⟨fun _ => resolve_eq_ok_iff _ _ _ _, fun _ => resolve_eq_error_iff _ _ _ _⟩

/-- After any history a table has the rows of the last writes, and else those of the start; one
    write leaves the rows of all other types as they are; and overrides written twice in a row
    are overrides written once. -/
theorem last_write_wins (start : TypeTable) (history : List Write) :
    Records start history (start.afterAll history) ∧
      (∀ w type, Spares w type → ((start.afterAll history).after w).lookup? type =
        (start.afterAll history).lookup? type) ∧
      ∀ overrides, start.afterAll (history ++ [.overrides overrides, .overrides overrides]) =
        start.afterAll (history ++ [.overrides overrides]) := by
  refine ⟨records_afterAll start history, ?_, ?_⟩
  · intro w type h
    rw [lookup?_after, spares_iff.mp h, Option.none_or]
  · intro overrides
    unfold afterAll
    rw [List.foldl_append, List.foldl_append]
    exact withOverrides_withOverrides _ overrides

/-- An override with a blank import, written over a row that has one. -/
theorem last_write_wins_instant :
    let history : List Write :=
      [.row "Instant" ⟨"Instant", some "java.time.Instant", "TIMESTAMP", "t_instant", "now"⟩,
        .overrides (.ofList [("Instant", { target := "String", importName := some " " })])]
    LastWrites history "Instant" ⟨"String", none, "VARCHAR", "t_unknown", "String"⟩ ∧
      (builtin.afterAll history).lookup? "Instant" =
        some ⟨"String", none, "VARCHAR", "t_unknown", "String"⟩ ∧
      (builtin.afterAll history).lookup? "Long" =
        some ⟨"Long", none, "BIGINT", "t_identity", "1001"⟩ := by
  intro history
  have hlast : LastWrites history "Instant" ⟨"String", none, "VARCHAR", "t_unknown", "String"⟩ :=
    lastWrites_iff.mpr (by decide)
  obtain ⟨hrecords, -⟩ := last_write_wins builtin history
  exact ⟨hlast, (hrecords.lookup _ _).mpr (Or.inl hlast),
    (hrecords.lookup _ _).mpr (Or.inr ⟨spares_all_iff.mpr (by decide), by decide⟩)⟩

end TypeTable

end EntityPlan
