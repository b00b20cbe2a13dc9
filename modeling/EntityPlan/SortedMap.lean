import EntityPlan.Text.Order

/-! # Sorted maps — one row per key, in byte order of the keys

    A map from texts to values is the list of its rows, and the rows stand
    strictly in byte order.  The order is part of the type.  A write to a key
    replaces the value of that key and of no other (`lookup?_insert`). -/

namespace EntityPlan

/-- Rows in strict byte order of their keys. -/
def Ascending {α : Type} (rows : List (String × α)) : Prop :=
  rows.Pairwise fun a b => Text.Before a.1 b.1

/-- A map from texts to values with its rows in byte order of the keys. -/
structure SortedMap (α : Type) where
  rows : List (String × α)
  ascending : Ascending rows
  deriving DecidableEq

namespace SortedMap

variable {α β : Type}

/-- The map without rows. -/
def empty : SortedMap α := ⟨[], List.Pairwise.nil⟩

instance : EmptyCollection (SortedMap α) := ⟨empty⟩

instance : Inhabited (SortedMap α) := ⟨empty⟩

instance [Repr α] : Repr (SortedMap α) := ⟨fun m n => reprPrec m.rows n⟩

/-- The rows with `key` set to `value`, at the place that byte order gives it. -/
def place (key : String) (value : α) : List (String × α) → List (String × α)
  | [] => [(key, value)]
  | (k, v) :: rest =>
      if key = k then (key, value) :: rest
      else if Text.Before key k then (key, value) :: (k, v) :: rest
      else (k, v) :: place key value rest

/-- A placed row stands behind whatever stands before its key and its rows. -/
theorem before_place {key k : String} {value : α} {rows : List (String × α)}
    (hkey : Text.Before k key) (hrows : ∀ r ∈ rows, Text.Before k r.1) :
    ∀ r ∈ place key value rows, Text.Before k r.1 := by
  induction rows with
  | nil => intro r hr; cases List.mem_singleton.1 hr; exact hkey
  | cons hd tl ih =>
      obtain ⟨k', v'⟩ := hd
      have htl : ∀ r ∈ tl, Text.Before k r.1 := fun r hr => hrows r (List.mem_cons_of_mem _ hr)
      intro r hr
      unfold place at hr
      split at hr
      · rcases List.mem_cons.1 hr with h | h
        · subst h; exact hkey
        · exact htl r h
      · split at hr
        · rcases List.mem_cons.1 hr with h | h
          · subst h; exact hkey
          · exact hrows r h
        · rcases List.mem_cons.1 hr with h | h
          · subst h; exact hrows _ List.mem_cons_self
          · exact ih htl r h

/-- Placing a row keeps the order. -/
theorem ascending_place (key : String) (value : α) {rows : List (String × α)}
    (h : Ascending rows) : Ascending (place key value rows) := by
  induction rows with
  | nil => exact List.pairwise_singleton _ _
  | cons hd tl ih =>
      obtain ⟨k, v⟩ := hd
      obtain ⟨hk, htl⟩ := List.pairwise_cons.1 h
      unfold place
      split
      · next e => subst e; exact List.pairwise_cons.2 ⟨hk, htl⟩
      · next hne =>
          split
          · next hb =>
              refine List.pairwise_cons.2 ⟨?_, h⟩
              intro r hr
              rcases List.mem_cons.1 hr with hr | hr
              · subst hr; exact hb
              · exact Text.before_trans hb (hk r hr)
          · next hb =>
              exact List.pairwise_cons.2
                ⟨before_place (Text.before_of_not_before hne hb) hk, ih htl⟩

/-- The map with `key` set to `value`; a row of that key is replaced. -/
def insert (m : SortedMap α) (key : String) (value : α) : SortedMap α :=
  ⟨place key value m.rows, ascending_place key value m.ascending⟩

/-- The value of a key. -/
def lookup? (m : SortedMap α) (key : String) : Option α := m.rows.lookup key

/-- A row of this key exists. -/
def contains (m : SortedMap α) (key : String) : Bool := (m.lookup? key).isSome

/-- The keys, in byte order. -/
def keys (m : SortedMap α) : List String := m.rows.map (·.1)

/-- The number of rows. -/
def size (m : SortedMap α) : Nat := m.rows.length

/-- The rows of a list written one after another, so that the last of a key stays. -/
def ofList (rows : List (String × α)) : SortedMap α :=
  rows.foldl (fun m r => m.insert r.1 r.2) empty

/-- The map with every value changed, or left out where there is none. -/
def filterMap (f : α → Option β) (m : SortedMap α) : SortedMap β where
  rows := m.rows.filterMap fun r => (f r.2).map (r.1, ·)
  ascending := by
    unfold Ascending
    rw [List.pairwise_filterMap]
    refine m.ascending.imp ?_
    rintro ⟨a, x⟩ ⟨b, y⟩ hab ⟨a', x'⟩ ha ⟨b', y'⟩ hb
    simp only [Option.map_eq_some_iff, Prod.mk.injEq] at ha hb
    obtain ⟨_, _, rfl, _⟩ := ha
    obtain ⟨_, _, rfl, _⟩ := hb
    exact hab

/-- The map with every value changed. -/
def map (f : α → β) (m : SortedMap α) : SortedMap β := m.filterMap fun a => some (f a)

@[simp] theorem lookup?_empty (key : String) : (empty : SortedMap α).lookup? key = none := rfl

/-- A key is looked up to the value written last. -/
theorem lookup?_insert (m : SortedMap α) (key k : String) (value : α) :
    (m.insert key value).lookup? k = if k = key then some value else m.lookup? k := by
  obtain ⟨rows, _⟩ := m
  show (place key value rows).lookup k = if k = key then some value else rows.lookup k
  induction rows with
  | nil =>
      by_cases h : k = key
      · simp [place, h]
      · have hb : (k == key) = false := by simpa using h
        simp [place, List.lookup_cons, h, hb]
  | cons hd tl ih =>
      obtain ⟨k', v'⟩ := hd
      have htl := ih (List.pairwise_cons.1 ‹Ascending ((k', v') :: tl)›).2
      unfold place
      split
      · next e =>
          subst e
          by_cases h : k = key
          · simp [h]
          · have hb : (k == key) = false := by simpa using h
            simp [List.lookup_cons, h, hb]
      · next hne =>
          split
          · by_cases h : k = key
            · simp [h]
            · have hb : (k == key) = false := by simpa using h
              simp [List.lookup_cons, h, hb]
          · by_cases hk : k = k'
            · subst hk
              have hkey : ¬ k = key := fun e => hne e.symm
              simp [hkey]
            · have hb : (k == k') = false := by simpa using hk
              simp only [List.lookup_cons, hb]
              exact htl

/-- Where the keys differ, every row is found under its key. -/
theorem lookup_eq_some_iff {κ : Type} [BEq κ] [LawfulBEq κ] {rows : List (κ × α)}
    (h : (rows.map (·.1)).Nodup) {key : κ} {value : α} :
    rows.lookup key = some value ↔ (key, value) ∈ rows := by
  induction rows with
  | nil => exact ⟨fun h => (nomatch h), fun h => (nomatch h)⟩
  | cons r rest ih =>
      obtain ⟨hr, hrest⟩ := List.nodup_cons.mp h
      rw [List.lookup_cons, List.mem_cons]
      by_cases hkey : key = r.1
      · rw [beq_iff_eq.mpr hkey]
        constructor
        · intro hvalue
          exact Or.inl (Prod.ext hkey (Option.some.inj hvalue).symm)
        · rintro (rfl | hmem)
          · rfl
          · -- no row behind the first one has its key
            exact absurd (List.mem_map.mpr ⟨_, hmem, hkey⟩) hr
      · rw [beq_eq_false_iff_ne.mpr hkey]
        refine (ih hrest).trans ⟨Or.inr, ?_⟩
        rintro (rfl | hmem)
        · exact absurd rfl hkey
        · exact hmem

theorem nodup_keys (m : SortedMap α) : m.keys.Nodup :=
  List.pairwise_map.mpr (m.ascending.imp fun hab => Text.ne_of_before hab)

theorem mem_keys_iff {m : SortedMap α} {key : String} :
    key ∈ m.keys ↔ ∃ value, m.lookup? key = some value := by
  constructor
  · intro h
    obtain ⟨⟨key', value⟩, hrow, rfl⟩ := List.mem_map.mp h
    exact ⟨value, (lookup_eq_some_iff m.nodup_keys).mpr hrow⟩
  · rintro ⟨value, h⟩
    exact List.mem_map.mpr ⟨_, (lookup_eq_some_iff m.nodup_keys).mp h, rfl⟩

/-- A changed map is looked up by looking up the map and changing what is found. -/
theorem lookup?_filterMap (f : α → Option β) (m : SortedMap α) (key : String) :
    (m.filterMap f).lookup? key = (m.lookup? key).bind f := by
  refine Option.ext fun b => ?_
  -- a row left out uncovers no other one, since no two rows have one key
  calc (m.filterMap f).lookup? key = some b
      ↔ (key, b) ∈ (m.filterMap f).rows := lookup_eq_some_iff (m.filterMap f).nodup_keys
    _ ↔ ∃ a, (key, a) ∈ m.rows ∧ f a = some b := by
        show (key, b) ∈ m.rows.filterMap (fun r => (f r.2).map (r.1, ·)) ↔ _
        simp only [List.mem_filterMap, Option.map_eq_some_iff, Prod.mk.injEq]
        constructor
        · rintro ⟨⟨k, a⟩, hrow, b', hb, rfl, rfl⟩
          exact ⟨a, hrow, hb⟩
        · rintro ⟨a, hrow, hb⟩
          exact ⟨(key, a), hrow, b, hb, rfl, rfl⟩
    _ ↔ ∃ a, m.lookup? key = some a ∧ f a = some b := by
        simp only [← lookup_eq_some_iff m.nodup_keys, lookup?]
    _ ↔ (m.lookup? key).bind f = some b := Option.bind_eq_some_iff.symm

theorem lookup?_map (f : α → β) (m : SortedMap α) (key : String) :
    (m.map f).lookup? key = (m.lookup? key).map f := by
  rw [map, lookup?_filterMap]
  exact Option.map_eq_bind.symm

@[simp] theorem keys_map (f : α → β) (m : SortedMap α) : (m.map f).keys = m.keys := by
  show (m.rows.filterMap fun r => some (r.1, f r.2)).map (·.1) = m.rows.map (·.1)
  rw [List.map_filterMap]
  exact congrFun List.filterMap_eq_map m.rows

/-- Maps in which the same is found are the same. -/
theorem ext_lookup? {m n : SortedMap α} (h : ∀ key, m.lookup? key = n.lookup? key) : m = n := by
  have hnodup : ∀ l : SortedMap α, l.rows.Nodup :=
    fun l => l.ascending.imp fun hab heq => Text.ne_of_before hab (congrArg Prod.fst heq)
  have hperm : m.rows.Perm n.rows := by
    refine (List.perm_ext_iff_of_nodup (hnodup m) (hnodup n)).mpr fun r => ?_
    rw [← lookup_eq_some_iff m.nodup_keys, ← lookup_eq_some_iff n.nodup_keys]
    show m.lookup? r.1 = some r.2 ↔ n.lookup? r.1 = some r.2
    rw [h]
  have hrows : m.rows = n.rows := hperm.eq_of_pairwise
    (fun _ _ _ _ hab hba => absurd hba (Text.before_asymm hab)) m.ascending n.ascending
  obtain ⟨rows, hm⟩ := m
  obtain ⟨rows', hn⟩ := n
  obtain rfl : rows = rows' := hrows
  rfl

/-- Rows written to a map are found, the last one of a key before all others. -/
theorem lookup?_foldl_insert (rows : List (String × α)) (m : SortedMap α) (key : String) :
    (rows.foldl (fun m r => m.insert r.1 r.2) m).lookup? key =
      (rows.reverse.lookup key).or (m.lookup? key) := by
  induction rows generalizing m with
  | nil => rfl
  | cons r rest ih =>
      rw [List.foldl_cons, ih, lookup?_insert, List.reverse_cons, List.lookup_append, Option.or_assoc,
        List.lookup_cons]
      by_cases h : key = r.1
      · rw [if_pos h, beq_iff_eq.mpr h]
        rfl
      · rw [if_neg h, beq_eq_false_iff_ne.mpr h]
        rfl

/-- A row that is found in the map of a list stands in the list. -/
theorem mem_of_lookup?_ofList {rows : List (String × α)} {key : String} {value : α}
    (h : (ofList rows).lookup? key = some value) : (key, value) ∈ rows := by
  have hrows : rows.reverse.lookup key = some value := by
    rw [← h]
    exact ((lookup?_foldl_insert rows empty key).trans (Option.or_none)).symm
  obtain ⟨before, after, heq, -⟩ := List.lookup_eq_some_iff.mp hrows
  have hmem : (key, value) ∈ rows.reverse := heq ▸ List.mem_append_right before List.mem_cons_self
  exact List.mem_reverse.mp hmem

end SortedMap

end EntityPlan
