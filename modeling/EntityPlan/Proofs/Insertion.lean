import EntityPlan.Proofs.Merging

/-! # Insertion — a collection under any run of calls

    Records are offered to a collection one after another, and a name that is there
    already is refused.  Whatever the collection holds at the start, perhaps a name
    twice, a run only puts entries behind it: those of the offers that were accepted,
    in their order.  So a lookup, which finds the earliest entry of a name, goes on
    finding what it found (`Collection.insertions_keep_order`). -/

namespace EntityPlan.Source

variable {α : Type}

/-- A record that is offered under a name; a refusal says what `kind` of record it was. -/
structure Offer (α : Type) where
  kind : String
  name : String
  record : α

/-- The entry that an accepted offer becomes. -/
def Offer.entry (x : Offer α) : String × α := (x.name, x.record)

namespace Collection

/-- One call: the collection that it leaves, and how it ends. -/
def offer (c : Collection α) (x : Offer α) : Outcome Failure (Collection α) :=
  match c.insert x.kind x.name x.record with
  | .ok c' => ⟨c', .ok ()⟩
  | .error f => ⟨c, .error f⟩

/-- The collection that calls leave, one after another, whichever of them fail. -/
def afterCalls (c : Collection α) (calls : List (Offer α)) : Collection α :=
  calls.foldl (fun c x => (c.offer x).state) c

/-- The offers whose calls do not fail, in order. -/
def accepted (c : Collection α) : List (Offer α) → List (Offer α)
  | [] => []
  | x :: rest =>
      match (c.offer x).ending with
      | .ok () => x :: (c.offer x).state.accepted rest
      | .error _ => (c.offer x).state.accepted rest

variable {c : Collection α} {x : Offer α} {calls : List (Offer α)} {n : String} {a : α}

/-! ## One call -/

/-- A call is the merge of a single entry. -/
theorem offer_eq_append (c : Collection α) (x : Offer α) :
    c.offer x = c.append x.kind [x.entry] := rfl

theorem offer_of_mem (h : x.name ∈ c.names) :
    c.offer x = ⟨c, .error (.duplicateDeclaration x.kind x.name)⟩ := by
  have htaken : c.append x.kind ([] ++ x.entry :: []) =
      ⟨c.extend [], .error (.duplicateDeclaration x.kind x.name)⟩ :=
    append_taken (fits_nil c) (Or.inl h)
  rw [offer_eq_append, ← List.nil_append [x.entry], htaken, extend_nil]

theorem offer_of_not_mem (h : x.name ∉ c.names) :
    c.offer x = ⟨c.push x.name x.record, .ok ()⟩ := by
  have hfits : c.Fits [x.entry] := by
    refine fits_cons_iff.mpr ⟨?_, fits_nil _⟩
    rw [Bool.eq_false_iff, Ne, contains_iff_mem_names]
    exact h
  have hextend : c.extend [x.entry] = c.push x.name x.record :=
    (extend_push c x.name x.record []).symm.trans (extend_nil _)
  rw [offer_eq_append, append_fits hfits, hextend]

/-- A call fails exactly where the name is there, and it says which one. -/
theorem offer_fails_iff {f : Failure} :
    (c.offer x).ending = .error f ↔ x.name ∈ c.names ∧ f = .duplicateDeclaration x.kind x.name := by
  by_cases h : x.name ∈ c.names
  · rw [offer_of_mem h]
    show Except.error (Failure.duplicateDeclaration x.kind x.name) = Except.error f ↔ _
    rw [Except.error.injEq, and_iff_right h]
    exact eq_comm
  · rw [offer_of_not_mem h]
    exact ⟨fun hf => (nomatch hf), fun hf => absurd hf.1 h⟩

/-- A call that fails changes nothing. -/
theorem offer_unchanged {f : Failure} (h : (c.offer x).ending = .error f) :
    (c.offer x).state = c := by
  rw [offer_of_mem (offer_fails_iff.mp h).1]

theorem mem_names_offer : n ∈ (c.offer x).state.names ↔ n ∈ c.names ∨ x.name = n := by
  by_cases h : x.name ∈ c.names
  · rw [offer_of_mem h]
    show n ∈ c.names ↔ _
    rw [or_iff_left_of_imp]
    rintro rfl
    exact h
  · rw [offer_of_not_mem h]
    show n ∈ (c.push x.name x.record).names ↔ _
    rw [names_push, List.mem_append, List.mem_singleton, @eq_comm _ n]

theorem nodup_offer (h : c.names.Nodup) (x : Offer α) : (c.offer x).state.names.Nodup := by
  by_cases hx : x.name ∈ c.names
  · rw [offer_of_mem hx]
    exact h
  · rw [offer_of_not_mem hx]
    show (c.push x.name x.record).names.Nodup
    rw [names_push]
    exact List.nodup_append'.mpr
      ⟨h, List.nodup_singleton x.name, List.disjoint_singleton.mpr hx⟩

/-! ## Lookups -/

/-- A lookup finds the earliest entry of the name. -/
theorem get?_eq_some_iff : c.get? n = some a ↔ First (fun e => e.1 = n) c.entries (n, a) := by
  show c.entries.lookup n = some a ↔ _
  rw [List.lookup_eq_some_iff]
  constructor
  · rintro ⟨before, after, hsplit, hbefore⟩
    refine ⟨before, after, hsplit, rfl, ?_⟩
    intro e he hname
    exact bne_iff_ne.mp (hbefore e he) hname.symm
  · rintro ⟨before, after, hsplit, -, hbefore⟩
    refine ⟨before, after, hsplit, ?_⟩
    intro e he
    exact bne_iff_ne.mpr fun hname => hbefore e he hname.symm

theorem get?_eq_none_iff : c.get? n = none ↔ n ∉ c.names := by
  rw [← contains_iff_mem_names]
  show c.get? n = none ↔ ¬ (c.get? n).isSome = true
  rw [Option.not_isSome_iff_eq_none]

theorem get?_push : (c.push n a).get? n = some a ↔ c.get? n = none ∨ c.get? n = some a := by
  show (c.entries ++ [(n, a)]).lookup n = some a ↔ c.entries.lookup n = none ∨ _
  rw [List.lookup_append, List.lookup_cons_self]
  show (c.get? n).or (some a) = some a ↔ c.get? n = none ∨ c.get? n = some a
  cases c.get? n <;> simp

/-! ## A run of calls -/

theorem afterCalls_cons (c : Collection α) (x : Offer α) (calls : List (Offer α)) :
    c.afterCalls (x :: calls) = (c.offer x).state.afterCalls calls := rfl

theorem accepted_cons_of_mem (h : x.name ∈ c.names) (calls : List (Offer α)) :
    c.accepted (x :: calls) = c.accepted calls := by
  show (match (c.offer x).ending with
    | .ok () => x :: (c.offer x).state.accepted calls
    | .error _ => (c.offer x).state.accepted calls) = _
  rw [offer_of_mem h]

theorem accepted_cons_of_not_mem (h : x.name ∉ c.names) (calls : List (Offer α)) :
    c.accepted (x :: calls) = x :: (c.push x.name x.record).accepted calls := by
  show (match (c.offer x).ending with
    | .ok () => x :: (c.offer x).state.accepted calls
    | .error _ => (c.offer x).state.accepted calls) = _
  rw [offer_of_not_mem h]

/-- A run puts the accepted entries behind those that were there, in order. -/
theorem entries_afterCalls (c : Collection α) (calls : List (Offer α)) :
    (c.afterCalls calls).entries = c.entries ++ (c.accepted calls).map Offer.entry := by
  induction calls generalizing c with
  | nil => exact (List.append_nil c.entries).symm
  | cons x rest ih =>
      rw [afterCalls_cons, ih]
      by_cases h : x.name ∈ c.names
      · rw [accepted_cons_of_mem h, offer_of_mem h]
      · rw [accepted_cons_of_not_mem h, offer_of_not_mem h, List.map_cons]
        exact List.append_assoc c.entries [x.entry] _

theorem names_afterCalls (c : Collection α) (calls : List (Offer α)) :
    (c.afterCalls calls).names = c.names ++ (c.accepted calls).map (·.name) := by
  show (c.afterCalls calls).entries.map (·.1) = _
  rw [entries_afterCalls, List.map_append, List.map_map]
  rfl

/-- A name is there after a run when it was there before or was offered. -/
theorem mem_names_afterCalls :
    n ∈ (c.afterCalls calls).names ↔ n ∈ c.names ∨ ∃ x ∈ calls, x.name = n := by
  induction calls generalizing c with
  | nil => simp [afterCalls]
  | cons x rest ih =>
      rw [afterCalls_cons, ih, mem_names_offer, or_assoc]
      simp only [List.mem_cons, exists_eq_or_imp]

theorem nodup_afterCalls (h : c.names.Nodup) (calls : List (Offer α)) :
    (c.afterCalls calls).names.Nodup := by
  induction calls generalizing c with
  | nil => exact h
  | cons x rest ih => exact ih (nodup_offer h x)

/-- What a lookup finds it finds after any run. -/
theorem get?_afterCalls (h : c.get? n = some a) (calls : List (Offer α)) :
    (c.afterCalls calls).get? n = some a := by
  obtain ⟨before, after, hsplit, hname, hbefore⟩ := get?_eq_some_iff.mp h
  refine get?_eq_some_iff.mpr
    ⟨before, after ++ (c.accepted calls).map Offer.entry, ?_, hname, hbefore⟩
  rw [entries_afterCalls, hsplit, List.append_assoc, List.cons_append]

/-- What was accepted is found. -/
theorem get?_of_accepted (h : x ∈ c.accepted calls) :
    (c.afterCalls calls).get? x.name = some x.record := by
  -- when it was accepted no entry had its name, so it is the earliest one of that name
  induction calls generalizing c with
  | nil => exact nomatch h
  | cons y rest ih =>
      rw [afterCalls_cons]
      by_cases hy : y.name ∈ c.names
      · rw [accepted_cons_of_mem hy] at h
        rw [offer_of_mem hy]
        exact ih h
      · rw [accepted_cons_of_not_mem hy] at h
        rw [offer_of_not_mem hy]
        rcases List.mem_cons.mp h with rfl | h
        · exact get?_afterCalls (get?_push.mpr (Or.inl (get?_eq_none_iff.mpr hy))) rest
        · exact ih h

/-- What calls make of a collection, and what they leave of it. -/
structure Keeps (c : Collection α) (calls : List (Offer α)) (d : Collection α) : Prop where
  /-- the next call fails exactly where its name is there -/
  fails_iff : ∀ x f, (d.offer x).ending = .error f ↔
    x.name ∈ d.names ∧ f = .duplicateDeclaration x.kind x.name
  /-- and then it changes nothing -/
  unchanged : ∀ x f, (d.offer x).ending = .error f → (d.offer x).state = d
  /-- a name is there from the start, or it was offered -/
  mem_names : ∀ n, n ∈ d.names ↔ n ∈ c.names ∨ ∃ x ∈ calls, x.name = n
  names : d.names = c.names ++ (c.accepted calls).map (·.name)
  /-- the pairs that an iteration yields -/
  entries : d.entries = c.entries ++ (c.accepted calls).map Offer.entry
  pairs : d.names.zip d.records = d.entries
  size : d.size = d.entries.length
  grown : d.size = c.size + (c.accepted calls).length
  contains : ∀ n, d.contains n = true ↔ n ∈ d.names
  /-- a lookup finds the earliest entry of the name -/
  get? : ∀ n a, d.get? n = some a ↔ First (fun e => e.1 = n) d.entries (n, a)
  absent : ∀ n, d.get? n = none ↔ n ∉ d.names
  /-- nothing that was found or accepted is overwritten or shadowed -/
  found : ∀ n a, c.get? n = some a → d.get? n = some a
  held : ∀ x ∈ c.accepted calls, d.get? x.name = some x.record

/-- After any calls a collection holds what it held and behind it what was accepted, each
    lookup finds the earliest entry of its name, and names that were distinct are distinct
    still. -/
theorem insertions_keep_order (c : Collection α) (calls : List (Offer α)) :
    c.Keeps calls (c.afterCalls calls) ∧
      (c.names.Nodup → (c.afterCalls calls).names.Nodup) where
  left :=
    { fails_iff := fun _ _ => offer_fails_iff
      unchanged := fun _ _ => offer_unchanged
      mem_names := fun _ => mem_names_afterCalls
      names := names_afterCalls c calls
      entries := entries_afterCalls c calls
      pairs := List.zip_map'.trans (List.map_id _)
      size := rfl
      grown := by
        show (c.afterCalls calls).entries.length = c.entries.length + (c.accepted calls).length
        rw [entries_afterCalls, List.length_append, List.length_map]
      contains := fun n => contains_iff_mem_names _ n
      get? := fun _ _ => get?_eq_some_iff
      absent := fun _ => get?_eq_none_iff
      found := fun _ _ h => get?_afterCalls h calls
      held := fun _ => get?_of_accepted }
  right h := nodup_afterCalls h calls

/-- Two entries of one name, such as a collection that was not built by calls may hold. -/
def twofold : Collection Nat := ⟨[("Book", 1), ("Book", 2)]⟩

/-- Offers of which one repeats another. -/
def offers : List (Offer Nat) :=
  [⟨"entity", "Author", 3⟩, ⟨"entity", "Book", 4⟩, ⟨"entity", "Author", 5⟩,
    ⟨"application", "Shelf", 6⟩]

/-- Names that are there are refused and the first entries stay; an empty collection takes the
    first offer of each name. -/
theorem insertions_keep_order_twofold :
    twofold.Keeps offers (twofold.afterCalls offers) ∧
      (twofold.afterCalls offers).entries =
        [("Book", 1), ("Book", 2), ("Author", 3), ("Shelf", 6)] ∧
      (twofold.afterCalls offers).get? "Book" = some 1 ∧
      (empty : Collection Nat).names.Nodup ∧ (empty.afterCalls offers).names.Nodup ∧
      (empty.afterCalls offers).names = ["Author", "Book", "Shelf"] := by
  have hkeeps := (insertions_keep_order twofold offers).1
  have hempty : (empty : Collection Nat).names.Nodup := List.nodup_nil
  exact ⟨hkeeps, rfl, hkeeps.found "Book" 1 rfl, hempty,
    (insertions_keep_order empty offers).2 hempty, rfl⟩

end Collection

end EntityPlan.Source
