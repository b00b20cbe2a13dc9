import EntityPlan.Diagnostics.Traced
import Mathlib.Data.List.Perm.Basic

/-! # Traversals — the first element that does not pass

    Records are taken up one after another, and the first one that is refused ends
    the traversal.  `First bad l a` says that `a` is the first element of `l` with
    the property `bad`; searches and traversals that may fail are described by it
    (`find?_eq_some_iff_first`, `findSome?_eq_some_iff_first`,
    `mapM_eq_error_iff`). -/

namespace EntityPlan

variable {α β ε : Type}

/-- `a` is the first element of `l` with the property `bad`. -/
def First (bad : α → Prop) (l : List α) (a : α) : Prop :=
  ∃ before after, l = before ++ a :: after ∧ bad a ∧ ∀ b ∈ before, ¬ bad b

namespace First

variable {bad : α → Prop} {l : List α} {a b : α}

theorem mem (h : First bad l a) : a ∈ l := by
  obtain ⟨before, after, rfl, -, -⟩ := h
  exact List.mem_append.mpr (Or.inr List.mem_cons_self)

theorem holds (h : First bad l a) : bad a := by
  obtain ⟨before, after, -, ha, -⟩ := h
  exact ha

theorem not_nil : ¬ First bad [] a := by
  intro h
  exact nomatch h.mem

/-- An element with the property hides those behind it, any other is passed over. -/
theorem cons_iff : First bad (b :: l) a ↔ (bad b ∧ a = b) ∨ (¬ bad b ∧ First bad l a) := by
  constructor
  · rintro ⟨before, after, hl, ha, hbefore⟩
    cases before with
    | nil =>
        have hba : b = a := (List.cons.inj hl).1
        exact Or.inl ⟨hba ▸ ha, hba.symm⟩
    | cons c rest =>
        have hbc : b = c := (List.cons.inj hl).1
        have hb : ¬ bad b := hbc ▸ hbefore c List.mem_cons_self
        exact Or.inr ⟨hb, rest, after, (List.cons.inj hl).2, ha,
          fun d hd => hbefore d (List.mem_cons_of_mem _ hd)⟩
  · rintro (⟨hb, rfl⟩ | ⟨hb, before, after, rfl, ha, hbefore⟩)
    · exact ⟨[], l, rfl, hb, fun _ h => nomatch h⟩
    · refine ⟨b :: before, after, rfl, ha, ?_⟩
      intro c hc
      rcases List.mem_cons.mp hc with rfl | hc
      · exact hb
      · exact hbefore c hc

/-- A list has a first element with the property as soon as it has one at all. -/
theorem exists_iff : (∃ a, First bad l a) ↔ ∃ a ∈ l, bad a := by
  constructor
  · rintro ⟨a, h⟩
    exact ⟨a, h.mem, h.holds⟩
  · rintro ⟨a, ha, hbad⟩
    induction l with
    | nil => exact nomatch ha
    | cons b rest ih =>
        by_cases hb : bad b
        · exact ⟨b, cons_iff.mpr (Or.inl ⟨hb, rfl⟩)⟩
        · have har : a ∈ rest := by
            rcases List.mem_cons.mp ha with rfl | har
            · exact absurd hbad hb
            · exact har
          obtain ⟨c, hc⟩ := ih har
          exact ⟨c, cons_iff.mpr (Or.inr ⟨hb, hc⟩)⟩

/-- Properties that agree on the elements have the same first element. -/
theorem congr {bad' : α → Prop} (h : ∀ b ∈ l, bad b ↔ bad' b) : First bad l a ↔ First bad' l a := by
  induction l with
  | nil => exact ⟨fun h => absurd h not_nil, fun h => absurd h not_nil⟩
  | cons b rest ih =>
      rw [cons_iff, cons_iff, h b List.mem_cons_self,
        ih fun c hc => h c (List.mem_cons_of_mem b hc)]

/-- Elements that are left out do not come first. -/
theorem filter_iff {p : α → Bool} :
    First bad (l.filter p) a ↔ First (fun b => p b = true ∧ bad b) l a := by
  induction l with
  | nil => exact ⟨fun h => absurd h not_nil, fun h => absurd h not_nil⟩
  | cons b rest ih =>
      rw [cons_iff, List.filter_cons]
      cases p b with
      | true => rw [if_pos rfl, cons_iff, ih, and_iff_right rfl]
      | false => rw [if_neg Bool.false_ne_true, ih]; simp

/-- Of what elements give, that of the first one comes first that gives something with the
    property. -/
theorem filterMap_iff {bad : β → Prop} {f : α → Option β} {b : β} :
    First bad (l.filterMap f) b ↔
      ∃ a, First (fun a => ∃ b, f a = some b ∧ bad b) l a ∧ f a = some b := by
  induction l with
  | nil => exact ⟨fun h => absurd h not_nil, fun ⟨_, h, _⟩ => absurd h not_nil⟩
  | cons x rest ih =>
      rw [List.filterMap_cons]
      cases hx : f x with
      | none =>
          have hgood : ¬ ∃ b, f x = some b ∧ bad b := by
            rintro ⟨c, hc, -⟩
            exact nomatch hx.symm.trans hc
          simp only [ih, cons_iff, hgood, false_and, false_or, not_false_eq_true, true_and]
      | some c =>
          have hbad : (∃ b, f x = some b ∧ bad b) ↔ bad c := by
            rw [hx]
            simp only [Option.some.injEq, exists_eq_left']
          simp only [ih, cons_iff, hbad]
          constructor
          · rintro (⟨hc, rfl⟩ | ⟨hc, a, ha, hab⟩)
            · exact ⟨x, Or.inl ⟨hc, rfl⟩, hx⟩
            · exact ⟨a, Or.inr ⟨hc, ha⟩, hab⟩
          · rintro ⟨a, ⟨hc, rfl⟩ | ⟨hc, ha⟩, hab⟩
            · exact Or.inl ⟨hc, Option.some.inj (hab.symm.trans hx)⟩
            · exact Or.inr ⟨hc, a, ha, hab⟩

end First

/-- A search ends at the first element that it looks for. -/
theorem find?_eq_some_iff_first {p : α → Bool} {l : List α} {a : α} :
    l.find? p = some a ↔ First (fun b => p b = true) l a := by
  rw [List.find?_eq_some_iff_append]
  constructor
  · rintro ⟨ha, before, after, hl, hbefore⟩
    refine ⟨before, after, hl, ha, ?_⟩
    intro b hb hp
    have := hbefore b hb
    rw [hp] at this
    exact nomatch this
  · rintro ⟨before, after, hl, ha, hbefore⟩
    refine ⟨ha, before, after, hl, ?_⟩
    intro b hb
    have hp : p b = false := Bool.eq_false_iff.mpr (hbefore b hb)
    rw [hp]
    rfl

/-- The answer of a search is that of the first element that has one. -/
theorem findSome?_eq_some_iff_first {f : α → Option β} {l : List α} {b : β} :
    l.findSome? f = some b ↔ ∃ a, First (fun a => f a ≠ none) l a ∧ f a = some b := by
  rw [List.findSome?_eq_some_iff]
  constructor
  · rintro ⟨before, a, after, hl, ha, hbefore⟩
    refine ⟨a, ⟨before, after, hl, ?_, fun c hc h => h (hbefore c hc)⟩, ha⟩
    show f a ≠ none
    rw [ha]
    exact Option.some_ne_none b
  · rintro ⟨a, ⟨before, after, hl, -, hbefore⟩, ha⟩
    exact ⟨before, a, after, hl, ha, fun c hc => not_not.mp (hbefore c hc)⟩

/-- The answer of a search from the end is that of the last element that has one. -/
theorem findSome?_reverse_eq_some_iff {f : α → Option β} {l : List α} {b : β} :
    l.reverse.findSome? f = some b ↔
      ∃ before a later, l = before ++ a :: later ∧ f a = some b ∧ ∀ c ∈ later, f c = none := by
  rw [List.findSome?_eq_some_iff]
  constructor
  -- what comes later in the list stands in front in the search
  · rintro ⟨later, a, before, hl, ha, hlater⟩
    refine ⟨before.reverse, a, later.reverse, ?_, ha, ?_⟩
    · rw [← List.reverse_inj, hl]
      simp
    · intro c hc
      exact hlater c (List.mem_reverse.mp hc)
  · rintro ⟨before, a, later, rfl, ha, hlater⟩
    refine ⟨later.reverse, a, before.reverse, by simp, ha, ?_⟩
    intro c hc
    exact hlater c (List.mem_reverse.mp hc)

theorem findSome?_reverse_eq_none_iff {f : α → Option β} {l : List α} :
    l.reverse.findSome? f = none ↔ ∀ a ∈ l, f a = none := by
  simp only [List.findSome?_eq_none_iff, List.mem_reverse]

/-- The answer of a search through lists is that of the first list that has one, and in
    that list that of the first element. -/
theorem findSome?_find?_eq_some_iff_first {γ : Type} {inner : α → List β} {p : α → β → Bool}
    {g : α → β → γ} {l : List α} {c : γ} :
    l.findSome? (fun a => ((inner a).find? (p a)).map (g a)) = some c ↔
      ∃ a b, First (fun a => ∃ b ∈ inner a, p a b = true) l a ∧
        First (fun b => p a b = true) (inner a) b ∧ g a b = c := by
  rw [findSome?_eq_some_iff_first]
  refine exists_congr fun a => ?_
  have hbad : ∀ x ∈ l, ((inner x).find? (p x)).map (g x) ≠ none ↔ ∃ b ∈ inner x, p x b = true := by
    intro x _
    rw [Ne, Option.map_eq_none_iff, List.find?_eq_none]
    push Not
    rfl
  rw [First.congr hbad, Option.map_eq_some_iff]
  simp only [find?_eq_some_iff_first, exists_and_left]

/-! ## Lists element by element -/

/-- Every element on the left has a partner. -/
theorem exists_of_mem_left {R : α → β → Prop} {l : List α} {bs : List β}
    (h : List.Forall₂ R l bs) {a : α} (ha : a ∈ l) : ∃ b ∈ bs, R a b := by
  induction h with
  | nil => exact nomatch ha
  | cons hab _ ih =>
      rcases List.mem_cons.mp ha with rfl | ha
      · exact ⟨_, List.mem_cons_self, hab⟩
      · obtain ⟨b, hb, hR⟩ := ih ha
        exact ⟨b, List.mem_cons_of_mem _ hb, hR⟩

/-- Every element on the right has a partner. -/
theorem exists_of_mem_right {R : α → β → Prop} {l : List α} {bs : List β}
    (h : List.Forall₂ R l bs) {b : β} (hb : b ∈ bs) : ∃ a ∈ l, R a b :=
  exists_of_mem_left h.flip hb

/-! ## Traversals that may fail -/

/-- A traversal succeeds element by element. -/
theorem mapM_eq_ok_iff {f : α → Except ε β} {l : List α} {bs : List β} :
    l.mapM f = .ok bs ↔ List.Forall₂ (fun a b => f a = .ok b) l bs := by
  induction l generalizing bs with
  | nil => cases bs <;> simp [pure, Except.pure]
  | cons a rest ih =>
      rw [List.mapM_cons]
      cases ha : f a with
      | error e => cases bs <;> simp [bind, Except.bind, ha]
      | ok b =>
          cases hrest : rest.mapM f with
          | error e => cases bs <;> simp [bind, Except.bind, ← ih, hrest]
          | ok cs => cases bs <;> simp [bind, Except.bind, pure, Except.pure, ← ih, ha, hrest]

/-- A traversal fails with what the first refused element is refused for. -/
theorem mapM_eq_error_iff {f : α → Except ε β} {l : List α} {e : ε} :
    l.mapM f = .error e ↔ ∃ a, First (fun a => ∃ e, f a = .error e) l a ∧ f a = .error e := by
  induction l with
  | nil => exact ⟨fun h => (nomatch h), fun ⟨_, h, _⟩ => absurd h First.not_nil⟩
  | cons x rest ih =>
      rw [List.mapM_cons]
      cases hx : f x with
      | error e' =>
          constructor
          · intro h
            cases h
            exact ⟨x, First.cons_iff.mpr (Or.inl ⟨⟨e, hx⟩, rfl⟩), hx⟩
          · rintro ⟨a, ha, hae⟩
            rcases First.cons_iff.mp ha with ⟨-, rfl⟩ | ⟨hgood, -⟩
            · cases hx.symm.trans hae
              rfl
            · exact absurd ⟨e', hx⟩ hgood
      | ok b =>
          have hgood : ¬ ∃ e, f x = .error e := by
            rintro ⟨e', he'⟩
            exact nomatch hx.symm.trans he'
          -- a good head leaves the end to the tail
          have htail : (do let bs ← rest.mapM f; pure (b :: bs)) = .error e
              ↔ rest.mapM f = .error e := by
            cases rest.mapM f with
            | error e' => exact Iff.rfl
            | ok bs => exact ⟨fun h => (nomatch h), fun h => (nomatch h)⟩
          refine htail.trans ?_
          rw [ih]
          constructor
          · rintro ⟨a, ha, hae⟩
            exact ⟨a, First.cons_iff.mpr (Or.inr ⟨hgood, ha⟩), hae⟩
          · rintro ⟨a, ha, hae⟩
            rcases First.cons_iff.mp ha with ⟨hbad, -⟩ | ⟨-, ha⟩
            · exact absurd hbad hgood
            · exact ⟨a, ha, hae⟩

/-- A traversal succeeds as soon as no element is refused. -/
theorem exists_mapM_eq_ok_iff {f : α → Except ε β} {l : List α} :
    (∃ bs, l.mapM f = .ok bs) ↔ ∀ a ∈ l, ¬ ∃ e, f a = .error e := by
  constructor
  · rintro ⟨bs, h⟩ a ha ⟨e, he⟩
    obtain ⟨b, -, hb⟩ := exists_of_mem_left (mapM_eq_ok_iff.mp h) ha
    exact nomatch hb.symm.trans he
  · intro h
    cases hl : l.mapM f with
    | ok bs => exact ⟨bs, rfl⟩
    | error e =>
        obtain ⟨a, ha, -⟩ := mapM_eq_error_iff.mp hl
        exact absurd ha.holds (h a ha.mem)

/-- A traversal that succeeds leaves out nothing. -/
theorem eq_filterMap_of_mapM_eq_ok {f : α → Except ε β} {l : List α} {bs : List β}
    (h : l.mapM f = .ok bs) : bs = l.filterMap fun a => (f a).toOption := by
  induction mapM_eq_ok_iff.mp h with
  | nil => rfl
  | cons hab hrest ih =>
      rw [List.filterMap_cons, hab, ← ih (mapM_eq_ok_iff.mpr hrest)]
      rfl

/-- A traversal that only checks each element gives the values of all. -/
theorem mapM_eq_ok_iff_map {f : α → Except ε β} {q : α → Prop} {g : α → β} {l : List α}
    {bs : List β} (h : ∀ a b, f a = .ok b ↔ q a ∧ b = g a) :
    l.mapM f = .ok bs ↔ (∀ a ∈ l, q a) ∧ bs = l.map g := by
  rw [mapM_eq_ok_iff]
  simp only [h]
  rw [List.forall₂_and_left]
  refine and_congr Iff.rfl ?_
  induction l generalizing bs with
  | nil => exact List.forall₂_nil_left_iff
  | cons a rest ih =>
      rw [List.forall₂_cons_left_iff, List.map_cons]
      constructor
      · rintro ⟨b, bs', rfl, hrest, rfl⟩
        rw [ih.mp hrest]
      · rintro rfl
        exact ⟨_, _, rfl, ih.mpr rfl, rfl⟩

/-- A traversal is told by what becomes of each element. -/
theorem mapM_congr {f g : α → Except ε β} {l : List α} (h : ∀ a ∈ l, f a = g a) :
    l.mapM f = l.mapM g := by
  induction l with
  | nil => rfl
  | cons a rest ih =>
      rw [List.mapM_cons, List.mapM_cons, h a List.mem_cons_self,
        ih fun b hb => h b (List.mem_cons_of_mem a hb)]

/-- A traversal that succeeds does so in any order, with the same values in another one. -/
theorem mapM_perm {f : α → Except ε β} {l l' : List α} {bs : List β} (hl : l.Perm l')
    (h : l.mapM f = .ok bs) : ∃ bs', l'.mapM f = .ok bs' ∧ bs.Perm bs' := by
  obtain ⟨bs', hbs', hperm⟩ := List.perm_comp_forall₂ hl.symm (mapM_eq_ok_iff.mp h)
  exact ⟨bs', mapM_eq_ok_iff.mpr hbs', hperm.symm⟩

/-- A fold fails at the first step that does. -/
theorem foldlM_eq_error_iff {f : β → α → Except ε β} {l : List α} {start : β} {e : ε} :
    l.foldlM f start = .error e ↔ ∃ before a after b, l = before ++ a :: after ∧
      before.foldlM f start = .ok b ∧ f b a = .error e := by
  induction l generalizing start with
  | nil =>
      refine ⟨fun h => (nomatch h), ?_⟩
      rintro ⟨before, a, after, b, hl, -⟩
      exact absurd hl.symm (List.append_ne_nil_of_right_ne_nil before (List.cons_ne_nil a after))
  | cons x rest ih =>
      rw [List.foldlM_cons]
      cases hx : f start x with
      | error e' =>
          constructor
          · intro h
            cases h
            exact ⟨[], x, rest, start, rfl, rfl, hx⟩
          · rintro ⟨before, a, after, b, hl, hbefore, ha⟩
            cases before with
            | nil =>
                obtain ⟨rfl, -⟩ := List.cons.inj hl
                cases hbefore
                exact hx.symm.trans ha
            | cons y before =>
                obtain ⟨rfl, -⟩ := List.cons.inj hl
                rw [List.foldlM_cons, hx] at hbefore
                exact nomatch hbefore
      | ok next =>
          show rest.foldlM f next = .error e ↔ _
          rw [ih]
          constructor
          · rintro ⟨before, a, after, b, rfl, hbefore, ha⟩
            refine ⟨x :: before, a, after, b, rfl, ?_, ha⟩
            rw [List.foldlM_cons, hx]
            exact hbefore
          · rintro ⟨before, a, after, b, hl, hbefore, ha⟩
            cases before with
            | nil =>
                obtain ⟨rfl, -⟩ := List.cons.inj hl
                cases hbefore
                exact nomatch hx.symm.trans ha
            | cons y before =>
                obtain ⟨rfl, rfl⟩ := List.cons.inj hl
                rw [List.foldlM_cons, hx] at hbefore
                exact ⟨before, a, after, b, rfl, hbefore, ha⟩

/-- The answer of a traced traversal is that of the traversal of the answers. -/
theorem Traced.answer_each (f : α → Traced β) (l : List α) :
    (Traced.each f l).answer = l.mapM fun a => (f a).answer := by
  induction l with
  | nil => rfl
  | cons a rest ih =>
      rw [List.mapM_cons, ← ih]
      show ((f a) >>= fun b => Traced.each f rest >>= fun bs => pure (b :: bs)).answer = _
      rw [Traced.answer_bind]
      cases (f a).answer with
      | error e => rfl
      | ok b =>
          show (Traced.each f rest >>= fun bs => pure (b :: bs)).answer = _
          rw [Traced.answer_bind]
          rfl

end EntityPlan
