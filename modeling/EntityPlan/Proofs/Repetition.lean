import EntityPlan.Text.Distinct
import Mathlib.Data.Finset.Card
import Mathlib.Data.Finset.Dedup

/-! # Repetition — texts that occur once and texts that occur again

    The distinct texts of a list are the elements of its set, each once.  The first
    repeated text of a list is the one before which every text occurs once. -/

namespace EntityPlan.Text

/-- What is new is new only once. -/
theorem nodup_newOnes (seen texts : List String) : (newOnes seen texts).Nodup := by
  induction texts generalizing seen with
  | nil => exact List.nodup_nil
  | cons t rest ih =>
      unfold newOnes
      split
      · exact ih seen
      · refine List.nodup_cons.mpr ⟨?_, ih (t :: seen)⟩
        intro ht
        exact (mem_newOnes.mp ht).2 List.mem_cons_self

/-- Of what was seen only the texts count, not their order. -/
theorem newOnes_congr {seen seen' : List String} (h : ∀ s, s ∈ seen ↔ s ∈ seen')
    (texts : List String) : newOnes seen texts = newOnes seen' texts := by
  induction texts generalizing seen seen' with
  | nil => rfl
  | cons t rest ih =>
      show (if seen.contains t then newOnes seen rest else t :: newOnes (t :: seen) rest)
        = if seen'.contains t then newOnes seen' rest else t :: newOnes (t :: seen') rest
      have hcontains : seen.contains t = seen'.contains t := by
        rw [Bool.eq_iff_iff, List.contains_iff_mem, List.contains_iff_mem]
        exact h t
      have hcons : ∀ s, s ∈ t :: seen ↔ s ∈ t :: seen' := by
        intro s
        rw [List.mem_cons, List.mem_cons, h s]
      rw [hcontains, ih h, ih hcons]

/-- What is new after more texts were seen is the rest of what was new before. -/
theorem newOnes_filter (more seen texts : List String) :
    newOnes (more ++ seen) texts = (newOnes seen texts).filter (· ∉ more) := by
  induction texts generalizing seen with
  | nil => rfl
  | cons t rest ih =>
      -- where the head is new to `seen`, both sides have it seen from now on
      have htail : ∀ s, s ∈ t :: (more ++ seen) ↔ s ∈ more ++ t :: seen := by
        intro s
        simp only [List.mem_cons, List.mem_append]
        tauto
      by_cases hseen : t ∈ seen
      · simp [newOnes, hseen, ih]
      · by_cases hmore : t ∈ more
        · have hsame : ∀ s, s ∈ more ++ seen ↔ s ∈ more ++ t :: seen := by
            intro s
            rw [← htail, List.mem_cons, or_iff_right_of_imp]
            rintro rfl
            exact List.mem_append_left _ hmore
          simp [newOnes, hseen, hmore, newOnes_congr hsame, ih]
        · simp [newOnes, hseen, hmore, newOnes_congr htail, ih]

/-- The texts of a first list are seen when a second one comes behind it. -/
theorem newOnes_append (seen texts more : List String) :
    newOnes seen (texts ++ more) = newOnes seen texts ++ newOnes (texts ++ seen) more := by
  induction texts generalizing seen with
  | nil => rfl
  | cons t rest ih =>
      by_cases hseen : t ∈ seen
      · have hsame : ∀ s, s ∈ rest ++ seen ↔ s ∈ t :: (rest ++ seen) := by
          intro s
          rw [List.mem_cons, or_iff_right_of_imp]
          rintro rfl
          exact List.mem_append_right _ hseen
        simp [newOnes, hseen, ih, newOnes_congr hsame]
      · have hsame : ∀ s, s ∈ rest ++ t :: seen ↔ s ∈ t :: (rest ++ seen) := by
          intro s
          simp only [List.mem_cons, List.mem_append]
          tauto
        simp [newOnes, hseen, ih, newOnes_congr hsame]

/-- Of two lists the distinct texts are those of the first one, and then those of the
    second one that the first one does not have. -/
theorem distinct_append (texts more : List String) :
    distinct (texts ++ more) = distinct texts ++ (distinct more).filter (· ∉ distinct texts) := by
  show newOnes [] (texts ++ more) = _
  rw [newOnes_append, newOnes_filter]
  simp only [mem_distinct]
  rfl

/-- There are as many distinct texts as the set of the texts has elements. -/
theorem length_distinct (texts : List String) :
    (distinct texts).length = texts.toFinset.card := by
  have hset : (distinct texts).toFinset = texts.toFinset := by
    ext s
    rw [List.mem_toFinset, List.mem_toFinset]
    exact mem_distinct
  rw [← hset]
  exact (List.toFinset_card_of_nodup (nodup_newOnes [] texts)).symm

/-- A text is repeated when it was seen or occurs before, and it is the first such
    one when the texts before it are neither. -/
theorem firstRepeated?_eq_some_iff {seen texts : List String} {s : String} :
    firstRepeated? seen texts = some s ↔
      ∃ before after, texts = before ++ s :: after ∧ s ∈ before ++ seen ∧
        before.Nodup ∧ ∀ t ∈ before, t ∉ seen := by
  induction texts generalizing seen with
  | nil =>
      refine ⟨fun h => (nomatch h), ?_⟩
      rintro ⟨before, after, h, -⟩
      cases before <;> exact nomatch h
  | cons t rest ih =>
      unfold firstRepeated?
      by_cases ht : t ∈ seen
      · rw [if_pos (List.contains_iff_mem.mpr ht)]
        constructor
        · intro h
          cases h
          exact ⟨[], rest, rfl, ht, List.nodup_nil, fun _ h => nomatch h⟩
        · rintro ⟨before, after, h, -, -, hseen⟩
          cases before with
          | nil => rw [(List.cons.inj h).1]
          | cons u before =>
              have htu : t = u := (List.cons.inj h).1
              exact absurd (htu ▸ ht) (hseen u List.mem_cons_self)
      · rw [if_neg fun h => ht (List.contains_iff_mem.mp h), ih]
        constructor
        · rintro ⟨before, after, rfl, hs, hnodup, hseen⟩
          refine ⟨t :: before, after, rfl, ?_, List.nodup_cons.mpr ⟨?_, hnodup⟩, ?_⟩
          · simp only [List.mem_append, List.mem_cons] at hs ⊢
            tauto
          · intro hmem
            exact hseen t hmem List.mem_cons_self
          · intro u hu
            rcases List.mem_cons.mp hu with rfl | hu
            · exact ht
            · exact fun h => hseen u hu (List.mem_cons_of_mem _ h)
        · rintro ⟨before, after, h, hs, hnodup, hseen⟩
          -- the head is one of those in front, so it counts as seen from now on
          cases before with
          | nil =>
              have hts : t = s := (List.cons.inj h).1
              exact absurd (hts ▸ hs) ht
          | cons u before =>
              obtain ⟨htu, hrest⟩ := List.cons.inj h
              subst htu
              obtain ⟨hu, hnodup⟩ := List.nodup_cons.mp hnodup
              refine ⟨before, after, hrest, ?_, hnodup, ?_⟩
              · simp only [List.mem_append, List.mem_cons] at hs ⊢
                tauto
              · intro v hv hmem
                rcases List.mem_cons.mp hmem with rfl | hmem
                · exact hu hv
                · exact hseen v (List.mem_cons_of_mem _ hv) hmem

/-- No text is repeated when each one is new and occurs once. -/
theorem firstRepeated?_eq_none_iff {seen texts : List String} :
    firstRepeated? seen texts = none ↔ texts.Nodup ∧ ∀ t ∈ texts, t ∉ seen := by
  induction texts generalizing seen with
  | nil => exact ⟨fun _ => ⟨List.nodup_nil, fun _ h => nomatch h⟩, fun _ => rfl⟩
  | cons t rest ih =>
      unfold firstRepeated?
      by_cases ht : t ∈ seen
      · rw [if_pos (List.contains_iff_mem.mpr ht)]
        exact ⟨fun h => (nomatch h), fun h => absurd ht (h.2 t List.mem_cons_self)⟩
      · rw [if_neg fun h => ht (List.contains_iff_mem.mp h), ih, List.nodup_cons]
        simp only [List.mem_cons, not_or, forall_eq_or_imp]
        constructor
        · rintro ⟨hnodup, hseen⟩
          exact ⟨⟨fun hmem => (hseen t hmem).1 rfl, hnodup⟩, ht, fun u hu => (hseen u hu).2⟩
        · rintro ⟨⟨hmem, hnodup⟩, -, hseen⟩
          exact ⟨hnodup, fun u hu => ⟨fun hut => hmem (hut ▸ hu), hseen u hu⟩⟩

end EntityPlan.Text
