/-! # Distinct texts — each one once

    Of equal texts the first one stays, and the order is kept. -/

namespace EntityPlan.Text

/-- The texts that are not among those `seen`, each once, in order. -/
def newOnes (seen : List String) : List String → List String
  | [] => []
  | s :: rest => if seen.contains s then newOnes seen rest else s :: newOnes (s :: seen) rest

/-- The texts, each once, in order. -/
def distinct (texts : List String) : List String := newOnes [] texts

/-- The first text that was there before, or is among those `seen`. -/
def firstRepeated? (seen : List String) : List String → Option String
  | [] => none
  | s :: rest => if seen.contains s then some s else firstRepeated? (s :: seen) rest

/-- What is new has not been seen. -/
theorem mem_newOnes {seen texts : List String} {s : String} :
    s ∈ newOnes seen texts ↔ s ∈ texts ∧ s ∉ seen := by
  induction texts generalizing seen with
  | nil => simp [newOnes]
  | cons t rest ih =>
      unfold newOnes
      by_cases ht : seen.contains t = true
      · rw [if_pos ht, ih]
        have hmem : t ∈ seen := List.contains_iff_mem.1 ht
        constructor
        · exact fun h => ⟨List.mem_cons_of_mem _ h.1, h.2⟩
        · rintro ⟨h, hs⟩
          rcases List.mem_cons.1 h with h | h
          · subst h; exact absurd hmem hs
          · exact ⟨h, hs⟩
      · rw [if_neg ht, List.mem_cons, ih]
        have hmem : t ∉ seen := fun h => ht (List.contains_iff_mem.2 h)
        constructor
        · rintro (h | ⟨h, hs⟩)
          · subst h; exact ⟨List.mem_cons_self, hmem⟩
          · exact ⟨List.mem_cons_of_mem _ h, fun h' => hs (List.mem_cons_of_mem _ h')⟩
        · rintro ⟨h, hs⟩
          by_cases hst : s = t
          · exact Or.inl hst
          · refine Or.inr ⟨?_, ?_⟩
            · exact (List.mem_cons.1 h).resolve_left hst
            · exact fun h' => hs ((List.mem_cons.1 h').resolve_left hst)

/-- No text is lost and none comes in. -/
theorem mem_distinct {texts : List String} {s : String} : s ∈ distinct texts ↔ s ∈ texts := by
  simp [distinct, mem_newOnes]

end EntityPlan.Text
