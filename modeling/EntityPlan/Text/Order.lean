/-! # Byte order — how keys are compared

    Keys are compared by their UTF-8 bytes, the smaller first.  The order is
    strict and total, so a list of keys has one sorted arrangement. -/

namespace EntityPlan.Text

/-- The UTF-8 bytes of a text. -/
def bytes (s : String) : List UInt8 := s.toUTF8.data.toList

/-- Texts with the same bytes are the same text. -/
theorem bytes_injective {a b : String} (h : bytes a = bytes b) : a = b := by
  apply String.toByteArray_inj.1
  have hd : a.toByteArray.data = b.toByteArray.data := Array.toList_inj.1 h
  cases ha : a.toByteArray with
  | mk da =>
    cases hb : b.toByteArray with
    | mk db =>
      rw [ha, hb] at hd
      exact congrArg ByteArray.mk hd

/-- `a` stands before `b` in byte order. -/
def Before (a b : String) : Prop := bytes a < bytes b

instance (a b : String) : Decidable (Before a b) :=
  inferInstanceAs (Decidable (bytes a < bytes b))

theorem before_irrefl (a : String) : ¬ Before a a := List.lt_irrefl (bytes a)

theorem before_trans {a b c : String} (h : Before a b) (h' : Before b c) : Before a c :=
  List.lt_trans h h'

theorem before_asymm {a b : String} (h : Before a b) : ¬ Before b a :=
  fun h' => before_irrefl a (before_trans h h')

theorem ne_of_before {a b : String} (h : Before a b) : a ≠ b :=
  fun e => before_irrefl a (by rw [← e] at h; exact h)

/-- Of two different texts one stands before the other. -/
theorem before_of_not_before {a b : String} (hne : a ≠ b) (h : ¬ Before a b) : Before b a := by
  have hle : bytes b ≤ bytes a := List.not_lt.1 h
  rcases List.le_iff_lt_or_eq.1 hle with hlt | heq
  · exact hlt
  · exact absurd (bytes_injective heq).symm hne

/-- The texts with one more at the place that byte order gives it. -/
def insertSorted (s : String) : List String → List String
  | [] => [s]
  | t :: rest => if Before t s then t :: insertSorted s rest else s :: t :: rest

/-- The texts in byte order. -/
def sorted (texts : List String) : List String := texts.foldr insertSorted []

theorem insertSorted_perm (s : String) (texts : List String) :
    (insertSorted s texts).Perm (s :: texts) := by
  induction texts with
  | nil => exact List.Perm.refl _
  | cons t rest ih =>
      unfold insertSorted
      split
      · exact (List.Perm.cons t ih).trans (List.Perm.swap s t rest)
      · exact List.Perm.refl _

/-- Sorting loses nothing and adds nothing. -/
theorem sorted_perm (texts : List String) : (sorted texts).Perm texts := by
  induction texts with
  | nil => exact List.Perm.refl _
  | cons s rest ih => exact (insertSorted_perm s _).trans (List.Perm.cons s ih)

/-- An ordered list stays ordered when a text is added that is not in it. -/
theorem pairwise_insertSorted {s : String} {texts : List String} (hs : s ∉ texts)
    (h : texts.Pairwise Before) : (insertSorted s texts).Pairwise Before := by
  induction texts with
  | nil => exact List.pairwise_singleton _ _
  | cons t rest ih =>
      have hne : s ≠ t := List.ne_of_not_mem_cons hs
      have hrest : s ∉ rest := List.not_mem_of_not_mem_cons hs
      obtain ⟨ht, hordered⟩ := List.pairwise_cons.mp h
      show (if Before t s then t :: insertSorted s rest else s :: t :: rest).Pairwise Before
      by_cases hts : Before t s
      · rw [if_pos hts]
        refine List.pairwise_cons.mpr ⟨?_, ih hrest hordered⟩
        intro u hu
        rcases List.mem_cons.mp ((insertSorted_perm s rest).mem_iff.mp hu) with rfl | hu
        · exact hts
        · exact ht u hu
      · rw [if_neg hts]
        have hst : Before s t := before_of_not_before (Ne.symm hne) hts
        refine List.pairwise_cons.mpr ⟨?_, h⟩
        intro u hu
        rcases List.mem_cons.mp hu with rfl | hu
        · exact hst
        · exact before_trans hst (ht u hu)

/-- Different texts are sorted strictly. -/
theorem pairwise_sorted {texts : List String} (h : texts.Nodup) :
    (sorted texts).Pairwise Before := by
  induction texts with
  | nil => exact List.Pairwise.nil
  | cons s rest ih =>
      obtain ⟨hs, hrest⟩ := List.nodup_cons.mp h
      exact pairwise_insertSorted (mt (sorted_perm rest).mem_iff.mp hs) (ih hrest)

end EntityPlan.Text
