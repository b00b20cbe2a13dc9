import EntityPlan.Text.Case
import Mathlib

/-! # Casing — texts that are in lower case already

    The images of lower case lie apart from the runs that the table moves
    (`lowerShifts_miss`), so each image is its own lower case.  A text in lower case
    has therefore no other lower case (`lower_lower`), whatever its sigmas looked at,
    and no ASCII capital is left in it.

    Among ASCII characters both mappings go character by character.  The laws of these
    (`Char.toLower_eq_of_isUpper` and its kin) come with the whole library only, in no
    narrower module of it. -/

namespace EntityPlan.Text

/-! ## Runs and their images -/

namespace Shift

/-- The images of `s` are no members of `t`: they lie above it or below it, or they fall
    between its members. -/
def misses (s t : Shift) : Bool :=
  Nat.blt t.last s.image || Nat.blt (s.image + (s.last - s.first)) t.first ||
    (s.first == s.last || s.step == t.step) && s.image % t.step != t.first % t.step

/-- The images are characters, and they lie behind the capitals of ASCII. -/
def InRange (s : Shift) : Prop :=
  90 < s.image ∧ (s.image + (s.last - s.first) < 0xD800 ∨
    0xDFFF < s.image ∧ s.image + (s.last - s.first) < 0x110000)

instance (s : Shift) : Decidable s.InRange := inferInstanceAs (Decidable (_ ∧ _))

variable {s t : Shift} {n m : Nat}

theorem misses_iff : s.misses t = true ↔
    (t.last < s.image ∨ s.image + (s.last - s.first) < t.first) ∨
      (s.first = s.last ∨ s.step = t.step) ∧ s.image % t.step ≠ t.first % t.step := by
  simp [misses]

theorem image?_eq_some_iff : s.image? n = some m ↔
    (s.first ≤ n ∧ n ≤ s.last ∧ (n - s.first) % s.step = 0) ∧ s.image + (n - s.first) = m := by
  show (if _ then some _ else none) = some m ↔ _
  rw [Option.ite_none_right_eq_some, Option.some_inj]

theorem image?_eq_none_of_misses (h : s.misses t = true) (hm : s.image? n = some m) :
    t.image? m = none := by
  obtain ⟨⟨hfirst, hlast, hstep⟩, rfl⟩ := image?_eq_some_iff.mp hm
  rw [Option.eq_none_iff_forall_ne_some]
  intro k hk
  obtain ⟨⟨hfirst', hlast', hstep'⟩, -⟩ := image?_eq_some_iff.mp hk
  rcases misses_iff.mp h with (habove | hbelow) | ⟨hsame, hbetween⟩
  · omega
  · omega
  · -- it would have the remainder of the first image, and that of the first member of `t`
    have hdistance : (n - s.first) % t.step = 0 := by
      rcases hsame with hsingle | hsame
      · rw [show n - s.first = 0 by omega, Nat.zero_mod]
      · rw [← hsame, hstep]
    have himage : (s.image + (n - s.first)) % t.step = s.image % t.step := by
      rw [Nat.add_mod, hdistance, Nat.add_zero, Nat.mod_mod]
    have hmember : (s.image + (n - s.first)) % t.step = t.first % t.step := by
      rw [← Nat.add_sub_cancel' hfirst', Nat.add_mod, hstep', Nat.add_zero, Nat.mod_mod]
    exact hbetween (himage.symm.trans hmember)

theorem toNat_ofNat_of_image? (h : s.InRange) (hm : s.image? n = some m) :
    (Char.ofNat m).toNat = m ∧ 90 < m := by
  obtain ⟨⟨hfirst, hlast, -⟩, rfl⟩ := image?_eq_some_iff.mp hm
  obtain ⟨hbehind, hvalid⟩ := h
  refine ⟨?_, by omega⟩
  rw [Char.toNat_ofNat, if_pos]
  rcases hvalid with hlow | ⟨hgap, hhigh⟩
  · exact Or.inl (by omega)
  · exact Or.inr ⟨by omega, by omega⟩

end Shift

/-- The character with a lower case of two characters, as a run. -/
def dottedRun : Shift := ⟨0x130, 0x130, 1, 0x69⟩

/-- The run of the Greek capitals from sigma on. -/
def sigmaRun : Shift := ⟨0x3A3, 0x3AB, 1, 0x3C3⟩

/-- No image of the table is moved by it again, nor is it the dotted capital. -/
theorem lowerShifts_miss :
    ∀ s ∈ lowerShifts, (dottedRun :: lowerShifts).all s.misses = true := by
  decide +kernel

theorem lowerShifts_inRange : ∀ s ∈ lowerShifts, s.InRange := by
  decide +kernel

theorem sigmaRun_mem : sigmaRun ∈ lowerShifts := by
  decide +kernel

/-! ## Lower case -/

/-- The character is its own lower case, wherever it stands. -/
def IsLowered (c : Char) : Prop := c ≠ 'Σ' ∧ lowerChar c = [c]

variable {c d : Char} {cs before : List Char} {s : String}

instance (c : Char) : Decidable (IsLowered c) := inferInstanceAs (Decidable (_ ∧ _))

theorem isUpper_iff : c.isUpper = true ↔ 65 ≤ c.toNat ∧ c.toNat ≤ 90 := by
  simp only [Char.isUpper, decide_eq_true_eq, UInt32.le_iff_toNat_le, ge_iff_le]
  exact Iff.rfl

theorem isLower_iff : c.isLower = true ↔ 97 ≤ c.toNat ∧ c.toNat ≤ 122 := by
  simp only [Char.isLower, decide_eq_true_eq, Bool.and_eq_true, UInt32.le_iff_toNat_le, ge_iff_le]
  exact Iff.rfl

theorem toNat_toLower_lt (h : c.toNat < 128) : c.toLower.toNat < 128 := by
  by_cases hupper : c.isUpper = true
  · have hcode := isUpper_iff.mp hupper
    have hvalid : (c.toNat + 32).isValidChar := Or.inl (by omega)
    rw [Char.toLower_eq_of_isUpper hupper, Char.toNat_ofNat, if_pos hvalid]
    omega
  · rwa [Char.toLower_eq_of_not_isUpper hupper]

theorem toNat_toUpper_lt (h : c.toNat < 128) : c.toUpper.toNat < 128 := by
  by_cases hlower : c.isLower = true
  · have hcode := isLower_iff.mp hlower
    have hvalid : (c.toNat - 32).isValidChar := Or.inl (by omega)
    rw [Char.toUpper_eq_of_isLower hlower, Char.toNat_ofNat, if_pos hvalid]
    omega
  · rwa [Char.toUpper_eq_of_not_isLower hlower]

theorem lowerChar_of_ascii (h : c.toNat < 128) : lowerChar c = [c.toLower] := if_pos h

theorem lowerChar_of_not_ascii (hascii : ¬ c.toNat < 128) (hdotted : c ≠ 'İ') :
    lowerChar c = [shifted lowerShifts c] :=
  (if_neg hascii).trans (if_neg hdotted)

theorem shifted_of_none {table : List Shift}
    (h : table.findSome? (·.image? c.toNat) = none) : shifted table c = c := by
  rw [shifted, h]

theorem shifted_of_some {table : List Shift} {k : Nat}
    (h : table.findSome? (·.image? c.toNat) = some k) : shifted table c = Char.ofNat k := by
  rw [shifted, h]

theorem isLowered_of_ascii (h : c.toNat < 128) (hupper : ¬ c.isUpper) : IsLowered c := by
  refine ⟨?_, ?_⟩
  · rintro rfl
    exact absurd h (by decide)
  · rw [lowerChar_of_ascii h, Char.toLower_eq_of_not_isUpper hupper]

/-- A character that no run moves stays as it is. -/
theorem isLowered_of_unmoved (hsigma : c ≠ 'Σ') (hascii : ¬ c.toNat < 128) (hdotted : c ≠ 'İ')
    (h : lowerShifts.findSome? (·.image? c.toNat) = none) : IsLowered c := by
  refine ⟨hsigma, ?_⟩
  rw [lowerChar_of_not_ascii hascii hdotted, shifted_of_none h]

/-- An image of the table is its own lower case. -/
theorem isLowered_of_image? {r : Shift} {n m : Nat} (hr : r ∈ lowerShifts)
    (hm : r.image? n = some m) : IsLowered (Char.ofNat m) := by
  obtain ⟨hcode, hbehind⟩ := Shift.toNat_ofNat_of_image? (lowerShifts_inRange r hr) hm
  have hmissed : ∀ t ∈ dottedRun :: lowerShifts, t.image? m = none := fun t ht =>
    Shift.image?_eq_none_of_misses (List.all_eq_true.mp (lowerShifts_miss r hr) t ht) hm
  by_cases hascii : (Char.ofNat m).toNat < 128
  · refine isLowered_of_ascii hascii fun hupper => ?_
    have hcapital := isUpper_iff.mp hupper
    omega
  · refine isLowered_of_unmoved ?sigma hascii ?dotted ?unmoved
    case sigma =>
      intro h
      have hnone := hmissed sigmaRun (List.mem_cons_of_mem _ sigmaRun_mem)
      rw [← hcode, h] at hnone
      exact nomatch hnone
    case dotted =>
      intro h
      have hnone := hmissed dottedRun List.mem_cons_self
      rw [← hcode, h] at hnone
      exact nomatch hnone
    case unmoved =>
      rw [hcode, List.findSome?_eq_none_iff]
      exact fun t ht => hmissed t (List.mem_cons_of_mem _ ht)

/-- The lower case of a character is in lower case. -/
theorem isLowered_of_mem_lowerChar (hc : c ≠ 'Σ') (hd : d ∈ lowerChar c) : IsLowered d := by
  by_cases hascii : c.toNat < 128
  · rw [lowerChar_of_ascii hascii, List.mem_singleton] at hd
    subst hd
    refine isLowered_of_ascii (toNat_toLower_lt hascii) ?_
    rw [Char.isUpper_toLower_eq_false]
    exact Bool.false_ne_true
  · by_cases hdotted : c = 'İ'
    · subst hdotted
      have hboth : IsLowered 'i' ∧ IsLowered '\u0307' := by decide +kernel
      rcases List.mem_pair.mp hd with rfl | rfl
      · exact hboth.1
      · exact hboth.2
    · rw [lowerChar_of_not_ascii hascii hdotted, List.mem_singleton] at hd
      subst hd
      cases h : lowerShifts.findSome? (·.image? c.toNat) with
      | none =>
          rw [shifted_of_none h]
          exact isLowered_of_unmoved hc hascii hdotted h
      | some k =>
          obtain ⟨r, hr, hk⟩ := List.exists_of_findSome?_eq_some h
          rw [shifted_of_some h]
          exact isLowered_of_image? hr hk

/-- All characters of a text in lower case are their own lower case. -/
theorem isLowered_of_mem_lowerAfter (h : d ∈ lowerAfter before cs) : IsLowered d := by
  induction cs generalizing before with
  | nil => exact nomatch h
  | cons c rest ih =>
      rcases List.mem_append.mp h with hd | hd
      · by_cases hc : c = 'Σ'
        · rw [if_pos hc, List.mem_singleton] at hd
          -- the form of a sigma depends on its place, and both are small letters
          have hboth : IsLowered 'ς' ∧ IsLowered 'σ' := by decide +kernel
          rw [hd]
          split
          · exact hboth.1
          · exact hboth.2
        · rw [if_neg hc] at hd
          exact isLowered_of_mem_lowerChar hc hd
      · exact ih hd

theorem lowerAfter_of_isLowered (h : ∀ c ∈ cs, IsLowered c) : lowerAfter before cs = cs := by
  induction cs generalizing before with
  | nil => rfl
  | cons c rest ih =>
      obtain ⟨hsigma, hsame⟩ := h c List.mem_cons_self
      show (if c = 'Σ' then _ else lowerChar c) ++ lowerAfter (c :: before) rest = c :: rest
      rw [if_neg hsigma, hsame, ih fun d hd => h d (List.mem_cons_of_mem c hd)]
      rfl

theorem isLowered_of_mem_lower (h : d ∈ (lower s).toList) : IsLowered d := by
  rw [lower, String.toList_ofList] at h
  exact isLowered_of_mem_lowerAfter h

/-- No ASCII capital is its own lower case. -/
theorem IsLowered.not_isUpper (h : IsLowered c) : c.isUpper = false := by
  rw [Bool.eq_false_iff]
  intro hupper
  have hcode := isUpper_iff.mp hupper
  have hsame : [c.toLower] = [c] := (lowerChar_of_ascii (by omega)).symm.trans h.2
  have hlower := Char.isUpper_toLower_eq_false c
  rw [List.head_eq_of_cons_eq hsame, hupper] at hlower
  exact nomatch hlower

/-- A text in lower case is its own lower case. -/
theorem lower_lower (s : String) : lower (lower s) = lower s := by
  have hsame : lowerAfter [] (lower s).toList = (lower s).toList :=
    lowerAfter_of_isLowered fun _ => isLowered_of_mem_lower
  rw [lower, hsame, String.ofList_toList]

/-! ## Texts that are not empty -/

theorem lowerChar_ne_nil (c : Char) : lowerChar c ≠ [] := by
  unfold lowerChar
  split
  · exact List.cons_ne_nil _ _
  · split <;> exact List.cons_ne_nil _ _

/-- Every character has a lower case of at least one character. -/
theorem lowerAfter_eq_nil_iff : lowerAfter before cs = [] ↔ cs = [] := by
  cases cs with
  | nil => exact ⟨fun _ => rfl, fun _ => rfl⟩
  | cons c rest =>
      refine ⟨fun h => ?_, fun h => (nomatch h)⟩
      have hhead := (List.append_eq_nil_iff.mp h).1
      split at hhead
      · exact nomatch hhead
      · exact absurd hhead (lowerChar_ne_nil c)

theorem lower_eq_empty_iff : lower s = "" ↔ s = "" := by
  rw [← String.toList_eq_nil_iff, lower, String.toList_ofList, lowerAfter_eq_nil_iff,
    String.toList_eq_nil_iff]

theorem lowerFirst_eq_empty_iff : lowerFirst s = "" ↔ s = "" := by
  rw [← String.toList_eq_nil_iff, ← String.toList_eq_nil_iff (b := s), lowerFirst]
  cases s.toList with
  | nil => exact ⟨fun _ => rfl, fun _ => rfl⟩
  | cons c rest =>
      refine ⟨fun h => ?_, fun h => (nomatch h)⟩
      rw [String.toList_ofList] at h
      exact absurd (List.append_eq_nil_iff.mp h).1 (lowerChar_ne_nil c)

/-! ## ASCII -/

/-- Every character is one of ASCII. -/
def Ascii (cs : List Char) : Prop := ∀ c ∈ cs, c.toNat < 128

theorem Ascii.map_toLower (h : Ascii cs) : Ascii (cs.map Char.toLower) := by
  intro d hd
  obtain ⟨c, hc, rfl⟩ := List.mem_map.mp hd
  exact toNat_toLower_lt (h c hc)

theorem Ascii.map_toUpper (h : Ascii cs) : Ascii (cs.map Char.toUpper) := by
  intro d hd
  obtain ⟨c, hc, rfl⟩ := List.mem_map.mp hd
  exact toNat_toUpper_lt (h c hc)

theorem lowerAfter_of_ascii (h : Ascii cs) : lowerAfter before cs = cs.map Char.toLower := by
  induction cs generalizing before with
  | nil => rfl
  | cons c rest ih =>
      have hc : c.toNat < 128 := h c List.mem_cons_self
      have hsigma : c ≠ 'Σ' := by
        rintro rfl
        exact absurd hc (by decide)
      show (if c = 'Σ' then _ else lowerChar c) ++ lowerAfter (c :: before) rest = _
      rw [if_neg hsigma, lowerChar_of_ascii hc, ih fun d hd => h d (List.mem_cons_of_mem c hd)]
      rfl

theorem flatMap_upperChar_of_ascii (h : Ascii cs) : cs.flatMap upperChar = cs.map Char.toUpper := by
  induction cs with
  | nil => rfl
  | cons c rest ih =>
      have hc : upperChar c = [c.toUpper] := if_pos (h c List.mem_cons_self)
      rw [List.flatMap_cons, hc, ih fun d hd => h d (List.mem_cons_of_mem c hd)]
      rfl

end EntityPlan.Text
