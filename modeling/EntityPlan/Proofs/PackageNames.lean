import EntityPlan.Model.Rules
import EntityPlan.Proofs.Casing
import EntityPlan.Proofs.Paths
import EntityPlan.Settings.Validation

/-! # Package names — identifiers with dots between them

    The check of a package name cuts a text at its dots and looks at the pieces one by
    one.  It accepts a text exactly when that is written as identifiers with single dots
    between them (`isPackageName_iff`), and there is one way only to write it so
    (`Segments.eq_split`).  An identifier stays one in lower case, so the package below a
    package has one segment more (`Segments.below`). -/

namespace EntityPlan

/-! ## Identifiers -/

/-- An ASCII letter or an underscore. -/
def IsLetter (c : Char) : Prop :=
  'A' ≤ c ∧ c ≤ 'Z' ∨ 'a' ≤ c ∧ c ≤ 'z' ∨ c = '_'

/-- A letter and then letters and digits, as many as there may be. -/
def IsIdentifier (s : String) : Prop :=
  ∃ c rest, s.toList = c :: rest ∧ IsLetter c ∧
    ∀ d ∈ rest, IsLetter d ∨ '0' ≤ d ∧ d ≤ '9'

variable {c d : Char} {s name : String} {parts : List String}

theorem char_le_iff : c ≤ d ↔ c.toNat ≤ d.toNat := by
  rw [Char.le_def, UInt32.le_iff_toNat_le]
  exact Iff.rfl

theorem startsIdentifier_iff : startsIdentifier c = true ↔ IsLetter c := by
  simp only [startsIdentifier, Char.isAlpha, Bool.or_eq_true, Text.isUpper_iff, Text.isLower_iff,
    beq_iff_eq, or_assoc, IsLetter, char_le_iff]
  exact Iff.rfl

theorem continuesIdentifier_iff :
    (d.isAlphanum || d == '_') = true ↔ IsLetter d ∨ '0' ≤ d ∧ d ≤ '9' := by
  have hdigit : d.isDigit = true ↔ '0' ≤ d ∧ d ≤ '9' := by
    simp only [Char.isDigit, Bool.and_eq_true, decide_eq_true_eq]
    exact Iff.rfl
  have hstart : startsIdentifier d = (d.isAlpha || d == '_') := rfl
  rw [← startsIdentifier_iff, hstart, Char.isAlphanum, Bool.or_eq_true, Bool.or_eq_true,
    Bool.or_eq_true, hdigit, or_right_comm]

theorem isIdentifier_iff : isIdentifier s.toList = true ↔ IsIdentifier s := by
  unfold IsIdentifier
  cases hs : s.toList with
  | nil =>
      constructor
      · intro h
        exact nomatch h
      · rintro ⟨c, rest, h, -⟩
        exact nomatch h
  | cons c rest =>
      show (startsIdentifier c && rest.all fun d => d.isAlphanum || d == '_') = true ↔ _
      rw [Bool.and_eq_true, startsIdentifier_iff, List.all_eq_true]
      simp only [continuesIdentifier_iff]
      constructor
      · rintro ⟨hc, hrest⟩
        exact ⟨c, rest, rfl, hc, hrest⟩
      · rintro ⟨_, _, h, hc, hrest⟩
        cases h
        exact ⟨hc, hrest⟩

/-- No identifier holds a dot. -/
theorem IsIdentifier.dotless (h : IsIdentifier s) : '.' ∉ s.toList := by
  have hletter : ¬ IsLetter '.' := by
    rw [← startsIdentifier_iff]
    decide
  obtain ⟨c, rest, hs, hc, hrest⟩ := h
  rw [hs, List.mem_cons]
  rintro (rfl | hmem)
  · exact hletter hc
  · rcases hrest '.' hmem with hdot | hdot
    · exact hletter hdot
    · exact absurd hdot (by decide)

/-- A letter in lower case is a letter. -/
theorem IsLetter.toLower (h : IsLetter c) : IsLetter c.toLower := by
  rw [← startsIdentifier_iff] at h ⊢
  show (c.toLower.isAlpha || c.toLower == '_') = true
  have hparts : c.isAlpha = true ∨ c = '_' := by
    simpa [startsIdentifier] using h
  rcases hparts with halpha | rfl
  · rw [Char.isAlpha_toLower_eq_isAlpha, halpha, Bool.true_or]
  · rfl

theorem IsLetter.ascii (h : IsLetter c) : c.toNat < 128 := by
  simp only [IsLetter, char_le_iff] at h
  rcases h with h | h | rfl
  · exact Nat.lt_of_le_of_lt h.2 (by decide)
  · exact Nat.lt_of_le_of_lt h.2 (by decide)
  · decide

theorem IsIdentifier.ascii (h : IsIdentifier s) : Text.Ascii s.toList := by
  obtain ⟨c, rest, hs, hc, hrest⟩ := h
  intro d hd
  rw [hs] at hd
  rcases List.mem_cons.mp hd with rfl | hd
  · exact hc.ascii
  · rcases hrest d hd with hletter | hdigit
    · exact hletter.ascii
    · exact Nat.lt_of_le_of_lt (char_le_iff.mp hdigit.2) (by decide)

/-- An identifier in lower case is an identifier. -/
theorem IsIdentifier.lower (h : IsIdentifier s) : IsIdentifier (Text.lower s) := by
  have hlower : (Text.lower s).toList = s.toList.map Char.toLower := by
    rw [Text.lower, String.toList_ofList, Text.lowerAfter_of_ascii h.ascii]
  obtain ⟨c, rest, hs, hc, hrest⟩ := h
  refine ⟨c.toLower, rest.map Char.toLower, ?_, hc.toLower, ?_⟩
  · rw [hlower, hs, List.map_cons]
  · intro d hd
    obtain ⟨e, he, rfl⟩ := List.mem_map.mp hd
    rcases hrest e he with hletter | hdigit
    · exact Or.inl hletter.toLower
    · -- digits have no case
      have hcode := char_le_iff.mp hdigit.2
      have hupper : ¬ e.isUpper = true := by
        rw [Text.isUpper_iff]
        intro h
        exact absurd (Nat.le_trans h.1 hcode) (by decide)
      rw [Char.toLower_eq_of_not_isUpper hupper]
      exact Or.inr hdigit

/-! ## Segments -/

/-- The text is written as these identifiers, one at least, with single dots between them. -/
structure Segments (s : String) (parts : List String) : Prop where
  nonempty : parts ≠ []
  identifiers : ∀ part ∈ parts, IsIdentifier part
  text : s = ".".intercalate parts

/-- The segments of a package name are what stands between its dots. -/
theorem Segments.eq_split (h : Segments s parts) : parts = Text.split '.' s := by
  rw [h.text]
  exact (Text.split_intercalate_by rfl h.nonempty fun part hpart =>
    (h.identifiers part hpart).dotless).symm

/-- The check accepts the texts that are written as segments, and no others. -/
theorem isPackageName_iff : isPackageName s = true ↔ ∃ parts, Segments s parts := by
  have hpieces : isPackageName s = true ↔ ∀ part ∈ Text.split '.' s, IsIdentifier part := by
    simp only [isPackageName, Text.split, List.all_eq_true, List.forall_mem_map,
      ← isIdentifier_iff, String.toList_ofList]
  rw [hpieces]
  constructor
  · intro h
    refine ⟨Text.split '.' s, ?_, h, (Text.intercalate_split_dot s).symm⟩
    exact mt List.map_eq_nil_iff.mp (Text.pieces_ne_nil '.' s.toList)
  · rintro ⟨parts, h⟩
    rw [← h.eq_split]
    exact h.identifiers

/-- The package below a package has one segment more. -/
theorem Segments.below (h : Segments s parts) (hname : IsIdentifier name) :
    Segments (ModelRules.packageBelow s name) (parts ++ [Text.lower name]) where
  nonempty := List.append_ne_nil_of_left_ne_nil h.nonempty _
  identifiers part hpart := by
    rcases List.mem_append.mp hpart with hpart | hpart
    · exact h.identifiers part hpart
    · rw [List.mem_singleton.mp hpart]
      exact hname.lower
  text := by
    rw [ModelRules.packageBelow, String.intercalate_append_of_ne_nil h.nonempty (List.cons_ne_nil _ _),
      String.intercalate_singleton, ← h.text]

end EntityPlan
