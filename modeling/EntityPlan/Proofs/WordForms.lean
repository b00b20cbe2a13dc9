import EntityPlan.Naming
import EntityPlan.Proofs.Casing

/-! # Word forms — names in lower and in upper case agree

    In a text without capitals no word starts within, and in one without small letters
    neither; so a name with its words apart stays as it is when it is split again, in
    either case.  Lower case is the finer form: for an ASCII name each form can be had
    from the other (`Naming.forms_agree`), and a character is added only where a small
    letter is directly followed by a capital. -/

namespace EntityPlan.Naming

open Text (Ascii lowerAfter upperChar)

variable {cs : List Char} {low : Bool} {s : String}

/-! ## Splitting -/

/-- How often a small letter is directly followed by a capital. -/
def innerStarts (cs : List Char) : Nat :=
  (cs.zip cs.tail).countP fun p => p.1.isLower && p.2.isUpper

theorem splitAfter_of_no_capital (h : ∀ c ∈ cs, c.isUpper = false) : splitAfter low cs = cs := by
  induction cs generalizing low with
  | nil => rfl
  | cons c rest ih =>
      rw [splitAfter, h c List.mem_cons_self, Bool.and_false, if_neg Bool.false_ne_true,
        ih fun d hd => h d (List.mem_cons_of_mem c hd)]

theorem splitAfter_of_no_small (h : ∀ c ∈ cs, c.isLower = false) :
    splitAfter false cs = cs := by
  induction cs with
  | nil => rfl
  | cons c rest ih =>
      rw [splitAfter, Bool.false_and, if_neg Bool.false_ne_true, h c List.mem_cons_self,
        ih fun d hd => h d (List.mem_cons_of_mem c hd)]

/-- Splitting adds nothing but underscores. -/
theorem mem_splitAfter {d : Char} (h : d ∈ splitAfter low cs) : d ∈ cs ∨ d = '_' := by
  induction cs generalizing low with
  | nil => exact nomatch h
  | cons c rest ih =>
      have hrest : d ∈ splitAfter c.isLower rest → d ∈ c :: rest ∨ d = '_' := fun hd =>
        (ih hd).imp_left (List.mem_cons_of_mem c)
      rw [splitAfter] at h
      split at h
      · rcases List.mem_cons.mp h with rfl | h
        · exact Or.inr rfl
        · rcases List.mem_cons.mp h with rfl | h
          · exact Or.inl List.mem_cons_self
          · exact hrest h
      · rcases List.mem_cons.mp h with rfl | h
        · exact Or.inl List.mem_cons_self
        · exact hrest h

theorem ascii_splitAfter (h : Ascii cs) : Ascii (splitAfter low cs) := by
  intro d hd
  rcases mem_splitAfter hd with hmem | rfl
  · exact h d hmem
  · decide

/-- One underscore is added for each start of a word. -/
theorem length_splitAfter (c : Char) (cs : List Char) :
    (splitAfter c.isLower cs).length = cs.length + innerStarts (c :: cs) := by
  induction cs generalizing c with
  | nil => rfl
  | cons d rest ih =>
      have hstarts : innerStarts (c :: d :: rest) =
          innerStarts (d :: rest) + if c.isLower && d.isUpper then 1 else 0 :=
        List.countP_cons
      rw [splitAfter, hstarts]
      split
      · rw [List.length_cons, List.length_cons, ih, List.length_cons]
        omega
      · rw [List.length_cons, ih, List.length_cons]
        omega

theorem length_splitAfter_false (cs : List Char) :
    (splitAfter false cs).length = cs.length + innerStarts cs := by
  cases cs with
  | nil => rfl
  | cons c rest =>
      rw [splitAfter, Bool.false_and, if_neg Bool.false_ne_true, List.length_cons,
        length_splitAfter, List.length_cons]
      omega

/-! ## Lower case -/

theorem not_isUpper_of_mem_snake {c : Char} (h : c ∈ (snake s).toList) : c.isUpper = false :=
  (Text.isLowered_of_mem_lower h).not_isUpper

theorem splitWords_snake (s : String) : splitWords (snake s) = snake s := by
  rw [splitWords, splitAfter_of_no_capital fun _ => not_isUpper_of_mem_snake, String.ofList_toList]

theorem snake_snake (s : String) : snake (snake s) = snake s := by
  show Text.lower (splitWords (snake s)) = snake s
  rw [splitWords_snake]
  exact Text.lower_lower (splitWords s)

/-- A name has a text with its words apart as soon as it is not empty. -/
theorem snake_eq_empty_iff : snake s = "" ↔ s = "" := by
  rw [snake, Text.lower_eq_empty_iff, splitWords, ← String.toList_eq_nil_iff,
    String.toList_ofList, ← String.toList_eq_nil_iff (b := s)]
  constructor
  · intro h
    have hlength := length_le_splitAfter false s.toList
    rw [h] at hlength
    exact List.eq_nil_of_length_eq_zero (Nat.le_zero.mp hlength)
  · intro h
    rw [h]
    rfl

/-! ## ASCII names -/

theorem toList_snake (h : Ascii s.toList) :
    (snake s).toList = (splitAfter false s.toList).map Char.toLower := by
  show (String.ofList (lowerAfter [] (String.ofList _).toList)).toList = _
  rw [String.toList_ofList, String.toList_ofList, Text.lowerAfter_of_ascii (ascii_splitAfter h)]

theorem toList_upperSnake (h : Ascii s.toList) :
    (upperSnake s).toList = (splitAfter false s.toList).map Char.toUpper := by
  show (String.ofList ((String.ofList _).toList.flatMap upperChar)).toList = _
  rw [String.toList_ofList, String.toList_ofList,
    Text.flatMap_upperChar_of_ascii (ascii_splitAfter h)]

theorem ascii_snake (h : Ascii s.toList) : Ascii (snake s).toList := by
  rw [toList_snake h]
  exact (ascii_splitAfter h).map_toLower

theorem ascii_upperSnake (h : Ascii s.toList) : Ascii (upperSnake s).toList := by
  rw [toList_upperSnake h]
  exact (ascii_splitAfter h).map_toUpper

theorem not_isLower_of_mem_upperSnake (h : Ascii s.toList) {c : Char}
    (hc : c ∈ (upperSnake s).toList) : c.isLower = false := by
  rw [toList_upperSnake h] at hc
  obtain ⟨d, -, rfl⟩ := List.mem_map.mp hc
  exact Char.isLower_toUpper_eq_false d

theorem splitAfter_upperSnake (h : Ascii s.toList) :
    splitAfter false (upperSnake s).toList = (splitAfter false s.toList).map Char.toUpper := by
  rw [splitAfter_of_no_small fun _ => not_isLower_of_mem_upperSnake h, toList_upperSnake h]

/-- Upper case can be had from lower case. -/
theorem upper_snake (h : Ascii s.toList) : Text.upper (snake s) = upperSnake s := by
  rw [← String.toList_inj, toList_upperSnake h, Text.upper, String.toList_ofList,
    Text.flatMap_upperChar_of_ascii (ascii_snake h), toList_snake h, List.map_map]
  exact List.map_congr_left fun c _ => Char.toUpper_toLower_eq_toUpper c

theorem upperSnake_upperSnake (h : Ascii s.toList) :
    upperSnake (upperSnake s) = upperSnake s := by
  rw [← String.toList_inj, toList_upperSnake (ascii_upperSnake h), splitAfter_upperSnake h,
    toList_upperSnake h, List.map_map]
  exact List.map_congr_left fun c _ => Char.toUpper_toUpper_eq_toUpper c

/-- Lower case can be had from upper case. -/
theorem snake_upperSnake (h : Ascii s.toList) : snake (upperSnake s) = snake s := by
  rw [← String.toList_inj, toList_snake (ascii_upperSnake h), splitAfter_upperSnake h,
    toList_snake h, List.map_map]
  exact List.map_congr_left fun c _ => Char.toLower_toUpper_eq_toLower c

/-- The two forms of a name, each had from the other, and what they add to it. -/
structure Agreeing (s : String) : Prop where
  /-- the forms are ASCII texts, so their characters are bytes -/
  ascii : Ascii (snake s).toList ∧ Ascii (upperSnake s).toList
  upper : upperSnake s = Text.upper (snake s)
  again : upperSnake (upperSnake s) = upperSnake s
  lower : snake (upperSnake s) = snake s
  length_snake : (snake s).length = s.length + innerStarts s.toList
  length_upperSnake : (upperSnake s).length = s.length + innerStarts s.toList

/-- A name with its words apart has no ASCII capital and is its own lower-case form; and for an
    ASCII name the two forms agree. -/
theorem forms_agree (s : String) :
    (∀ c ∈ (snake s).toList, c.isUpper = false) ∧ snake (snake s) = snake s ∧
      (Ascii s.toList → Agreeing s) := by
  refine ⟨fun _ => not_isUpper_of_mem_snake, snake_snake s, ?_⟩
  intro h
  have hlength : (splitAfter false s.toList).length = s.length + innerStarts s.toList :=
    length_splitAfter_false s.toList
  exact
    { ascii := ⟨ascii_snake h, ascii_upperSnake h⟩
      upper := (upper_snake h).symm
      again := upperSnake_upperSnake h
      lower := snake_upperSnake h
      length_snake := by
        rw [← String.length_toList, toList_snake h, List.length_map, hlength]
      length_upperSnake := by
        rw [← String.length_toList, toList_upperSnake h, List.length_map, hlength] }

/-- Two words after a run of capitals and behind a digit, and one start within. -/
theorem forms_agree_acronym :
    Ascii "HTTPServer2Go_toGate".toList ∧ Agreeing "HTTPServer2Go_toGate" ∧
      snake "HTTPServer2Go_toGate" = "httpserver2go_to_gate" := by
  have hascii : Ascii "HTTPServer2Go_toGate".toList := by simp [Ascii]
  exact ⟨hascii, (forms_agree _).2.2 hascii, by decide +kernel⟩

/-- Beyond ASCII a sigma at the end of a word has a form of its own, and a dotted capital becomes
    two characters. -/
example : snake "ΟΔΟΣ" = "οδος" ∧ snake "aİB" = "ai̇b" := by decide +kernel

end EntityPlan.Naming
