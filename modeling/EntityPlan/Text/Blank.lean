/-! # Blank characters — what trimming takes away

    A character is blank when it has the Unicode property White_Space.  Trimming
    removes blanks at the ends of a text and nothing else. -/

namespace EntityPlan.Text

/-- The twenty-five characters of the property White_Space. -/
def isBlank (c : Char) : Bool :=
  let n := c.toNat
  (0x9 ≤ n && n ≤ 0xD) || n == 0x20 || n == 0x85 || n == 0xA0 || n == 0x1680 ||
    (0x2000 ≤ n && n ≤ 0x200A) || n == 0x2028 || n == 0x2029 || n == 0x202F ||
    n == 0x205F || n == 0x3000

/-- A text that holds nothing but blanks. -/
def allBlank (s : String) : Bool := s.toList.all isBlank

/-- Characters without the blanks at their end. -/
def trimEnd (cs : List Char) : List Char := (cs.reverse.dropWhile isBlank).reverse

/-- A text without the blanks at its two ends. -/
def trim (s : String) : String := String.ofList (trimEnd (s.toList.dropWhile isBlank))

/-- Trimming at the end keeps a front part. -/
theorem trimEnd_append_blanks (cs : List Char) :
    ∃ bs, cs = trimEnd cs ++ bs ∧ bs.all isBlank = true := by
  refine ⟨(cs.reverse.takeWhile isBlank).reverse, ?_, ?_⟩
  · show cs = (cs.reverse.dropWhile isBlank).reverse ++ (cs.reverse.takeWhile isBlank).reverse
    rw [← List.reverse_append, List.takeWhile_append_dropWhile, List.reverse_reverse]
  · rw [List.all_reverse]
    exact List.all_takeWhile

end EntityPlan.Text
