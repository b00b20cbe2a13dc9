import EntityPlan.Text.Case

/-! # Naming — from run-together words to words apart

    A word starts where a lower-case letter is directly followed by an upper-case
    one, ASCII letters only; an underscore is put there, so that a run of capitals
    stays together.  The case is mapped afterwards, by the rules of Unicode. -/

namespace EntityPlan.Naming

/-- Characters with an underscore before each start of a word; `low` says that the
    character before them is a lower-case letter. -/
def splitAfter (low : Bool) : List Char → List Char
  | [] => []
  | c :: rest =>
      if low && c.isUpper then '_' :: c :: splitAfter c.isLower rest
      else c :: splitAfter c.isLower rest

/-- The text with an underscore before each start of a word. -/
def splitWords (s : String) : String := String.ofList (splitAfter false s.toList)

/-- Words apart, in lower case: tables and joining columns. -/
def snake (s : String) : String := Text.lower (splitWords s)

/-- Words apart, in upper case: columns. -/
def upperSnake (s : String) : String := Text.upper (splitWords s)

/-- Underscores apart, nothing is added. -/
theorem length_le_splitAfter (low : Bool) (cs : List Char) :
    cs.length ≤ (splitAfter low cs).length := by
  induction cs generalizing low with
  | nil => exact Nat.le_refl 0
  | cons c rest ih =>
      have h := ih c.isLower
      unfold splitAfter
      split <;> simp only [List.length_cons] <;> omega

end EntityPlan.Naming
