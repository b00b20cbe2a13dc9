/-! # Pieces — a text between its separators

    A text with `n` separators has `n + 1` pieces, some of them perhaps empty. -/

namespace EntityPlan.Text

/-- The pieces between the separators. -/
def pieces (sep : Char) : List Char → List (List Char)
  | [] => [[]]
  | c :: rest =>
      if c = sep then [] :: pieces sep rest
      else
        match pieces sep rest with
        | [] => [[c]]
        | p :: ps => (c :: p) :: ps

/-- The pieces of a text. -/
def split (sep : Char) (s : String) : List String := (pieces sep s.toList).map String.ofList

theorem pieces_ne_nil (sep : Char) (cs : List Char) : pieces sep cs ≠ [] := by
  cases cs with
  | nil => simp [pieces]
  | cons c rest =>
      unfold pieces
      split
      · simp
      · split <;> simp

end EntityPlan.Text
