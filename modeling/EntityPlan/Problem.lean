import EntityPlan.Text.Quoted

/-! # Problems — why a text cannot be read

    A text is read in document order and the first problem met is the answer.  A
    breach of the grammar carries no detail; every other problem says what stood
    in the text and what was wanted there. -/

namespace EntityPlan

/-- What stood in a text where something else was wanted. -/
inductive Found
  | null
  | boolean (value : Bool)
  | integer (value : Int)
  /-- an integer of more than sixty-four bits -/
  | wideInteger (value : Int) (width : String)
  | real (text : String)
  | text (value : String)
  | list
  | table
  deriving DecidableEq, Repr

/-- The description of what was found. -/
def Found.describe : Found → String
  | .null => "null"
  | .boolean b => "boolean `" ++ (if b then "true" else "false") ++ "`"
  | .integer n => "integer `" ++ toString n ++ "`"
  | .wideInteger n width => "integer `" ++ toString n ++ "` as " ++ width
  | .real t => "floating point `" ++ t ++ "`"
  | .text s => "string " ++ Text.quoted s
  | .list => "sequence"
  | .table => "map"

/-- Why a text cannot be read. -/
inductive Problem
  | grammar
  | wrongType (found : Found) (wanted : String)
  | wrongLength (length : Nat) (wanted : String)
  | missingField (name : String)
  | duplicateField (name : String)
  | duplicateKey (key : String)
  | unknownVariant (given : String) (known : List String)
  deriving DecidableEq, Repr

/-- The text of a problem. -/
def Problem.message : Problem → String
  | .grammar => "<syntax>"
  | .wrongType found wanted => "invalid type: " ++ found.describe ++ ", expected " ++ wanted
  | .wrongLength n wanted => "invalid length " ++ toString n ++ ", expected " ++ wanted
  | .missingField name => "missing field `" ++ name ++ "`"
  | .duplicateField name => "duplicate field `" ++ name ++ "`"
  | .duplicateKey key => "duplicate key '" ++ key ++ "'"
  | .unknownVariant given known =>
      "unknown variant `" ++ given ++ "`, expected one of " ++
        ", ".intercalate (known.map fun k => "`" ++ k ++ "`")

end EntityPlan
