import EntityPlan.Json.Value

/-! # Option texts — a raw value read as a text

    A value may stand bare or as the member `value` of an object.  A list is the
    texts of its elements, joined by commas; elements without a text are left out.
    `null`, and an object without the member, have no text. -/

namespace EntityPlan.Source

open Json (Value)

mutual

/-- The text of a raw value. -/
def optionText : Value → Option String
  | .null => none
  | .boolean b => some (if b then "true" else "false")
  | .number n => some n.text
  | .text s => some s
  | .list items => some (",".intercalate (optionTexts items))
  | .object members => memberText members

/-- The texts of the elements that have one. -/
def optionTexts : List Value → List String
  | [] => []
  | v :: rest =>
      match optionText v with
      | some t => t :: optionTexts rest
      | none => optionTexts rest

/-- The text of the member `value`. -/
def memberText : List (String × Value) → Option String
  | [] => none
  | (k, v) :: rest => if k = "value" then optionText v else memberText rest

end

/-- The texts of a raw value read as a list. -/
def optionList : Value → List String
  | .list items => optionTexts items
  | v => (optionText v).toList

end EntityPlan.Source
