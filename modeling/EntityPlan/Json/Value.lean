import EntityPlan.Decimal.Notation

/-! # JSON values

    A number is an integer or a double, and the two are written differently.  The
    members of an object stand in the order in which they are written. -/

namespace EntityPlan.Json

/-- A number: a whole number of at most sixty-four bits, or a double. -/
inductive Number
  | integer (n : Int)
  | double (d : Decimal.Double)
  deriving DecidableEq, Repr

/-- The text of a number. -/
def Number.text : Number → String
  | .integer n => toString n
  | .double d => Decimal.Notation.compact.write d

/-- A JSON value. -/
inductive Value
  | null
  | boolean (b : Bool)
  | number (n : Number)
  | text (s : String)
  | list (items : List Value)
  | object (members : List (String × Value))
  deriving Repr, Inhabited

namespace Value

mutual

/-- Whether two values are equal, decided along both of them. -/
def decEq : (v w : Value) → Decidable (v = w)
  | .null, .null => .isTrue rfl
  | .boolean a, .boolean b =>
      if h : a = b then .isTrue (congrArg boolean h) else .isFalse fun e => h (boolean.inj e)
  | .number a, .number b =>
      if h : a = b then .isTrue (congrArg number h) else .isFalse fun e => h (number.inj e)
  | .text a, .text b =>
      if h : a = b then .isTrue (congrArg text h) else .isFalse fun e => h (text.inj e)
  | .list xs, .list ys =>
      match decEqItems xs ys with
      | .isTrue h => .isTrue (congrArg list h)
      | .isFalse h => .isFalse fun e => h (list.inj e)
  | .object ms, .object ns =>
      match decEqMembers ms ns with
      | .isTrue h => .isTrue (congrArg object h)
      | .isFalse h => .isFalse fun e => h (object.inj e)
  | .null, .boolean _ | .null, .number _ | .null, .text _ | .null, .list _ | .null, .object _
  | .boolean _, .null | .boolean _, .number _ | .boolean _, .text _ | .boolean _, .list _
  | .boolean _, .object _ | .number _, .null | .number _, .boolean _ | .number _, .text _
  | .number _, .list _ | .number _, .object _ | .text _, .null | .text _, .boolean _
  | .text _, .number _ | .text _, .list _ | .text _, .object _ | .list _, .null
  | .list _, .boolean _ | .list _, .number _ | .list _, .text _ | .list _, .object _
  | .object _, .null | .object _, .boolean _ | .object _, .number _ | .object _, .text _
  | .object _, .list _ => .isFalse nofun

/-- Whether two lists of elements are equal. -/
def decEqItems : (xs ys : List Value) → Decidable (xs = ys)
  | [], [] => .isTrue rfl
  | [], _ :: _ | _ :: _, [] => .isFalse nofun
  | v :: xs, w :: ys =>
      match decEq v w, decEqItems xs ys with
      | .isTrue h, .isTrue hrest => .isTrue (congr (congrArg List.cons h) hrest)
      | .isFalse h, _ => .isFalse fun e => h (List.cons.inj e).1
      | _, .isFalse h => .isFalse fun e => h (List.cons.inj e).2

/-- Whether two lists of members are equal. -/
def decEqMembers : (ms ns : List (String × Value)) → Decidable (ms = ns)
  | [], [] => .isTrue rfl
  | [], _ :: _ | _ :: _, [] => .isFalse nofun
  | (k, v) :: ms, (l, w) :: ns =>
      if hkey : k = l then
        match decEq v w, decEqMembers ms ns with
        | .isTrue h, .isTrue hrest => .isTrue (congr (congrArg List.cons (Prod.ext hkey h)) hrest)
        | .isFalse h, _ => .isFalse fun e => h (congrArg Prod.snd (List.cons.inj e).1)
        | _, .isFalse h => .isFalse fun e => h (List.cons.inj e).2
      else .isFalse fun e => hkey (congrArg Prod.fst (List.cons.inj e).1)

end

instance : DecidableEq Value := decEq

/-- The whole number as a value. -/
def ofNat (n : Nat) : Value := .number (.integer n)

/-- The text as a value, `null` for its absence. -/
def ofText? : Option String → Value
  | none => .null
  | some s => .text s

/-- The texts as a list. -/
def ofTexts (texts : List String) : Value := .list (texts.map .text)

/-- The members of an object, none for any other value. -/
def members : Value → List (String × Value)
  | .object ms => ms
  | _ => []

end Value

end EntityPlan.Json
