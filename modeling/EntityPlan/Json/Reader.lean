import EntityPlan.Json.Token
import EntityPlan.SortedMap

/-! # Reading JSON — one pass, the first problem wins

    A reader takes the characters from where a value starts and returns what it
    reads with the characters behind it.  A value of the wrong type is still read
    as far as it is a single token, so a breach of the grammar in it comes first;
    lists and objects are refused at their bracket.  Values that are used nest at
    most `depthLimit` deep; values that are passed over nest freely. -/

namespace EntityPlan.Json

/-- A reader of values. -/
abbrev Reader (α : Type) := StateT (List Char) (Except Problem) α

namespace Reader

/-- How many lists and objects may be open at once in a value that is used. -/
def depthLimit : Nat := 127

variable {α β σ : Type}

/-- A token as a reader. -/
def token (step : List Char → Step α) : Reader α := fun s => step s

/-- The next character that is no space, left where it is. -/
def peek : Reader (Option Char) := fun s => .ok ((skipSpace s).head?, skipSpace s)

/-- Passes over one character. -/
def advance : Reader Unit := fun s => .ok ((), s.drop 1)

/-- A breach of the grammar. -/
def breach : Reader α := fun _ => .error .grammar

/-- Passes over spaces and then the given character. -/
def mark (c : Char) : Reader Unit := do
  if (← peek) = some c then advance else breach

/-- The character starts a number. -/
def startsNumber (c : Char) : Bool := c == '-' || c.isDigit

/-- The elements of a list whose bracket was read, up to the closing one.  Each
    element takes a character at least, so the fuel is the length of the text. -/
def elements (item : Reader α) : (fuel : Nat) → (first : Bool) → Reader (List α)
  | 0, _ => breach
  | fuel + 1, first => do
      match ← peek with
      | none => breach
      | some c =>
          if c = ']' then
            advance
            return []
          if !first then mark ','
          let a ← item
          return a :: (← elements item fuel false)

/-- The members of an object whose brace was read, up to the closing one: `step`
    takes up a key and reads on from behind it. -/
def members (step : σ → String → Reader σ) : (fuel : Nat) → (first : Bool) → σ → Reader σ
  | 0, _, _ => breach
  | fuel + 1, first, acc => do
      match ← peek with
      | none => breach
      | some c =>
          if c = '}' then
            advance
            return acc
          if !first then mark ','
          mark '"'
          let key ← token stringRest
          members step fuel false (← step acc key)

/-- The elements of a list whose bracket was read. -/
def list (item : Reader α) : Reader (List α) := do elements item ((← get).length + 1) true

/-- The members of an object whose brace was read. -/
def object (step : σ → String → Reader σ) (start : σ) : Reader σ := do
  members step ((← get).length + 1) true start

/-- Passes over a value with the given reader for what stands inside a list or object. -/
def passWith (inner : Reader Unit) : Reader Unit := do
  match ← peek with
  | none => breach
  | some c =>
      if c = 'n' then token (word "null".toList)
      else if c = 't' then token (word "true".toList)
      else if c = 'f' then token (word "false".toList)
      else if c = '"' then
        advance
        token (passString false 0)
      else if startsNumber c then
        let _ ← token numeral
        return
      else if c = '[' then
        advance
        let _ ← list inner
        return
      else if c = '{' then
        advance
        passMembers inner ((← get).length + 1) true
      else breach
where
  /-- Members whose keys, too, are held to the grammar alone. -/
  passMembers (inner : Reader Unit) : Nat → Bool → Reader Unit
    | 0, _ => breach
    | fuel + 1, first => do
        match ← peek with
        | none => breach
        | some c =>
            if c = '}' then advance
            else
              if !first then mark ','
              mark '"'
              token (passString false 0)
              mark ':'
              inner
              passMembers inner fuel false

/-- Passes over a value that nests at most this deep. -/
def passWithin : Nat → Reader Unit
  | 0 => breach
  | n + 1 => fun s => passWith (passWithin n) s

/-- Passes over a value; a text nests less deep than it is long. -/
def pass : Reader Unit := do passWithin ((← get).length + 1)

/-- Reads a value with the given reader for what stands inside a list or object. -/
def valueWith (inner : Option (Reader Value)) : Reader Value := do
  match ← peek with
  | none => breach
  | some c =>
      if c = 'n' then
        token (word "null".toList)
        return .null
      else if c = 't' then
        token (word "true".toList)
        return .boolean true
      else if c = 'f' then
        token (word "false".toList)
        return .boolean false
      else if c = '"' then
        advance
        return .text (← token stringRest)
      else if startsNumber c then
        return .number (← token number)
      else
        match inner with
        | none => breach
        | some item =>
            if c = '[' then
              advance
              return .list (← list item)
            else if c = '{' then
              advance
              let m ← object (fun (m : SortedMap Value) key => do
                mark ':'
                return m.insert key (← item)) SortedMap.empty
              return .object m.rows
            else breach

/-- Reads a value that may open this many lists and objects. -/
def value : Nat → Reader Value
  | 0 => valueWith none
  | levels + 1 => fun s => valueWith (some (value levels)) s

/-- Refuses the value that stands here, for want of another. -/
def refuse (wanted : String) : Reader α := do
  match ← peek with
  | none => breach
  | some c =>
      let refused (found : Found) : Reader α := throw (.wrongType found wanted)
      if c = 'n' then
        token (word "null".toList)
        refused .null
      else if c = 't' then
        token (word "true".toList)
        refused (.boolean true)
      else if c = 'f' then
        token (word "false".toList)
        refused (.boolean false)
      else if c = '"' then
        advance
        refused (.text (← token stringRest))
      else if startsNumber c then
        match ← token number with
        | .integer n => refused (.integer n)
        | .double d => refused (.real (Number.double d).text)
      else if c = '[' then refused .list
      else if c = '{' then refused .table
      else breach

/-- Reads a text. -/
def text : Reader String := do
  if (← peek) = some '"' then
    advance
    token stringRest
  else refuse "a string"

/-- Reads a truth value. -/
def flag : Reader Bool := do
  match ← peek with
  | some 't' =>
      token (word "true".toList)
      return true
  | some 'f' =>
      token (word "false".toList)
      return false
  | _ => refuse "a boolean"

/-- Reads a value, or `null` for its absence. -/
def optional (r : Reader α) : Reader (Option α) := do
  if (← peek) = some 'n' then
    token (word "null".toList)
    return none
  else return some (← r)

/-- A reader of values that open lists and objects, given how many may be opened. -/
abbrev Nested (α : Type) := Nat → Reader α

/-- Reads a list. -/
def sequence (item : Nested α) : Nested (List α) := fun levels => do
  if (← peek) = some '[' then
    match levels with
    | 0 => breach
    | inner + 1 =>
        advance
        list (item inner)
  else refuse "a sequence"

/-- Reads an object as a map, the last of equal keys counting. -/
def mapping (item : Nested α) : Nested (SortedMap α) := fun levels => do
  if (← peek) = some '{' then
    match levels with
    | 0 => breach
    | inner + 1 =>
        advance
        object (fun (m : SortedMap α) key => do
          mark ':'
          return m.insert key (← item inner)) SortedMap.empty
  else refuse "a map"

/-- A member of a record: its name, and a reader that says how the record takes the
    value up. -/
structure Member (ρ : Type) where
  name : String
  take : Nested (ρ → ρ)

/-- A member of this name whose value `set` stores. -/
def member {ρ : Type} (name : String) (r : Nested α) (set : α → ρ → ρ) : Member ρ :=
  ⟨name, fun levels => return set (← r levels)⟩

/-- Members written without their names, in order; those left out keep their start. -/
def positional {ρ : Type} (levels : Nat) : List (Member ρ) → (first : Bool) → ρ → Reader ρ
  | [], _, r => do
      mark ']'
      return r
  | f :: rest, first, r => do
      if (← peek) = some ']' then
        advance
        return r
      if !first then mark ','
      let set ← f.take levels
      positional levels rest false (set r)

/-- Reads a record, as an object or as a list of its members in order.  Unknown
    members are passed over; one written twice is refused at its second key. -/
def record {ρ : Type} (name : String) (known : List (Member ρ)) (start : ρ) : Nested ρ :=
  fun levels => do
    match ← peek, levels with
    | some '[', 0 => breach
    | some '{', 0 => breach
    | some '[', inner + 1 =>
        advance
        positional inner known true start
    | some '{', inner + 1 =>
        advance
        let (r, _) ← object (fun ((r, seen) : ρ × List String) key => do
          match known.find? (·.name == key) with
          | none =>
              mark ':'
              pass
              return (r, seen)
          | some f =>
              if seen.contains key then throw (.duplicateField key)
              mark ':'
              let set ← f.take inner
              return (set r, key :: seen)) (start, [])
        return r
    | _, _ => refuse ("struct " ++ name)

/-- What an object delivers, member by member in document order.  A value that
    cannot be read is the last member, and then `ending` is its problem. -/
structure Delivery (α : Type) where
  members : List (String × Except Problem α)
  ending : Except Problem (List Char)

/-- The delivery of an object whose brace was read. -/
def deliver (item : Reader α) : (fuel : Nat) → (first : Bool) → List Char → Delivery α
  | 0, _, _ => ⟨[], .error .grammar⟩
  | fuel + 1, first, s =>
      let s := skipSpace s
      if s.head? = some '}' then ⟨[], .ok (s.drop 1)⟩
      else
        let start : Reader String := do
          if !first then mark ','
          mark '"'
          let key ← token stringRest
          mark ':'
          return key
        match start s with
        | .error p => ⟨[], .error p⟩
        | .ok (key, s) =>
            match item s with
            | .error p => ⟨[(key, .error p)], .error p⟩
            | .ok (a, s) =>
                let rest := deliver item fuel false s
                ⟨(key, .ok a) :: rest.members, rest.ending⟩

/-- Reads an object by what it delivers; a problem of the delivered members comes
    before one that ends the delivery. -/
def gathered (wanted : String) (item : Nested α)
    (gather : List (String × Except Problem α) → Except Problem β) : Nested β := fun levels => do
  if (← peek) = some '{' then
    match levels with
    | 0 => breach
    | inner + 1 =>
        advance
        let s ← get
        let d := deliver (item inner) (s.length + 1) true s
        let b ← gather d.members
        set (← d.ending)
        return b
  else refuse wanted

/-- Reads a whole text, nothing but spaces behind the value. -/
def whole (r : Nested α) (s : String) : Except Problem α := do
  let (a, rest) ← (r depthLimit).run s.toList
  if (skipSpace rest).isEmpty then return a else throw .grammar

end Reader

end EntityPlan.Json
