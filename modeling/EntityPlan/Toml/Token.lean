import EntityPlan.Json.Token

/-! # Tokens of a TOML document — line ends, keys and strings

    Each function takes the characters from the place where a token starts and
    returns the token with the characters behind it, or nothing if the grammar is
    broken.  Control characters other than the tab stand nowhere. -/

namespace EntityPlan.Toml

/-- What reading a token gives: its value and the characters behind it. -/
abbrev Scan (α : Type) := StateT (List Char) Option α

/-- A control character other than the tab. -/
def isControl (c : Char) : Bool := (c.toNat < 0x20 && c != '\t') || c.toNat == 0x7F

def isSpace (c : Char) : Bool := c == ' ' || c == '\t'

/-- The characters behind the blanks. -/
def skipSpace (s : List Char) : List Char := s.dropWhile isSpace

/-- The characters behind a line end, if one stands here. -/
def afterNewline? : List Char → Option (List Char)
  | '\n' :: rest => some rest
  | '\r' :: '\n' :: rest => some rest
  | _ => none

/-- Passes over blanks, line ends and comments; `comment` says that one was begun. -/
def skipLines (comment : Bool) : List Char → Option (List Char)
  | [] => some []
  | '\n' :: rest => skipLines false rest
  | '\r' :: '\n' :: rest => skipLines false rest
  | c :: rest =>
      if comment then if isControl c then none else skipLines true rest
      else if isSpace c then skipLines false rest
      else if c = '#' then skipLines true rest
      else some (c :: rest)

/-- Passes over what may stand at the end of a line, and over the line end. -/
def endLine (comment : Bool) : List Char → Option (List Char)
  | [] => some []
  | '\n' :: rest => some rest
  | '\r' :: '\n' :: rest => some rest
  | c :: rest =>
      if comment then if isControl c then none else endLine true rest
      else if isSpace c then endLine false rest
      else if c = '#' then endLine true rest
      else none

/-- A character of a key without quotes. -/
def isBare (c : Char) : Bool := c.isAlphanum || c == '_' || c == '-'

/-- The character whose code point is written in the first `n` characters. -/
def codePoint? (n : Nat) (s : List Char) : Option (Char × Nat) := do
  let digits ← (s.take n).mapM Json.hexValue?
  let code := digits.foldl (fun a d => 16 * a + d) 0
  if digits.length = n ∧ code.isValidChar then some (Char.ofNat code, n + 1) else none

/-- The character that is written behind a backslash, and how many characters that
    takes. -/
def escape? : List Char → Option (Char × Nat)
  | [] => none
  | c :: rest =>
      match c with
      | 'b' => some ('\x08', 1)
      | 't' => some ('\t', 1)
      | 'n' => some ('\n', 1)
      | 'f' => some ('\x0c', 1)
      | 'r' => some ('\r', 1)
      | 'e' => some ('\x1b', 1)
      | '"' => some ('"', 1)
      | '\\' => some ('\\', 1)
      | 'x' => codePoint? 2 rest
      | 'u' => codePoint? 4 rest
      | 'U' => codePoint? 8 rest
      | _ => none

/-- A string on one line up to its closing quote; `out` holds what was read so far,
    the last character first. -/
def basicBody (out : List Char) : List Char → Option (String × List Char)
  | [] => none
  | c :: rest =>
      if c = '"' then some (String.ofList out.reverse, rest)
      else if c = '\\' then
        match escape? rest with
        | some (d, n) => basicBody (d :: out) (rest.drop n)
        | none => none
      else if isControl c then none
      else basicBody (c :: out) rest
termination_by s => s.length
decreasing_by
  all_goals simp only [List.length_drop, List.length_cons]
  all_goals omega

/-- A string on one line that knows no escapes. -/
def literalBody (out : List Char) : List Char → Option (String × List Char)
  | [] => none
  | c :: rest =>
      if c = '\'' then some (String.ofList out.reverse, rest)
      else if isControl c then none
      else literalBody (c :: out) rest

/-- The content that the quotes at the start of a text add to a string of several
    lines, and what stands behind the closing ones: of three quotes or more the last
    three close it, and two may stand before them. -/
def closing? (quote : Char) (s : List Char) : Option (Nat × List Char) :=
  let n := (s.takeWhile (· == quote)).length
  if 3 ≤ n then some (min (n - 3) 2, s.drop (min n 5)) else none

/-- The characters behind a backslash that ends a line: blanks and line ends up to the
    next character are passed over. -/
def continued? (s : List Char) : Option (List Char) :=
  (afterNewline? (skipSpace s)).map fun rest =>
    rest.dropWhile fun c => isSpace c || c == '\n' || c == '\r'

/-- A string of several lines.  A line end in it is one line feed. -/
def linesBody : (fuel : Nat) → (out : List Char) → List Char → Option (String × List Char)
  | 0, _, _ => none
  | _, _, [] => none
  | fuel + 1, out, c :: rest =>
      if c = '"' then
        match closing? '"' (c :: rest) with
        | some (n, rest) => some (String.ofList (out.reverse ++ List.replicate n '"'), rest)
        | none => linesBody fuel (c :: out) rest
      else if c = '\\' then
        match continued? rest with
        | some rest => linesBody fuel out rest
        | none =>
            match escape? rest with
            | some (d, n) => linesBody fuel (d :: out) (rest.drop n)
            | none => none
      else
        match afterNewline? (c :: rest) with
        | some rest => linesBody fuel ('\n' :: out) rest
        | none => if isControl c then none else linesBody fuel (c :: out) rest

/-- A string of several lines that knows no escapes.  Its line ends stay as they are. -/
def literalLinesBody : (fuel : Nat) → (out : List Char) → List Char → Option (String × List Char)
  | 0, _, _ => none
  | _, _, [] => none
  | fuel + 1, out, c :: rest =>
      if c = '\'' then
        match closing? '\'' (c :: rest) with
        | some (n, rest) => some (String.ofList (out.reverse ++ List.replicate n '\''), rest)
        | none => literalLinesBody fuel (c :: out) rest
      else if c = '\n' then literalLinesBody fuel (c :: out) rest
      else if c = '\r' then
        if rest.head? = some '\n' then literalLinesBody fuel (c :: out) rest else none
      else if isControl c then none
      else literalLinesBody fuel (c :: out) rest

/-- The characters without a line end at their start. -/
def dropNewline (s : List Char) : List Char := (afterNewline? s).getD s

/-- A string with whatever quotes it has. -/
def stringToken : Scan String := fun s =>
  match s with
  | '"' :: '"' :: '"' :: rest => linesBody (rest.length + 1) [] (dropNewline rest)
  | '\'' :: '\'' :: '\'' :: rest => literalLinesBody (rest.length + 1) [] (dropNewline rest)
  | '"' :: rest => basicBody [] rest
  | '\'' :: rest => literalBody [] rest
  | _ => none

/-- One part of a key. -/
def keyPart : Scan String := fun s =>
  match s with
  | '"' :: rest => basicBody [] rest
  | '\'' :: rest => literalBody [] rest
  | _ =>
      let name := s.takeWhile isBare
      if name.isEmpty then none else some (String.ofList name, s.drop name.length)

/-- A key: parts with dots between them, and blanks around these. -/
def key : (fuel : Nat) → Scan (List String)
  | 0, _ => none
  | fuel + 1, s => do
      let (part, rest) ← keyPart (skipSpace s)
      match skipSpace rest with
      | '.' :: rest =>
          let (parts, rest) ← key fuel rest
          return (part :: parts, rest)
      | rest => return ([part], rest)

end EntityPlan.Toml
