import EntityPlan.Path

/-! # Arguments — what the command line asks for

    An action has a name, and flags of which some take values: a value stands
    behind its flag, or attached to it with or without an equals sign, and is never
    empty.  Short flags may share a dash.  A flag of one value is given at most
    once; the flag for documents takes all values up to the next flag. -/

namespace EntityPlan

/-- What is to be done. -/
inductive Action
  | generate (documents : List Path) (out settings : Option Path)
  | check (documents : List Path) (settings : Option Path)
  | types (settings : Option Path)
  deriving DecidableEq, Repr

/-- An action, and whether it is to say more. -/
structure Invocation where
  verbose : Bool
  action : Action
  deriving DecidableEq, Repr

/-- Why the command line leads to no action. -/
inductive Stop
  | help
  | version
  /-- the arguments make no sense -/
  | usage
  deriving DecidableEq, Repr

namespace Arguments

/-- A flag that takes values. -/
inductive Slot
  | documents
  | out
  | settings
  deriving DecidableEq, Repr

/-- The values and flags read so far. -/
structure Draft where
  documents : List Path := []
  out : Option Path := none
  settings : Option Path := none
  verbose : Bool := false

/-- What the flag read last still waits for. -/
inductive Pending
  | nothing
  | one (slot : Slot)
  /-- documents, of which one at least is needed -/
  | many (some : Bool)

/-- The argument is a value and no flag. -/
def isValue (arg : String) : Bool := arg == "-" || arg.toList.head? != some '-'

/-- The draft with a value. -/
def Draft.give (d : Draft) (slot : Slot) (value : String) : Except Stop Draft :=
  if value = "" then .error .usage
  else
    match slot, d.out, d.settings with
    | .documents, _, _ => .ok { d with documents := d.documents ++ [⟨value⟩] }
    | .out, none, _ => .ok { d with out := some ⟨value⟩ }
    | .settings, _, none => .ok { d with settings := some ⟨value⟩ }
    | _, _, _ => .error .usage

/-- The draft with the flag to say more. -/
def Draft.speak (d : Draft) : Except Stop Draft :=
  if d.verbose then .error .usage else .ok { d with verbose := true }

/-- What a flag waits for that has no value attached. -/
def Slot.pending : Slot → Pending
  | .documents => .many false
  | slot => .one slot

/-- The letter of a flag. -/
def Slot.letter : Slot → Char
  | .documents => 'j'
  | .out => 'o'
  | .settings => 'c'

/-- The name of a flag. -/
def Slot.name : Slot → String
  | .documents => "jdl"
  | .out => "out-dir"
  | .settings => "config"

/-- Flags by their letters behind one dash. -/
def letters (slots : List Slot) (d : Draft) : List Char → Except Stop (Draft × Pending)
  | [] => .ok (d, .nothing)
  | c :: rest =>
      if c = 'v' then do letters slots (← d.speak) rest
      else if c = 'h' then .error .help
      else
        match slots.find? (·.letter == c), rest with
        | none, _ => .error .usage
        | some slot, [] => .ok (d, slot.pending)
        | some slot, '=' :: value => do return (← d.give slot (String.ofList value), .nothing)
        | some slot, value => do return (← d.give slot (String.ofList value), .nothing)

/-- A flag by its name behind two dashes, perhaps with a value attached. -/
def named (slots : List Slot) (d : Draft) (flag : List Char) : Except Stop (Draft × Pending) :=
  let name := flag.takeWhile (· ≠ '=')
  let value := (flag.drop name.length).tail?
  if String.ofList name = "verbose" ∧ value.isNone then do return (← d.speak, .nothing)
  else if String.ofList name = "help" ∧ value.isNone then .error .help
  else
    match slots.find? (·.name == String.ofList name), value with
    | none, _ => .error .usage
    | some slot, none => .ok (d, slot.pending)
    | some slot, some value => do return (← d.give slot (String.ofList value), .nothing)

/-- The arguments of an action. -/
def ofAction (slots : List Slot) : Pending → Draft → List String → Except Stop Draft
  | .one _, _, [] => .error .usage
  | .many false, _, [] => .error .usage
  | _, d, [] => .ok d
  | pending, d, arg :: rest =>
      if isValue arg then
        match pending with
        | .one slot => do ofAction slots .nothing (← d.give slot arg) rest
        | .many _ => do ofAction slots (.many true) (← d.give .documents arg) rest
        | .nothing => .error .usage
      else
        match pending with
        | .one _ => .error .usage
        | .many false => .error .usage
        | _ =>
            if arg = "--" then if rest.isEmpty then .ok d else .error .usage
            else
              match arg.toList with
              | '-' :: '-' :: flag => do
                  let (d, pending) ← named slots d flag
                  ofAction slots pending d rest
              | cs => do
                  let (d, pending) ← letters slots d (cs.drop 1)
                  ofAction slots pending d rest

/-- The flags of each action that take values, and the action that they make. -/
def actions : List (String × List Slot × (Draft → Action)) :=
  [ ("generate", [.documents, .out, .settings],
      fun d => .generate d.documents d.out d.settings),
    ("check", [.documents, .settings], fun d => .check d.documents d.settings),
    ("types", [.settings], fun d => .types d.settings) ]

/-- The letters of flags before the action. -/
def leading (verbose : Bool) : List Char → Except Stop Bool
  | [] => .ok verbose
  | 'v' :: rest => if verbose then .error .usage else leading true rest
  | 'V' :: _ => .error .version
  | 'h' :: _ => .error .help
  | _ => .error .usage

/-- What the arguments ask for. -/
def parse (verbose : Bool) : List String → Except Stop Invocation
  | [] => .error .usage
  | arg :: rest =>
      if isValue arg then
        match actions.lookup arg with
        | some (slots, action) => do
            let d ← ofAction slots .nothing {} rest
            return ⟨verbose || d.verbose, action d⟩
        | none =>
            if arg = "help" ∧ rest.all fun name => (actions.lookup name).isSome then .error .help
            else .error .usage
      else if arg = "--verbose" then if verbose then .error .usage else parse true rest
      else if arg = "--version" then .error .version
      else if arg = "--help" then .error .help
      else
        match arg.toList with
        | '-' :: '-' :: _ => .error .usage
        | cs => do parse (← leading verbose (cs.drop 1)) rest

end Arguments

end EntityPlan
