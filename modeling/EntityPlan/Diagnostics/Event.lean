import EntityPlan.LogLevel

/-! # Events — what happens on the way

    An event has a level, the part of the program it comes from, a message and
    named details.  Warnings and errors among them are kept as diagnostics. -/

namespace EntityPlan

/-- Something that is logged. -/
structure Event where
  level : LogLevel
  target : String
  message : String
  details : List (String × String)
  deriving DecidableEq, Repr

/-- A warning or an error that is kept. -/
structure Diagnostic where
  level : LogLevel
  target : String
  message : String
  deriving DecidableEq, Repr

/-- The message, then the details as `name=value`, all joined by blanks. -/
def Event.text (e : Event) : String :=
  let details := e.details.map fun d => d.1 ++ "=" ++ d.2
  " ".intercalate (if e.message = "" ∧ details ≠ [] then details else e.message :: details)

/-- What is kept of an event. -/
def Event.diagnostic (e : Event) : Diagnostic := ⟨e.level, e.target, e.text⟩

/-- Warnings and errors are kept, nothing else. -/
def LogLevel.isKept (l : LogLevel) : Bool := l == .warn || l == .error

theorem LogLevel.not_isKept_of_rank_lt {l : LogLevel} (h : l.rank < LogLevel.warn.rank) :
    l.isKept = false := by
  cases l with
  | trace => rfl
  | debug => rfl
  | info => rfl
  | warn => exact absurd h (by decide)
  | error => exact absurd h (by decide)
  | off => rfl

end EntityPlan
