import EntityPlan.Failure

/-! # Log levels — from everything to nothing

    A level is known by its name in any ASCII case, and by its rank, which fits into a
    byte. -/

namespace EntityPlan

/-- How much is logged. -/
inductive LogLevel
  | trace
  | debug
  | info
  | warn
  | error
  | off
  deriving DecidableEq, Repr

namespace LogLevel

/-- The rank of a level; the higher, the less is logged. -/
def rank : LogLevel → Nat
  | .trace => 0
  | .debug => 1
  | .info => 2
  | .warn => 3
  | .error => 4
  | .off => 5

/-- The level of a rank; beyond the last one everything is off. -/
def ofRank : Nat → LogLevel
  | 0 => .trace
  | 1 => .debug
  | 2 => .info
  | 3 => .warn
  | 4 => .error
  | _ => .off

/-- The rank as a byte. -/
def byte (l : LogLevel) : UInt8 := .ofNat l.rank

/-- The level of a byte. -/
def ofByte (b : UInt8) : LogLevel := ofRank b.toNat

/-- The name of a level. -/
def name : LogLevel → String
  | .trace => "TRACE"
  | .debug => "DEBUG"
  | .info => "INFO"
  | .warn => "WARN"
  | .error => "ERROR"
  | .off => "OFF"

/-- A text with its ASCII letters in lower case. -/
def asciiLower (s : String) : String := String.ofList (s.toList.map Char.toLower)

/-- The spellings of the levels, in lower case. -/
def spellings : List (String × LogLevel) :=
  [("trace", .trace), ("debug", .debug), ("info", .info), ("warn", .warn), ("warning", .warn),
    ("error", .error), ("off", .off)]

/-- The level of this name, in any ASCII case. -/
def ofName (s : String) : Except Failure LogLevel :=
  match spellings.lookup (asciiLower s) with
  | some level => .ok level
  | none => .error (.settings (.unknownLevel (asciiLower s)))

/-- A rank stands for its level. -/
theorem ofRank_rank (l : LogLevel) : ofRank l.rank = l := by cases l <;> rfl

theorem rank_lt (l : LogLevel) : l.rank < UInt8.size := by cases l <;> decide

/-- No rank is cut off by its byte. -/
@[simp] theorem ofByte_byte (l : LogLevel) : ofByte l.byte = l := by
  show ofRank (UInt8.ofNat l.rank).toNat = l
  rw [UInt8.toNat_ofNat_of_lt' l.rank_lt, ofRank_rank]

/-- Events of level `event` pass a filter set to this level. -/
def admits (filter event : LogLevel) : Bool :=
  decide (filter.rank ≤ event.rank) && event != .off

end LogLevel

end EntityPlan
