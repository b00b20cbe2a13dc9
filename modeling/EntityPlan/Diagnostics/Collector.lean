import EntityPlan.Diagnostics.Event

/-! # Collectors — diagnostics in the order of their arrival -/

namespace EntityPlan

/-- The diagnostics kept since the last clearing. -/
structure Collector where
  entries : List Diagnostic
  deriving DecidableEq, Repr

namespace Collector

/-- The collector without entries. -/
def empty : Collector := ⟨[]⟩

/-- Keeps a warning or an error; anything else is ignored. -/
def record (c : Collector) (d : Diagnostic) : Collector :=
  if d.level.isKept then ⟨c.entries ++ [d]⟩ else c

/-- Takes in an event: below a warning it is left at once, and its text is not put together. -/
def capture (c : Collector) (e : Event) : Collector :=
  if e.level.rank < LogLevel.warn.rank then c else c.record e.diagnostic

/-- The number of entries of a level. -/
def count (c : Collector) (l : LogLevel) : Nat := c.entries.countP (·.level == l)

def warningCount (c : Collector) : Nat := c.count .warn

def errorCount (c : Collector) : Nat := c.count .error

theorem entries_record (c : Collector) (d : Diagnostic) :
    (c.record d).entries = c.entries ++ if d.level.isKept then [d] else [] := by
  unfold record
  cases d.level.isKept with
  | false => exact (List.append_nil _).symm
  | true => rfl

/-- What is left at once would not have been kept either. -/
theorem capture_eq_record (c : Collector) (e : Event) : c.capture e = c.record e.diagnostic := by
  unfold capture
  split
  · next hbelow =>
      have hlost : e.diagnostic.level.isKept = false := LogLevel.not_isKept_of_rank_lt hbelow
      rw [record, hlost]
      rfl
  · rfl

end Collector

end EntityPlan
