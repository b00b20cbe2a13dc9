import EntityPlan.Diagnostics.Collector
import EntityPlan.Outcome

/-! # Logging — a level that can be switched, and what it lets through

    Logging is installed once, at a level, and switched to other levels later.  A call
    to switch it hands the level to the keeper of the filter first, who may refuse it,
    and stores it afterwards; what the call leaves behind belongs to its outcome.  An
    event is kept when the filter then active admits it.  Before logging is installed
    there is no filter: nothing passes and no level can be set. -/

namespace EntityPlan

/-- The handle on the active level. -/
structure LevelHandle where
  /-- the level of the installed filter -/
  filter : Option LogLevel
  /-- the byte of the level last set -/
  stored : UInt8
  deriving DecidableEq, Repr

namespace LevelHandle

/-- The handle of a logging that was not installed. -/
def fresh : LevelHandle := ⟨none, LogLevel.info.byte⟩

def isInstalled (h : LevelHandle) : Bool := h.filter.isSome

/-- The level last set. -/
def level (h : LevelHandle) : LogLevel := .ofByte h.stored

/-- Stores a level as the one last set. -/
def store (h : LevelHandle) (l : LogLevel) : LevelHandle := { h with stored := l.byte }

/-- Hands a level to the keeper of the filter, who may have a reason to refuse it. -/
def setFilter (h : LevelHandle) (refusal : Option String) (l : LogLevel) :
    Outcome Failure LevelHandle :=
  match refusal with
  | some reason => ⟨h, .error (.settings (.stated ("failed to reload log level: " ++ reason)))⟩
  | none => ⟨{ h with filter := some l }, .ok ()⟩

/-- Switches the installed filter to a level, unless its keeper refuses, and stores the level. -/
def reloadUnless (h : LevelHandle) (refusal : Option String) (l : LogLevel) :
    Outcome Failure LevelHandle :=
  match h.filter with
  | none => ⟨h, .error (.settings .notInstalled)⟩
  | some _ =>
      let filtered := h.setFilter refusal l
      match filtered.ending with
      | .error f => ⟨filtered.state, .error f⟩
      | .ok () => ⟨filtered.state.store l, .ok ()⟩

/-- The handle switched to a level that nobody refuses, if there is a filter. -/
def reload (h : LevelHandle) (l : LogLevel) : Except Failure LevelHandle :=
  (h.reloadUnless none l).result

/-- Installs a filter, unless there is one; the answer says whether it was done. -/
def install (h : LevelHandle) (l : LogLevel) : LevelHandle × Bool :=
  match h.filter with
  | none => ({ h with filter := some l }.store l, true)
  | some _ => (h, false)

/-- The event passes the installed filter. -/
def admits (h : LevelHandle) (event : LogLevel) : Bool :=
  match h.filter with
  | none => false
  | some l => l.admits event

@[simp] theorem level_store (h : LevelHandle) (l : LogLevel) : (h.store l).level = l :=
  LogLevel.ofByte_byte l

end LevelHandle

/-- The handle and the diagnostics of a program. -/
structure Logging where
  handle : LevelHandle
  collector : Collector
  deriving DecidableEq, Repr

namespace Logging

/-- Logging installed at a level, nothing collected. -/
def installed (l : LogLevel) : Logging := ⟨(LevelHandle.fresh.install l).1, .empty⟩

/-- Logs an event. -/
def emit (g : Logging) (e : Event) : Logging :=
  if g.handle.admits e.level then { g with collector := g.collector.capture e } else g

/-- Logs events one after another. -/
def emitAll (g : Logging) (events : List Event) : Logging := events.foldl emit g

/-- Forgets the diagnostics. -/
def clear (g : Logging) : Logging := { g with collector := .empty }

@[simp] theorem level_installed (l : LogLevel) : (installed l).handle.level = l :=
  LevelHandle.level_store _ l

theorem filter_installed (l : LogLevel) :
    (installed l).handle.filter = some (installed l).handle.level := by
  rw [level_installed]
  rfl

theorem handle_emit (g : Logging) (e : Event) : (g.emit e).handle = g.handle := by
  unfold emit
  split <;> rfl

theorem entries_emit (g : Logging) (e : Event) :
    (g.emit e).collector.entries = g.collector.entries ++
      if g.handle.admits e.level && e.level.isKept then [e.diagnostic] else [] := by
  unfold emit
  cases g.handle.admits e.level with
  | false => exact (List.append_nil _).symm
  | true =>
      show (g.collector.capture e).entries = _ ++ if e.level.isKept then [e.diagnostic] else []
      rw [Collector.capture_eq_record, Collector.entries_record]
      rfl

/-- What is admitted and kept is there behind what was there before, in order. -/
theorem entries_emitAll (g : Logging) (events : List Event) :
    (g.emitAll events).collector.entries = g.collector.entries ++
      (events.filter fun e => g.handle.admits e.level && e.level.isKept).map Event.diagnostic := by
  induction events generalizing g with
  | nil => exact (List.append_nil _).symm
  | cons e rest ih =>
      show ((g.emit e).emitAll rest).collector.entries = _
      rw [ih, entries_emit, handle_emit, List.append_assoc, List.filter_cons]
      cases g.handle.admits e.level && e.level.isKept <;> rfl

end Logging

end EntityPlan
