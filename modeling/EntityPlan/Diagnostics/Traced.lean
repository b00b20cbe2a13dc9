import EntityPlan.Diagnostics.Event

/-! # Traced answers — a result with the events on the way to it

    A traced answer is a result or a failure, together with the events up to
    there.  Later steps add their events behind those of earlier ones, and after a
    failure there are no later steps. -/

namespace EntityPlan

/-- A result or a failure, and the events on the way. -/
structure Traced (α : Type) where
  answer : Except Failure α
  events : List Event

namespace Traced

variable {α β : Type}

/-- A result without events. -/
protected def pure (a : α) : Traced α := ⟨.ok a, []⟩

/-- A step after a step. -/
protected def bind (t : Traced α) (f : α → Traced β) : Traced β :=
  match t.answer with
  | .ok a => ⟨(f a).answer, t.events ++ (f a).events⟩
  | .error e => ⟨.error e, t.events⟩

instance : Monad Traced where
  pure := Traced.pure
  bind := Traced.bind

/-- A result or a failure without events. -/
def ofExcept (r : Except Failure α) : Traced α := ⟨r, []⟩

/-- A failure without events. -/
def fail (f : Failure) : Traced α := ⟨.error f, []⟩

/-- One event. -/
def log (e : Event) : Traced Unit := ⟨.ok (), [e]⟩

/-- Several events. -/
def logAll (events : List Event) : Traced Unit := ⟨.ok (), events⟩

/-- A step for each element in order, up to the first failure. -/
def each (f : α → Traced β) : List α → Traced (List β)
  | [] => Traced.pure []
  | a :: rest => (f a).bind fun b => (each f rest).bind fun bs => Traced.pure (b :: bs)

@[simp] theorem answer_pure (a : α) : (pure a : Traced α).answer = .ok a := rfl

@[simp] theorem events_pure (a : α) : (pure a : Traced α).events = [] := rfl

/-- The answers of two steps, as those of results alone. -/
@[simp] theorem answer_bind (t : Traced α) (f : α → Traced β) :
    (t >>= f).answer = t.answer >>= fun a => (f a).answer := by
  obtain ⟨answer, events⟩ := t
  cases answer <;> rfl

end Traced

end EntityPlan
