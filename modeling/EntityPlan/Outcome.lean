/-! # Outcomes — what an operation leaves behind, also when it fails

    Some operations do part of their work before they fail.  Their outcome is the
    state that they leave and how they ended. -/

namespace EntityPlan

/-- The state that an operation leaves, and how it ended. -/
structure Outcome (ε σ : Type) where
  state : σ
  ending : Except ε Unit

/-- The state, if the operation did not fail. -/
def Outcome.result {ε σ : Type} (o : Outcome ε σ) : Except ε σ := o.ending.map fun _ => o.state

end EntityPlan
