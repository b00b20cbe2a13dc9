import EntityPlan.Failure
import EntityPlan.Proofs.Traversal
import Mathlib.Data.Nat.Find

/-! # Requirements — looked at one after another

    A run has numbered requirements, and a broken one is a failure.  A step
    enforces the requirements from `lo` up to `hi` when it fails exactly with the
    first broken one of them; steps in sequence enforce all requirements of both
    (`Enforces.bind`). -/

namespace EntityPlan

variable {α β : Type}

/-- Fails with an objection, if there is one. -/
def refuse : Option Failure → Except Failure Unit
  | some f => .error f
  | none => .ok ()

theorem refuse_eq_error_iff {o : Option Failure} {f : Failure} :
    refuse o = .error f ↔ o = some f := by
  cases o with
  | none => exact ⟨fun h => (nomatch h), fun h => (nomatch h)⟩
  | some g =>
      show Except.error g = Except.error f ↔ some g = some f
      rw [Except.error.injEq, Option.some.injEq]

theorem refuse_eq_ok_iff {o : Option Failure} {u : Unit} : refuse o = .ok u ↔ o = none := by
  cases o with
  | none => exact ⟨fun _ => rfl, fun _ => rfl⟩
  | some g => exact ⟨fun h => (nomatch h), fun h => (nomatch h)⟩

theorem ok_bind {ε : Type} (a : α) (k : α → Except ε β) : (Except.ok a >>= k) = k a := rfl

/-- A sequence of steps succeeds when both of them do. -/
theorem bind_eq_ok_iff {x : Except Failure α} {k : α → Except Failure β} {b : β} :
    x >>= k = .ok b ↔ ∃ a, x = .ok a ∧ k a = .ok b := by
  cases x with
  | error e =>
      refine ⟨fun h => (nomatch h), ?_⟩
      rintro ⟨a, ha, -⟩
      exact nomatch ha
  | ok a =>
      constructor
      · intro h
        exact ⟨a, rfl, h⟩
      · rintro ⟨a', ha, h⟩
        cases ha
        exact h

/-- A sequence of steps fails as the first of them, or else as the second. -/
theorem bind_eq_error_iff {x : Except Failure α} {k : α → Except Failure β} {f : Failure} :
    x >>= k = .error f ↔ x = .error f ∨ ∃ a, x = .ok a ∧ k a = .error f := by
  cases x with
  | error e =>
      show Except.error e = Except.error f ↔ _
      rw [Except.error.injEq, Except.error.injEq]
      refine ⟨fun h => Or.inl h, ?_⟩
      rintro (h | ⟨a, ha, -⟩)
      · exact h
      · exact nomatch ha
  | ok a =>
      constructor
      · intro h
        exact Or.inr ⟨a, rfl, h⟩
      · rintro (h | ⟨a', ha, h⟩)
        · exact nomatch h
        · cases ha
          exact h

/-- Requirement `n` of those from `lo` up to `hi` is broken, which is the failure `f`,
    and none of those before it is. -/
def BreaksFirst (broken : Nat → Failure → Prop) (lo hi n : Nat) (f : Failure) : Prop :=
  lo ≤ n ∧ n < hi ∧ broken n f ∧ ∀ m, lo ≤ m → m < n → ∀ g, ¬ broken m g

/-- The step fails exactly with the first broken requirement from `lo` up to `hi`. -/
def Enforces (broken : Nat → Failure → Prop) (lo hi : Nat) (x : Except Failure α) : Prop :=
  ∀ f, x = .error f ↔ ∃ n, BreaksFirst broken lo hi n f

variable {broken : Nat → Failure → Prop}

/-- Where some requirement is broken there is a first one. -/
theorem exists_breaksFirst {lo hi n : Nat} {f : Failure} (hlo : lo ≤ n) (hhi : n < hi)
    (h : broken n f) : ∃ m g, m ≤ n ∧ BreaksFirst broken lo hi m g := by
  classical
  have hex : ∃ m, lo ≤ m ∧ ∃ g, broken m g := ⟨n, hlo, f, h⟩
  obtain ⟨hm, g, hg⟩ := Nat.find_spec hex
  have hle : Nat.find hex ≤ n := Nat.find_min' hex ⟨hlo, f, h⟩
  refine ⟨Nat.find hex, g, hle, hm, Nat.lt_of_le_of_lt hle hhi, hg, ?_⟩
  intro k hk hlt g' hg'
  exact Nat.find_min hex hlt ⟨hk, g', hg'⟩

namespace Enforces

/-- A step with a single requirement. -/
theorem single {n : Nat} {x : Except Failure α} (h : ∀ f, x = .error f ↔ broken n f) :
    Enforces broken n (n + 1) x := by
  intro f
  rw [h f]
  constructor
  · intro hf
    exact ⟨n, Nat.le_refl n, Nat.lt_succ_self n, hf,
      fun m hm hlt => absurd hm (Nat.not_le_of_lt hlt)⟩
  · rintro ⟨m, hlo, hhi, hf, -⟩
    have hmn : m = n := by omega
    exact hmn ▸ hf

/-- A step that succeeds has no broken requirement. -/
theorem not_broken_of_ok {lo hi n : Nat} {x : Except Failure α} {a : α} {f : Failure}
    (hx : Enforces broken lo hi x) (ha : x = .ok a) (hlo : lo ≤ n) (hhi : n < hi) :
    ¬ broken n f := by
  intro h
  obtain ⟨m, g, -, hg⟩ := exists_breaksFirst hlo hhi h
  exact nomatch ha.symm.trans ((hx g).mpr ⟨m, hg⟩)

/-- Two steps enforce the requirements of the first one, then those of the second. -/
theorem bind {lo mid hi : Nat} {x : Except Failure α} {k : α → Except Failure β}
    (hlo : lo ≤ mid) (hhi : mid ≤ hi) (hx : Enforces broken lo mid x)
    (hk : ∀ a, x = .ok a → Enforces broken mid hi (k a)) :
    Enforces broken lo hi (x >>= k) := by
  intro f
  cases h : x with
  | error e =>
      obtain ⟨n, hn, hmid, he, hbefore⟩ := (hx e).mp h
      constructor
      · intro hf
        have hef : e = f := Except.error.inj hf
        exact ⟨n, hn, Nat.lt_of_lt_of_le hmid hhi, hef ▸ he, hbefore⟩
      · rintro ⟨m, hm, -, hf, hfirst⟩
        -- the broken one of the first step keeps `m` below `mid`
        have hmn : m ≤ n := Nat.le_of_not_lt fun hlt => hfirst n hn hlt e he
        have hxf : x = .error f := (hx f).mpr ⟨m, hm, Nat.lt_of_le_of_lt hmn hmid, hf, hfirst⟩
        cases h.symm.trans hxf
        rfl
  | ok a =>
      show k a = .error f ↔ _
      rw [hk a h f]
      constructor
      · rintro ⟨n, hn, hn', hf, hbefore⟩
        refine ⟨n, Nat.le_trans hlo hn, hn', hf, ?_⟩
        intro m hm hlt g
        by_cases hmid : m < mid
        · exact hx.not_broken_of_ok h hm hmid
        · exact hbefore m (Nat.le_of_not_lt hmid) hlt g
      · rintro ⟨n, hn, hn', hf, hbefore⟩
        have hmid : mid ≤ n := Nat.le_of_not_lt fun hlt => hx.not_broken_of_ok h hn hlt hf
        exact ⟨n, hmid, hn', hf, fun m hm => hbefore m (Nat.le_trans hlo hm)⟩

/-- A step succeeds exactly when none of its requirements is broken. -/
theorem exists_ok_iff {lo hi : Nat} {x : Except Failure α} (hx : Enforces broken lo hi x) :
    (∃ a, x = .ok a) ↔ ∀ n, lo ≤ n → n < hi → ∀ f, ¬ broken n f := by
  constructor
  · rintro ⟨a, ha⟩ n hlo hhi f
    exact hx.not_broken_of_ok ha hlo hhi
  · intro h
    cases hxa : x with
    | ok a => exact ⟨a, rfl⟩
    | error f =>
        obtain ⟨n, hlo, hhi, hf, -⟩ := (hx f).mp hxa
        exact absurd hf (h n hlo hhi f)

end Enforces

end EntityPlan
