import EntityPlan.Proofs.Decoding
import EntityPlan.Proofs.Merging
import EntityPlan.Source.Reading

/-! # Reading — what every record that is read satisfies

    A reader yields a property when whatever it reads has it, wherever it starts.
    The start of a record has the property and each of its members keeps it, so the
    record that is read has it, whether it is written as an object or as a list.

    No key is in a collection twice, so a document that is read is well keyed
    (`Source.Document.wellKeyed_of_ofText`). -/

namespace EntityPlan

namespace Json.Reader

variable {α β ρ σ : Type}

/-- Whatever the reader reads has the property. -/
def Yields (r : Reader α) (P : α → Prop) : Prop :=
  ∀ s a rest, r s = .ok (a, rest) → P a

namespace Yields

variable {r r' : Reader α} {k : α → Reader β} {P : α → Prop} {Q : β → Prop}

theorem bind (hr : r.Yields P) (hk : ∀ a, P a → (k a).Yields Q) : (r >>= k).Yields Q := by
  intro s b rest h
  change (r s).bind (fun x => k x.1 x.2) = _ at h
  cases hrs : r s with
  | error p =>
      rw [hrs] at h
      exact nomatch h
  | ok x =>
      rw [hrs] at h
      exact hk x.1 (hr s x.1 x.2 hrs) x.2 b rest h

theorem anything (r : Reader α) : r.Yields fun _ => True := fun _ _ _ _ => trivial

/-- Nothing need be known of what was read before. -/
theorem after (hk : ∀ a, (k a).Yields Q) : (r >>= k).Yields Q :=
  (anything r).bind fun a _ => hk a

theorem pure {a : α} (h : P a) : (Pure.pure a : Reader α).Yields P := by
  rintro s b rest hb
  cases hb
  exact h

theorem ite {c : Prop} [Decidable c] (hr : r.Yields P) (hr' : r'.Yields P) :
    (if c then r else r').Yields P := by
  split
  · exact hr
  · exact hr'

/-- A reader that fails reads nothing. -/
theorem throw (p : Problem) : (MonadExcept.throw p : Reader α).Yields P :=
  fun _ _ _ h => nomatch h

theorem breach : (Reader.breach : Reader α).Yields P := fun _ _ _ h => nomatch h

/-- What needs no text is read without any. -/
theorem lift {x : Except Problem α} (h : ∀ a, x = .ok a → P a) :
    (liftM x : Reader α).Yields P := by
  intro s a rest hrun
  cases hx : x with
  | error p =>
      rw [hx] at hrun
      exact nomatch hrun
  | ok b =>
      rw [hx] at hrun
      cases hrun
      exact h _ hx

/-- Whatever stands where another value is wanted, a refusal reads nothing. -/
theorem refuse (wanted : String) : (Reader.refuse wanted : Reader α).Yields P := by
  unfold Reader.refuse
  refine .after fun c => ?_
  cases c with
  | none => exact .breach
  | some c =>
      refine .ite (.after fun _ => .throw _) ?_ -- null
      refine .ite (.after fun _ => .throw _) (.ite (.after fun _ => .throw _) ?_) -- true, false
      refine .ite (.after fun _ => .after fun _ => .throw _) ?_ -- a text
      refine .ite (.after fun n => ?_) (.ite (.throw _) (.ite (.throw _) .breach))
      cases n <;> exact .throw _

end Yields

/-! ## Objects and records -/

/-- What the start of an object has and every member keeps, the object has at its end. -/
theorem members_yields {P : σ → Prop} {step : σ → String → Reader σ}
    (hstep : ∀ acc key, P acc → (step acc key).Yields P) (fuel : Nat) (first : Bool) {acc : σ}
    (hacc : P acc) : (members step fuel first acc).Yields P := by
  induction fuel generalizing first acc with
  | zero => exact .breach
  | succ fuel ih =>
      unfold members
      refine .after fun c => ?_
      cases c with
      | none => exact .breach
      | some c =>
          have hnext : ∀ key, (step acc key >>= members step fuel false).Yields P :=
            fun key => (hstep acc key hacc).bind fun acc' => ih false
          refine .ite (.after fun _ => .pure hacc) (.ite ?_ ?_)
          · exact .after fun _ => .after fun _ => .after hnext
          · exact .after fun _ => .after hnext

theorem object_yields {P : σ → Prop} {step : σ → String → Reader σ} {start : σ}
    (hstep : ∀ acc key, P acc → (step acc key).Yields P) (hstart : P start) :
    (object step start).Yields P :=
  .after fun _ => members_yields hstep _ true hstart

/-- Whatever value the member has, a record with the property has it still. -/
def Member.Keeps (P : ρ → Prop) (f : Member ρ) : Prop :=
  ∀ levels, (f.take levels).Yields fun set => ∀ r, P r → P (set r)

theorem member_keeps {P : ρ → Prop} {Q : α → Prop} {name : String} {r : Nested α}
    {set : α → ρ → ρ} (hr : ∀ levels, (r levels).Yields Q)
    (hset : ∀ a r, Q a → P r → P (set a r)) : (member name r set).Keeps P :=
  fun levels => (hr levels).bind fun a ha => .pure fun r => hset a r ha

variable {known : List (Member ρ)} {P : ρ → Prop}

theorem positional_yields (hknown : ∀ f ∈ known, f.Keeps P) (levels : Nat) (first : Bool) {r : ρ}
    (hr : P r) : (positional levels known first r).Yields P := by
  induction known generalizing first r with
  | nil => exact .after fun _ => .pure hr
  | cons f rest ih =>
      unfold positional
      have hnext : (f.take levels >>= fun set => positional levels rest false (set r)).Yields P :=
        (hknown f List.mem_cons_self levels).bind fun set hset =>
          ih (fun g hg => hknown g (List.mem_cons_of_mem f hg)) false (hset r hr)
      refine .after fun c => .ite (.after fun _ => .pure hr) (.ite ?_ hnext)
      exact .after fun _ => hnext

/-- What the start has and every member keeps, the record that is read has. -/
theorem record_yields {name : String} {start : ρ} (hknown : ∀ f ∈ known, f.Keeps P)
    (hstart : P start) (levels : Nat) : (record name known start levels).Yields P := by
  unfold record
  refine .after fun c => ?_
  split
  · exact .breach
  · exact .breach
  · exact .after fun _ => positional_yields hknown _ true hstart
  · refine .after fun _ => .bind (P := fun x => P x.1) (object_yields ?_ hstart) fun x => .pure
    rintro ⟨r, seen⟩ key hr
    cases hfind : known.find? (·.name == key) with
    | none => exact .after fun _ => .after fun _ => .pure hr
    | some f =>
        have hnext : ∀ inner, (mark ':' >>= fun _ => f.take inner >>= fun set =>
            Pure.pure (set r, key :: seen)).Yields fun x => P x.1 :=
          fun inner => .after fun _ => (hknown f (List.mem_of_find?_eq_some hfind) inner).bind
            fun set hset => .pure (hset r hr)
        exact .ite (.after fun _ => hnext _) (hnext _)
  · exact .refuse _

theorem gathered_yields {Q : β → Prop} {wanted : String} {item : Nested α}
    {gather : List (String × Except Problem α) → Except Problem β}
    (h : ∀ members b, gather members = .ok b → Q b) (levels : Nat) :
    (gathered wanted item gather levels).Yields Q := by
  unfold gathered
  refine .after fun c => .ite ?_ (.refuse _)
  cases levels with
  | zero => exact .breach
  | succ inner =>
      refine .after fun _ => .after fun s => ?_
      refine .bind (.lift (h _)) fun b hb => ?_
      exact .after fun _ => .after fun _ => .pure hb

/-- A whole text that is read has what its reader yields. -/
theorem of_whole {r : Nested α} {Q : α → Prop} {s : String} {a : α}
    (hr : ∀ levels, (r levels).Yields Q) (h : whole r s = .ok a) : Q a := by
  unfold whole at h
  cases hrun : (r depthLimit).run s.toList with
  | error p =>
      rw [hrun] at h
      exact nomatch h
  | ok x =>
      rw [hrun] at h
      dsimp only [Bind.bind, Except.bind] at h
      split at h
      · cases h
        exact hr depthLimit s.toList x.1 x.2 hrun
      · exact nomatch h

end Json.Reader

namespace Source

open Json.Reader

variable {α : Type}

/-- No key is twice in a collection that is read. -/
theorem Collection.read_yields (item : Nested α) (levels : Nat) :
    (Collection.read item levels).Yields fun c => c.names.Nodup :=
  gathered_yields (fun _ _ h => (Collection.ofMembers_eq_ok_iff.mp h).2) levels

namespace Document

theorem read_yields (levels : Nat) : (Document.read levels).Yields WellKeyed := by
  refine record_yields ?_ ⟨List.nodup_nil, List.nodup_nil⟩ levels
  refine List.forall_mem_cons.mpr ⟨?entities, List.forall_mem_cons.mpr
    ⟨?applications, List.forall_mem_singleton.mpr ?relationships⟩⟩
  case entities =>
    exact member_keeps (Collection.read_yields _) fun a d ha hd => ⟨ha, hd.applications⟩
  case applications =>
    exact member_keeps (Collection.read_yields _) fun a d ha hd => ⟨hd.entities, ha⟩
  case relationships =>
    exact member_keeps (fun _ => .anything _) fun a d _ hd => ⟨hd.entities, hd.applications⟩

/-- A document that is read is well keyed. -/
theorem wellKeyed_of_ofText {path text : String} {d : Document}
    (h : Document.ofText path text = .ok d) : d.WellKeyed := by
  unfold Document.ofText Source.ofText at h
  split at h
  · next hwhole =>
    cases h
    exact of_whole read_yields hwhole
  · exact nomatch h

end Document

end Source

end EntityPlan
