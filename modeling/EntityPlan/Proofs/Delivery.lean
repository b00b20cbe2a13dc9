import EntityPlan.Proofs.Reading

/-! # Delivery — what stands in a text is what a document holds

    One reader follows another when, on any text, both read equally far and what they read
    is related.  A reader of documents is followed by one that leaves the two objects of
    a document as they were delivered, member by member.  So a document that is read holds
    each member of its objects, in the order of the text, and no key twice
    (`Source.Collection.members_decode_in_order`). -/

namespace EntityPlan

namespace Json.Reader

variable {α β α' β' γ ρ ρ' σ σ' : Type}

/-- Whatever the first reader reads, the second one reads something from the same text that
    is related to it, and both leave the same text behind. -/
def Follows (r : Reader α) (r' : Reader α') (R : α → α' → Prop) : Prop :=
  ∀ s a rest, r s = .ok (a, rest) → ∃ a', r' s = .ok (a', rest) ∧ R a a'

namespace Follows

variable {r : Reader α} {r' : Reader α'} {k : α → Reader β} {k' : α' → Reader β'}
  {R : α → α' → Prop} {S : β → β' → Prop}

theorem bind (hr : r.Follows r' R) (hk : ∀ a a', R a a' → (k a).Follows (k' a') S) :
    (r >>= k).Follows (r' >>= k') S := by
  intro s b rest h
  change (r s).bind (fun x => k x.1 x.2) = _ at h
  show ∃ b', (r' s).bind (fun x => k' x.1 x.2) = _ ∧ _
  cases hrs : r s with
  | error p =>
      rw [hrs] at h
      exact nomatch h
  | ok x =>
      rw [hrs] at h
      obtain ⟨a', ha', hR⟩ := hr s x.1 x.2 hrs
      rw [ha']
      exact hk x.1 a' hR x.2 b rest h

theorem refl (r : Reader α) : r.Follows r Eq := fun _ a _ h => ⟨a, h, rfl⟩

/-- Both go on from what the same reader has read. -/
theorem same {x : Reader γ} {k : γ → Reader β} {k' : γ → Reader β'}
    (hk : ∀ c, (k c).Follows (k' c) S) : (x >>= k).Follows (x >>= k') S :=
  (refl x).bind fun c _ hc => hc ▸ hk c

theorem pure {a : α} {a' : α'} (h : R a a') :
    (Pure.pure a : Reader α).Follows (Pure.pure a') R := by
  rintro s b rest hb
  cases hb
  exact ⟨a', rfl, h⟩

theorem ite {c : Prop} [Decidable c] {q : Reader α} {q' : Reader α'}
    (hr : r.Follows r' R) (hq : q.Follows q' R) :
    (if c then r else q).Follows (if c then r' else q') R := by
  split
  · exact hr
  · exact hq

theorem breach : (Reader.breach : Reader α).Follows r' R := fun _ _ _ h => nomatch h

theorem throw (p : Problem) : (MonadExcept.throw p : Reader α).Follows r' R :=
  fun _ _ _ h => nomatch h

theorem refuse (wanted : String) : (Reader.refuse wanted : Reader α).Follows r' R := by
  intro s a rest h
  exact (Yields.refuse (P := fun _ => False) wanted s a rest h).elim

/-- What needs no text is read without any. -/
theorem lift {x : Except Problem α} {x' : Except Problem α'}
    (h : ∀ a, x = .ok a → ∃ a', x' = .ok a' ∧ R a a') :
    (liftM x : Reader α).Follows (liftM x') R := by
  intro s a rest hrun
  cases hx : x with
  | error p =>
      rw [hx] at hrun
      exact nomatch hrun
  | ok b =>
      rw [hx] at hrun
      cases hrun
      obtain ⟨a', rfl, hR⟩ := h a hx
      exact ⟨a', rfl, hR⟩

end Follows

/-! ## Objects and records -/

/-- Members are taken up under the same keys, so readers of the values that follow one another
    are enough. -/
theorem members_follows {R : σ → σ' → Prop} {step : σ → String → Reader σ}
    {step' : σ' → String → Reader σ'}
    (hstep : ∀ acc acc' key, R acc acc' → (step acc key).Follows (step' acc' key) R)
    (fuel : Nat) (first : Bool) {acc : σ} {acc' : σ'} (hacc : R acc acc') :
    (members step fuel first acc).Follows (members step' fuel first acc') R := by
  -- both loops look at the same character; only what is accumulated is related, not equal
  induction fuel generalizing first acc acc' with
  | zero => exact .breach
  | succ fuel ih =>
      unfold members
      refine .same fun c => ?_
      cases c with
      | none => exact .breach
      | some c =>
          have hnext : ∀ key, (step acc key >>= members step fuel false).Follows
              (step' acc' key >>= members step' fuel false) R :=
            fun key => (hstep acc acc' key hacc).bind fun _ _ h => ih false h
          refine .ite (.same fun _ => .pure hacc) (.ite ?_ ?_)
          · exact .same fun _ => .same fun _ => .same hnext
          · exact .same fun _ => .same hnext

theorem object_follows {R : σ → σ' → Prop} {step : σ → String → Reader σ}
    {step' : σ' → String → Reader σ'} {start : σ} {start' : σ'}
    (hstep : ∀ acc acc' key, R acc acc' → (step acc key).Follows (step' acc' key) R)
    (hstart : R start start') : (object step start).Follows (object step' start') R :=
  .same fun _ => members_follows hstep _ true hstart

/-- The two members are of one name, and taking up their values keeps records related. -/
structure Member.Follows (R : ρ → ρ' → Prop) (f : Member ρ) (f' : Member ρ') : Prop where
  name : f.name = f'.name
  take : ∀ levels, (f.take levels).Follows (f'.take levels)
    fun set set' => ∀ r r', R r r' → R (set r) (set' r')

theorem member_follows {R : ρ → ρ' → Prop} {Q : α → α' → Prop} {name : String} {r : Nested α}
    {r' : Nested α'} {set : α → ρ → ρ} {set' : α' → ρ' → ρ'}
    (hr : ∀ levels, (r levels).Follows (r' levels) Q)
    (hset : ∀ a a' x x', Q a a' → R x x' → R (set a x) (set' a' x')) :
    (member name r set).Follows R (member name r' set') where
  name := rfl
  take levels := (hr levels).bind fun a a' ha => .pure fun x x' => hset a a' x x' ha

variable {known : List (Member ρ)} {known' : List (Member ρ')} {R : ρ → ρ' → Prop}

/-- A name finds members that follow one another, or none on either side. -/
theorem find?_follows (h : List.Forall₂ (Member.Follows R) known known') (key : String) :
    known.find? (·.name == key) = none ∧ known'.find? (·.name == key) = none ∨
      ∃ f f', known.find? (·.name == key) = some f ∧ known'.find? (·.name == key) = some f' ∧
        f.Follows R f' := by
  induction h with
  | nil => exact Or.inl ⟨rfl, rfl⟩
  | @cons f f' _ _ hf _ ih =>
      rw [List.find?_cons, List.find?_cons, ← hf.name]
      cases f.name == key with
      | true => exact Or.inr ⟨f, f', rfl, rfl, hf⟩
      | false => exact ih

theorem positional_follows (h : List.Forall₂ (Member.Follows R) known known') (levels : Nat)
    (first : Bool) {r : ρ} {r' : ρ'} (hr : R r r') :
    (positional levels known first r).Follows (positional levels known' first r') R := by
  induction h generalizing first r r' with
  | nil => exact .same fun _ => .pure hr
  | @cons f f' rest rest' hf _ ih =>
      unfold positional
      have hnext : (f.take levels >>= fun set => positional levels rest false (set r)).Follows
          (f'.take levels >>= fun set => positional levels rest' false (set r')) R :=
        (hf.take levels).bind fun set set' hset => ih false (hset r r' hr)
      refine .same fun c => .ite (.same fun _ => .pure hr) (.ite ?_ hnext)
      exact .same fun _ => hnext

/-- Records of members that follow one another follow one another. -/
theorem record_follows (name : String) {start : ρ} {start' : ρ'}
    (h : List.Forall₂ (Member.Follows R) known known') (hstart : R start start') (levels : Nat) :
    (record name known start levels).Follows (record name known' start' levels) R := by
  unfold record
  refine .same fun c => ?_
  split
  · exact .breach
  · exact .breach
  · exact .same fun _ => positional_follows h _ true hstart
  · -- the keys seen so far are the same on both sides
    let Same : ρ × List String → ρ' × List String → Prop := fun x x' => R x.1 x'.1 ∧ x.2 = x'.2
    refine .same fun _ => .bind (R := Same) (object_follows ?_ ⟨hstart, rfl⟩)
      fun x x' hx => .pure hx.1
    rintro ⟨r, seen⟩ ⟨r', _⟩ key ⟨hr, rfl⟩
    rcases find?_follows h key with ⟨hnone, hnone'⟩ | ⟨f, f', hf, hf', hff'⟩
    · simp only [hnone, hnone']
      exact .same fun _ => .same fun _ => .pure ⟨hr, rfl⟩
    · simp only [hf, hf']
      have hnext : ∀ inner, (mark ':' >>= fun _ => f.take inner >>= fun set =>
          Pure.pure (set r, key :: seen)).Follows (mark ':' >>= fun _ => f'.take inner >>=
            fun set => Pure.pure (set r', key :: seen)) Same :=
        fun inner => .same fun _ => (hff'.take inner).bind
          fun set set' hset => .pure ⟨hset r r' hr, rfl⟩
      exact .ite (.throw _) (hnext _)
  · exact .refuse _

/-- Objects are gathered from the same delivery. -/
theorem gathered_follows {Q : β → β' → Prop} (wanted : String) (item : Nested α)
    {gather : List (String × Except Problem α) → Except Problem β}
    {gather' : List (String × Except Problem α) → Except Problem β'}
    (h : ∀ ms b, gather ms = .ok b → ∃ b', gather' ms = .ok b' ∧ Q b b') (levels : Nat) :
    (gathered wanted item gather levels).Follows (gathered wanted item gather' levels) Q := by
  unfold gathered
  refine .same fun c => .ite ?_ (.refuse _)
  cases levels with
  | zero => exact .breach
  | succ inner =>
      refine .same fun _ => .same fun s => ?_
      refine .bind (.lift (h _)) fun b b' hb => ?_
      exact .same fun _ => .same fun _ => .pure hb

/-- A whole text is read by both readers when the first one reads it. -/
theorem whole_follows {r : Nested α} {r' : Nested α'} {Q : α → α' → Prop} {s : String} {a : α}
    (hr : ∀ levels, (r levels).Follows (r' levels) Q) (h : whole r s = .ok a) :
    ∃ a', whole r' s = .ok a' ∧ Q a a' := by
  unfold whole at h ⊢
  cases hrun : (r depthLimit).run s.toList with
  | error p =>
      rw [hrun] at h
      exact nomatch h
  | ok x =>
      obtain ⟨a', ha', hQ⟩ := hr depthLimit s.toList x.1 x.2 hrun
      have hrun' : (r' depthLimit).run s.toList = .ok (a', x.2) := ha'
      rw [hrun] at h
      rw [hrun']
      dsimp only [Bind.bind, Except.bind] at h ⊢
      split at h
      · next hrest =>
        cases h
        rw [if_pos hrest]
        exact ⟨a', rfl, hQ⟩
      · exact nomatch h

end Json.Reader

namespace Source

open Json.Reader

/-- A document of which the two objects are left as they were delivered. -/
structure Delivered where
  entities : List (String × Except Problem EntityRecord) := []
  applications : List (String × Except Problem ApplicationRecord) := []
  relationships : List RelationshipRecord := []

namespace Delivered

/-- Reads a document without looking at the keys in its objects. -/
def read : Nested Delivered :=
  record "RawJdl"
    [ member "entities" (gathered "a map of name to record" EntityRecord.read .ok)
        fun a r => { r with entities := a },
      member "applications" (gathered "a map of name to record" ApplicationRecord.read .ok)
        fun a r => { r with applications := a },
      member "relationships" (sequence RelationshipRecord.read)
        fun a r => { r with relationships := a } ] {}

/-- The document holds what was delivered, all of it and in its order. -/
structure HeldBy (w : Delivered) (d : Document) : Prop where
  entities : w.entities = d.entities.members
  applications : w.applications = d.applications.members
  relationships : w.relationships = d.relationships

theorem collection_follows {α : Type} (item : Nested α) (levels : Nat) :
    (Collection.read item levels).Follows
      (gathered "a map of name to record" item .ok levels) fun c ms => ms = c.members := by
  refine gathered_follows _ item ?_ levels
  intro ms c h
  exact ⟨ms, rfl, (Collection.ofMembers_eq_ok_iff.mp h).1⟩

theorem document_follows (levels : Nat) :
    (Document.read levels).Follows (Delivered.read levels) fun d w => w.HeldBy d := by
  refine record_follows "RawJdl" (.cons ?entities (.cons ?applications (.cons ?relationships .nil)))
    ⟨rfl, rfl, rfl⟩ levels
  case entities =>
    exact member_follows (collection_follows _) fun _ _ _ _ ha h =>
      ⟨ha, h.applications, h.relationships⟩
  case applications =>
    exact member_follows (collection_follows _) fun _ _ _ _ ha h =>
      ⟨h.entities, ha, h.relationships⟩
  case relationships =>
    exact member_follows (fun _ => .refl _) fun _ _ _ _ ha h =>
      ⟨h.entities, h.applications, ha.symm⟩

/-- What a text holds that is read as a document. -/
theorem heldBy_of_ofText {path text : String} {d : Document}
    (h : Document.ofText path text = .ok d) :
    ∃ w, ofText Delivered.read path text = .ok w ∧ w.HeldBy d := by
  unfold Document.ofText Source.ofText at h
  split at h
  · next hwhole =>
    cases h
    obtain ⟨w, hw, hheld⟩ := whole_follows document_follows hwhole
    refine ⟨w, ?_, hheld⟩
    unfold Source.ofText
    rw [hw]
  · exact nomatch h

end Delivered

namespace Collection

/-- Members of an object come to what the rules say and to nothing else, and they come to a
    collection as soon as all of them have values and no key is there twice.  So no key is
    twice in a document that is read, and the document holds every member of its objects,
    in the order of the text. -/
theorem members_decode_in_order {α : Type} :
    (∀ (ms : List (String × Except Problem α)) r, ofMembers ms = r ↔ Decodes ms r) ∧
      (∀ ms : List (String × Except Problem α), (∃ c, ofMembers ms = .ok c) ↔ Sound ms) ∧
      (∀ key, (Problem.duplicateKey key).message = "duplicate key '" ++ key ++ "'") ∧
      ∀ path text d, Document.ofText path text = .ok d →
        d.WellKeyed ∧ ∃ w, ofText Delivered.read path text = .ok w ∧ w.HeldBy d :=
  ⟨fun _ _ => decodes_iff, fun _ => exists_ofMembers_iff, fun _ => rfl,
    fun _ _ _ h => ⟨Document.wellKeyed_of_ofText h, Delivered.heldBy_of_ofText h⟩⟩

/-- A repeated key is refused before a later value, but behind the value under it; and a text
    keeps its order. -/
theorem members_decode_in_order_shelf :
    ofMembers [("A", .ok 1), ("B", .ok 2), ("A", .ok 3), ("C", .error .grammar)] =
        .error (.duplicateKey "A") ∧
      ofMembers [("A", .ok 1), ("A", .error .grammar), ("A", .ok 3)] = .error .grammar ∧
      Document.ofText "shelf" "\x7b\"entities\":\x7b\"B\":[],\"A\":[]\x7d\x7d" =
        .ok { entities := ⟨[("B", {}), ("A", {})]⟩ } ∧
      ∃ w, ofText Delivered.read "shelf" "\x7b\"entities\":\x7b\"B\":[],\"A\":[]\x7d\x7d" =
          .ok w ∧
        w.entities = [("B", .ok {}), ("A", .ok {})] := by
  have hkey : Decodes [("A", .ok 1), ("B", .ok 2), ("A", .ok 3), ("C", .error .grammar)]
      (.error (.duplicateKey "A")) := by
    have hsound : Sound [("A", (.ok 1 : Except Problem Nat)), ("B", .ok 2)] :=
      sound_iff.mpr ⟨⟨[("A", 1), ("B", 2)]⟩, rfl, by decide⟩
    exact .refused rfl hsound (.key 3 List.mem_cons_self)
  have hvalue : Decodes [("A", .ok 1), ("A", .error .grammar), ("A", .ok 3)]
      (.error .grammar) := by
    have hsound : Sound [("A", (.ok 1 : Except Problem Nat))] :=
      sound_iff.mpr ⟨⟨[("A", 1)]⟩, rfl, by decide⟩
    exact .refused rfl hsound (.value "A" .grammar)
  have htext : Document.ofText "shelf" "\x7b\"entities\":\x7b\"B\":[],\"A\":[]\x7d\x7d" =
      .ok { entities := ⟨[("B", {}), ("A", {})]⟩ } := by decide +kernel
  obtain ⟨hdecodes, -, -, hread⟩ := members_decode_in_order (α := Nat)
  obtain ⟨-, w, hw, hheld⟩ := hread _ _ _ htext
  exact ⟨(hdecodes _ _).mpr hkey, (hdecodes _ _).mpr hvalue, htext, w, hw, hheld.entities⟩

end Collection

end Source

end EntityPlan
