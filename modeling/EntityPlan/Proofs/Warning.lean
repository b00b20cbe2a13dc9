import EntityPlan.Proofs.Marking
import EntityPlan.Proofs.Refusal

/-! # Warnings — what a run says that has a plan

    Before anything else a run warns of type overrides, and afterwards of each entity
    that is marked for a business unit and for a tenant, in the order of their
    declaration.  A run that has a plan says this and nothing else
    (`Run.events_plan`), and so no strict run warns of an entity. -/

namespace EntityPlan

namespace Traced

variable {α β : Type}

/-- The events of a step that succeeds stand in front of those of the next one. -/
theorem events_bind {t : Traced α} {a : α} (h : t.answer = .ok a) (f : α → Traced β) :
    (t >>= f).events = t.events ++ (f a).events := by
  obtain ⟨answer, events⟩ := t
  cases h
  rfl

/-- Where all elements succeed, the events of each stand in their order. -/
theorem events_each {f : α → Traced β} {l : List α} {bs : List β}
    (h : l.mapM (fun a => (f a).answer) = .ok bs) :
    (each f l).events = l.flatMap fun a => (f a).events := by
  induction l generalizing bs with
  | nil => rfl
  | cons a rest ih =>
      rw [List.mapM_cons] at h
      obtain ⟨b, hb, h⟩ := bind_eq_ok_iff.mp h
      obtain ⟨cs, hcs, -⟩ := bind_eq_ok_iff.mp h
      have hrest : (each f rest).answer = .ok cs := (answer_each f rest).trans hcs
      show (f a >>= fun b => each f rest >>= fun bs => pure (b :: bs)).events = _
      rw [events_bind hb, events_bind hrest, ih hcs, List.flatMap_cons, events_pure,
        List.append_nil]

end Traced

namespace Classification

/-- The warning about an entity, if it is marked for a business unit and for a tenant. -/
def scopeWarnings (e : Entity) : List Event :=
  if e.DoublyScoped then [doubleScope e.name] else []

theorem mem_scopeWarnings_iff {e : Entity} {v : Event} :
    v ∈ scopeWarnings e ↔ e.DoublyScoped ∧ v = doubleScope e.name := by
  unfold scopeWarnings
  split
  · next h => rw [List.mem_singleton, and_iff_right h]
  · next h => exact ⟨fun hv => (nomatch hv), fun hv => absurd hv.1 h⟩

/-- A warning about a type is not one about an entity. -/
theorem doubleScope_not_mem_overrideWarnings (n : String) (overrides : SortedMap TypeOverride) :
    doubleScope n ∉ TypeTable.overrideWarnings overrides := by
  intro h
  obtain ⟨o, -, ho⟩ := List.mem_map.mp h
  have htarget : TypeTable.target = Classification.target := congrArg Event.target ho
  exact absurd htarget (by decide)

theorem events_chooseScope {policy : ScopePolicy} {entity : String} {businessUnit tenant : Bool}
    {s : Scope} (h : (chooseScope policy entity businessUnit tenant).answer = .ok s) :
    (chooseScope policy entity businessUnit tenant).events =
      if businessUnit = true ∧ tenant = true then [doubleScope entity] else [] := by
  cases businessUnit with
  | false => cases tenant <;> rfl
  | true =>
      cases tenant with
      | false => rfl
      | true =>
          cases policy with
          | precedence => rfl
          | strict => exact nomatch h

theorem events_ofEntity {policy : ScopePolicy} {e : Entity} {c : Classification}
    (h : (ofEntity policy e).answer = .ok c) : (ofEntity policy e).events = scopeWarnings e := by
  rw [answer_ofEntity] at h
  obtain ⟨scopes, hscopes, h⟩ := bind_eq_ok_iff.mp h
  obtain ⟨s, hs, -⟩ := bind_eq_ok_iff.mp h
  unfold ofEntity scopeWarnings
  rw [Traced.events_bind hscopes, Traced.events_bind hs, events_chooseScope hs,
    Traced.events_pure, List.append_nil]
  simp only [doublyScoped_iff hscopes]
  rfl

end Classification

open Classification (scopeWarnings)

namespace ModelRules

theorem events_entityModel {r : ModelRules} {e : Entity} {m : EntityModel}
    (h : (r.entityModel e).answer = .ok m) : (r.entityModel e).events = scopeWarnings e := by
  rw [answer_entityModel] at h
  obtain ⟨c, hc, h⟩ := bind_eq_ok_iff.mp h
  obtain ⟨fields, hfields, -⟩ := bind_eq_ok_iff.mp h
  unfold entityModel
  rw [Traced.events_bind hc, Traced.events_bind hfields, Classification.events_ofEntity hc]
  exact List.append_nil (scopeWarnings e)

theorem events_models {r : ModelRules} {es : List Entity} {models : List EntityModel}
    (h : (r.models es).answer = .ok models) : (r.models es).events = es.flatMap scopeWarnings := by
  rw [answer_models] at h
  obtain ⟨u, hstray, hmodels⟩ := bind_eq_ok_iff.mp h
  unfold ModelRules.models
  rw [refuse_eq_ok_iff.mp hstray]
  show (Traced.each r.entityModel es).events = _
  rw [Traced.events_each hmodels]
  refine List.flatMap_congr fun e he => ?_
  obtain ⟨m, -, hm⟩ := exists_of_mem_left (mapM_eq_ok_iff.mp hmodels) he
  exact events_entityModel hm

end ModelRules

namespace Run

variable {s : Settings} {d : Source.Document}

/-- A run that has a plan warns of its type overrides, then of its doubly scoped entities,
    and says nothing else. -/
theorem events_plan {p : Plan} (h : (plan s d).answer = .ok p) :
    (plan s d).events =
      TypeTable.overrideWarnings s.types ++ (declared d).flatMap scopeWarnings := by
  obtain ⟨es, as, models, hes, has, hmodels, hp⟩ := answer_plan_eq_ok_iff.mp h
  obtain rfl := eq_declared_of_entities hes
  have hlog : (Traced.logAll (TypeTable.overrideWarnings s.types)).answer = .ok () := rfl
  unfold plan
  rw [Traced.events_bind hlog, Traced.events_bind hes, Traced.events_bind has,
    Traced.events_bind hmodels, ModelRules.events_models hmodels]
  show _ ++ ([] ++ ([] ++ (_ ++ []))) = _
  rw [List.nil_append, List.nil_append, List.append_nil]
  rfl

end Run

end EntityPlan
