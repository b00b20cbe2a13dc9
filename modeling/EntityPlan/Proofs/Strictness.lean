import EntityPlan.Proofs.Warning

/-! # Strictness — a strict policy refuses and changes nothing

    Under the strict policy an entity that is marked for a business unit and for a
    tenant is refused.  A strict run ends as any other run of the document, or with
    that refusal; and where another run has a plan, a strict one has it exactly when
    the other run warns of no entity (`Run.strict_only_rejects`).

    The refusal of one entity may come before the failure of a later one, or of a
    later stage, so two runs are compared step by step: `Tightens` is kept by
    sequences of steps and by traversals. -/

namespace EntityPlan

variable {α β : Type}

/-- The first answer is the second one, or one of these failures. -/
def Tightens (refusal : Failure → Prop) (x y : Except Failure α) : Prop :=
  x = y ∨ ∃ f, refusal f ∧ x = .error f

namespace Tightens

variable {refusal refusal' : Failure → Prop}

theorem refl (x : Except Failure α) : Tightens refusal x x := Or.inl rfl

theorem mono {x y : Except Failure α} (h : Tightens refusal x y)
    (himp : ∀ f, refusal f → refusal' f) : Tightens refusal' x y := by
  rcases h with h | ⟨f, hf, h⟩
  · exact Or.inl h
  · exact Or.inr ⟨f, himp f hf, h⟩

theorem bind {x y : Except Failure α} {k k' : α → Except Failure β} (hxy : Tightens refusal x y)
    (hk : ∀ a, x = .ok a → Tightens refusal (k a) (k' a)) :
    Tightens refusal (x >>= k) (y >>= k') := by
  rcases hxy with rfl | ⟨f, hf, rfl⟩
  · cases x with
    | error e => exact refl _
    | ok a => exact hk a rfl
  · exact Or.inr ⟨f, hf, rfl⟩

/-- The first element that is treated otherwise is refused, which ends the traversal. -/
theorem mapM {f g : α → Except Failure β} {l : List α}
    (h : ∀ a ∈ l, Tightens refusal (f a) (g a)) : Tightens refusal (l.mapM f) (l.mapM g) := by
  induction l with
  | nil => exact refl _
  | cons a rest ih =>
      rw [List.mapM_cons, List.mapM_cons]
      refine (h a List.mem_cons_self).bind fun b _ => ?_
      exact (ih fun c hc => h c (List.mem_cons_of_mem a hc)).bind fun bs _ => refl _

end Tightens

/-- The settings with or without the strict policy. -/
def Settings.withScoping (s : Settings) (strict : Bool) : Settings :=
  { s with generation := { s.generation with strictScoping := strict } }

/-- The rules under a policy. -/
def ModelRules.withPolicy (r : ModelRules) (policy : ScopePolicy) : ModelRules :=
  { r with policy }

/-- Nothing but its two scopes keeps the entity from being classified. -/
def Entity.Ambiguous (e : Entity) : Prop :=
  e.DoublyScoped ∧ ∃ c, (Classification.ofEntity .precedence e).answer = .ok c

/-! ## One entity -/

theorem Classification.ofEntity_tightens (e : Entity) :
    Tightens (fun f => e.Ambiguous ∧ .ambiguousScope e.name = f)
      (ofEntity .strict e).answer (ofEntity .precedence e).answer := by
  rw [answer_ofEntity_strict]
  cases hc : (ofEntity .precedence e).answer with
  | error f => exact Tightens.refl _
  | ok c =>
      by_cases h : e.DoublyScoped
      · rw [if_pos h]
        exact Or.inr ⟨_, ⟨⟨h, c, hc⟩, rfl⟩, rfl⟩
      · rw [if_neg h]
        exact Tightens.refl _

/-- What the strict policy classifies is not doubly scoped. -/
theorem Classification.not_doublyScoped_of_strict {e : Entity} {c : Classification}
    (h : (ofEntity .strict e).answer = .ok c) : ¬ e.DoublyScoped := by
  rw [answer_ofEntity_strict] at h
  obtain ⟨c', -, h⟩ := bind_eq_ok_iff.mp h
  obtain ⟨u, hu, -⟩ := bind_eq_ok_iff.mp h
  intro hdouble
  rw [if_pos hdouble] at hu
  exact nomatch hu

namespace ModelRules

theorem entityModel_tightens (r : ModelRules) (e : Entity) :
    Tightens (fun f => e.Ambiguous ∧ .ambiguousScope e.name = f)
      ((r.withPolicy .strict).entityModel e).answer
      ((r.withPolicy .precedence).entityModel e).answer := by
  rw [answer_entityModel, answer_entityModel]
  exact (Classification.ofEntity_tightens e).bind fun c _ => Tightens.refl _

/-- The entities of a document are taken up in their order, so the refusal is that of the first
    one that is treated otherwise, or an earlier entity fails under both policies. -/
theorem models_tightens (r : ModelRules) (es : List Entity) :
    Tightens (fun f => ∃ e ∈ es, e.Ambiguous ∧ .ambiguousScope e.name = f)
      ((r.withPolicy .strict).models es).answer ((r.withPolicy .precedence).models es).answer := by
  rw [answer_models, answer_models]
  refine (Tightens.refl _).bind fun _ _ => Tightens.mapM fun e he => ?_
  exact (entityModel_tightens r e).mono fun f hf => ⟨e, he, hf⟩

theorem not_doublyScoped_of_models {r : ModelRules} {es : List Entity} {models : List EntityModel}
    (h : ((r.withPolicy .strict).models es).answer = .ok models) :
    ∀ e ∈ es, ¬ e.DoublyScoped := by
  intro e he
  rw [answer_models] at h
  obtain ⟨u, -, h⟩ := bind_eq_ok_iff.mp h
  obtain ⟨m, -, hm⟩ := exists_of_mem_left (mapM_eq_ok_iff.mp h) he
  rw [answer_entityModel] at hm
  obtain ⟨c, hc, -⟩ := bind_eq_ok_iff.mp hm
  exact Classification.not_doublyScoped_of_strict hc

end ModelRules

/-! ## Runs -/

namespace Run

variable {s : Settings} {d : Source.Document}

/-- The policy matters where models are built and nowhere else. -/
theorem plan_tightens (s : Settings) (d : Source.Document) :
    Tightens (fun f => ∃ e ∈ declared d, e.Ambiguous ∧ .ambiguousScope e.name = f)
      (plan (s.withScoping true) d).answer (plan (s.withScoping false) d).answer := by
  rw [answer_plan, answer_plan]
  refine (Tightens.refl _).bind fun es hes => ?_
  obtain rfl := eq_declared_of_entities hes
  refine (Tightens.refl _).bind fun as _ => ?_
  exact (ModelRules.models_tightens (rules s) (declared d)).bind fun models _ => Tightens.refl _

theorem not_doublyScoped_of_plan {p : Plan} (h : (plan (s.withScoping true) d).answer = .ok p) :
    ∀ e ∈ declared d, ¬ e.DoublyScoped := by
  obtain ⟨es, as, models, hes, -, hmodels, -⟩ := answer_plan_eq_ok_iff.mp h
  obtain rfl := eq_declared_of_entities hes
  have hstrict : (((rules s).withPolicy .strict).models (declared d)).answer = .ok models := hmodels
  exact ModelRules.not_doublyScoped_of_models hstrict

/-- A run that has a plan warns of no entity exactly when none is doubly scoped. -/
theorem not_doublyScoped_iff_of_plan {p : Plan} (h : (plan s d).answer = .ok p) :
    (∀ e ∈ declared d, ¬ e.DoublyScoped) ↔
      ∀ n, Classification.doubleScope n ∉ (plan s d).events := by
  rw [events_plan h]
  constructor
  · intro hnone n hn
    rcases List.mem_append.mp hn with hn | hn
    · exact Classification.doubleScope_not_mem_overrideWarnings n s.types hn
    · obtain ⟨e, he, hn⟩ := List.mem_flatMap.mp hn
      exact hnone e he (Classification.mem_scopeWarnings_iff.mp hn).1
  · intro hsilent e he hdouble
    refine hsilent e.name (List.mem_append.mpr (Or.inr (List.mem_flatMap.mpr ⟨e, he, ?_⟩)))
    exact Classification.mem_scopeWarnings_iff.mpr ⟨hdouble, rfl⟩

/-- A strict run ends as the run under the other policy, or by refusing an entity of the
    document for its two scopes.  Where the other run has a plan, the strict one has a plan
    exactly when no entity is doubly scoped, which is when the other one warns of none. -/
theorem strict_only_rejects (s : Settings) (d : Source.Document) :
    ((plan (s.withScoping true) d).answer = (plan (s.withScoping false) d).answer ∨
      ∃ e ∈ declared d, e.Ambiguous ∧
        (plan (s.withScoping true) d).answer = .error (.ambiguousScope e.name)) ∧
    ∀ p, (plan (s.withScoping false) d).answer = .ok p →
      ((∃ q, (plan (s.withScoping true) d).answer = .ok q) ↔
        ∀ e ∈ declared d, ¬ e.DoublyScoped) ∧
      ((∀ e ∈ declared d, ¬ e.DoublyScoped) ↔
        ∀ n, Classification.doubleScope n ∉ (plan (s.withScoping false) d).events) := by
  have hends : (plan (s.withScoping true) d).answer = (plan (s.withScoping false) d).answer ∨
      ∃ e ∈ declared d, e.Ambiguous ∧
        (plan (s.withScoping true) d).answer = .error (.ambiguousScope e.name) := by
    rcases plan_tightens s d with h | ⟨f, ⟨e, he, hambiguous, rfl⟩, h⟩
    · exact Or.inl h
    · exact Or.inr ⟨e, he, hambiguous, h⟩
  refine ⟨hends, fun p hp => ⟨⟨?_, ?_⟩, not_doublyScoped_iff_of_plan hp⟩⟩
  · rintro ⟨q, hq⟩
    exact not_doublyScoped_of_plan hq
  · intro hnone
    rcases hends with h | ⟨e, he, hambiguous, -⟩
    · exact ⟨p, h.trans hp⟩
    · exact absurd hambiguous.1 (hnone e he)

/-- A document with an entity that has the tag of one scope and names another one, with blanks
    around the name. -/
def desks : Source.Document where
  entities :=
    ⟨[("Desk",
      { name := some "Desk"
        body := some [{ name := some "label", type := some "String" }]
        annotations := some
          [ { name := some "tenantScoped" },
            { name := some "resourceType", value := some (.text " BusinessUnitResource ") } ] }),
      ("Room", { name := some "Room", body := some [] })]⟩
  applications := ⟨[("office", { config := some { baseName := some "office" } })]⟩

/-- A run that warns of an entity, and the strict run of the same document, which refuses it. -/
theorem strict_only_rejects_desks :
    (∃ p, (plan (Settings.withScoping {} false) desks).answer = .ok p) ∧
      Classification.doubleScope "Desk" ∈ (plan (Settings.withScoping {} false) desks).events ∧
      (plan (Settings.withScoping {} true) desks).answer = .error (.ambiguousScope "Desk") ∧
      ¬ ∀ e ∈ declared desks, ¬ e.DoublyScoped := by
  obtain ⟨p, hp⟩ : ∃ p, (plan (Settings.withScoping {} false) desks).answer = .ok p := ⟨_, rfl⟩
  have hwarns : Classification.doubleScope "Desk" ∈
      (plan (Settings.withScoping {} false) desks).events := List.mem_cons_self
  have hrefuses : (plan (Settings.withScoping {} true) desks).answer =
      .error (.ambiguousScope "Desk") := rfl
  have hsilent := ((strict_only_rejects {} desks).2 p hp).2
  exact ⟨⟨p, hp⟩, hwarns, hrefuses, fun hnone => hsilent.mp hnone "Desk" hwarns⟩

end Run

end EntityPlan
