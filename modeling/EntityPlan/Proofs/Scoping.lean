import EntityPlan.Proofs.OptionTexts
import EntityPlan.Proofs.Warning

/-! # Scoping — what annotations make of an entity

    The rules of classification: the first scope that does not exist is the failure,
    then a strict policy refuses an entity with two scopes, and else the narrowest
    scope is taken (`Classified`).  No rule looks at the order of annotations that are
    known, nor at how often one stands or what others stand between
    (`Classification.ofEntity_follows_rules`).

    An annotation that should name a scope but has no value is looked at by no rule:
    it is passed over, whatever its author meant
    (`Classification.heeded_iff_not_idle`). -/

namespace EntityPlan

namespace Annotation

/-- The annotation should name a scope, but it has no value. -/
def Idle (a : Annotation) : Prop := a.name = Classification.scopeAnnotation ∧ a.value = none

instance (a : Annotation) : Decidable a.Idle := inferInstanceAs (Decidable (_ ∧ _))

/-- The value is the name of a scope, blanks around it not counting. -/
def NamesScope (a : Annotation) : Prop := ∃ s : Scope, a.value.map Text.trim = some s.name

/-- The annotation gives a scope that does not exist. -/
def Unknown (a : Annotation) : Prop :=
  a.name = Classification.scopeAnnotation ∧
    ∃ v, a.value = some v ∧ ∀ s : Scope, Text.trim v ≠ s.name

/-- The annotations by which entities are classified. -/
def signals : List String :=
  [Classification.scopeAnnotation, Scope.businessUnit.tag, Scope.tenant.tag,
    "auditable", "searchable"]

/-- The annotation is one of those by which entities are classified. -/
def IsSignal (a : Annotation) : Prop := a.name ∈ signals

instance (a : Annotation) : Decidable a.IsSignal := inferInstanceAs (Decidable (_ ∈ _))

theorem isSignal_of_name {a : Annotation} {n : String} (h : a.name = n) (hn : n ∈ signals) :
    a.IsSignal := by
  show a.name ∈ signals
  rwa [h]

/-- An annotation that should name a scope names one, or it is idle or unknown. -/
theorem namesScope_iff {a : Annotation} (h : a.name = Classification.scopeAnnotation) :
    a.NamesScope ↔ ¬ a.Idle ∧ ¬ a.Unknown := by
  unfold NamesScope Idle Unknown
  rw [h]
  cases a.value with
  | none => simp
  | some v => simp

/-- One list of annotations is had from the other by putting it into another order, by
    repeating annotations, and by adding such as do not matter to classification. -/
inductive Reworded : List Annotation → List Annotation → Prop
  | reordered {l l' : List Annotation} : l.Perm l' → Reworded l l'
  | repeated {l : List Annotation} {a : Annotation} : a ∈ l → Reworded l (a :: l)
  | added {l : List Annotation} {a : Annotation} : ¬ a.IsSignal → Reworded l (a :: l)
  | trans {l l' l'' : List Annotation} : Reworded l l' → Reworded l' l'' → Reworded l l''

/-- Rewording changes nothing about which signals there are. -/
theorem Reworded.mem_iff {l l' : List Annotation} (h : Reworded l l') {a : Annotation}
    (ha : a.IsSignal) : a ∈ l' ↔ a ∈ l := by
  induction h with
  | reordered hperm => exact hperm.mem_iff.symm
  | repeated hmem =>
      rw [List.mem_cons]
      refine or_iff_right_of_imp ?_
      rintro rfl
      exact hmem
  | added hother =>
      rw [List.mem_cons]
      refine or_iff_right_of_imp ?_
      rintro rfl
      exact absurd ha hother
  | trans _ _ ih ih' => exact ih'.trans ih

/-- So what some signal is like, some signal is like after it. -/
theorem Reworded.exists_iff {l l' : List Annotation} (h : Reworded l l')
    {p : Annotation → Prop} (hp : ∀ a, p a → a.IsSignal) :
    (∃ a ∈ l', p a) ↔ ∃ a ∈ l, p a := by
  refine exists_congr fun a => and_congr_left fun ha => ?_
  exact h.mem_iff (hp a ha)

end Annotation

open Annotation (Idle Unknown IsSignal Reworded namesScope_iff value_eq_none_iff)

namespace Entity

/-- The narrowest scope that the entity is marked with. -/
def narrowestScope (e : Entity) : Scope :=
  if e.Marked .businessUnit then .businessUnit
  else if e.Marked .tenant then .tenant
  else .unscoped

/-- The entity without its idle annotations. -/
def withoutIdle (e : Entity) : Entity :=
  { e with annotations := e.annotations.filter fun a => ¬ a.Idle }

end Entity

/-- The rules of classification. -/
inductive Classified (policy : ScopePolicy) (e : Entity) : Except Failure Classification → Prop
  /-- the first annotation that gives a scope that does not exist -/
  | unknown {a : Annotation} {v : String} :
      First Unknown e.annotations a → a.value = some v →
      Classified policy e (.error (.unknownScope e.name v))
  /-- every scope exists, but the policy takes no two -/
  | ambiguous :
      (∀ a ∈ e.annotations, ¬ a.Unknown) → policy = .strict → e.DoublyScoped →
      Classified policy e (.error (.ambiguousScope e.name))
  /-- the narrowest scope, and the capabilities that have an annotation -/
  | settled {c : Classification} :
      (∀ a ∈ e.annotations, ¬ a.Unknown) → ¬ (policy = .strict ∧ e.DoublyScoped) →
      c.scope = e.narrowestScope →
      (c.auditable = true ↔ ∃ a ∈ e.annotations, a.name = "auditable") →
      (c.searchable = true ↔ ∃ a ∈ e.annotations, a.name = "searchable") →
      Classified policy e (.ok c)

namespace Classification

variable {policy : ScopePolicy} {e : Entity}

/-! ## Scopes that do not exist -/

theorem declaredScope_eq_error_iff {entity value : String} {f : Failure} :
    declaredScope entity value = .error f ↔
      (∀ s : Scope, Text.trim value ≠ s.name) ∧ .unknownScope entity value = f := by
  have hnone : Scope.ofName? (Text.trim value) = none ↔ ∀ s : Scope, Text.trim value ≠ s.name := by
    rw [Option.eq_none_iff_forall_ne_some]
    exact forall_congr' fun s => not_congr Scope.ofName?_eq_some_iff
  rw [← hnone]
  unfold declaredScope
  cases Scope.ofName? (Text.trim value) with
  | none =>
      show Except.error _ = Except.error f ↔ _
      rw [Except.error.injEq]
      exact (and_iff_right rfl).symm
  | some s => exact ⟨fun h => (nomatch h), fun h => (nomatch h.1)⟩

/-- A scope that does not exist is that of the first annotation that gives such a one. -/
theorem declaredScopes_eq_error_iff {f : Failure} :
    declaredScopes e = .error f ↔
      ∃ a v, First Unknown e.annotations a ∧ a.value = some v ∧ .unknownScope e.name v = f := by
  have hbad : ∀ a ∈ e.annotations, ((a.name == scopeAnnotation) = true ∧
      ∃ v, a.value = some v ∧ ∃ f, declaredScope e.name v = .error f) ↔ a.Unknown := by
    intro a _
    simp only [declaredScope_eq_error_iff, exists_and_left, exists_eq', and_true, beq_iff_eq,
      Annotation.Unknown]
  unfold declaredScopes Entity.annotationValues
  rw [mapM_eq_error_iff]
  simp only [First.filterMap_iff, First.filter_iff, First.congr hbad]
  simp only [declaredScope_eq_error_iff]
  constructor
  · rintro ⟨v, ⟨a, ha, hav⟩, -, rfl⟩
    exact ⟨a, v, ha, hav, rfl⟩
  · rintro ⟨a, v, ha, hav, rfl⟩
    obtain ⟨-, w, haw, hw⟩ := ha.holds
    cases hav.symm.trans haw
    exact ⟨v, ⟨a, ha, hav⟩, hw, rfl⟩

theorem exists_declaredScopes_iff :
    (∃ scopes, declaredScopes e = .ok scopes) ↔ ∀ a ∈ e.annotations, ¬ a.Unknown := by
  constructor
  · rintro ⟨scopes, hscopes⟩ a ha hunknown
    obtain ⟨b, hb⟩ := First.exists_iff.mpr ⟨a, ha, hunknown⟩
    obtain ⟨-, v, hv, -⟩ := hb.holds
    exact nomatch hscopes.symm.trans (declaredScopes_eq_error_iff.mpr ⟨b, v, hb, hv, rfl⟩)
  · intro h
    cases hscopes : declaredScopes e with
    | ok scopes => exact ⟨scopes, rfl⟩
    | error f =>
        obtain ⟨a, v, ha, -⟩ := declaredScopes_eq_error_iff.mp hscopes
        exact absurd ha.holds (h a ha.mem)

/-! ## The rules -/

theorem answer_chooseScope (policy : ScopePolicy) (entity : String) (businessUnit tenant : Bool) :
    (chooseScope policy entity businessUnit tenant).answer =
      if policy = .strict ∧ businessUnit = true ∧ tenant = true then
        .error (.ambiguousScope entity)
      else .ok (if businessUnit then .businessUnit else if tenant then .tenant else .unscoped) := by
  cases policy <;> cases businessUnit <;> cases tenant <;> rfl

theorem answer_ofEntity_of_unknown {a : Annotation} {v : String}
    (h : First Unknown e.annotations a) (hv : a.value = some v) :
    (ofEntity policy e).answer = .error (.unknownScope e.name v) := by
  rw [answer_ofEntity, declaredScopes_eq_error_iff.mpr ⟨a, v, h, hv, rfl⟩]
  rfl

theorem answer_ofEntity_of_known (h : ∀ a ∈ e.annotations, ¬ a.Unknown) :
    (ofEntity policy e).answer =
      if policy = .strict ∧ e.DoublyScoped then .error (.ambiguousScope e.name)
      else .ok ⟨e.narrowestScope, e.hasAnnotation "auditable", e.hasAnnotation "searchable"⟩ := by
  obtain ⟨scopes, hscopes⟩ := exists_declaredScopes_iff.mpr h
  rw [answer_ofEntity, hscopes, ok_bind, answer_chooseScope]
  simp only [doublyScoped_iff hscopes, Entity.narrowestScope, ← isMarked_iff hscopes]
  split <;> rfl

/-- An entity is classified as the rules say, and in no other way. -/
theorem classified_iff {x : Except Failure Classification} :
    (ofEntity policy e).answer = x ↔ Classified policy e x := by
  constructor
  · rintro rfl
    by_cases hknown : ∀ a ∈ e.annotations, ¬ a.Unknown
    · rw [answer_ofEntity_of_known hknown]
      split
      · next h => exact .ambiguous hknown h.1 h.2
      · next h => exact .settled hknown h rfl Entity.hasAnnotation_iff Entity.hasAnnotation_iff
    · obtain ⟨b, hb, hunknown⟩ : ∃ b ∈ e.annotations, b.Unknown := by simpa using hknown
      obtain ⟨a, ha⟩ := First.exists_iff.mpr ⟨b, hb, hunknown⟩
      obtain ⟨-, v, hv, -⟩ := ha.holds
      rw [answer_ofEntity_of_unknown ha hv]
      exact .unknown ha hv
  · intro h
    cases h with
    | unknown ha hv => exact answer_ofEntity_of_unknown ha hv
    | ambiguous hknown hstrict hdouble =>
        rw [answer_ofEntity_of_known hknown, if_pos ⟨hstrict, hdouble⟩]
    | @settled c hknown hscoped hscope hauditable hsearchable =>
        rw [answer_ofEntity_of_known hknown, if_neg hscoped]
        obtain ⟨scope, auditable, searchable⟩ := c
        cases hscope
        cases Bool.eq_iff_iff.mpr (hauditable.trans Entity.hasAnnotation_iff.symm)
        cases Bool.eq_iff_iff.mpr (hsearchable.trans Entity.hasAnnotation_iff.symm)
        rfl

/-- Where an entity is classified, every scope exists. -/
theorem known_of_ok {c : Classification} (h : (ofEntity policy e).answer = .ok c) :
    ∀ a ∈ e.annotations, ¬ a.Unknown := by
  cases classified_iff.mp h with
  | settled hknown => exact hknown

/-! ## Rewording -/

/-- Marks of the two scopes are signals. -/
theorem isSignal_of_marks {a : Annotation} {s : Scope} (hs : s.tag ∈ Annotation.signals)
    (h : a.Marks s) : a.IsSignal := by
  rcases h with htag | ⟨hname, -⟩
  · exact Annotation.isSignal_of_name htag hs
  · exact Annotation.isSignal_of_name hname (by decide)

section Reworded

variable {l : List Annotation} (h : Reworded e.annotations l)
include h

theorem marked_reworded {s : Scope} (hs : s.tag ∈ Annotation.signals) :
    Entity.Marked { e with annotations := l } s ↔ e.Marked s :=
  h.exists_iff fun _ => isSignal_of_marks hs

theorem doublyScoped_reworded : Entity.DoublyScoped { e with annotations := l } ↔ e.DoublyScoped :=
  and_congr (marked_reworded h (by decide)) (marked_reworded h (by decide))

theorem narrowestScope_reworded :
    Entity.narrowestScope { e with annotations := l } = e.narrowestScope := by
  have hbusinessUnit := marked_reworded h (s := .businessUnit) (by decide)
  have htenant := marked_reworded h (s := .tenant) (by decide)
  simp only [Entity.narrowestScope, hbusinessUnit, htenant]

/-- A classification follows from the same rule, however the annotations are reworded. -/
theorem classified_reworded {c : Classification} (hc : Classified policy e (.ok c)) :
    Classified policy { e with annotations := l } (.ok c) := by
  have hunknown : (∃ a ∈ l, a.Unknown) ↔ ∃ a ∈ e.annotations, a.Unknown :=
    h.exists_iff fun _ ha => Annotation.isSignal_of_name ha.1 (by decide)
  have hflag : ∀ n ∈ Annotation.signals,
      (∃ a ∈ l, a.name = n) ↔ ∃ a ∈ e.annotations, a.name = n := by
    intro n hn
    exact h.exists_iff fun _ ha => Annotation.isSignal_of_name ha hn
  cases hc with
  | settled hknown hscoped hscope hauditable hsearchable =>
      refine .settled ?_ ?_ ?_ ?_ ?_
      · intro a ha hbad
        obtain ⟨b, hb, hbad⟩ := hunknown.mp ⟨a, ha, hbad⟩
        exact hknown b hb hbad
      · rwa [doublyScoped_reworded h]
      · rwa [narrowestScope_reworded h]
      · exact hauditable.trans (hflag _ (by decide)).symm
      · exact hsearchable.trans (hflag _ (by decide)).symm

end Reworded

/-- An entity is classified as the rules say.  If it can be, then rewording its annotations
    changes neither that nor what is said about it. -/
theorem ofEntity_follows_rules (policy : ScopePolicy) (e : Entity) :
    (∀ x, (ofEntity policy e).answer = x ↔ Classified policy e x) ∧
      ∀ c, (ofEntity policy e).answer = .ok c → ∀ l, Reworded e.annotations l →
        ofEntity policy { e with annotations := l } = ofEntity policy e := by
  refine ⟨fun x => classified_iff, ?_⟩
  intro c hc l hl
  have hc' : (ofEntity policy { e with annotations := l }).answer = .ok c :=
    classified_iff.mpr (classified_reworded hl (classified_iff.mp hc))
  have hevents : (ofEntity policy { e with annotations := l }).events =
      (ofEntity policy e).events := by
    rw [events_ofEntity hc, events_ofEntity hc']
    simp only [scopeWarnings, doublyScoped_reworded hl]
  exact congrArg₂ Traced.mk (hc'.trans hc.symm) hevents

/-- A desk of a tenant and, by name, of a business unit. -/
def desk : Entity where
  name := "Desk"
  tableName := none
  description := none
  fields := []
  annotations := [⟨"tenantScoped", none⟩, ⟨"resourceType", some " BusinessUnitResource "⟩]
  relationships := []

/-- Its annotations the other way round, one of them twice, and with one that tells nothing. -/
theorem ofEntity_follows_rules_desk :
    (ofEntity .precedence desk).answer = .ok ⟨.businessUnit, false, false⟩ ∧
      (ofEntity .strict desk).answer = .error (.ambiguousScope "Desk") ∧
      ofEntity .precedence { desk with annotations :=
          [⟨"tableName", some "desks"⟩, ⟨"tenantScoped", none⟩,
            ⟨"resourceType", some " BusinessUnitResource "⟩, ⟨"tenantScoped", none⟩] } =
        ofEntity .precedence desk := by
  have hc : (ofEntity .precedence desk).answer = .ok ⟨.businessUnit, false, false⟩ := rfl
  have hdouble : desk.DoublyScoped := by decide
  have hknown : ∀ a ∈ desk.annotations, ¬ a.Unknown := known_of_ok hc
  refine ⟨hc, ?_, ?_⟩
  · exact ((ofEntity_follows_rules .strict desk).1 _).mpr (.ambiguous hknown rfl hdouble)
  · refine (ofEntity_follows_rules .precedence desk).2 _ hc _ ?_
    have hswapped : Reworded desk.annotations
        [⟨"resourceType", some " BusinessUnitResource "⟩, ⟨"tenantScoped", none⟩] :=
      .reordered (List.Perm.swap _ _ [])
    have hrepeated := hswapped.trans (.repeated (List.mem_cons_of_mem _ List.mem_cons_self))
    exact hrepeated.trans (.added (by decide))

/-! ## Annotations without a value -/

theorem annotationValues_withoutIdle (e : Entity) (n : String) :
    e.withoutIdle.annotationValues n = e.annotationValues n := by
  show (((e.annotations.filter fun a => ¬ a.Idle).filter fun a => a.name == n).filterMap
    (·.value)) = (e.annotations.filter fun a => a.name == n).filterMap (·.value)
  rw [List.filterMap_filter, List.filterMap_filter, List.filterMap_filter]
  refine List.filterMap_congr fun a _ => ?_
  by_cases ha : a.Idle
  · simp [ha, ha.2]
  · simp [ha]

theorem hasAnnotation_withoutIdle (e : Entity) {n : String} (hn : n ≠ scopeAnnotation) :
    e.withoutIdle.hasAnnotation n = e.hasAnnotation n := by
  rw [Bool.eq_iff_iff, Entity.hasAnnotation_iff, Entity.hasAnnotation_iff]
  refine exists_congr fun a => and_congr_left fun ha => ?_
  have hactive : ¬ a.Idle := fun hidle => hn (ha.symm.trans hidle.1)
  exact List.mem_filter.trans (and_iff_left (decide_eq_true hactive))

/-- Idle annotations are passed over. -/
theorem ofEntity_withoutIdle (policy : ScopePolicy) (e : Entity) :
    ofEntity policy e.withoutIdle = ofEntity policy e := by
  have htag : ∀ s : Scope, s.tag ≠ scopeAnnotation := by
    intro s
    cases s <;> decide
  have hmarked : ∀ scopes s, isMarked e.withoutIdle scopes s = isMarked e scopes s := by
    intro scopes s
    unfold isMarked
    rw [hasAnnotation_withoutIdle e (htag s)]
  have hscopes : declaredScopes e.withoutIdle = declaredScopes e := by
    unfold declaredScopes
    rw [annotationValues_withoutIdle]
    rfl
  unfold ofEntity
  rw [hscopes, hasAnnotation_withoutIdle e (by decide), hasAnnotation_withoutIdle e (by decide)]
  simp only [hmarked]
  rfl

/-- The idle annotations of an entity come from records without a value, or with one that
    has no text. -/
theorem exists_idle_iff {r : Source.EntityRecord} {records : List Source.RelationshipRecord}
    (h : Entity.ofRecord r records = .ok e) :
    (∃ a ∈ e.annotations, a.Idle) ↔
      ∃ o ∈ r.annotations.getD [], o.name = some scopeAnnotation ∧ o.Mute := by
  rw [Entity.annotations_of_ofRecord h]
  constructor
  · rintro ⟨a, ha, hname, hvalue⟩
    obtain ⟨o, ho, hoa⟩ := List.mem_filterMap.mp ha
    exact ⟨o, ho, hname ▸ Annotation.name_of_ofRecord? hoa,
      (value_eq_none_iff hoa).mp hvalue⟩
  · rintro ⟨o, ho, hname, hmute⟩
    have hoa : Annotation.ofRecord? o =
        some { name := scopeAnnotation, value := o.value.bind Source.optionText } := by
      unfold Annotation.ofRecord?
      rw [hname, Option.map_some]
    exact ⟨_, List.mem_filterMap.mpr ⟨o, ho, hoa⟩, rfl,
      (value_eq_none_iff hoa).mpr hmute⟩

/-- Where an entity is classified, each annotation that should name a scope names one exactly
    when none of them is idle.  Those that are come from records without a text, and the
    entity is classified as if they were not there. -/
theorem heeded_iff_not_idle (policy : ScopePolicy) (e : Entity) :
    ((∀ c, (ofEntity policy e).answer = .ok c →
        ∀ a ∈ e.annotations, a.name = scopeAnnotation → a.NamesScope) ↔
      (∀ a ∈ e.annotations, ¬ a.Idle) ∨ ∃ f, (ofEntity policy e).answer = .error f) ∧
    ofEntity policy e.withoutIdle = ofEntity policy e ∧
    ∀ r records, Entity.ofRecord r records = .ok e →
      ((∃ a ∈ e.annotations, a.Idle) ↔
        ∃ o ∈ r.annotations.getD [], o.name = some scopeAnnotation ∧ o.Mute) := by
  refine ⟨⟨?_, ?_⟩, ofEntity_withoutIdle policy e, fun r records => exists_idle_iff⟩
  · intro hheeded
    cases hc : (ofEntity policy e).answer with
    | error f => exact Or.inr ⟨f, rfl⟩
    | ok c =>
        refine Or.inl fun a ha hidle => ?_
        exact ((namesScope_iff hidle.1).mp (hheeded c hc a ha hidle.1)).1 hidle
  · intro h c hc a ha hname
    rcases h with hactive | ⟨f, hf⟩
    · exact (namesScope_iff hname).mpr ⟨hactive a ha, known_of_ok hc a ha⟩
    · exact nomatch hc.symm.trans hf

/-- A record whose annotation gives the scope under another key than `value`. -/
def misplaced : Source.EntityRecord where
  name := some "Book"
  body := some []
  annotations := some
    [{ name := some "resourceType", value := some (.object [("scope", .text "TenantResource")]) }]

theorem heeded_iff_not_idle_misplaced :
    ∃ e, Entity.ofRecord misplaced [] = .ok e ∧ (∃ a ∈ e.annotations, a.Idle) ∧
      (ofEntity .strict e).answer = .ok ⟨.unscoped, false, false⟩ ∧
      ofEntity .strict e.withoutIdle = ofEntity .strict e ∧
      ¬ ∀ a ∈ e.annotations, a.name = scopeAnnotation → a.NamesScope := by
  obtain ⟨e, he, hc⟩ : ∃ e, Entity.ofRecord misplaced [] = .ok e ∧
      (ofEntity .strict e).answer = .ok ⟨.unscoped, false, false⟩ := ⟨_, rfl, rfl⟩
  obtain ⟨hheeded, hwithout, hrecords⟩ := heeded_iff_not_idle .strict e
  have hidle : ∃ a ∈ e.annotations, a.Idle := by
    refine (hrecords misplaced [] he).mpr ⟨_, List.mem_cons_self, rfl, ?_⟩
    rintro v ⟨⟩
    exact .bare rfl
  refine ⟨e, he, hidle, hc, hwithout, fun hall => ?_⟩
  rcases hheeded.mp fun _ _ => hall with hactive | ⟨f, hf⟩
  · obtain ⟨a, ha, hidle⟩ := hidle
    exact hactive a ha hidle
  · exact nomatch hc.symm.trans hf

/-- That an entity is classified does not mean that each annotation that should name a scope
    names one. -/
theorem not_all_scopes_heeded :
    ¬ ∀ (policy : ScopePolicy) (r : Source.EntityRecord) (records : List Source.RelationshipRecord)
        (e : Entity) (c : Classification),
      Entity.ofRecord r records = .ok e → (ofEntity policy e).answer = .ok c →
        ∀ a ∈ e.annotations, a.name = scopeAnnotation → a.NamesScope := by
  intro h
  obtain ⟨e, he, hc, a, ha, hname, hvalue⟩ : ∃ e, Entity.ofRecord misplaced [] = .ok e ∧
      (ofEntity .precedence e).answer = .ok ⟨.unscoped, false, false⟩ ∧
        ∃ a ∈ e.annotations, a.name = scopeAnnotation ∧ a.value = none :=
    ⟨_, rfl, rfl, _, List.mem_cons_self, rfl, rfl⟩
  obtain ⟨s, hs⟩ := h .precedence misplaced [] e _ he hc a ha hname
  rw [hvalue] at hs
  exact nomatch hs

end Classification

end EntityPlan
