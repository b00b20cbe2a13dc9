import EntityPlan.Proofs.Requirement
import EntityPlan.Scope

/-! # Marking — the scopes that annotations give to an entity

    An annotation marks an entity with a scope by being its tag, or by naming it.
    An entity may bear the marks of a business unit and of a tenant at once; what
    becomes of it is then a matter of policy.  A strict classification is any other
    one with a check behind it (`Classification.answer_ofEntity_strict`). -/

namespace EntityPlan

/-- The scope of a name bears that name. -/
theorem Scope.ofName?_eq_some_iff {n : String} {s : Scope} : ofName? n = some s ↔ n = s.name := by
  constructor
  · intro h
    have hname : s.name = n := by simpa using List.find?_some h
    exact hname.symm
  · rintro rfl
    exact ofName?_name s

theorem Annotation.present_iff {l : List Annotation} {n : String} :
    present l n = true ↔ ∃ a ∈ l, a.name = n := by
  show l.any (fun a => a.name == n) = true ↔ _
  simp only [List.any_eq_true, beq_iff_eq]

/-- The annotation is the tag of the scope, or it names the scope, blanks not counting. -/
def Annotation.Marks (a : Annotation) (s : Scope) : Prop :=
  a.name = s.tag ∨ a.name = Classification.scopeAnnotation ∧ a.value.map Text.trim = some s.name

instance (a : Annotation) (s : Scope) : Decidable (a.Marks s) :=
  inferInstanceAs (Decidable (_ ∨ _))

namespace Entity

/-- Some annotation of the entity marks it with the scope. -/
def Marked (e : Entity) (s : Scope) : Prop := ∃ a ∈ e.annotations, a.Marks s

instance (e : Entity) (s : Scope) : Decidable (e.Marked s) :=
  inferInstanceAs (Decidable (∃ a ∈ e.annotations, a.Marks s))

/-- The entity is marked for a business unit and for a tenant. -/
def DoublyScoped (e : Entity) : Prop := e.Marked .businessUnit ∧ e.Marked .tenant

instance (e : Entity) : Decidable e.DoublyScoped :=
  inferInstanceAs (Decidable (_ ∧ _))

theorem hasAnnotation_iff {e : Entity} {n : String} :
    e.hasAnnotation n = true ↔ ∃ a ∈ e.annotations, a.name = n :=
  Annotation.present_iff

theorem mem_annotationValues {e : Entity} {n v : String} :
    v ∈ e.annotationValues n ↔ ∃ a ∈ e.annotations, a.name = n ∧ a.value = some v := by
  show v ∈ (e.annotations.filter fun a => a.name == n).filterMap (·.value) ↔ _
  simp only [List.mem_filterMap, List.mem_filter, beq_iff_eq, and_assoc]

end Entity

namespace Classification

theorem declaredScope_eq_ok_iff {entity value : String} {s : Scope} :
    declaredScope entity value = .ok s ↔ Text.trim value = s.name := by
  rw [← Scope.ofName?_eq_some_iff]
  unfold declaredScope
  cases Scope.ofName? (Text.trim value) with
  | none => exact ⟨fun h => (nomatch h), fun h => (nomatch h)⟩
  | some t =>
      show Except.ok t = Except.ok s ↔ some t = some s
      rw [Except.ok.injEq, Option.some.injEq]

/-- The declared scopes are those that annotations name. -/
theorem mem_declaredScopes_iff {e : Entity} {scopes : List Scope}
    (h : declaredScopes e = .ok scopes) {s : Scope} :
    s ∈ scopes ↔ ∃ a ∈ e.annotations, a.name = scopeAnnotation ∧
      a.value.map Text.trim = some s.name := by
  have hscopes := mapM_eq_ok_iff.mp h
  constructor
  · intro hs
    obtain ⟨v, hv, hvs⟩ := exists_of_mem_right hscopes hs
    obtain ⟨a, ha, hname, hvalue⟩ := Entity.mem_annotationValues.mp hv
    refine ⟨a, ha, hname, ?_⟩
    rw [hvalue, Option.map_some, declaredScope_eq_ok_iff.mp hvs]
  · rintro ⟨a, ha, hname, htrim⟩
    obtain ⟨v, hvalue, htrim⟩ := Option.map_eq_some_iff.mp htrim
    obtain ⟨t, ht, hvt⟩ :=
      exists_of_mem_left hscopes (Entity.mem_annotationValues.mpr ⟨a, ha, hname, hvalue⟩)
    cases hvt.symm.trans (declaredScope_eq_ok_iff.mpr htrim)
    exact ht

/-- Once every named scope is known, an entity is marked as its annotations mark it. -/
theorem isMarked_iff {e : Entity} {scopes : List Scope} (h : declaredScopes e = .ok scopes)
    {s : Scope} : isMarked e scopes s = true ↔ e.Marked s := by
  show (e.hasAnnotation s.tag || scopes.contains s) = true ↔ e.Marked s
  rw [Bool.or_eq_true, Entity.hasAnnotation_iff, List.contains_iff_mem, mem_declaredScopes_iff h]
  constructor
  · rintro (⟨a, ha, htag⟩ | ⟨a, ha, hnamed⟩)
    · exact ⟨a, ha, Or.inl htag⟩
    · exact ⟨a, ha, Or.inr hnamed⟩
  · rintro ⟨a, ha, htag | hnamed⟩
    · exact Or.inl ⟨a, ha, htag⟩
    · exact Or.inr ⟨a, ha, hnamed⟩

/-- Once every named scope is known, an entity is doubly scoped as the policies take it. -/
theorem doublyScoped_iff {e : Entity} {scopes : List Scope} (h : declaredScopes e = .ok scopes) :
    e.DoublyScoped ↔
      isMarked e scopes .businessUnit = true ∧ isMarked e scopes .tenant = true :=
  and_congr (isMarked_iff h).symm (isMarked_iff h).symm

theorem answer_ofEntity (policy : ScopePolicy) (e : Entity) :
    (ofEntity policy e).answer = (do
      let scopes ← declaredScopes e
      let scope ← (chooseScope policy e.name (isMarked e scopes .businessUnit)
        (isMarked e scopes .tenant)).answer
      .ok ⟨scope, e.hasAnnotation "auditable", e.hasAnnotation "searchable"⟩) := by
  unfold ofEntity
  simp only [Traced.answer_bind]
  rfl

/-- The strict policy classifies as the other one does, and then refuses an entity that is
    marked for a business unit and for a tenant. -/
theorem answer_ofEntity_strict (e : Entity) :
    (ofEntity .strict e).answer = (do
      let c ← (ofEntity .precedence e).answer
      refuse (if e.DoublyScoped then some (.ambiguousScope e.name) else none)
      .ok c) := by
  rw [answer_ofEntity, answer_ofEntity]
  cases h : declaredScopes e with
  | error f => rfl -- a scope that does not exist is the failure under both policies
  | ok scopes =>
      simp only [doublyScoped_iff h, ok_bind]
      generalize isMarked e scopes .businessUnit = businessUnit
      generalize isMarked e scopes .tenant = tenant
      cases businessUnit <;> cases tenant <;> rfl

end Classification

end EntityPlan
