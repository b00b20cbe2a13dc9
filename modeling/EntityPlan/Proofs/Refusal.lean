import EntityPlan.Proofs.Building
import EntityPlan.Proofs.Declaration
import EntityPlan.Proofs.Grouping
import EntityPlan.Run

/-! # Refusal — which documents have a plan, and why the others have none

    A run has nine requirements.  `Broken s d n f` says that the document breaks the
    `n`-th of them and which failure that is; every requirement is stated of the
    records and declarations alone, whatever becomes of the others.  A run succeeds
    exactly when none is broken, and otherwise it fails for the first broken one
    (`plan_fails_at_first_broken`).

    The steps of a run are taken up in their order, each with the requirements that
    it enforces. -/

namespace EntityPlan.Run

open ModelRules (Unbuildable)

/-- The entities that the records of a document declare. -/
def declared (d : Source.Document) : List Entity :=
  d.entities.records.filterMap fun r => (Entity.ofRecord r d.relationships).toOption

/-- The names of the declared entities. -/
def declaredNames (d : Source.Document) : List String := (declared d).map (·.name)

/-- The applications that the records of a document declare. -/
def applying (d : Source.Document) : List Application :=
  d.applications.records.filterMap fun r => (Application.ofRecord r).toOption

/-- `Broken s d n f` says that requirement `n` is broken and that this is the failure
    `f`, told of the first record or declaration that breaks it. -/
inductive Broken (s : Settings) (d : Source.Document) : Nat → Failure → Prop
  /-- there is no entity record -/
  | noEntities : d.entities.records = [] → Broken s d 1 .noEntities
  /-- an entity record declares no entity -/
  | entityRecord {r : Source.EntityRecord} {kind name : String} {fault : RecordFault} :
      First (fun r => ∃ f, Entity.ofRecord r d.relationships = .error f) d.entities.records r →
      Entity.ofRecord r d.relationships = .error (.malformedRecord kind name fault) →
      Broken s d 2 (.malformedRecord kind name fault)
  /-- there is no application record -/
  | noApplications : d.applications.records = [] → Broken s d 3 .noApplications
  /-- an application record gives no name -/
  | namelessApplication :
      (∃ r ∈ d.applications.records, ¬ r.Named) →
      Broken s d 4 (.malformedRecord "application" "<unnamed>" .namelessApplication)
  /-- a relationship of an entity leads to none of the declared ones -/
  | strayTarget {e : Entity} {x : Relationship} :
      First (fun e => ∃ x ∈ e.relationships, x.target ∉ declaredNames d) (declared d) e →
      First (fun x => x.target ∉ declaredNames d) e.relationships x →
      Broken s d 5 (.undeclaredTarget e.name x.fieldName x.target)
  /-- an entity cannot be classified -/
  | unclassified {e : Entity} {f : Failure} :
      First (Unbuildable (rules s)) (declared d) e →
      (Classification.ofEntity (rules s).policy e).answer = .error f →
      Broken s d 6 f
  /-- an entity can be classified, but the type of a field has no row -/
  | unmappedType {e : Entity} {c : Classification} {x : Field} :
      First (Unbuildable (rules s)) (declared d) e →
      (Classification.ofEntity (rules s).policy e).answer = .ok c →
      First (fun x => (types s).lookup? x.type = none) e.fields x →
      Broken s d 6 (.unmappedType e.name x.name x.type)
  /-- an application bears the name of one before it -/
  | repeatedName {before after : List Application} {a : Application} :
      applying d = before ++ a :: after →
      a.name ∈ before.map (·.name) →
      (before.map (·.name)).Nodup →
      Broken s d 7 (.duplicateDeclaration "module" a.name)
  /-- an application lists an entity that is not declared -/
  | undeclaredEntity {a : Application} {entity : String} :
      First (fun a => ∃ n ∈ a.entityList, n ≠ Application.everyEntity ∧ n ∉ declaredNames d)
        (applying d) a →
      First (fun n => n ≠ Application.everyEntity ∧ n ∉ declaredNames d) a.entityList entity →
      Broken s d 8 (.undeclaredEntity a.name entity)
  /-- an entity is claimed by no application, and the default group would bear the name
      of one -/
  | defaultTaken :
      (∃ e ∈ declared d, Unclaimed (applying d) e.name) →
      s.generation.defaultModule ∈ (applying d).map (·.name) →
      Broken s d 9 (.settings (.moduleTaken s.generation.defaultModule))

variable {s : Settings} {d : Source.Document}

theorem Broken.bounds {n : Nat} {f : Failure} (h : Broken s d n f) : 1 ≤ n ∧ n < 10 := by
  cases h <;> decide

/-! ## Declaring -/

theorem entities_eq (d : Source.Document) :
    entities d = (do
      refuse (if d.entities.records = [] then some .noEntities else none)
      d.entities.records.mapM fun r => Entity.ofRecord r d.relationships) := by
  unfold entities Source.Collection.isEmpty Source.Collection.records
  cases d.entities.entries with
  | nil => rfl
  | cons e rest => rfl

theorem applications_eq (d : Source.Document) :
    applications d = (do
      refuse (if d.applications.records = [] then some .noApplications else none)
      d.applications.records.mapM Application.ofRecord) := by
  unfold applications Source.Collection.isEmpty Source.Collection.records
  cases d.applications.entries with
  | nil => rfl
  | cons e rest => rfl

/-- The entities of a document are those that its records declare. -/
theorem eq_declared_of_entities {es : List Entity} (h : entities d = .ok es) : es = declared d := by
  rw [entities_eq] at h
  obtain ⟨-, -, h⟩ := bind_eq_ok_iff.mp h
  exact eq_filterMap_of_mapM_eq_ok h

/-- The applications of a document are those that its records declare. -/
theorem eq_applying_of_applications {as : List Application} (h : applications d = .ok as) :
    as = applying d := by
  rw [applications_eq] at h
  obtain ⟨-, -, h⟩ := bind_eq_ok_iff.mp h
  exact eq_filterMap_of_mapM_eq_ok h

theorem refuse_if_eq_error_iff {c : Prop} [Decidable c] {g f : Failure} :
    refuse (if c then some g else none) = .error f ↔ c ∧ g = f := by
  rw [refuse_eq_error_iff]
  split
  · next h => rw [Option.some.injEq, and_iff_right h]
  · next h => exact ⟨fun h' => (nomatch h'), fun h' => absurd h'.1 h⟩

theorem entities_enforces (s : Settings) (d : Source.Document) :
    Enforces (Broken s d) 1 3 (entities d) := by
  rw [entities_eq]
  refine Enforces.bind (by decide) (by decide) (Enforces.single ?_) fun _ _ => Enforces.single ?_
  · intro f
    rw [refuse_if_eq_error_iff]
    constructor
    · rintro ⟨h, rfl⟩
      exact Broken.noEntities h
    · intro h
      cases h with
      | noEntities h => exact ⟨h, rfl⟩
  · intro f
    rw [mapM_eq_error_iff]
    constructor
    · rintro ⟨r, hr, hf⟩
      obtain ⟨kind, name, fault, rfl⟩ := Entity.malformed_of_ofRecord hf
      exact Broken.entityRecord hr hf
    · intro h
      cases h with
      | entityRecord hr hf => exact ⟨_, hr, hf⟩

theorem applications_enforces (s : Settings) (d : Source.Document) :
    Enforces (Broken s d) 3 5 (applications d) := by
  rw [applications_eq]
  refine Enforces.bind (by decide) (by decide) (Enforces.single ?_) fun _ _ => Enforces.single ?_
  · intro f
    rw [refuse_if_eq_error_iff]
    constructor
    · rintro ⟨h, rfl⟩
      exact Broken.noApplications h
    · intro h
      cases h with
      | noApplications h => exact ⟨h, rfl⟩
  · intro f
    rw [mapM_eq_error_iff]
    constructor
    · rintro ⟨r, hr, hf⟩
      obtain ⟨hnamed, rfl⟩ := Application.ofRecord_eq_error_iff.mp hf
      exact Broken.namelessApplication ⟨r, hr.mem, hnamed⟩
    · intro h
      cases h with
      | namelessApplication h =>
          obtain ⟨r, hr⟩ := First.exists_iff.mpr h
          have hbad : ∀ r ∈ d.applications.records,
              (∃ f, Application.ofRecord r = .error f) ↔ ¬ r.Named := by
            intro r _
            simp only [Application.ofRecord_eq_error_iff, exists_and_left, exists_eq, and_true]
          exact ⟨r, (First.congr hbad).mpr hr,
            Application.ofRecord_eq_error_iff.mpr ⟨hr.holds, rfl⟩⟩

/-! ## Building -/

theorem models_enforces (s : Settings) (d : Source.Document) :
    Enforces (Broken s d) 5 7 ((rules s).models (declared d)).answer := by
  rw [ModelRules.answer_models]
  refine Enforces.bind (by decide) (by decide) (Enforces.single ?_) fun _ _ => Enforces.single ?_
  · intro f
    rw [refuse_eq_error_iff, ModelRules.stray?_eq_some_iff]
    constructor
    · rintro ⟨e, x, he, hx, rfl⟩
      exact Broken.strayTarget he hx
    · intro h
      cases h with
      | strayTarget he hx => exact ⟨_, _, he, hx, rfl⟩
  · intro f
    have hbad : ∀ e ∈ declared d, (∃ f, ((rules s).entityModel e).answer = .error f) ↔
        Unbuildable (rules s) e := fun e _ => ModelRules.unbuildable_iff
    rw [mapM_eq_error_iff]
    constructor
    · rintro ⟨e, he, hf⟩
      have he := (First.congr hbad).mp he
      rcases ModelRules.entityModel_eq_error_iff.mp hf with hf | ⟨⟨c, hc⟩, x, hx, rfl⟩
      · exact Broken.unclassified he hf
      · exact Broken.unmappedType he hc hx
    · intro h
      cases h with
      | unclassified he hf =>
          exact ⟨_, (First.congr hbad).mpr he, ModelRules.entityModel_eq_error_iff.mpr (Or.inl hf)⟩
      | unmappedType he hc hx =>
          exact ⟨_, (First.congr hbad).mpr he,
            ModelRules.entityModel_eq_error_iff.mpr (Or.inr ⟨⟨_, hc⟩, _, hx, rfl⟩)⟩

/-! ## Grouping -/

theorem repeated?_eq_some_iff {applications : List Application} {f : Failure} :
    Plan.repeated? applications = some f ↔
      ∃ before a after, applications = before ++ a :: after ∧ a.name ∈ before.map (·.name) ∧
        (before.map (·.name)).Nodup ∧ .duplicateDeclaration "module" a.name = f := by
  unfold Plan.repeated?
  rw [Option.map_eq_some_iff]
  constructor
  · rintro ⟨n, hn, rfl⟩
    -- the names in front are those of the applications in front
    obtain ⟨names, rest, hnames, hmem, hnodup, -⟩ := Text.firstRepeated?_eq_some_iff.mp hn
    obtain ⟨before, tail, rfl, rfl, htail⟩ := List.map_eq_append_iff.mp hnames
    obtain ⟨a, after, rfl, rfl, rfl⟩ := List.map_eq_cons_iff.mp htail
    rw [List.append_nil] at hmem
    exact ⟨before, a, after, rfl, hmem, hnodup, rfl⟩
  · rintro ⟨before, a, after, rfl, hmem, hnodup, rfl⟩
    refine ⟨a.name, Text.firstRepeated?_eq_some_iff.mpr
      ⟨before.map (·.name), after.map (·.name), ?_, ?_, hnodup, fun _ _ h => nomatch h⟩, rfl⟩
    · rw [List.map_append, List.map_cons]
    · rw [List.append_nil]
      exact hmem

/-- An undeclared entity is the first one that the first application with any lists. -/
theorem undeclared?_eq_some_iff {names : List String} {applications : List Application}
    {f : Failure} :
    Plan.undeclared? names applications = some f ↔
      ∃ a n,
        First (fun a => ∃ n ∈ a.entityList, n ≠ Application.everyEntity ∧ n ∉ names)
          applications a ∧
        First (fun n => n ≠ Application.everyEntity ∧ n ∉ names) a.entityList n ∧
        .undeclaredEntity a.name n = f := by
  unfold Plan.undeclared? Plan.undeclaredIn? Application.listedEntities
  rw [findSome?_find?_eq_some_iff_first]
  simp only [First.filter_iff, List.mem_filter, decide_eq_true_iff, Bool.not_eq_true',
    Bool.eq_false_iff, Ne, List.contains_iff_mem, and_assoc]

theorem taken?_eq_some_iff {models : List EntityModel} {applications : List Application}
    {g : Generation} {f : Failure} :
    Plan.taken? models applications g = some f ↔
      (∃ m ∈ models, Unclaimed applications m.name) ∧
        g.defaultModule ∈ applications.map (·.name) ∧
        .settings (.moduleTaken g.defaultModule) = f := by
  unfold Plan.taken?
  rw [← refuse_eq_error_iff, refuse_if_eq_error_iff, Plan.unclaimed_ne_nil_iff, and_assoc]

theorem ofModels_enforces {models : List EntityModel}
    (hnames : models.map (·.name) = declaredNames d) :
    Enforces (Broken s d) 7 10 (Plan.ofModels models (applying d) s.generation) := by
  -- claims are made by name, and the models bear the names of the entities
  have hunclaimed : (∃ m ∈ models, Unclaimed (applying d) m.name) ↔
      ∃ e ∈ declared d, Unclaimed (applying d) e.name := by
    have hmem : ∀ n, n ∈ models.map (·.name) ↔ n ∈ (declared d).map (·.name) :=
      fun n => hnames ▸ Iff.rfl
    simp only [List.mem_map] at hmem
    constructor
    · rintro ⟨m, hm, hfree⟩
      obtain ⟨e, he, hem⟩ := (hmem m.name).mp ⟨m, hm, rfl⟩
      exact ⟨e, he, hem ▸ hfree⟩
    · rintro ⟨e, he, hfree⟩
      obtain ⟨m, hm, hme⟩ := (hmem e.name).mpr ⟨e, he, rfl⟩
      exact ⟨m, hm, hme ▸ hfree⟩
  rw [Plan.ofModels_eq, hnames]
  refine Enforces.bind (by decide) (by decide) (Enforces.single ?_) fun _ _ => ?_
  · intro f
    rw [refuse_eq_error_iff, repeated?_eq_some_iff]
    constructor
    · rintro ⟨before, a, after, h, hmem, hnodup, rfl⟩
      exact Broken.repeatedName h hmem hnodup
    · intro h
      cases h with
      | repeatedName h hmem hnodup => exact ⟨_, _, _, h, hmem, hnodup, rfl⟩
  refine Enforces.bind (by decide) (by decide) (Enforces.single ?_) fun _ _ => ?_
  · intro f
    rw [refuse_eq_error_iff, undeclared?_eq_some_iff]
    constructor
    · rintro ⟨a, n, ha, hn, rfl⟩
      exact Broken.undeclaredEntity ha hn
    · intro h
      cases h with
      | undeclaredEntity ha hn => exact ⟨_, _, ha, hn, rfl⟩
  refine Enforces.single ?_
  intro f
  rw [bind_eq_error_iff, refuse_eq_error_iff, taken?_eq_some_iff, hunclaimed]
  constructor
  · rintro (⟨hfree, hname, rfl⟩ | ⟨_, _, h⟩)
    · exact Broken.defaultTaken hfree hname
    · exact nomatch h
  · intro h
    cases h with
    | defaultTaken hfree hname => exact Or.inl ⟨hfree, hname, rfl⟩

/-! ## Runs -/

theorem answer_plan (s : Settings) (d : Source.Document) :
    (plan s d).answer = (do
      let es ← entities d
      let as ← applications d
      let models ← ((rules s).models es).answer
      Plan.ofModels models as s.generation) := by
  unfold plan
  simp only [Traced.answer_bind]
  rfl

/-- A run has a plan when every stage succeeds on what the stages before it gave. -/
theorem answer_plan_eq_ok_iff {p : Plan} :
    (plan s d).answer = .ok p ↔ ∃ es as models, entities d = .ok es ∧ applications d = .ok as ∧
      ((rules s).models es).answer = .ok models ∧
        Plan.ofModels models as s.generation = .ok p := by
  rw [answer_plan]
  simp only [bind_eq_ok_iff, exists_and_left]

theorem plan_enforces (s : Settings) (d : Source.Document) :
    Enforces (Broken s d) 1 10 (plan s d).answer := by
  rw [answer_plan]
  -- each stage is taken up with what those before it gave
  refine (entities_enforces s d).bind (by decide) (by decide) fun es hes => ?_
  obtain rfl := eq_declared_of_entities hes
  refine (applications_enforces s d).bind (by decide) (by decide) fun as has => ?_
  obtain rfl := eq_applying_of_applications has
  refine (models_enforces s d).bind (by decide) (by decide) fun models hmodels => ?_
  exact ofModels_enforces (ModelRules.names_models hmodels)

/-- A run has a plan exactly when no requirement is broken, and otherwise it fails for
    the first broken one. -/
theorem plan_fails_at_first_broken (s : Settings) (d : Source.Document) :
    ((∃ p, (plan s d).answer = .ok p) ↔ ∀ n f, ¬ Broken s d n f) ∧
      ∀ f, (plan s d).answer = .error f ↔
        ∃ n, Broken s d n f ∧ ∀ m < n, ∀ g, ¬ Broken s d m g := by
  have henforces := plan_enforces s d
  constructor
  · rw [henforces.exists_ok_iff]
    exact ⟨fun h n f hf => h n hf.bounds.1 hf.bounds.2 f hf, fun h n _ _ f => h n f⟩
  · intro f
    rw [henforces f]
    refine exists_congr fun n => ?_
    constructor
    · rintro ⟨-, -, hf, hbefore⟩
      exact ⟨hf, fun m hm g hg => hbefore m hg.bounds.1 hm g hg⟩
    · rintro ⟨hf, hbefore⟩
      exact ⟨hf.bounds.1, hf.bounds.2, hf, fun m _ hm g => hbefore m hm g⟩

end EntityPlan.Run
