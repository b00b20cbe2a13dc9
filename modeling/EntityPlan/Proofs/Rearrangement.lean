import EntityPlan.Proofs.Distinctness

/-! # Rearrangement — what the order of records decides

    The order in which entities and applications stand in a document decides the
    order in which they stand in its plan, and nothing else.  Documents that differ
    in this order alone have a plan both or neither, with the same groups and the
    same models in each (`Run.plan_rearranges`).

    Every stage of a run is taken up with what it was given in another order, and
    gives what it gave before in another order. -/

namespace EntityPlan

/-- The documents differ in the order of their entities and applications alone. -/
structure Source.Document.Rearranges (d d' : Source.Document) : Prop where
  entities : d.entities.records.Perm d'.entities.records
  applications : d.applications.records.Perm d'.applications.records
  relationships : d.relationships = d'.relationships

theorem Source.Document.Rearranges.symm {d d' : Source.Document} (h : d.Rearranges d') :
    d'.Rearranges d :=
  ⟨h.entities.symm, h.applications.symm, h.relationships.symm⟩

/-- The groups agree in everything but the order of their models. -/
structure Group.Matches (x y : Group) : Prop where
  attributes : { x with entities := y.entities } = y
  entities : x.entities.Perm y.entities

/-- A default group stands alone behind all other groups. -/
def Plan.DefaultLast (p : Plan) : Prop :=
  p.groups = (p.groups.filter fun x => !x.isDefault) ++ p.defaultGroup?.toList

/-- The plans differ in the order of the groups of applications, and in the order of the
    models in each group, alone. -/
structure Plan.Rearranges (p q : Plan) : Prop where
  /-- the groups but the default one match those of the other plan, in some order -/
  claimed : ∃ groups, groups.Perm (q.groups.filter fun x => !x.isDefault) ∧
    List.Forall₂ Group.Matches (p.groups.filter fun x => !x.isDefault) groups
  /-- a default group is in both, and they match, or in neither -/
  unclaimed : Option.Rel Group.Matches p.defaultGroup? q.defaultGroup?
  trailing : p.DefaultLast ∧ q.DefaultLast

theorem eq_nil_iff_of_perm {α : Type} {l l' : List α} (h : l.Perm l') : l = [] ↔ l' = [] := by
  rw [← List.length_eq_zero_iff, h.length_eq, List.length_eq_zero_iff]

/-! ## Grouping -/

namespace Plan

variable {models models' : List EntityModel} {applications applications' : List Application}
  {g : Generation}

theorem repeated?_perm (has : applications.Perm applications') :
    repeated? applications = none ↔ repeated? applications' = none := by
  show (Text.firstRepeated? [] (applications.map (·.name))).map _ = none ↔
    (Text.firstRepeated? [] (applications'.map (·.name))).map _ = none
  rw [Option.map_eq_none_iff, Option.map_eq_none_iff, Text.firstRepeated?_eq_none_iff,
    Text.firstRepeated?_eq_none_iff, (has.map _).nodup_iff]
  simp only [List.not_mem_nil, not_false_eq_true, implies_true]

theorem undeclared?_perm {names names' : List String} (hnames : names.Perm names')
    (has : applications.Perm applications') :
    undeclared? names applications = none ↔ undeclared? names' applications' = none := by
  have hsame : undeclaredIn? names = undeclaredIn? names' := by
    funext a
    unfold undeclaredIn?
    simp only [hnames.contains_eq]
  show applications.findSome? (undeclaredIn? names) = none ↔
    applications'.findSome? (undeclaredIn? names') = none
  rw [List.findSome?_eq_none_iff, List.findSome?_eq_none_iff, hsame]
  exact forall_congr' fun a => imp_congr has.mem_iff Iff.rfl

theorem unclaimed_perm (hms : models.Perm models') (has : applications.Perm applications') :
    (unclaimed models applications).Perm (unclaimed models' applications') := by
  have hsame : (fun m : EntityModel => !applications.any fun a => a.claims m.name) =
      fun m => !applications'.any fun a => a.claims m.name := by
    funext m
    rw [has.any_eq]
  show (models.filter fun m => !applications.any fun a => a.claims m.name).Perm
    (models'.filter fun m => !applications'.any fun a => a.claims m.name)
  rw [hsame]
  exact hms.filter _

theorem taken?_perm (hms : models.Perm models') (has : applications.Perm applications') :
    taken? models applications g = taken? models' applications' g := by
  have hnil : unclaimed models applications ≠ [] ↔ unclaimed models' applications' ≠ [] :=
    not_congr (eq_nil_iff_of_perm (unclaimed_perm hms has))
  unfold taken?
  simp only [hnil, (has.map _).mem_iff]

/-- The group of an application holds the models that it held before. -/
theorem groupOf_matches (hms : models.Perm models') (g : Generation) (a : Application) :
    (groupOf models g a).Matches (groupOf models' g a) :=
  ⟨rfl, hms.filter _⟩

/-- What is left over is left over in any order. -/
theorem leftOvers_matches (hms : models.Perm models') (has : applications.Perm applications') :
    Option.Rel Group.Matches (leftOvers models applications g).head?
      (leftOvers models' applications' g).head? := by
  have hperm := unclaimed_perm hms has
  unfold leftOvers
  by_cases h : unclaimed models applications = []
  · rw [if_pos h, if_pos ((eq_nil_iff_of_perm hperm).mp h)]
    exact Option.Rel.none
  · rw [if_neg h, if_neg (mt (eq_nil_iff_of_perm hperm).mpr h)]
    exact Option.Rel.some ⟨rfl, hperm⟩

/-- The default group is what is left over. -/
theorem defaultGroup?_of_gathered {p : Plan} (h : p.groups = gathered models applications g) :
    p.defaultGroup? = (leftOvers models applications g).head? := by
  show p.groups.find? (·.isDefault) = _
  rw [h, ← List.head?_filter, filter_isDefault]

theorem defaultLast_of_gathered {p : Plan} (h : p.groups = gathered models applications g) :
    p.DefaultLast := by
  have hsingle : (leftOvers models applications g).head?.toList =
      leftOvers models applications g := by
    unfold leftOvers
    split <;> rfl
  show p.groups = (p.groups.filter fun x => !x.isDefault) ++ p.defaultGroup?.toList
  rw [defaultGroup?_of_gathered h, hsingle, h, filter_not_isDefault]
  rfl

/-- Grouping the same models by the same applications gives the same groups. -/
theorem ofModels_rearranges {p : Plan} (hms : models.Perm models')
    (has : applications.Perm applications') (hp : ofModels models applications g = .ok p) :
    ∃ q, ofModels models' applications' g = .ok q ∧ p.Rearranges q := by
  obtain ⟨hrepeated, hundeclared, htaken, hgroups⟩ := ofModels_eq_ok_iff.mp hp
  refine ⟨⟨gathered models' applications' g⟩, ofModels_eq_ok_iff.mpr ⟨?_, ?_, ?_, rfl⟩,
    ?claimed, ?unclaimed, defaultLast_of_gathered hgroups, defaultLast_of_gathered rfl⟩
  · exact (repeated?_perm has).mp hrepeated
  · exact (undeclared?_perm (hms.map _) has).mp hundeclared
  · exact (taken?_perm hms has).symm.trans htaken
  case claimed =>
    refine ⟨applications.map (groupOf models' g), ?_, ?_⟩
    · rw [filter_not_isDefault]
      exact has.map _
    · rw [hgroups, filter_not_isDefault, List.forall₂_map_left_iff, List.forall₂_map_right_iff,
        List.forall₂_same]
      exact fun a _ => groupOf_matches hms g a
  case unclaimed =>
    have hq : Plan.defaultGroup? ⟨gathered models' applications' g⟩ =
        (leftOvers models' applications' g).head? := defaultGroup?_of_gathered rfl
    rw [defaultGroup?_of_gathered hgroups, hq]
    exact leftOvers_matches hms has

end Plan

/-! ## Building -/

namespace ModelRules

theorem stray?_perm {es es' : List Entity} (hes : es.Perm es') :
    stray? es = none ↔ stray? es' = none := by
  rw [stray?_eq_none_iff, stray?_eq_none_iff]
  refine forall_congr' fun e => imp_congr hes.mem_iff ?_
  exact forall₂_congr fun x _ => (hes.map _).mem_iff

/-- Each entity is built by itself once the relationships are seen to lead to entities. -/
theorem models_perm {r : ModelRules} {es es' : List Entity} {models : List EntityModel}
    (hes : es.Perm es') (h : (r.models es).answer = .ok models) :
    ∃ models', (r.models es').answer = .ok models' ∧ models.Perm models' := by
  rw [answer_models] at h
  obtain ⟨u, hstray, hmodels⟩ := bind_eq_ok_iff.mp h
  have hstray' : stray? es' = none := (stray?_perm hes).mp (refuse_eq_ok_iff.mp hstray)
  obtain ⟨models', hmodels', hperm⟩ := mapM_perm hes hmodels
  refine ⟨models', ?_, hperm⟩
  rw [answer_models, hstray']
  exact hmodels'

end ModelRules

/-! ## Runs -/

namespace Run

variable {s : Settings} {d d' : Source.Document}

theorem entities_perm {es : List Entity} (h : d.Rearranges d') (hes : entities d = .ok es) :
    ∃ es', entities d' = .ok es' ∧ es.Perm es' := by
  rw [entities_eq] at hes
  obtain ⟨u, hsome, hes⟩ := bind_eq_ok_iff.mp hes
  obtain ⟨es', hes', hperm⟩ := mapM_perm h.entities hes
  refine ⟨es', ?_, hperm⟩
  rw [entities_eq, ← h.relationships, hes']
  simp only [eq_nil_iff_of_perm h.entities] at hsome
  rw [hsome]
  rfl

theorem applications_perm {as : List Application} (h : d.Rearranges d')
    (has : applications d = .ok as) : ∃ as', applications d' = .ok as' ∧ as.Perm as' := by
  rw [applications_eq] at has
  obtain ⟨u, hsome, has⟩ := bind_eq_ok_iff.mp has
  obtain ⟨as', has', hperm⟩ := mapM_perm h.applications has
  refine ⟨as', ?_, hperm⟩
  rw [applications_eq, has']
  simp only [eq_nil_iff_of_perm h.applications] at hsome
  rw [hsome]
  rfl

/-- A document that has a plan has one in any order of its records, with the same groups. -/
theorem exists_plan_of_rearranges {p : Plan} (h : d.Rearranges d')
    (hp : (plan s d).answer = .ok p) : ∃ q, (plan s d').answer = .ok q ∧ p.Rearranges q := by
  obtain ⟨es, as, models, hes, has, hmodels, hp⟩ := answer_plan_eq_ok_iff.mp hp
  -- stage by stage, each with what the one before gave in the other order
  obtain ⟨es', hes', hesperm⟩ := entities_perm h hes
  obtain ⟨as', has', hasperm⟩ := applications_perm h has
  obtain ⟨models', hmodels', hmodelsperm⟩ := ModelRules.models_perm hesperm hmodels
  obtain ⟨q, hq, hpq⟩ := Plan.ofModels_rearranges hmodelsperm hasperm hp
  exact ⟨q, answer_plan_eq_ok_iff.mpr ⟨es', as', models', hes', has', hmodels', hq⟩, hpq⟩

/-- Documents that differ in the order of their entities and applications alone have a plan
    both or neither, and the plans differ in the order of groups and models alone. -/
theorem plan_rearranges (h : d.Rearranges d') :
    ((∃ p, (plan s d).answer = .ok p) ↔ ∃ q, (plan s d').answer = .ok q) ∧
      ∀ p q, (plan s d).answer = .ok p → (plan s d').answer = .ok q → p.Rearranges q := by
  refine ⟨⟨?_, ?_⟩, ?_⟩
  · rintro ⟨p, hp⟩
    obtain ⟨q, hq, -⟩ := exists_plan_of_rearranges h hp
    exact ⟨q, hq⟩
  · rintro ⟨q, hq⟩
    obtain ⟨p, hp, -⟩ := exists_plan_of_rearranges h.symm hq
    exact ⟨p, hp⟩
  · intro p q hp hq
    obtain ⟨q', hq', hpq⟩ := exists_plan_of_rearranges h hp
    cases hq.symm.trans hq'
    exact hpq

/-- A document of entities without fields and of applications that list some of them. -/
def branches (entities : List String) (applications : List (String × List String)) :
    Source.Document where
  entities := ⟨entities.map fun e => (e, { name := some e, body := some [] })⟩
  applications := ⟨applications.map fun a =>
    (a.1, { config := some { baseName := some a.1 }, entities := some { listed := some a.2 } })⟩

/-- Two applications that share an entity, and an entity that neither claims. -/
def lending : Source.Document :=
  branches ["Author", "Book", "Shelf"] [("store", ["Book", "Author"]), ("loan", ["Book"])]

/-- The same records in the opposite order. -/
def lendingBackwards : Source.Document :=
  branches ["Shelf", "Book", "Author"] [("loan", ["Book"]), ("store", ["Book", "Author"])]

theorem plan_rearranges_lending :
    lending.Rearranges lendingBackwards ∧
      ∃ p q, (plan {} lending).answer = .ok p ∧ (plan {} lendingBackwards).answer = .ok q ∧
        p.groups.map (·.entityNames) = [["Author", "Book"], ["Book"], ["Shelf"]] ∧
        q.groups.map (·.entityNames) = [["Book"], ["Book", "Author"], ["Shelf"]] ∧
          p.Rearranges q := by
  have h : lending.Rearranges lendingBackwards :=
    ⟨(List.reverse_perm _).symm, (List.reverse_perm _).symm, rfl⟩
  obtain ⟨p, hp, hnames⟩ : ∃ p, (plan {} lending).answer = .ok p ∧
      p.groups.map (·.entityNames) = [["Author", "Book"], ["Book"], ["Shelf"]] := ⟨_, rfl, rfl⟩
  obtain ⟨q, hq, hnames'⟩ : ∃ q, (plan {} lendingBackwards).answer = .ok q ∧
      q.groups.map (·.entityNames) = [["Book"], ["Book", "Author"], ["Shelf"]] := ⟨_, rfl, rfl⟩
  exact ⟨h, p, q, hp, hq, hnames, hnames', (plan_rearranges h).2 p q hp hq⟩

end Run

end EntityPlan
