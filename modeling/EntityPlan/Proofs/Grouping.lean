import EntityPlan.Plan.Grouping
import EntityPlan.Proofs.Repetition
import EntityPlan.Proofs.Requirement

/-! # Grouping — nothing is lost and nothing is mixed

    Grouping looks at three requirements and then cannot fail (`ofModels_eq`).  The
    plan has one group for each application, with exactly the models that the
    application claims, and behind them the models that none claims
    (`ofModels_gathers`). -/

namespace EntityPlan

/-- The application claims the entity: it does not exclude it, and it lists it by
    name or lists every entity. -/
def Application.Claims (a : Application) (entity : String) : Prop :=
  entity ∉ a.excluded ∧ (Application.everyEntity ∈ a.entityList ∨ entity ∈ a.entityList)

instance (a : Application) (entity : String) : Decidable (a.Claims entity) :=
  inferInstanceAs (Decidable (_ ∧ _))

theorem Application.claims_iff {a : Application} {entity : String} :
    a.claims entity = true ↔ a.Claims entity := by
  unfold Application.claims Application.claimsAll Application.Claims
  rw [Bool.and_eq_true, Bool.or_eq_true, List.contains_iff_mem, List.contains_iff_mem,
    Bool.not_eq_true', Bool.eq_false_iff, Ne, List.contains_iff_mem]

/-- No application claims the entity. -/
def Unclaimed (applications : List Application) (entity : String) : Prop :=
  ∀ a ∈ applications, ¬ a.Claims entity

instance (applications : List Application) (entity : String) :
    Decidable (Unclaimed applications entity) :=
  inferInstanceAs (Decidable (∀ a ∈ applications, _))

namespace Plan

variable {models : List EntityModel} {applications : List Application} {g : Generation}

/-! ## The requirements of grouping -/

/-- The objection to two applications of one name. -/
def repeated? (applications : List Application) : Option Failure :=
  (Text.firstRepeated? [] (applications.map (·.name))).map (.duplicateDeclaration "module")

/-- The objection to an application that lists what nobody declared. -/
def undeclared? (declared : List String) (applications : List Application) : Option Failure :=
  applications.findSome? (undeclaredIn? declared)

/-- The objection to a default group that would bear the name of an application. -/
def taken? (models : List EntityModel) (applications : List Application) (g : Generation) :
    Option Failure :=
  if unclaimed models applications ≠ [] ∧ g.defaultModule ∈ applications.map (·.name) then
    some (.settings (.moduleTaken g.defaultModule))
  else none

/-- The default group, if there is anything to put into it. -/
def leftOvers (models : List EntityModel) (applications : List Application) (g : Generation) :
    List Group :=
  if unclaimed models applications = [] then [] else [leftOver g (unclaimed models applications)]

/-- The groups of the applications, and behind them the default group. -/
def gathered (models : List EntityModel) (applications : List Application) (g : Generation) :
    List Group :=
  applications.map (groupOf models g) ++ leftOvers models applications g

/-- Grouping looks at its requirements one after another, and then it succeeds. -/
theorem ofModels_eq (models : List EntityModel) (applications : List Application)
    (g : Generation) :
    ofModels models applications g = (do
      refuse (repeated? applications)
      refuse (undeclared? (models.map (·.name)) applications)
      refuse (taken? models applications g)
      .ok ⟨gathered models applications g⟩) := by
  unfold ofModels repeated? undeclared? taken? gathered leftOvers
  dsimp only
  cases Text.firstRepeated? [] (applications.map (·.name)) with
  | some n => rfl
  | none =>
      cases applications.findSome? (undeclaredIn? (models.map (·.name))) with
      | some f => rfl
      | none =>
          cases unclaimed models applications with
          | nil =>
              -- with nothing left over no name can be taken
              rw [if_neg fun h => h.1 rfl, if_pos rfl, List.append_nil]
              rfl
          | cons m rest =>
              have hrest : m :: rest ≠ [] := List.cons_ne_nil m rest
              by_cases hname : g.defaultModule ∈ applications.map (·.name)
              · have hcontains := List.contains_iff_mem.mpr hname
                rw [if_pos ⟨hrest, hname⟩, hcontains]
                rfl
              · have hcontains : (applications.map (·.name)).contains g.defaultModule = false :=
                  Bool.eq_false_iff.mpr fun h => hname (List.contains_iff_mem.mp h)
                rw [if_neg fun h => hname h.2, if_neg hrest, hcontains]
                rfl

/-- Grouping succeeds exactly when its requirements are met, and with these groups. -/
theorem ofModels_eq_ok_iff {p : Plan} :
    ofModels models applications g = .ok p ↔
      repeated? applications = none ∧ undeclared? (models.map (·.name)) applications = none ∧
        taken? models applications g = none ∧
        p.groups = gathered models applications g := by
  rw [ofModels_eq]
  simp only [bind_eq_ok_iff, refuse_eq_ok_iff, exists_and_left, exists_const, Except.ok.injEq]
  constructor
  · rintro ⟨h1, h2, h3, rfl⟩
    exact ⟨h1, h2, h3, rfl⟩
  · rintro ⟨h1, h2, h3, h⟩
    refine ⟨h1, h2, h3, ?_⟩
    rw [← h]

/-! ## What the groups hold -/

/-- The group of an application holds the models that it claims. -/
theorem entities_groupOf (models : List EntityModel) (g : Generation) (a : Application) :
    (groupOf models g a).entities = models.filter fun m => a.Claims m.name := by
  refine List.filter_congr ?_
  intro m _
  rw [Bool.eq_iff_iff, decide_eq_true_iff]
  exact Application.claims_iff

/-- The models that are left over are those that no application claims. -/
theorem unclaimed_eq (models : List EntityModel) (applications : List Application) :
    unclaimed models applications = models.filter fun m => Unclaimed applications m.name := by
  refine List.filter_congr ?_
  intro m _
  rw [Bool.eq_iff_iff, decide_eq_true_iff, Bool.not_eq_true', List.any_eq_false]
  exact forall₂_congr fun a _ => not_congr Application.claims_iff

theorem mem_entities_groupOf {m : EntityModel} {a : Application} :
    m ∈ (groupOf models g a).entities ↔ m ∈ models ∧ a.Claims m.name := by
  rw [entities_groupOf, List.mem_filter, decide_eq_true_iff]

theorem mem_unclaimed {m : EntityModel} :
    m ∈ unclaimed models applications ↔ m ∈ models ∧ Unclaimed applications m.name := by
  rw [unclaimed_eq, List.mem_filter, decide_eq_true_iff]

theorem unclaimed_ne_nil_iff :
    unclaimed models applications ≠ [] ↔ ∃ m ∈ models, Unclaimed applications m.name := by
  constructor
  · intro h
    obtain ⟨m, hm⟩ := List.exists_mem_of_ne_nil _ h
    exact ⟨m, mem_unclaimed.mp hm⟩
  · rintro ⟨m, hm⟩
    exact List.ne_nil_of_mem (mem_unclaimed.mpr hm)

/-- Whatever is left over is in the default group. -/
theorem mem_leftOvers_iff {x : Group} :
    x ∈ leftOvers models applications g ↔
      unclaimed models applications ≠ [] ∧ x = leftOver g (unclaimed models applications) := by
  unfold leftOvers
  split
  · next h => exact ⟨fun hx => (nomatch hx), fun hx => absurd h hx.1⟩
  · next h => exact ⟨fun hx => ⟨h, List.mem_singleton.mp hx⟩, fun hx => List.mem_singleton.mpr hx.2⟩

theorem mem_gathered_iff {x : Group} :
    x ∈ gathered models applications g ↔
      (∃ a ∈ applications, groupOf models g a = x) ∨ x ∈ leftOvers models applications g := by
  rw [gathered, List.mem_append, List.mem_map]

/-- No model comes in. -/
theorem mem_of_mem_entities {x : Group} {m : EntityModel}
    (hx : x ∈ gathered models applications g) (hm : m ∈ x.entities) : m ∈ models := by
  rcases mem_gathered_iff.mp hx with ⟨a, -, rfl⟩ | hx
  · exact (mem_entities_groupOf.mp hm).1
  · obtain ⟨-, rfl⟩ := mem_leftOvers_iff.mp hx
    exact (mem_unclaimed.mp hm).1

/-- No model is lost. -/
theorem exists_mem_entities {m : EntityModel} (hm : m ∈ models) :
    ∃ x ∈ gathered models applications g, m ∈ x.entities := by
  -- some application claims it, or it is left over
  by_cases hfree : Unclaimed applications m.name
  · have hmem : m ∈ unclaimed models applications := mem_unclaimed.mpr ⟨hm, hfree⟩
    have hx : leftOver g (unclaimed models applications) ∈ leftOvers models applications g :=
      mem_leftOvers_iff.mpr ⟨List.ne_nil_of_mem hmem, rfl⟩
    exact ⟨_, mem_gathered_iff.mpr (Or.inr hx), hmem⟩
  · unfold Unclaimed at hfree
    push Not at hfree
    obtain ⟨a, ha, hclaims⟩ := hfree
    exact ⟨groupOf models g a, mem_gathered_iff.mpr (Or.inl ⟨a, ha, rfl⟩),
      mem_entities_groupOf.mpr ⟨hm, hclaims⟩⟩

/-- The groups of the applications are those that are not the default one. -/
theorem filter_not_isDefault (models : List EntityModel) (applications : List Application)
    (g : Generation) :
    (gathered models applications g).filter (fun x => !x.isDefault) =
      applications.map (groupOf models g) := by
  have hback : (leftOvers models applications g).filter (fun x => !x.isDefault) = [] := by
    refine List.filter_eq_nil_iff.mpr ?_
    intro x hx
    rw [(mem_leftOvers_iff.mp hx).2]
    exact Bool.false_ne_true
  have hfront : (applications.map (groupOf models g)).filter (fun x => !x.isDefault) =
      applications.map (groupOf models g) := by
    refine List.filter_eq_self.mpr ?_
    intro x hx
    obtain ⟨a, -, rfl⟩ := List.mem_map.mp hx
    rfl
  rw [gathered, List.filter_append, hfront, hback, List.append_nil]

/-- What is left over is the default group. -/
theorem filter_isDefault (models : List EntityModel) (applications : List Application)
    (g : Generation) :
    (gathered models applications g).filter (·.isDefault) = leftOvers models applications g := by
  have hfront : (applications.map (groupOf models g)).filter (·.isDefault) = [] := by
    refine List.filter_eq_nil_iff.mpr ?_
    intro x hx
    obtain ⟨a, -, rfl⟩ := List.mem_map.mp hx
    exact Bool.false_ne_true
  have hback : (leftOvers models applications g).filter (·.isDefault) =
      leftOvers models applications g := by
    refine List.filter_eq_self.mpr ?_
    intro x hx
    rw [(mem_leftOvers_iff.mp hx).2]
    rfl
  rw [gathered, List.filter_append, hfront, hback, List.nil_append]

/-! ## How often a model occurs -/

theorem countP_claims_eq_zero_iff {entity : String} :
    applications.countP (fun a => a.Claims entity) = 0 ↔ Unclaimed applications entity := by
  rw [List.countP_eq_zero]
  exact forall₂_congr fun a _ => not_congr decide_eq_true_iff

/-- A model that some applications claim is in as many groups, and any other one is
    in the default group alone. -/
theorem countP_mem_entities {m : EntityModel} (hm : m ∈ models) :
    (gathered models applications g).countP (fun x => m ∈ x.entities) =
      applications.countP (fun a => a.Claims m.name) +
        if Unclaimed applications m.name then 1 else 0 := by
  rw [gathered, List.countP_append, List.countP_map]
  congr 1
  · refine List.countP_congr ?_
    intro a _
    rw [Function.comp_apply, decide_eq_true_iff, decide_eq_true_iff, mem_entities_groupOf]
    exact and_iff_right hm
  · by_cases hfree : Unclaimed applications m.name
    · have hmem : m ∈ unclaimed models applications := mem_unclaimed.mpr ⟨hm, hfree⟩
      rw [if_pos hfree, leftOvers, if_neg (List.ne_nil_of_mem hmem)]
      exact List.countP_eq_length.mpr fun x hx =>
        decide_eq_true (List.mem_singleton.mp hx ▸ hmem)
    · rw [if_neg hfree, List.countP_eq_zero]
      intro x hx
      rw [decide_eq_true_iff, (mem_leftOvers_iff.mp hx).2]
      exact fun hmem => hfree (mem_unclaimed.mp hmem).2

/-- The plan holds the models as the applications claim them. -/
structure Gathers (models : List EntityModel) (applications : List Application) (p : Plan) :
    Prop where
  /-- the groups but the default one are those of the applications, in order, each with
      the models that its application claims, in order -/
  claimed : List.Forall₂
    (fun a x => x.name = a.name ∧ x.entities = models.filter fun m => a.Claims m.name)
    applications (p.groups.filter fun x => !x.isDefault)
  /-- a default group stands behind all others -/
  trailing : p.groups = (p.groups.filter fun x => !x.isDefault) ++ p.groups.filter (·.isDefault)
  /-- there is one exactly when some model is not claimed, with those models, in order -/
  unclaimed : (p.groups.filter (·.isDefault)).map (·.entities) =
    if ∃ m ∈ models, Unclaimed applications m.name then
      [models.filter fun m => Unclaimed applications m.name]
    else []
  /-- no model is lost -/
  kept : ∀ m ∈ models, ∃ x ∈ p.groups, m ∈ x.entities
  /-- none comes in -/
  unmixed : ∀ x ∈ p.groups, ∀ m ∈ x.entities, m ∈ models
  /-- a claimed model is in as many groups as there are applications that claim it -/
  claims : ∀ m ∈ models, 1 ≤ applications.countP (fun a => a.Claims m.name) →
    p.groups.countP (fun x => m ∈ x.entities) = applications.countP fun a => a.Claims m.name
  /-- a model that no application claims is in one group -/
  once : ∀ m ∈ models, Unclaimed applications m.name →
    p.groups.countP (fun x => m ∈ x.entities) = 1
  /-- the number of entities is that of different names -/
  count : p.entityCount = (models.map (·.name)).toFinset.card

/-- Grouping loses, doubles and mixes nothing. -/
theorem ofModels_gathers {p : Plan} (h : ofModels models applications g = .ok p) :
    p.Gathers models applications := by
  obtain ⟨-, -, -, hgroups⟩ := ofModels_eq_ok_iff.mp h
  refine ⟨?claimed, ?trailing, ?unclaimed, ?kept, ?unmixed, ?claims, ?once, ?count⟩
  case claimed =>
    rw [hgroups, filter_not_isDefault, List.forall₂_map_right_iff, List.forall₂_same]
    intro a _
    exact ⟨rfl, entities_groupOf models g a⟩
  case trailing =>
    rw [hgroups, filter_not_isDefault, filter_isDefault]
    rfl
  case unclaimed =>
    rw [hgroups, filter_isDefault, ← unclaimed_eq, leftOvers]
    by_cases hfree : ∃ m ∈ models, Unclaimed applications m.name
    · rw [if_pos hfree, if_neg (unclaimed_ne_nil_iff.mpr hfree)]
      rfl
    · rw [if_neg hfree, if_pos (not_not.mp (mt unclaimed_ne_nil_iff.mp hfree))]
      rfl
  case kept =>
    rw [hgroups]
    exact fun m => exists_mem_entities
  case unmixed =>
    rw [hgroups]
    exact fun x hx m => mem_of_mem_entities hx
  case claims =>
    intro m hm hpos
    have hfree : ¬ Unclaimed applications m.name :=
      mt countP_claims_eq_zero_iff.mpr (Nat.pos_iff_ne_zero.mp hpos)
    rw [hgroups, countP_mem_entities hm, if_neg hfree, Nat.add_zero]
  case once =>
    intro m hm hfree
    rw [hgroups, countP_mem_entities hm, if_pos hfree, countP_claims_eq_zero_iff.mpr hfree]
  case count =>
    rw [entityCount, Text.length_distinct, hgroups]
    -- a name is in some group exactly when a model bears it
    congr 1
    ext n
    simp only [List.mem_toFinset, List.mem_flatMap, Group.entityNames, List.mem_map]
    constructor
    · rintro ⟨x, hx, m, hm, rfl⟩
      exact ⟨m, mem_of_mem_entities hx hm, rfl⟩
    · rintro ⟨m, hm, rfl⟩
      obtain ⟨x, hx, hmx⟩ := exists_mem_entities hm
      exact ⟨x, hx, m, hmx, rfl⟩

/-- A model with nothing but a name. -/
def modelNamed (name : String) : EntityModel where
  name := name
  packageName := name
  tableName := name
  description := none
  fields := []
  imports := []
  relationships := []
  scope := .unscoped
  auditable := false
  searchable := false

/-- An application with nothing but a name and a choice of entities. -/
def applicationOf (name : String) (listed excluded : List String) : Application where
  name := name
  packageName := none
  applicationType := Application.defaultType
  entityList := listed
  excluded := excluded
  options := ⟨.empty, .empty, .empty, .empty⟩

/-- Two applications that share an entity, one of them listing it twice and by `*`,
    and an entity that is left over because it is excluded. -/
theorem ofModels_gathers_shared :
    ∃ p,
      ofModels [modelNamed "Book", modelNamed "Author", modelNamed "Shelf"]
          [applicationOf "store" ["*", "Book", "Book"] ["Author"], applicationOf "loan" ["Book"] []]
          {} = .ok p ∧
        p.Gathers [modelNamed "Book", modelNamed "Author", modelNamed "Shelf"]
          [applicationOf "store" ["*", "Book", "Book"] ["Author"],
            applicationOf "loan" ["Book"] []] :=
  ⟨_, rfl, ofModels_gathers (show ofModels _ _ {} = .ok _ from rfl)⟩

end Plan

end EntityPlan
