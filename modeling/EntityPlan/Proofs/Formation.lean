import EntityPlan.Proofs.Grouping

/-! # Formation — the shape of every plan

    In a plan that grouping makes no two groups have one name, and no two units; the
    default group stands behind all others and is not empty; and each group has its
    three units, which build on that of its model and on nothing else
    (`ofModels_wellFormed`). -/

namespace EntityPlan

/-! ## Units of a group -/

/-- The names of the kinds end in different letters. -/
theorem UnitKind.eq_of_getLast? {k k' : UnitKind} :
    k.name.toList.getLast? = k'.name.toList.getLast? → k = k' := by
  cases k <;> cases k' <;> decide

theorem UnitKind.getLast?_append_name (s : String) (k : UnitKind) :
    (s ++ k.name).toList.getLast? = k.name.toList.getLast? := by
  rw [String.toList_append, List.getLast?_append_of_ne_nil]
  cases k <;> decide

/-- Behind whatever stands in front, the name of a kind can be told from the end of a text. -/
theorem UnitKind.append_name_inj {s s' : String} {k k' : UnitKind}
    (h : s ++ k.name = s' ++ k'.name) : s = s' ∧ k = k' := by
  obtain rfl : k = k' := eq_of_getLast? (by
    rw [← getLast?_append_name s k, h, getLast?_append_name])
  exact ⟨(String.append_left_inj _).mp h, rfl⟩

/-- The name of the unit of a kind of an application, whose own name may look like one. -/
def unitName (domain : String) (kind : UnitKind) : String :=
  "core-" ++ domain ++ "-api-" ++ kind.name

theorem unitName_inj {d d' : String} {k k' : UnitKind} (h : unitName d k = unitName d' k') :
    d = d' ∧ k = k' := by
  obtain ⟨hfront, hkind⟩ := UnitKind.append_name_inj h
  exact ⟨(String.append_right_inj _).mp ((String.append_left_inj _).mp hfront), hkind⟩

/-- The group has a unit of each kind, in order, and they build on that of the model. -/
structure Group.Built (x : Group) : Prop where
  kinds : x.layouts.map (·.kind) = [.model, .db, .api]
  domain : ∀ l ∈ x.layouts, l.domain = x.name
  package : ∀ l ∈ x.layouts, l.packageName = x.packageName
  name : ∀ l ∈ x.layouts, l.name = unitName x.name l.kind
  /-- whatever a unit builds on is the unit of the model of the same group -/
  dependencies : ∀ l ∈ x.layouts, ∀ dep ∈ l.dependencies,
    ∃ m ∈ x.layouts, m.kind = .model ∧ dep.domain = m.domain ∧ dep.kind = m.kind
  /-- which builds on nothing -/
  model : ∀ l ∈ x.layouts, l.kind = .model → l.dependencies = []

theorem UnitLayout.name_ofKind (domain packageName : String) (g : Generation) (k : UnitKind) :
    (ofKind domain packageName g k).name = unitName domain k := by
  have hdash : "-api-" = "-api" ++ "-" := rfl
  unfold unitName
  rw [hdash]
  show "core-" ++ domain ++ "-api" ++ "-" ++ k.name = _
  simp only [String.append_assoc]

theorem UnitLayout.mem_all {domain packageName : String} {g : Generation} {l : UnitLayout} :
    l ∈ all domain packageName g ↔ ∃ k, ofKind domain packageName g k = l := by
  unfold all
  rw [List.mem_map]
  refine exists_congr fun k => and_iff_right ?_
  cases k <;> decide

/-- A group whose units are those of its name and its package is built. -/
theorem Group.built_of_layouts {x : Group} {g : Generation}
    (h : x.layouts = UnitLayout.all x.name x.packageName g) : x.Built := by
  have hall : ∀ {P : UnitLayout → Prop}, (∀ k, P (.ofKind x.name x.packageName g k)) →
      ∀ l ∈ x.layouts, P l := by
    intro P hP l hl
    obtain ⟨k, rfl⟩ := UnitLayout.mem_all.mp (h ▸ hl)
    exact hP k
  refine ⟨?kinds, hall fun _ => rfl, hall fun _ => rfl,
    hall (UnitLayout.name_ofKind x.name x.packageName g), hall ?dependencies, hall ?model⟩
  case kinds =>
    rw [h]
    rfl
  case dependencies =>
    intro k dep hdep
    refine ⟨UnitLayout.ofKind x.name x.packageName g .model, ?_, rfl, ?_⟩
    · exact h ▸ UnitLayout.mem_all.mpr ⟨.model, rfl⟩
    · cases k with
      | model => exact nomatch hdep
      | db | api =>
          obtain rfl := List.mem_singleton.mp hdep
          exact ⟨rfl, rfl⟩
  case model =>
    intro k hkind
    obtain rfl : k = .model := hkind
    rfl

/-- The names of the units of a group. -/
def Group.unitNames (x : Group) : List String := x.layouts.map (·.name)

theorem Group.Built.unitNames_eq {x : Group} (h : x.Built) :
    x.unitNames = [.model, .db, .api].map (unitName x.name) := by
  rw [← h.kinds, List.map_map]
  exact List.map_congr_left h.name

theorem Group.Built.nodup_unitNames {x : Group} (h : x.Built) : x.unitNames.Nodup := by
  rw [h.unitNames_eq]
  exact List.Nodup.map (fun k k' hk => (unitName_inj hk).2) (by decide)

theorem Group.Built.disjoint_unitNames {x y : Group} (hx : x.Built) (hy : y.Built)
    (hne : x.name ≠ y.name) : x.unitNames.Disjoint y.unitNames := by
  intro n hnx hny
  rw [hx.unitNames_eq] at hnx
  rw [hy.unitNames_eq] at hny
  obtain ⟨k, -, rfl⟩ := List.mem_map.mp hnx
  obtain ⟨k', -, hk'⟩ := List.mem_map.mp hny
  exact hne (unitName_inj hk').1.symm

/-! ## Groups of a plan -/

namespace Plan

variable {models : List EntityModel} {applications : List Application} {g : Generation} {p : Plan}

/-- With distinct names a search finds the group that bears the name. -/
theorem group?_eq_some_iff (h : p.groupNames.Nodup) {n : String} {x : Group} :
    p.group? n = some x ↔ x ∈ p.groups ∧ x.name = n := by
  constructor
  · intro hx
    have hname : (x.name == n) = true := List.find?_some (p := fun y : Group => y.name == n) hx
    exact ⟨List.mem_of_find?_eq_some hx, beq_iff_eq.mp hname⟩
  · rintro ⟨hx, rfl⟩
    cases hfound : p.group? x.name with
    | none => exact absurd (beq_self_eq_true x.name) (List.find?_eq_none.mp hfound x hx)
    | some y =>
        have hname : (y.name == x.name) = true :=
          List.find?_some (p := fun z : Group => z.name == x.name) hfound
        exact congrArg some (List.inj_on_of_nodup_map h (List.mem_of_find?_eq_some hfound) hx
          (beq_iff_eq.mp hname))

/-- Distinct groups that are built have distinct units. -/
theorem nodup_unitNames (h : p.groupNames.Nodup) (hbuilt : ∀ x ∈ p.groups, x.Built) :
    (p.groups.flatMap (·.unitNames)).Nodup := by
  refine List.nodup_flatMap.mpr ⟨fun x hx => (hbuilt x hx).nodup_unitNames, ?_⟩
  refine (List.pairwise_map.mp h).imp_of_mem fun hx hy hne => ?_
  exact (hbuilt _ hx).disjoint_unitNames (hbuilt _ hy) hne

/-- What holds of a plan, whatever it was made of. -/
structure WellFormed (p : Plan) : Prop where
  /-- no two groups have one name -/
  names : p.groupNames.Nodup
  /-- so that a search by name finds the one group that has it -/
  found : ∀ n x, p.group? n = some x ↔ x ∈ p.groups ∧ x.name = n
  /-- a default group stands behind all others, none of which is one -/
  trailing : ∀ x ∈ p.groups, x.isDefault = true →
    p.groups = (p.groups.filter fun y => !y.isDefault) ++ [x]
  /-- it is found -/
  foundDefault : ∀ x, p.defaultGroup? = some x ↔ x ∈ p.groups ∧ x.isDefault = true
  /-- and it has something to hold -/
  filled : ∀ x ∈ p.groups, x.isDefault = true → x.entities ≠ []
  /-- each group has its three units -/
  built : ∀ x ∈ p.groups, x.Built
  /-- no two units of the plan have one name -/
  units : (p.groups.flatMap (·.unitNames)).Nodup

/-- The default group bears a name that no application has. -/
theorem nodup_names_gathered (hrepeated : repeated? applications = none)
    (htaken : taken? models applications g = none) :
    ((gathered models applications g).map (·.name)).Nodup := by
  have hnames : (applications.map (·.name)).Nodup :=
    (Text.firstRepeated?_eq_none_iff.mp (Option.map_eq_none_iff.mp hrepeated)).1
  have hfront : (applications.map (groupOf models g)).map (·.name) = applications.map (·.name) := by
    rw [List.map_map]
    rfl
  rw [gathered, List.map_append, hfront]
  unfold leftOvers
  by_cases hempty : unclaimed models applications = []
  · rw [if_pos hempty, List.map_nil, List.append_nil]
    exact hnames
  · rw [if_neg hempty]
    refine List.nodup_append.mpr ⟨hnames, List.nodup_singleton _, ?_⟩
    intro n hn n' hn' hsame
    obtain rfl := List.mem_singleton.mp hn'
    have hfree : ¬ (unclaimed models applications ≠ [] ∧
        g.defaultModule ∈ applications.map (·.name)) := by
      intro htwo
      unfold taken? at htaken
      rw [if_pos htwo] at htaken
      exact Option.some_ne_none _ htaken
    have hname : n = g.defaultModule := hsame
    exact hfree ⟨hempty, hname ▸ hn⟩

theorem layouts_of_mem_gathered {x : Group} (hx : x ∈ gathered models applications g) :
    x.layouts = UnitLayout.all x.name x.packageName g := by
  rcases mem_gathered_iff.mp hx with ⟨a, -, rfl⟩ | hx
  · rfl
  · obtain ⟨-, rfl⟩ := mem_leftOvers_iff.mp hx
    rfl

/-- A default group is what is left over. -/
theorem mem_leftOvers_of_isDefault {x : Group} (hx : x ∈ gathered models applications g)
    (hdefault : x.isDefault = true) : x ∈ leftOvers models applications g := by
  rw [← filter_isDefault]
  exact List.mem_filter.mpr ⟨hx, hdefault⟩

/-- Every plan that grouping makes is well formed. -/
theorem ofModels_wellFormed (h : ofModels models applications g = .ok p) : p.WellFormed := by
  obtain ⟨hrepeated, -, htaken, hgroups⟩ := ofModels_eq_ok_iff.mp h
  have hnames : p.groupNames.Nodup := by
    unfold groupNames
    rw [hgroups]
    exact nodup_names_gathered hrepeated htaken
  have hbuilt : ∀ x ∈ p.groups, x.Built :=
    fun x hx => Group.built_of_layouts (layouts_of_mem_gathered (hgroups ▸ hx))
  have hdefault : ∀ x ∈ p.groups, x.isDefault = true →
      leftOvers models applications g = [x] ∧ x.entities ≠ [] := by
    intro x hx hx'
    obtain ⟨hne, rfl⟩ := mem_leftOvers_iff.mp (mem_leftOvers_of_isDefault (hgroups ▸ hx) hx')
    exact ⟨if_neg hne, hne⟩
  refine ⟨hnames, fun n x => group?_eq_some_iff hnames, ?trailing, ?foundDefault,
    fun x hx hx' => (hdefault x hx hx').2, hbuilt, nodup_unitNames hnames hbuilt⟩
  case trailing =>
    intro x hx hx'
    rw [← (hdefault x hx hx').1, hgroups, filter_not_isDefault]
    rfl
  case foundDefault =>
    intro x
    constructor
    · intro hfound
      exact ⟨List.mem_of_find?_eq_some hfound, List.find?_some hfound⟩
    · rintro ⟨hx, hx'⟩
      unfold defaultGroup?
      rw [← List.head?_filter, hgroups, filter_isDefault, (hdefault x hx hx').1]
      rfl

/-- Applications whose names look like those of units. -/
def alike : List Application :=
  [applicationOf "a" ["Book"] [], applicationOf "a-api-model" ["Book"] []]

/-- With a default group of such a name, each unit still has a name of its own. -/
theorem ofModels_wellFormed_alike :
    ∃ p, ofModels [modelNamed "Book", modelNamed "Author"] alike { defaultModule := "a-api" } =
        .ok p ∧
      p.WellFormed ∧
        p.groups.flatMap (·.unitNames) =
          ["core-a-api-model", "core-a-api-db", "core-a-api-api",
            "core-a-api-model-api-model", "core-a-api-model-api-db", "core-a-api-model-api-api",
            "core-a-api-api-model", "core-a-api-api-db", "core-a-api-api-api"] := by
  obtain ⟨p, hp⟩ : ∃ p, ofModels [modelNamed "Book", modelNamed "Author"] alike
    { defaultModule := "a-api" } = .ok p := ⟨_, rfl⟩
  refine ⟨p, hp, ofModels_wellFormed hp, ?_⟩
  cases hp
  decide

end Plan

end EntityPlan
