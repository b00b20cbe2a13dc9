import EntityPlan.Proofs.Relationships
import EntityPlan.Proofs.WordForms

/-! # Property names — what the relationships in a plan are called

    The source of a relationship may name the property that its entity gets, and where it
    does not the property is named after the target, which is never empty, since it leads
    to a declared entity.  But a name that is given is taken as it is: a relationship in
    a plan is without a usable name exactly when its record gives an empty one, and where
    its side owns it the joining column then is a bare suffix
    (`Run.relationships_named_iff`). -/

namespace EntityPlan

/-- The relationship of a model has no name, and its joining column, if its side owns one, has
    nothing before the suffix. -/
structure RelationshipModel.Unnamed (y : RelationshipModel) : Prop where
  name : y.name = ""
  joinColumn : y.joinColumn = some "_id" ↔ y.cardinality = .manyToOne ∨ y.cardinality = .oneToOne

namespace Source.RelationshipRecord

/-- The source gives an empty name for the property. -/
def Nameless (r : RelationshipRecord) : Prop := r.source.bind (·.injectedField) = some ""

/-- The relationship of a model is named as the record should name it. -/
structure Names (r : RelationshipRecord) (y : RelationshipModel) : Prop where
  nonempty : y.name ≠ ""
  /-- an empty name in the record is as good as none -/
  name : y.name = (given (r.source.bind (·.injectedField))).getD (Text.lowerFirst y.target)
  joinColumn : y.joinColumn ≠ some "_id"

/-- A name that is not empty is a given one. -/
theorem given_of_not_nameless {r : RelationshipRecord} (h : ¬ r.Nameless) :
    given (r.source.bind (·.injectedField)) = r.source.bind (·.injectedField) := by
  cases hp : r.source.bind (·.injectedField) with
  | none => rfl
  | some p =>
      refine given_eq_some_iff.mpr ⟨rfl, ?_⟩
      rintro rfl
      exact h hp

end Source.RelationshipRecord

open Source (RelationshipRecord)

/-! ## One relationship -/

/-- A joining column is bare where the declaring side owns a relationship without a name. -/
theorem ModelRules.joinColumn_eq_bare_iff {x : Relationship} :
    (relationshipModel x).joinColumn = some "_id" ↔
      (x.cardinality = .manyToOne ∨ x.cardinality = .oneToOne) ∧ x.fieldName = "" := by
  have hbare : some (joinColumn x.fieldName) = some "_id" ↔ x.fieldName = "" := by
    rw [Option.some_inj, ← Naming.snake_eq_empty_iff]
    show Naming.snake x.fieldName ++ "_id" = "" ++ "_id" ↔ _
    exact String.append_left_inj "_id"
  rw [← Cardinality.isOwning_iff, ← hbare]
  exact Option.ite_none_right_eq_some

namespace Relationship

variable {entity : String} {r : RelationshipRecord} {x : Relationship}

/-- Except for an empty name, a relationship with a target is named as it should be. -/
theorem names_of_ofRecord (h : ofRecord entity r = .ok x) (htarget : x.target ≠ "")
    (hnamed : ¬ r.Nameless) : r.Names (ModelRules.relationshipModel x) := by
  have hname : x.fieldName =
      (given (r.source.bind (·.injectedField))).getD (Text.lowerFirst x.target) := by
    rw [RelationshipRecord.given_of_not_nameless hnamed]
    exact (parts_of_ofRecord h).2.2.1.symm
  have hne : x.fieldName ≠ "" := by
    rw [hname]
    cases hgiven : given (r.source.bind (·.injectedField)) with
    | none => exact fun hempty => htarget (Text.lowerFirst_eq_empty_iff.mp hempty)
    | some p => exact (given_eq_some_iff.mp hgiven).2
  exact ⟨hne, hname, fun hbare => hne (ModelRules.joinColumn_eq_bare_iff.mp hbare).2⟩

/-- An empty name is taken as it is. -/
theorem unnamed_of_ofRecord (h : ofRecord entity r = .ok x) (hnameless : r.Nameless) :
    (ModelRules.relationshipModel x).Unnamed := by
  have hname : x.fieldName = "" := by
    obtain ⟨-, -, hname, -⟩ := parts_of_ofRecord h
    rw [← hname, hnameless, Option.getD_some]
  exact ⟨hname, ModelRules.joinColumn_eq_bare_iff.trans (and_iff_left hname)⟩

/-- A relationship with a target is named as it should be or not at all, and its record says
    which. -/
theorem names_iff_of_ofRecord (h : ofRecord entity r = .ok x) (htarget : x.target ≠ "") :
    (r.Names (ModelRules.relationshipModel x) ↔ ¬ r.Nameless) ∧
      (r.Nameless → (ModelRules.relationshipModel x).Unnamed) := by
  refine ⟨⟨fun hnames hnameless => ?_, names_of_ofRecord h htarget⟩, unnamed_of_ofRecord h⟩
  exact hnames.nonempty (unnamed_of_ofRecord h hnameless).name

end Relationship

/-! ## All relationships of a plan -/

namespace Run

variable {s : Settings} {d : Source.Document} {p : Plan}

theorem name_ne_empty_of_mem {es : List Entity} (h : entities d = .ok es) {e : Entity}
    (he : e ∈ es) : e.name ≠ "" := by
  obtain ⟨r, -, hre⟩ := exists_of_mem_right (forall₂_records h) he
  exact (given_eq_some_iff.mp (Entity.parts_of_ofRecord hre).1).2

/-- The records that are declared from entities are those that the models of a plan own. -/
theorem anchored_iff_owned (h : (plan s d).answer = .ok p) {r : RelationshipRecord}
    (hr : r ∈ d.relationships) :
    r.Anchored d ↔
      ∃ g ∈ p.groups, ∃ m ∈ g.entities, r ∈ Entity.ownRecords m.name d.relationships := by
  obtain ⟨es, hes, hmodels, hentities, -⟩ := entities_of_plan h
  rw [anchored_iff hes]
  constructor
  · rintro ⟨e, he, hfrom⟩
    obtain ⟨g, hg, m, hm, c, fields, rfl⟩ := hentities e he
    exact ⟨g, hg, _, hm, Entity.mem_ownRecords.mpr ⟨hr, hfrom⟩⟩
  · rintro ⟨g, hg, m, hm, howned⟩
    obtain ⟨e, he, c, fields, rfl⟩ := hmodels g hg m hm
    exact ⟨e, he, (Entity.mem_ownRecords.mp howned).2⟩

/-- Each relationship of a model is named as its record should name it or not at all. -/
theorem names_iff_of_plan (h : (plan s d).answer = .ok p) {g : Group} (hg : g ∈ p.groups)
    {m : EntityModel} (hm : m ∈ g.entities) :
    List.Forall₂ (fun r y => (r.Names y ↔ ¬ r.Nameless) ∧ (r.Nameless → y.Unnamed))
      (Entity.ownRecords m.name d.relationships) m.relationships := by
  obtain ⟨es, hes, hmodels, -, hclosed⟩ := entities_of_plan h
  obtain ⟨e, he, c, fields, rfl⟩ := hmodels g hg m hm
  obtain ⟨record, -, hrecord⟩ := exists_of_mem_right (forall₂_records hes) he
  obtain ⟨-, -, -, -, hrelated⟩ := Entity.parts_of_ofRecord hrecord
  -- a target is the name of an entity
  have htarget : ∀ x ∈ e.relationships, x.target ≠ "" := by
    intro x hx
    obtain ⟨e', he', hname⟩ := hclosed e he x hx
    exact hname ▸ name_ne_empty_of_mem hes he'
  have hdeclared := (mapM_eq_ok_iff.mp hrelated).flip
  have hboth := (List.forall₂_and_left _ _).mpr ⟨htarget, hdeclared⟩
  refine List.forall₂_map_right_iff.mpr (hboth.flip.imp ?_)
  rintro r x ⟨hx, hrx⟩
  exact Relationship.names_iff_of_ofRecord hrx hx

/-- Each relationship in a plan has a record of its own that is declared from its entity, and
    it is named as that record should name it or, where the record gives an empty name, not
    at all.  So all of them have usable names exactly when no record that is declared from
    an entity gives an empty one. -/
theorem relationships_named_iff (h : (plan s d).answer = .ok p) :
    (∀ g ∈ p.groups, ∀ m ∈ g.entities,
        List.Forall₂ (fun r y => (r.Names y ↔ ¬ r.Nameless) ∧ (r.Nameless → y.Unnamed))
          (Entity.ownRecords m.name d.relationships) m.relationships) ∧
      ((∀ g ∈ p.groups, ∀ m ∈ g.entities, ∀ y ∈ m.relationships,
          y.name ≠ "" ∧ y.joinColumn ≠ some "_id") ↔
        ∀ r ∈ d.relationships, r.Anchored d → ¬ r.Nameless) := by
  refine ⟨fun g hg m hm => names_iff_of_plan h hg hm, ?_, ?_⟩
  · intro hall r hr hanchored hnameless
    obtain ⟨g, hg, m, hm, howned⟩ := (anchored_iff_owned h hr).mp hanchored
    obtain ⟨y, hy, -, hunnamed⟩ := exists_of_mem_left (names_iff_of_plan h hg hm) howned
    exact (hall g hg m hm y hy).1 (hunnamed hnameless).name
  · intro hnamed g hg m hm y hy
    obtain ⟨r, howned, hnames, -⟩ := exists_of_mem_right (names_iff_of_plan h hg hm) hy
    have hr : r ∈ d.relationships := (Entity.mem_ownRecords.mp howned).1
    have hanchored := (anchored_iff_owned h hr).mpr ⟨g, hg, m, hm, howned⟩
    have hry := hnames.mpr (hnamed r hr hanchored)
    exact ⟨hry.nonempty, hry.joinColumn⟩

/-- Each book has an author, and this is the property for it. -/
def authored (property : Option String) : Source.Document :=
  libraryWith
    [ { kind := some "ManyToOne"
        source := some { name := some "Book", injectedField := property }
        target := some { name := some "Author" } } ]

/-- Without a property the author's name serves; with an empty one nothing does. -/
theorem relationships_named_iff_authored :
    (∃ p, (plan {} (authored none)).answer = .ok p ∧
        (∃ g ∈ p.groups, ∃ m ∈ g.entities, m.relationships.map (·.name) = ["author"]) ∧
        ∀ g ∈ p.groups, ∀ m ∈ g.entities, ∀ y ∈ m.relationships,
          y.name ≠ "" ∧ y.joinColumn ≠ some "_id") ∧
      ∃ p, (plan {} (authored (some ""))).answer = .ok p ∧
        ¬ ∀ g ∈ p.groups, ∀ m ∈ g.entities, ∀ y ∈ m.relationships,
          y.name ≠ "" ∧ y.joinColumn ≠ some "_id" := by
  constructor
  · obtain ⟨p, hp, hnames⟩ : ∃ p, (plan {} (authored none)).answer = .ok p ∧
        ∃ g ∈ p.groups, ∃ m ∈ g.entities, m.relationships.map (·.name) = ["author"] :=
      ⟨_, rfl, _, List.mem_cons_self, _, List.mem_cons_of_mem _ List.mem_cons_self, rfl⟩
    refine ⟨p, hp, hnames, (relationships_named_iff hp).2.mpr ?_⟩
    intro r hr _
    cases List.mem_singleton.mp hr
    exact nofun
  · obtain ⟨p, hp⟩ : ∃ p, (plan {} (authored (some ""))).answer = .ok p := ⟨_, rfl⟩
    refine ⟨p, hp, fun hall => ?_⟩
    refine (relationships_named_iff hp).2.mp hall _ List.mem_cons_self ?_ rfl
    exact ⟨_, List.mem_cons_of_mem _ List.mem_cons_self, "Book", rfl, rfl⟩

/-- That a document has a plan does not mean that the relationships in it are named as their
    records should name them. -/
theorem not_all_relationships_named :
    ¬ ∀ (s : Settings) (d : Source.Document) (p : Plan),
      s.validate = .ok () → (plan s d).answer = .ok p → ∀ g ∈ p.groups, ∀ m ∈ g.entities,
        List.Forall₂ RelationshipRecord.Names (Entity.ownRecords m.name d.relationships)
          m.relationships := by
  intro h
  have hvalid : Settings.validate {} = .ok () := rfl
  obtain ⟨p, hp, g, hg, m, hm, hnames⟩ : ∃ p, (plan {} (authored (some ""))).answer = .ok p ∧
      ∃ g ∈ p.groups, ∃ m ∈ g.entities, m.relationships.map (·.name) = [""] :=
    ⟨_, rfl, _, List.mem_cons_self, _, List.mem_cons_of_mem _ List.mem_cons_self, rfl⟩
  obtain ⟨y, hy, hempty⟩ := List.mem_map.mp (hnames ▸ List.mem_singleton_self "")
  obtain ⟨r, -, hry⟩ := exists_of_mem_right (h {} _ p hvalid hp g hg m hm) hy
  exact hry.nonempty hempty

end Run

end EntityPlan
