import EntityPlan.Proofs.Distinctness

/-! # Relationships — which records reach a plan, and where they lead

    A model has exactly the relationships whose records are declared from its name,
    in their order, so a record reaches the plan exactly when it is declared from an
    entity of the document (`Run.relationships_of_plan`).  The source of a record is
    never looked at as its target is: a record without a source, or with one that is
    nowhere declared, is passed over.

    What does reach the plan leads to an entity of the plan
    (`Run.plan_closed`). -/

namespace EntityPlan

namespace Source.RelationshipRecord

/-- The relationship of a model is what the record says. -/
structure Becomes (r : RelationshipRecord) (y : RelationshipModel) : Prop where
  kind : r.kind = some y.cardinality.name
  target : r.target.bind (·.name) = some y.target
  /-- the property is named by the source, else after the target -/
  name : (r.source.bind (·.injectedField)).getD (Text.lowerFirst y.target) = y.name
  required : (r.source.bind (·.required)).getD false = y.required

/-- The record is declared from an entity of the document. -/
def Anchored (d : Document) (r : RelationshipRecord) : Prop :=
  ∃ e ∈ d.entities.records, ∃ n, e.name = some n ∧ Relationship.declaredFrom r = some n

/-- An entity of the plan, namely the one that the record is declared from, has the
    relationship that the record says. -/
def KeptIn (p : Plan) (r : RelationshipRecord) : Prop :=
  ∃ g ∈ p.groups, ∃ m ∈ g.entities,
    Relationship.declaredFrom r = some m.name ∧ ∃ y ∈ m.relationships, r.Becomes y

theorem becomes_of_ofRecord {entity : String} {r : RelationshipRecord} {x : Relationship}
    (h : Relationship.ofRecord entity r = .ok x) :
    r.Becomes (ModelRules.relationshipModel x) := by
  obtain ⟨hkind, htarget, hname, hrequired⟩ := Relationship.parts_of_ofRecord h
  exact ⟨hkind, htarget, hname, hrequired⟩

end Source.RelationshipRecord

open Source (RelationshipRecord)

/-- The relationships of an entity's model are what its own records say. -/
theorem ModelRules.becomes_relationships {r : ModelRules} {record : Source.EntityRecord}
    {records : List RelationshipRecord} {e : Entity} {c : Classification}
    {fields : List FieldModel} (h : Entity.ofRecord record records = .ok e) :
    List.Forall₂ RelationshipRecord.Becomes (Entity.ownRecords e.name records)
      (r.entityOfFields e c fields).relationships := by
  obtain ⟨-, -, -, -, hown⟩ := Entity.parts_of_ofRecord h
  refine List.forall₂_map_right_iff.mpr ((mapM_eq_ok_iff.mp hown).imp ?_)
  exact fun _ _ => RelationshipRecord.becomes_of_ofRecord

namespace Run

variable {s : Settings} {d : Source.Document} {p : Plan}

/-- A record is declared from an entity of the document when it is from one of these. -/
theorem anchored_iff {es : List Entity} (h : entities d = .ok es) {r : RelationshipRecord} :
    r.Anchored d ↔ ∃ e ∈ es, Relationship.declaredFrom r = some e.name := by
  constructor
  · rintro ⟨x, hx, n, hname, hfrom⟩
    obtain ⟨e, he, hxe⟩ := exists_of_mem_left (forall₂_records h) hx
    rw [Entity.name_of_ofRecord hxe] at hname
    exact ⟨e, he, hfrom.trans hname.symm⟩
  · rintro ⟨e, he, hfrom⟩
    obtain ⟨x, hx, hxe⟩ := exists_of_mem_right (forall₂_records h) he
    exact ⟨x, hx, e.name, Entity.name_of_ofRecord hxe, hfrom⟩

/-- Every model in a plan is that of an entity, every entity has a model in it, and the
    relationships of the entities lead to entities. -/
theorem entities_of_plan (h : (plan s d).answer = .ok p) :
    ∃ es, entities d = .ok es ∧
      (∀ g ∈ p.groups, ∀ m ∈ g.entities,
        ∃ e ∈ es, ∃ c fields, m = (rules s).entityOfFields e c fields) ∧
      (∀ e ∈ es, ∃ g ∈ p.groups, ∃ m ∈ g.entities,
        ∃ c fields, m = (rules s).entityOfFields e c fields) ∧
      ∀ e ∈ es, ∀ x ∈ e.relationships, ∃ e' ∈ es, e'.name = x.target := by
  obtain ⟨es, as, models, hes, -, hmodels, hgroups⟩ := groups_of_plan h
  obtain ⟨hstray, hentities⟩ := ModelRules.models_forall₂ hmodels
  rw [hgroups]
  refine ⟨es, hes, ?_, ?_, ?_⟩
  · intro g hg m hm
    exact exists_of_mem_right hentities (Plan.mem_of_mem_entities hg hm)
  · intro e he
    obtain ⟨m, hm, hme⟩ := exists_of_mem_left hentities he
    obtain ⟨g, hg, hmg⟩ : ∃ g ∈ Plan.gathered models as s.generation, m ∈ g.entities :=
      Plan.exists_mem_entities hm
    exact ⟨g, hg, m, hmg, hme⟩
  · intro e he x hx
    exact List.mem_map.mp (ModelRules.stray?_eq_none_iff.mp hstray e he x hx)

/-- Every entity of a plan has the relationships of its own records, each once and in
    order, and a record is kept exactly when it is declared from an entity. -/
theorem relationships_of_plan (h : (plan s d).answer = .ok p) :
    (∀ g ∈ p.groups, ∀ m ∈ g.entities, List.Forall₂ RelationshipRecord.Becomes
        (Entity.ownRecords m.name d.relationships) m.relationships) ∧
      ∀ r ∈ d.relationships, r.KeptIn p ↔ r.Anchored d := by
  obtain ⟨es, hes, hmodels, hentities, -⟩ := entities_of_plan h
  have hown : ∀ g ∈ p.groups, ∀ m ∈ g.entities, List.Forall₂ RelationshipRecord.Becomes
      (Entity.ownRecords m.name d.relationships) m.relationships := by
    intro g hg m hm
    obtain ⟨e, he, c, fields, rfl⟩ := hmodels g hg m hm
    obtain ⟨x, -, hxe⟩ := exists_of_mem_right (forall₂_records hes) he
    exact ModelRules.becomes_relationships hxe
  refine ⟨hown, ?_⟩
  intro r hr
  rw [anchored_iff hes]
  constructor
  · rintro ⟨g, hg, m, hm, hfrom, -⟩
    obtain ⟨e, he, c, fields, rfl⟩ := hmodels g hg m hm
    exact ⟨e, he, hfrom⟩
  · rintro ⟨e, he, hfrom⟩
    -- the model of the entity has what the record says among the others
    obtain ⟨g, hg, m, hm, c, fields, rfl⟩ := hentities e he
    exact ⟨g, hg, _, hm, hfrom,
      exists_of_mem_left (hown g hg _ hm) (Entity.mem_ownRecords.mpr ⟨hr, hfrom⟩)⟩

/-- A record of a relationship, perhaps without a source. -/
def reference (c : Cardinality) (source : Option String) (target : String) :
    RelationshipRecord where
  kind := some c.name
  source := source.map fun n => { name := some n }
  target := some { name := some target }

/-- A document with two entities in one application, and with these relationships. -/
def libraryWith (relationships : List RelationshipRecord) : Source.Document :=
  { documentOf [("Author", "Author"), ("Book", "Book")] ["library"] with relationships }

/-- Two records, the second one without a source. -/
def halfAnchored : Source.Document :=
  libraryWith [reference .manyToOne (some "Book") "Author", reference .manyToOne none "Author"]

theorem relationships_of_library :
    ∃ p, (plan {} halfAnchored).answer = .ok p ∧
      (reference .manyToOne (some "Book") "Author").KeptIn p ∧
        ¬ (reference .manyToOne none "Author").KeptIn p := by
  obtain ⟨p, hp⟩ : ∃ p, (plan {} halfAnchored).answer = .ok p := ⟨_, rfl⟩
  have hkept := (relationships_of_plan hp).2
  refine ⟨p, hp, (hkept _ List.mem_cons_self).mpr ?_, fun h => ?_⟩
  · exact ⟨{ name := some "Book", body := some [] }, List.mem_cons_of_mem _ List.mem_cons_self,
      "Book", rfl, rfl⟩
  · obtain ⟨e, -, n, -, hfrom⟩ :=
      (hkept _ (List.mem_cons_of_mem _ List.mem_cons_self)).mp h
    exact nomatch hfrom

/-- That a document has a plan does not mean that each of its relationships is in it. -/
theorem not_all_relationships_kept :
    ¬ ∀ (s : Settings) (d : Source.Document) (p : Plan),
      s.validate = .ok () → (plan s d).answer = .ok p → ∀ r ∈ d.relationships, r.KeptIn p := by
  intro h
  have hvalid : Settings.validate {} = .ok () := rfl
  obtain ⟨p, hp⟩ : ∃ p,
      (plan {} (libraryWith [reference .manyToOne none "Author"])).answer = .ok p := ⟨_, rfl⟩
  obtain ⟨g, -, m, -, hfrom, -⟩ := h {} _ p hvalid hp _ List.mem_cons_self
  exact nomatch hfrom

end Run

/-! ## Where relationships lead -/

/-- The relationship leads to an entity of the plan, and it has a joining column, which is
    named after it, exactly when its side owns it. -/
structure RelationshipModel.Settled (p : Plan) (y : RelationshipModel) : Prop where
  target : ∃ g ∈ p.groups, ∃ m ∈ g.entities, m.name = y.target
  owned : y.joinColumn.isSome = true ↔ y.cardinality = .manyToOne ∨ y.cardinality = .oneToOne
  column : ∀ c, y.joinColumn = some c → c = Naming.snake y.name ++ "_id"

/-- The model of a relationship has a joining column exactly when the declaring side owns it. -/
theorem ModelRules.isSome_joinColumn (x : Relationship) :
    (relationshipModel x).joinColumn.isSome = x.cardinality.isOwning := by
  unfold relationshipModel
  cases x.cardinality.isOwning <;> rfl

theorem ModelRules.joinColumn_relationshipModel {x : Relationship} {c : String}
    (h : (relationshipModel x).joinColumn = some c) : c = Naming.snake x.fieldName ++ "_id" :=
  (Option.some.inj (Option.ite_none_right_eq_some.mp h).2).symm

namespace Run

variable {s : Settings} {d : Source.Document} {p : Plan}

/-- Every relationship in a plan leads to an entity of the plan, and it has the column that
    its name asks for exactly when its side owns it. -/
theorem plan_closed (h : (plan s d).answer = .ok p) :
    ∀ g ∈ p.groups, ∀ m ∈ g.entities, ∀ y ∈ m.relationships, y.Settled p := by
  obtain ⟨es, -, hmodels, hentities, hclosed⟩ := entities_of_plan h
  intro g hg m hm y hy
  obtain ⟨e, he, c, fields, rfl⟩ := hmodels g hg m hm
  obtain ⟨x, hx, rfl⟩ := List.mem_map.mp hy
  refine ⟨?target, ?owned, fun _ => ModelRules.joinColumn_relationshipModel⟩
  case target =>
    -- it is an entity, and grouping has lost none
    obtain ⟨e', he', htarget⟩ := hclosed e he x hx
    obtain ⟨g', hg', m', hm', c', fields', rfl⟩ := hentities e' he'
    exact ⟨g', hg', _, hm', htarget⟩
  case owned =>
    rw [ModelRules.isSome_joinColumn]
    exact Cardinality.isOwning_iff

/-- Relationships that run in a circle, and one that leads back to its own entity. -/
def circle : Source.Document :=
  libraryWith [reference .manyToOne (some "Book") "Author",
    reference .oneToMany (some "Author") "Book", reference .oneToOne (some "Book") "Book"]

theorem plan_closed_circle :
    ∃ p, (plan {} circle).answer = .ok p ∧
      (∃ g ∈ p.groups, ∃ m ∈ g.entities, m.relationships.map (·.target) = ["Author", "Book"]) ∧
        ∀ g ∈ p.groups, ∀ m ∈ g.entities, ∀ y ∈ m.relationships, y.Settled p := by
  obtain ⟨p, hp, hrelated⟩ : ∃ p, (plan {} circle).answer = .ok p ∧
      ∃ g ∈ p.groups, ∃ m ∈ g.entities, m.relationships.map (·.target) = ["Author", "Book"] :=
    ⟨_, rfl, _, List.mem_cons_self, _, List.mem_cons_of_mem _ List.mem_cons_self, rfl⟩
  exact ⟨p, hp, hrelated, plan_closed hp⟩

end Run

end EntityPlan
