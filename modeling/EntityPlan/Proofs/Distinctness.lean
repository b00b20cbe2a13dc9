import EntityPlan.Proofs.Merging
import EntityPlan.Proofs.Refusal

/-! # Distinctness — entities of one name in one group

    Documents refuse a key that occurs twice, but an entity goes by the name in its
    record.  What an application claims is told by the name alone, so entities of
    one name stand in the same groups, and no entity is lost: the names in every
    group are distinct exactly when the names in the records are
    (`nodup_entityNames_iff_nodup_records`). -/

namespace EntityPlan

namespace Plan

variable {models : List EntityModel} {applications : List Application} {g : Generation}

theorem map_name_filter (models : List EntityModel) (q : String → Bool) :
    (models.filter fun m => q m.name).map (·.name) = (models.map (·.name)).filter q := by
  rw [List.filter_map]
  rfl

/-- The names in a group are those of all models that pass a test of their name. -/
theorem entityNames_eq_filter {x : Group} (hx : x ∈ gathered models applications g) :
    ∃ q : String → Bool, x.entityNames = (models.map (·.name)).filter q := by
  rcases mem_gathered_iff.mp hx with ⟨a, -, rfl⟩ | hx
  · exact ⟨a.claims, map_name_filter models a.claims⟩
  · obtain ⟨-, rfl⟩ := mem_leftOvers_iff.mp hx
    exact ⟨_, map_name_filter models fun n => !applications.any fun a => a.claims n⟩

/-- The names in every group are distinct exactly when those of the models are. -/
theorem nodup_entityNames_iff :
    (∀ x ∈ gathered models applications g, x.entityNames.Nodup) ↔
      (models.map (·.name)).Nodup := by
  constructor
  · intro h
    refine List.nodup_iff_count_le_one.mpr ?_
    intro n
    by_cases hn : n ∈ models.map (·.name)
    · obtain ⟨m, hm, rfl⟩ := List.mem_map.mp hn
      obtain ⟨x, hx, hmx⟩ : ∃ x ∈ gathered models applications g, m ∈ x.entities :=
        exists_mem_entities hm
      obtain ⟨q, hq⟩ := entityNames_eq_filter hx
      have hmem : m.name ∈ x.entityNames := List.mem_map_of_mem hmx
      have hpass : q m.name = true := (List.mem_filter.mp (hq ▸ hmem)).2
      -- the group holds every model of this name
      rw [← List.count_filter hpass, ← hq]
      exact List.nodup_iff_count_le_one.mp (h x hx) m.name
    · rw [List.count_eq_zero_of_not_mem hn]
      exact Nat.zero_le 1
  · intro h x hx
    obtain ⟨q, hq⟩ := entityNames_eq_filter hx
    rw [hq]
    exact h.filter q

end Plan

/-- An entity bears the name in its record. -/
theorem Entity.name_of_ofRecord {r : Source.EntityRecord}
    {relationships : List Source.RelationshipRecord} {e : Entity}
    (h : Entity.ofRecord r relationships = .ok e) : r.name = some e.name :=
  (Option.filter_eq_some_iff.mp (Entity.parts_of_ofRecord h).1).1

namespace Run

variable {s : Settings} {d : Source.Document}

/-- The entities of a document are declared by its records, one by each. -/
theorem forall₂_records {es : List Entity} (h : entities d = .ok es) :
    List.Forall₂ (fun r e => Entity.ofRecord r d.relationships = .ok e) d.entities.records es := by
  rw [entities_eq] at h
  obtain ⟨-, -, h⟩ := bind_eq_ok_iff.mp h
  exact mapM_eq_ok_iff.mp h

/-- The declared entities bear the names in the records, in order. -/
theorem names_records {es : List Entity} (h : entities d = .ok es) :
    d.entities.records.map (·.name) = es.map fun e => some e.name := by
  have hrecords := forall₂_records h
  clear h
  generalize d.entities.records = records at hrecords
  induction hrecords with
  | nil => rfl
  | cons he hrest ih => rw [List.map_cons, List.map_cons, ih, Entity.name_of_ofRecord he]

/-- The groups of a plan are those of the models that the document gives rise to. -/
theorem groups_of_plan {p : Plan} (h : (plan s d).answer = .ok p) :
    ∃ es as models, entities d = .ok es ∧ applications d = .ok as ∧
      ((rules s).models es).answer = .ok models ∧
        p.groups = Plan.gathered models as s.generation := by
  obtain ⟨es, as, models, hes, has, hmodels, h⟩ := answer_plan_eq_ok_iff.mp h
  exact ⟨es, as, models, hes, has, hmodels, (Plan.ofModels_eq_ok_iff.mp h).2.2.2⟩

/-- When documents have a plan together, the entity names in every group are distinct
    exactly when the records of all documents bear distinct names. -/
theorem nodup_entityNames_iff_nodup_records {documents : List Source.Document} {p : Plan}
    (hd : documents.foldlM Source.Document.join {} = .ok d) (hp : (plan s d).answer = .ok p) :
    (∀ x ∈ p.groups, x.entityNames.Nodup) ↔
      (documents.flatMap fun b => b.entities.records.map (·.name)).Nodup := by
  obtain ⟨es, as, models, hes, -, hmodels, hgroups⟩ := groups_of_plan hp
  have hrecords : (documents.flatMap fun b => b.entities.records.map (·.name)) =
      d.entities.records.map (·.name) := by
    unfold Source.Collection.records
    rw [Source.Document.entities_of_joined hd, List.map_append, List.map_append,
      List.map_flatMap, List.map_flatMap]
    rfl
  rw [hgroups, Plan.nodup_entityNames_iff, ModelRules.names_models hmodels, hrecords,
    names_records hes, ← List.nodup_map_iff (Option.some_injective String), List.map_map]
  rfl

/-- A document with these entities, given as key and name, and these applications, each
    of which claims them all. -/
def documentOf (entities : List (String × String)) (applications : List String) :
    Source.Document where
  entities := ⟨entities.map fun e => (e.1, { name := some e.2, body := some [] })⟩
  applications := ⟨applications.map fun a =>
    (a,
      { config := some { baseName := some a }
        entities := some { listed := some [Application.everyEntity] } })⟩

/-- An entity of one name in each of two documents: the condition fails on both sides. -/
theorem nodup_entityNames_two_documents :
    [documentOf [("A", "Book")] ["store"], documentOf [("B", "Book")] []].foldlM
        Source.Document.join {} = .ok (documentOf [("A", "Book"), ("B", "Book")] ["store"]) ∧
      ∃ p, (plan {} (documentOf [("A", "Book"), ("B", "Book")] ["store"])).answer = .ok p ∧
        ¬ ∀ x ∈ p.groups, x.entityNames.Nodup := by
  have hd : [documentOf [("A", "Book")] ["store"], documentOf [("B", "Book")] []].foldlM
      Source.Document.join {} = .ok (documentOf [("A", "Book"), ("B", "Book")] ["store"]) :=
    rfl
  obtain ⟨p, hp⟩ : ∃ p,
      (plan {} (documentOf [("A", "Book"), ("B", "Book")] ["store"])).answer = .ok p :=
    ⟨_, rfl⟩
  refine ⟨hd, p, hp, ?_⟩
  rw [nodup_entityNames_iff_nodup_records hd hp]
  decide

/-- Valid settings and a document whose keys differ do not make the names in a group
    distinct. -/
theorem not_nodup_entityNames :
    ¬ ∀ (s : Settings) (documents : List Source.Document) (d : Source.Document) (p : Plan),
      s.validate = .ok () → documents.foldlM Source.Document.join {} = .ok d →
        (plan s d).answer = .ok p → ∀ x ∈ p.groups, x.entityNames.Nodup := by
  intro h
  have hvalid : Settings.validate {} = .ok () := rfl
  obtain ⟨p, hp, hnames⟩ : ∃ p,
      (plan {} (documentOf [("A", "Book"), ("B", "Book")] ["library"])).answer = .ok p ∧
        p.groups.map (·.entityNames) = [["Book", "Book"]] :=
    ⟨_, rfl, rfl⟩
  have hgroups : ∀ x ∈ p.groups, x.entityNames.Nodup :=
    h {} [documentOf [("A", "Book"), ("B", "Book")] ["library"]] _ p hvalid rfl hp
  have hall : ∀ names ∈ p.groups.map (·.entityNames), names.Nodup :=
    List.forall_mem_map.mpr hgroups
  rw [hnames] at hall
  exact absurd (hall _ List.mem_cons_self) (by decide)

end Run

end EntityPlan
