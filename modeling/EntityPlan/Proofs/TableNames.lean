import EntityPlan.Proofs.Correspondence
import EntityPlan.Proofs.OptionTexts
import EntityPlan.Proofs.WordForms

/-! # Table names — where the table of an entity has its name from

    A record names the table itself, or an annotation does, or else the table is named
    after the entity, words apart.  An empty name in the record is as good as none; but
    the annotation is only asked for its text, and an empty one is taken as it is.  So a
    model is without a usable table name exactly when the record does not name the table
    and its first annotation `tableName` has a hollow value
    (`ModelRules.tableFrom_iff_not_blank`). -/

namespace EntityPlan

open Source (EntityRecord OptionRecord RelationshipRecord)

namespace Source.EntityRecord

variable {r : EntityRecord}

/-- The first annotation of this name has this text. -/
def Annotates (r : EntityRecord) (n t : String) : Prop :=
  ∃ o, First (fun o => o.name = some n) (r.annotations.getD []) o ∧
    o.value.bind optionText = some t

/-- How the table of a record should be named: as the record says or as the annotation
    says, where these are not empty, else after the entity. -/
inductive TableFrom (r : EntityRecord) : String → Prop
  | own {t : String} : r.tableName = some t → t ≠ "" → TableFrom r t
  | annotated {t : String} :
      ¬ Stated r.tableName → r.Annotates "tableName" t → t ≠ "" → TableFrom r t
  | named {n : String} :
      ¬ Stated r.tableName → (∀ t, r.Annotates "tableName" t → t = "") → r.name = some n →
      TableFrom r (Naming.snake n)

/-- The record does not name the table, and its first annotation that should has a hollow
    value. -/
def BlankTable (r : EntityRecord) : Prop :=
  ¬ Stated r.tableName ∧ ∃ o v,
    First (fun o => o.name = some "tableName") (r.annotations.getD []) o ∧
      o.value = some v ∧ v.Hollow

theorem blankTable_iff :
    r.BlankTable ↔ ¬ Stated r.tableName ∧ r.Annotates "tableName" "" := by
  simp only [BlankTable, Annotates, Option.bind_eq_some_iff, optionText_eq_empty_iff,
    exists_and_left]

/-- A table that is named as it should be has a usable name, if the entity has one. -/
theorem TableFrom.ne_empty {t : String} (h : r.TableFrom t) (hname : Stated r.name) : t ≠ "" := by
  cases h with
  | own _ ht => exact ht
  | annotated _ _ ht => exact ht
  | named _ _ hn =>
      obtain ⟨n, hn', hne⟩ := hname
      cases hn.symm.trans hn'
      exact fun h => hne (Naming.snake_eq_empty_iff.mp h)

end Source.EntityRecord

namespace Entity

variable {r : EntityRecord} {records : List RelationshipRecord} {e : Entity} {n t : String}

theorem stated_name_of_ofRecord (h : ofRecord r records = .ok e) : Stated r.name :=
  ⟨e.name, given_eq_some_iff.mp (parts_of_ofRecord h).1⟩

theorem tableName_of_ofRecord (h : ofRecord r records = .ok e) :
    e.tableName = given r.tableName := by
  obtain ⟨name, body, fields, own, -, -, -, -, rfl⟩ := ofRecord_eq_ok_iff.mp h
  rfl

/-- The text of an annotation of a declared entity is that of its record. -/
theorem annotation?_eq_some_iff (h : ofRecord r records = .ok e) :
    e.annotation? n = some t ↔ r.Annotates n t := by
  rw [annotation?, Annotation.firstValue?_eq_some_iff, annotations_of_ofRecord h]
  simp only [First.filterMap_iff]
  have hbad : ∀ o ∈ r.annotations.getD [],
      (∃ a, Annotation.ofRecord? o = some a ∧ a.name = n) ↔ o.name = some n := by
    intro o _
    simp only [OptionRecord.says_iff]
    constructor
    · rintro ⟨a, hsays, rfl⟩
      exact hsays.1
    · intro hname
      exact ⟨⟨n, o.value.bind Source.optionText⟩, ⟨hname, rfl⟩, rfl⟩
  simp only [First.congr hbad]
  constructor
  · rintro ⟨a, ⟨o, ho, hoa⟩, hvalue⟩
    exact ⟨o, ho, (OptionRecord.says_iff.mp hoa).2 ▸ hvalue⟩
  · rintro ⟨o, ho, htext⟩
    exact ⟨⟨n, o.value.bind Source.optionText⟩,
      ⟨o, ho, OptionRecord.says_iff.mpr ⟨ho.holds, rfl⟩⟩, htext⟩

end Entity

namespace ModelRules

variable {rules : ModelRules} {r : EntityRecord} {records : List RelationshipRecord} {e : Entity}
  {m : EntityModel}

theorem tableName_entityModel (h : (rules.entityModel e).answer = .ok m) :
    m.tableName = tableName e := by
  obtain ⟨c, fields, -, -, rfl⟩ := entityModel_eq_ok_iff.mp h
  rfl

/-- Except for a blank one, the table of a declared entity is named as it should be. -/
theorem tableFrom_tableName (h : Entity.ofRecord r records = .ok e) (hblank : ¬ r.BlankTable) :
    r.TableFrom (tableName e) := by
  rw [tableName, Entity.tableName_of_ofRecord h]
  cases hown : given r.tableName with
  | some t =>
      obtain ⟨htext, hne⟩ := given_eq_some_iff.mp hown
      exact .own htext hne
  | none =>
      have hunstated := given_eq_none_iff.mp hown
      cases hannotation : e.annotation? "tableName" with
      | some t =>
          have htext := (Entity.annotation?_eq_some_iff h).mp hannotation
          refine .annotated hunstated htext ?_
          rintro rfl
          exact hblank (EntityRecord.blankTable_iff.mpr ⟨hunstated, htext⟩)
      | none =>
          refine .named hunstated (fun t ht => ?_) (Entity.name_of_ofRecord h)
          exact nomatch hannotation.symm.trans ((Entity.annotation?_eq_some_iff h).mpr ht)

/-- The empty text of an annotation is taken for the name of the table. -/
theorem tableName_of_blank (h : Entity.ofRecord r records = .ok e) (hblank : r.BlankTable) :
    tableName e = "" := by
  obtain ⟨hunstated, hempty⟩ := EntityRecord.blankTable_iff.mp hblank
  rw [tableName, Entity.tableName_of_ofRecord h, given_eq_none_iff.mpr hunstated,
    (Entity.annotation?_eq_some_iff h).mpr hempty]
  rfl

/-- A model has a usable table name, and the one that it should have, except where the record
    does not name the table and the annotation that should has a hollow value; there the
    table name is empty. -/
theorem tableFrom_iff_not_blank (hrecord : Entity.ofRecord r records = .ok e)
    (hmodel : (rules.entityModel e).answer = .ok m) :
    (m.tableName ≠ "" ∧ r.TableFrom m.tableName ↔ ¬ r.BlankTable) ∧
      (r.BlankTable → m.tableName = "") := by
  rw [tableName_entityModel hmodel]
  have hempty : r.BlankTable → tableName e = "" := tableName_of_blank hrecord
  refine ⟨⟨fun h hblank => h.1 (hempty hblank), fun hblank => ?_⟩, hempty⟩
  have hfrom := tableFrom_tableName hrecord hblank
  exact ⟨hfrom.ne_empty (Entity.stated_name_of_ofRecord hrecord), hfrom⟩

/-- A book whose table is named by annotations with these values at most. -/
def bookTabled (values : List Json.Value) : EntityRecord where
  name := some "Book"
  tableName := some ""
  body := some []
  annotations := some (values.map fun v => { name := some "tableName", value := some v })

/-- The empty text stands in an object within a list, and another annotation comes too late. -/
def emptied : EntityRecord :=
  bookTabled [.list [.null, .object [("value", .text "")]], .text "volumes"]

/-- The first annotation has no text, and another one comes too late. -/
def silenced : EntityRecord := bookTabled [.null, .text "volumes"]

theorem blankTable_emptied : emptied.BlankTable := by
  refine ⟨?_, _, _, ⟨[], _, rfl, rfl, nofun⟩, rfl, ?_⟩
  · rintro ⟨s, ⟨⟩, hs⟩
    exact hs rfl
  · refine @Json.Value.Hollow.single [.null] [] _ ?_ (.wrapped rfl .text) nofun
    intro v hv
    exact List.mem_singleton.mp hv ▸ .null

theorem not_blankTable_silenced : ¬ silenced.BlankTable := by
  rintro ⟨-, o, v, hfirst, hv, hhollow⟩
  obtain ⟨-, rfl⟩ | ⟨hname, -⟩ := First.cons_iff.mp hfirst
  · cases hv
    exact nomatch hhollow
  · exact hname rfl

theorem tableFrom_iff_not_blank_books :
    (∃ e m, Entity.ofRecord emptied [] = .ok e ∧
        (entityModel ⟨.builtin, "net.example", .strict⟩ e).answer = .ok m ∧ m.tableName = "") ∧
      ∃ e m, Entity.ofRecord silenced [] = .ok e ∧
        (entityModel ⟨.builtin, "net.example", .strict⟩ e).answer = .ok m ∧
        m.tableName ≠ "" ∧ silenced.TableFrom m.tableName := by
  constructor
  · obtain ⟨e, m, he, hm⟩ : ∃ e m, Entity.ofRecord emptied [] = .ok e ∧
        (entityModel ⟨.builtin, "net.example", .strict⟩ e).answer = .ok m := ⟨_, _, rfl, rfl⟩
    exact ⟨e, m, he, hm, (tableFrom_iff_not_blank he hm).2 blankTable_emptied⟩
  · obtain ⟨e, m, he, hm⟩ : ∃ e m, Entity.ofRecord silenced [] = .ok e ∧
        (entityModel ⟨.builtin, "net.example", .strict⟩ e).answer = .ok m := ⟨_, _, rfl, rfl⟩
    exact ⟨e, m, he, hm, (tableFrom_iff_not_blank he hm).1.mpr not_blankTable_silenced⟩

/-- That an entity is built does not mean that its table has a usable name. -/
theorem not_all_tables_named :
    ¬ ∀ (rules : ModelRules) (r : EntityRecord) (records : List RelationshipRecord) (e : Entity)
        (m : EntityModel),
      Entity.ofRecord r records = .ok e → (rules.entityModel e).answer = .ok m →
        m.tableName ≠ "" ∧ r.TableFrom m.tableName := by
  intro h
  obtain ⟨e, m, he, hm, hempty⟩ : ∃ e m, Entity.ofRecord (bookTabled [.text ""]) [] = .ok e ∧
      (entityModel ⟨.builtin, "net.example", .precedence⟩ e).answer = .ok m ∧
        m.tableName = "" := ⟨_, _, rfl, rfl, rfl⟩
  exact (h _ _ _ e m he hm).1 hempty

end ModelRules

end EntityPlan
