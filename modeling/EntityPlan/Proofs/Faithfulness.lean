import EntityPlan.Context.Encoding
import EntityPlan.Plan.Encoding
import EntityPlan.Proofs.Canonical
import Mathlib.Data.List.Nodup

/-! # Faithfulness — what is written as JSON can be told from it

    The values of a faithful encoding are read as one only where they come from one,
    and none of their objects has two members of one key (`Faithful`).  So it is with
    lists and objects of what is encoded faithfully, and members may be put beside
    others in one object as long as they share no key (`Legible.beside`).  Plans are
    encoded faithfully, and entities by their contexts (`encoded_tells`). -/

namespace EntityPlan

open Json (Value)

/-- A reader of the values, who knows no order of members, can tell what they come from. -/
structure Faithful {α : Type} (encode : α → Value) : Prop where
  distinct : ∀ a, (encode a).Distinct
  injective : Function.Injective fun a => (encode a).canonical

/-- Members that always have the same keys, all different, and whose values tell what they
    come from. -/
structure Legible {α : Type} (members : α → List (String × Value)) : Prop where
  keys : ∀ a b, (members a).map (·.1) = (members b).map (·.1)
  nodup : ∀ a, ((members a).map (·.1)).Nodup
  distinct : ∀ a, ∀ r ∈ members a, r.2.Distinct
  injective : Function.Injective fun a => (members a).map (·.2.canonical)

/-! ## Faithful encodings -/

section
variable {α β γ : Type} {encode : α → Value}

theorem Faithful.eq_iff (h : Faithful encode) {a b : α} :
    (encode a).canonical = (encode b).canonical ↔ a = b := h.injective.eq_iff

theorem faithful_text : Faithful Value.text := ⟨.text, fun _ _ h => Value.text.inj h⟩

/-- Lists of what is encoded faithfully. -/
theorem Faithful.list (h : Faithful encode) :
    Faithful fun items : List α => .list (items.map encode) := by
  refine ⟨?distinct, ?injective⟩
  case distinct =>
    intro items
    refine .list fun v hv => ?_
    obtain ⟨a, -, rfl⟩ := List.mem_map.mp hv
    exact h.distinct a
  case injective =>
    intro items items' hsame
    have hmaps : (items.map encode).map Value.canonical =
        (items'.map encode).map Value.canonical := by
      rw [← Value.list.injEq, ← Value.canonical_list, ← Value.canonical_list]
      exact hsame
    rw [List.map_map, List.map_map] at hmaps
    exact List.map_injective_iff.mpr h.injective hmaps

variable {members : α → List (String × Value)} {members' : β → List (String × Value)}

/-- Legible members in an object. -/
theorem Legible.faithful (h : Legible members) : Faithful fun a => .object (members a) := by
  refine ⟨fun a => .object (h.nodup a) (h.distinct a), fun a b hsame => h.injective ?_⟩
  exact Value.values_of_same (h.keys a b) (h.nodup a) hsame

/-- Legible members beside each other in one object, as long as no two keys collide. -/
theorem Legible.beside (h : Legible members) (h' : Legible members') {f : γ → α} {g : γ → β}
    (hnodup : ∀ c, ((members (f c) ++ members' (g c)).map (·.1)).Nodup)
    (hinjective : Function.Injective fun c => (f c, g c)) :
    Legible fun c => members (f c) ++ members' (g c) := by
  refine ⟨?keys, hnodup, ?distinct, ?injective⟩
  case keys =>
    intro c c'
    rw [List.map_append, List.map_append, h.keys (f c) (f c'), h'.keys (g c) (g c')]
  case distinct =>
    intro c r hr
    rcases List.mem_append.mp hr with hr | hr
    · exact h.distinct _ r hr
    · exact h'.distinct _ r hr
  case injective =>
    intro c c' hsame
    -- with the same keys in front, the values split where the members do
    have hlength : (members (f c)).length = (members (f c')).length := by
      rw [← List.length_map (·.1), h.keys (f c) (f c'), List.length_map]
    have happend : (members (f c)).map (·.2.canonical) ++ (members' (g c)).map (·.2.canonical) =
        (members (f c')).map (·.2.canonical) ++ (members' (g c')).map (·.2.canonical) := by
      rw [← List.map_append, ← List.map_append]
      exact hsame
    obtain ⟨hfront, hback⟩ := List.append_inj happend (by
      rw [List.length_map, List.length_map, hlength])
    exact hinjective (Prod.ext (h.injective hfront) (h'.injective hback))

end

/-! ## Models -/

theorem UnitKind.name_injective : Function.Injective UnitKind.name := by
  intro k k'
  cases k <;> cases k' <;> decide

theorem Cardinality.name_injective : Function.Injective Cardinality.name := by
  intro c c'
  cases c <;> cases c' <;> decide

theorem Scope.name_injective : Function.Injective Scope.name := by
  intro s s'
  cases s <;> cases s' <;> decide

theorem FieldModel.legible : Legible members where
  keys _ _ := rfl
  nodup _ := by simp [members]
  distinct _ := by simp [members]
  injective := by
    rintro ⟨⟩ ⟨⟩ h
    simpa [members] using h

theorem RelationshipModel.legible : Legible members where
  keys _ _ := rfl
  nodup _ := by simp [members]
  distinct _ := by simp [members]
  injective := by
    rintro ⟨⟩ ⟨⟩ h
    simpa [members, Cardinality.name_injective.eq_iff] using h

namespace EntityModel

theorem legible : Legible fun m => (encoded m).members where
  keys _ _ := rfl
  nodup _ := by simp [encoded, Value.members]
  distinct _ := by
    simp [encoded, Value.members, Value.ofTexts, faithful_text.list.distinct,
      FieldModel.legible.faithful.list.distinct, RelationshipModel.legible.faithful.list.distinct]
  injective := by
    rintro ⟨⟩ ⟨⟩ h
    simpa [encoded, Value.members, Value.ofTexts, faithful_text.list.eq_iff,
      FieldModel.legible.faithful.list.eq_iff, RelationshipModel.legible.faithful.list.eq_iff,
      Scope.name_injective.eq_iff] using h

theorem faithful : Faithful encoded := legible.faithful

end EntityModel

/-! ## Plans -/

namespace UnitDependency

theorem legible : Legible fun d => (encoded d).members where
  keys _ _ := rfl
  nodup _ := by simp [encoded, Value.members]
  distinct _ := by simp [encoded, Value.members]
  injective := by
    rintro ⟨⟩ ⟨⟩ h
    simpa [encoded, Value.members, UnitKind.name_injective.eq_iff] using h

theorem faithful : Faithful encoded := legible.faithful

end UnitDependency

namespace UnitLayout

theorem legible : Legible fun l => (encoded l).members where
  keys _ _ := rfl
  nodup _ := by simp [encoded, Value.members]
  distinct _ := by simp [encoded, Value.members, UnitDependency.faithful.list.distinct]
  injective := by
    rintro ⟨⟩ ⟨⟩ h
    simpa [encoded, Value.members, UnitDependency.faithful.list.eq_iff,
      UnitKind.name_injective.eq_iff] using h

theorem faithful : Faithful encoded := legible.faithful

end UnitLayout

namespace Group

theorem legible : Legible fun g => (encoded g).members where
  keys _ _ := rfl
  nodup _ := by simp [encoded, Value.members]
  distinct _ := by
    simp [encoded, Value.members, UnitLayout.faithful.list.distinct,
      EntityModel.faithful.list.distinct]
  injective := by
    rintro ⟨⟩ ⟨⟩ h
    simpa [encoded, Value.members, UnitLayout.faithful.list.eq_iff,
      EntityModel.faithful.list.eq_iff] using h

theorem faithful : Faithful encoded := legible.faithful

end Group

namespace Plan

theorem legible : Legible fun p => (encoded p).members where
  keys _ _ := rfl
  nodup _ := by simp [encoded, Value.members]
  distinct _ := by simp [encoded, Value.members, Group.faithful.list.distinct]
  injective := by
    rintro ⟨⟩ ⟨⟩ h
    simpa [encoded, Value.members, Group.faithful.list.eq_iff] using h

theorem faithful : Faithful encoded := legible.faithful

end Plan

/-! ## Contexts -/

namespace Positioned

variable {α : Type}

/-- The members of a place. -/
def placeMembers (place : Nat × Bool × Bool) : List (String × Value) :=
  [("index", .ofNat place.1), ("first", .boolean place.2.1), ("last", .boolean place.2.2)]

theorem place_legible : Legible placeMembers where
  keys _ _ := rfl
  nodup _ := by simp [placeMembers]
  distinct _ := by simp [placeMembers]
  injective := by
    rintro ⟨_, _, _⟩ ⟨_, _, _⟩ h
    simpa [placeMembers] using h

/-- An element and its place in one object, as long as the element has no key of a place. -/
theorem faithful {members : α → List (String × Value)} (h : Legible members)
    (hnodup : ∀ a place, ((members a ++ placeMembers place).map (·.1)).Nodup) :
    Faithful (encoded members) := by
  have hboth : Legible fun p : Positioned α =>
      members p.item ++ placeMembers (p.index, p.first, p.last) := by
    refine h.beside place_legible (fun p => hnodup p.item _) ?_
    rintro ⟨⟩ ⟨⟩ hsame
    simpa using hsame
  exact hboth.faithful

theorem map_listFrom {β : Type} (f : α → β) (total index : Nat) (items : List α) :
    (listFrom total index items).map (fun p => f p.item) = items.map f := by
  induction items generalizing index with
  | nil => rfl
  | cons a rest ih =>
      show f a :: (listFrom total (index + 1) rest).map (fun p => f p.item) = _
      rw [ih, List.map_cons]

/-- Without their places the elements are what they were. -/
theorem map_list {β : Type} (f : α → β) (items : List α) :
    (list items).map (fun p => f p.item) = items.map f := map_listFrom f items.length 0 items

end Positioned

theorem FieldContext.legible : Legible members := by
  have hdeclaration : Legible fun s : String => [("declaration", Value.text s)] := by
    refine ⟨fun _ _ => rfl, by simp, by simp, ?_⟩
    intro s s' h
    simpa using h
  refine FieldModel.legible.beside hdeclaration (by simp [FieldModel.members]) ?_
  rintro ⟨⟩ ⟨⟩ h
  simpa using h

theorem ColumnContext.legible : Legible members where
  keys _ _ := rfl
  nodup _ := by simp [members]
  distinct _ := by simp [members]
  injective := by
    rintro ⟨⟩ ⟨⟩ h
    simpa [members] using h

theorem valueMembers_legible : Legible valueMembers where
  keys _ _ := rfl
  nodup _ := by simp [valueMembers]
  distinct _ := by simp [valueMembers]
  injective := by
    intro s s' h
    simpa [valueMembers] using h

namespace TemplateContext

theorem faithful_fields : Faithful (Positioned.encoded FieldContext.members) :=
  Positioned.faithful FieldContext.legible
    (by simp [FieldContext.members, FieldModel.members, Positioned.placeMembers])

theorem faithful_imports : Faithful (Positioned.encoded valueMembers) :=
  Positioned.faithful valueMembers_legible (by simp [valueMembers, Positioned.placeMembers])

theorem faithful_columns : Faithful (Positioned.encoded ColumnContext.members) :=
  Positioned.faithful ColumnContext.legible
    (by simp [ColumnContext.members, Positioned.placeMembers])

theorem faithful_relationships : Faithful (Positioned.encoded RelationshipModel.members) :=
  Positioned.faithful RelationshipModel.legible
    (by simp [RelationshipModel.members, Positioned.placeMembers])

theorem legible : Legible fun c => (encoded c).members where
  keys _ _ := rfl
  nodup _ := by simp [encoded, Value.members]
  distinct _ := by
    simp [encoded, Value.members, faithful_fields.list.distinct, faithful_imports.list.distinct,
      faithful_columns.list.distinct, faithful_relationships.list.distinct]
  injective := by
    rintro ⟨⟩ ⟨⟩ h
    simpa [encoded, Value.members, faithful_fields.list.eq_iff, faithful_imports.list.eq_iff,
      faithful_columns.list.eq_iff, faithful_relationships.list.eq_iff] using h

theorem faithful : Faithful encoded := legible.faithful

/-- The entity of a context. -/
def model (c : TemplateContext) : EntityModel where
  name := c.name
  packageName := c.packageName
  tableName := c.tableName
  description := c.description
  fields := c.fields.map (·.item.field)
  imports := c.imports.map (·.item)
  relationships := c.relationships.map (·.item)
  scope := (Scope.ofName? c.resourceType).getD .unscoped
  auditable := c.auditable
  searchable := c.searchable

/-- A context has all that its entity has. -/
theorem model_ofModel : Function.LeftInverse model ofModel := by
  intro m
  have hfields : (ofModel m).fields.map (·.item.field) = m.fields := by
    refine (Positioned.map_list FieldContext.field _).trans ?_
    rw [List.map_map]
    exact List.map_id m.fields
  have himports : (ofModel m).imports.map (·.item) = m.imports :=
    (Positioned.map_list id m.imports).trans (List.map_id m.imports)
  have hrelationships : (ofModel m).relationships.map (·.item) = m.relationships :=
    (Positioned.map_list id m.relationships).trans (List.map_id m.relationships)
  have hscope : (Scope.ofName? (ofModel m).resourceType).getD .unscoped = m.scope :=
    congrArg (·.getD .unscoped) (Scope.ofName?_name m.scope)
  unfold model
  rw [hfields, himports, hrelationships, hscope]
  rfl

end TemplateContext

/-- From the JSON of a plan the plan can be told, and from that of the context of an entity
    the entity, whatever the order of the members; and no two members of an object collide. -/
theorem encoded_tells :
    (∀ p q : Plan, p.encoded.Same q.encoded ↔ p = q) ∧
      (∀ m m' : EntityModel,
        (TemplateContext.ofModel m).encoded.Same (TemplateContext.ofModel m').encoded ↔ m = m') ∧
      (∀ p : Plan, p.encoded.Distinct) ∧
        ∀ m : EntityModel, (TemplateContext.ofModel m).encoded.Distinct := by
  refine ⟨?plans, ?contexts, Plan.faithful.distinct,
    fun m => TemplateContext.faithful.distinct (.ofModel m)⟩
  case plans =>
    exact fun p q => Plan.faithful.eq_iff
  case contexts =>
    intro m m'
    exact TemplateContext.faithful.eq_iff.trans TemplateContext.model_ofModel.injective.eq_iff

end EntityPlan
