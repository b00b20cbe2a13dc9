import EntityPlan.Entity

/-! # Option texts — which raw values have none, and which an empty one

    The text of an object is that of its member `value`, which may again be an object
    with such a member, and so on.  A raw value has no text exactly when this leads to
    `null` or to an object without the member (`optionText_eq_none_iff`); every list
    has a text, be it an empty one.  It is empty where the chain of members leads to an
    empty text, or to a list of which nothing is left but one such value at most
    (`optionText_eq_empty_iff`). -/

namespace EntityPlan

namespace Json.Value

/-- The value is `null`, or an object whose member `value` is missing or silent itself. -/
inductive Silent : Value → Prop
  | null : Silent .null
  | bare {members : List (String × Value)} :
      members.lookup "value" = none → Silent (.object members)
  | wrapped {members : List (String × Value)} {v : Value} :
      members.lookup "value" = some v → Silent v → Silent (.object members)

/-- The value is an empty text, or an object whose member `value` is hollow itself, or a list
    of silent values, of which one may be hollow instead. -/
inductive Hollow : Value → Prop
  | text : Hollow (.text "")
  | wrapped {members : List (String × Value)} {v : Value} :
      members.lookup "value" = some v → Hollow v → Hollow (.object members)
  | nothing {items : List Value} : (∀ v ∈ items, Silent v) → Hollow (.list items)
  | single {before after : List Value} {v : Value} :
      (∀ w ∈ before, Silent w) → Hollow v → (∀ w ∈ after, Silent w) →
      Hollow (.list (before ++ v :: after))

end Json.Value

/-! ## Numbers -/

namespace Decimal

/-- A point is placed among the digits. -/
theorem placePoint_ne_nil (digits : List Char) (left : Int) : placePoint digits left ≠ [] := by
  unfold placePoint
  dsimp only
  split
  · exact List.cons_ne_nil _ _
  · split <;> simp

/-- An exponent stands behind the digits. -/
theorem withExponent_ne_nil (digits : List Char) (k : Int) : withExponent digits k ≠ [] := by
  unfold withExponent
  simp

theorem Notation.write_ne_empty (style : Notation) (d : Double) : style.write d ≠ "" := by
  rw [Ne, ← String.toList_eq_nil_iff]
  unfold write
  dsimp only
  split
  · rw [String.toList_ofList]
    exact List.append_ne_nil_of_right_ne_nil _ (List.cons_ne_nil _ _)
  · rw [String.toList_ofList]
    refine List.append_ne_nil_of_right_ne_nil _ ?_
    split
    · exact placePoint_ne_nil _ _
    · exact withExponent_ne_nil _ _

end Decimal

/-- No number has an empty text. -/
theorem Json.Number.text_ne_empty (n : Json.Number) : n.text ≠ "" := by
  cases n with
  | integer n =>
      cases n with
      | ofNat k => exact Nat.repr_ne_empty
      | negSucc k =>
          show "-" ++ (k + 1).repr ≠ ""
          rw [Ne, String.append_eq_empty_iff]
          exact fun h => absurd h.1 (by decide)
  | double d => exact Decimal.Notation.write_ne_empty _ d

namespace Source

open Json (Value)

/-- The first member `value` decides the text of an object. -/
theorem memberText_eq (members : List (String × Value)) :
    memberText members = (members.lookup "value").bind optionText := by
  induction members with
  | nil => rfl
  | cons r rest ih =>
      obtain ⟨k, v⟩ := r
      show (if k = "value" then optionText v else memberText rest) = _
      by_cases hk : k = "value"
      · rw [if_pos hk, hk, List.lookup_cons_self, Option.bind_some]
      · rw [if_neg hk, ih, List.lookup_cons, beq_false_of_ne (Ne.symm hk)]

/-- A member is smaller than its object. -/
theorem sizeOf_lt_of_lookup {members : List (String × Value)} {v : Value}
    (h : members.lookup "value" = some v) : sizeOf v < sizeOf (Value.object members) := by
  obtain ⟨before, after, rfl, -⟩ := List.lookup_eq_some_iff.mp h
  have hmem : ("value", v) ∈ before ++ ("value", v) :: after :=
    List.mem_append_right before List.mem_cons_self
  have hlt := List.sizeOf_lt_of_mem hmem
  rw [Prod.mk.sizeOf_spec] at hlt
  rw [Value.object.sizeOf_spec]
  omega

theorem silent_of_optionText : ∀ {v : Value}, optionText v = none → v.Silent
  | .null, _ => .null
  | .object members, h => by
      rw [optionText, memberText_eq] at h
      cases hw : members.lookup "value" with
      | none => exact .bare hw
      | some w =>
          rw [hw] at h
          exact .wrapped hw (silent_of_optionText h)
  termination_by v => sizeOf v
  decreasing_by exact sizeOf_lt_of_lookup hw

theorem optionText_of_silent {v : Value} (h : v.Silent) : optionText v = none := by
  induction h with
  | null => rfl
  | bare hw => rw [optionText, memberText_eq, hw, Option.bind_none]
  | wrapped hw _ ih => rw [optionText, memberText_eq, hw, Option.bind_some, ih]

/-- Silent values, and no others, have no text. -/
theorem optionText_eq_none_iff {v : Value} : optionText v = none ↔ v.Silent :=
  ⟨silent_of_optionText, optionText_of_silent⟩

/-! ## Empty texts -/

theorem optionTexts_eq_filterMap (items : List Value) :
    optionTexts items = items.filterMap optionText := by
  induction items with
  | nil => rfl
  | cons v rest ih =>
      rw [optionTexts, List.filterMap_cons, ih]
      cases optionText v <;> rfl

/-- Texts joined by commas are empty when there is at most one, and that one is empty. -/
theorem intercalate_comma_eq_empty_iff {texts : List String} :
    ",".intercalate texts = "" ↔ texts = [] ∨ texts = [""] := by
  match texts with
  | [] => simp
  | [t] => simp
  | t :: u :: rest => simp [String.intercalate_cons_cons]

theorem optionText_list_eq_empty_iff {items : List Value} :
    optionText (.list items) = some "" ↔ (∀ v ∈ items, v.Silent) ∨
      ∃ before v after, items = before ++ v :: after ∧ (∀ w ∈ before, w.Silent) ∧
        optionText v = some "" ∧ ∀ w ∈ after, w.Silent := by
  rw [optionText, Option.some_inj, intercalate_comma_eq_empty_iff, optionTexts_eq_filterMap,
    List.filterMap_eq_nil_iff, List.filterMap_eq_cons_iff]
  simp only [List.filterMap_eq_nil_iff, optionText_eq_none_iff]

theorem hollow_of_optionText : ∀ {v : Value}, optionText v = some "" → v.Hollow
  | .boolean b, h => by cases b <;> exact nomatch h
  | .number n, h => absurd (Option.some.inj h) n.text_ne_empty
  | .text s, h => by
      cases h
      exact .text
  | .list items, h => by
      rcases optionText_list_eq_empty_iff.mp h with hall | ⟨before, v, after, hitems, hb, hv, ha⟩
      · exact .nothing hall
      · exact hitems ▸ .single hb (hollow_of_optionText hv) ha
  | .object members, h => by
      rw [optionText, memberText_eq] at h
      obtain ⟨w, hw, htext⟩ := Option.bind_eq_some_iff.mp h
      exact .wrapped hw (hollow_of_optionText htext)
  termination_by v => sizeOf v
  decreasing_by
    · -- an element is smaller than its list
      have hmem : v ∈ items := hitems ▸ List.mem_append_right before List.mem_cons_self
      have hlt := List.sizeOf_lt_of_mem hmem
      rw [Value.list.sizeOf_spec]
      omega
    · exact sizeOf_lt_of_lookup hw

theorem optionText_of_hollow {v : Value} (h : v.Hollow) : optionText v = some "" := by
  induction h with
  | text => rfl
  | wrapped hw _ ih => rw [optionText, memberText_eq, hw, Option.bind_some, ih]
  | nothing hall => exact optionText_list_eq_empty_iff.mpr (Or.inl hall)
  | single hb _ ha ih =>
      exact optionText_list_eq_empty_iff.mpr (Or.inr ⟨_, _, _, rfl, hb, ih, ha⟩)

/-- Hollow values, and no others, have an empty text. -/
theorem optionText_eq_empty_iff {v : Value} : optionText v = some "" ↔ v.Hollow :=
  ⟨hollow_of_optionText, optionText_of_hollow⟩

/-! ## Records -/

/-- The record has no value, or one without a text. -/
def OptionRecord.Mute (r : OptionRecord) : Prop := ∀ v, r.value = some v → v.Silent

end Source

/-- An annotation lacks a value exactly when its record is mute. -/
theorem Annotation.value_eq_none_iff {r : Source.OptionRecord} {a : Annotation}
    (h : ofRecord? r = some a) : a.value = none ↔ r.Mute := by
  obtain ⟨name, -, rfl⟩ := Option.map_eq_some_iff.mp h
  show r.value.bind Source.optionText = none ↔ _
  simp only [Option.bind_eq_none_iff, Source.optionText_eq_none_iff, Source.OptionRecord.Mute]

theorem Annotation.name_of_ofRecord? {r : Source.OptionRecord} {a : Annotation}
    (h : ofRecord? r = some a) : r.name = some a.name := by
  obtain ⟨name, hname, rfl⟩ := Option.map_eq_some_iff.mp h
  exact hname

end EntityPlan
