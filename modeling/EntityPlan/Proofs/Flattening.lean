import EntityPlan.Proofs.OptionTexts
import EntityPlan.Proofs.Paths
import Mathlib.Logic.Relation

/-! # Flattening — what a raw value comes down to

    An object stands for its member `value`, so each value leads to one at which there is
    no such member to follow any more, and to one only (`Json.Value.exists_endsIn_iff`).
    The text of a value is that of its end; of a list it is made of the texts of the
    elements that have one (`Source.optionText_flattens`). -/

namespace EntityPlan

namespace Json.Value

/-- The value is an object, and the other one is its member `value`. -/
inductive Wraps : Value → Value → Prop
  | value {members : List (String × Value)} {v : Value} :
      members.lookup "value" = some v → Wraps (.object members) v

/-- Following the members `value` from one value leads to the other, at which there is none. -/
def EndsIn (v w : Value) : Prop := Relation.ReflTransGen Wraps v w ∧ ∀ u, ¬ Wraps w u

/-- The value is `null` or an object without a member `value`. -/
def Bare (w : Value) : Prop :=
  w = .null ∨ ∃ members : List (String × Value), w = .object members ∧ members.lookup "value" = none

variable {u v w : Value}

theorem Wraps.unique (h : Wraps v u) (h' : Wraps v w) : u = w := by
  cases h with
  | value hu =>
      cases h' with
      | value hw =>
          rw [hu] at hw
          exact Option.some.inj hw

theorem Wraps.sizeOf_lt (h : Wraps v u) : sizeOf u < sizeOf v := by
  cases h with
  | value hu => exact Source.sizeOf_lt_of_lookup hu

theorem EndsIn.of_wraps (h : Wraps v u) (hu : EndsIn u w) : EndsIn v w :=
  ⟨.head h hu.1, hu.2⟩

/-- Each value comes to an end, since members are smaller than their objects. -/
theorem exists_endsIn (v : Value) : ∃ w, EndsIn v w := by
  by_cases hv : ∃ u, Wraps v u
  · obtain ⟨u, hu⟩ := hv
    obtain ⟨w, hw⟩ := exists_endsIn u
    exact ⟨w, hw.of_wraps hu⟩
  · exact ⟨v, .refl, not_exists.mp hv⟩
  termination_by sizeOf v
  decreasing_by exact hu.sizeOf_lt

/-- A value comes to one end only. -/
theorem EndsIn.unique (h : EndsIn v u) (h' : EndsIn v w) : u = w := by
  obtain ⟨hu, hend⟩ := h
  induction hu using Relation.ReflTransGen.head_induction_on with
  | refl =>
      rcases h'.1.cases_head with rfl | ⟨x, hx, -⟩
      · rfl
      · exact absurd hx (hend x)
  | head hstep _ ih =>
      rcases h'.1.cases_head with rfl | ⟨x, hx, hrest⟩
      · exact absurd hstep (h'.2 _)
      · obtain rfl := hstep.unique hx
        exact ih ⟨hrest, h'.2⟩

theorem exists_endsIn_iff (v : Value) : ∃ w, ∀ u, EndsIn v u ↔ u = w := by
  obtain ⟨w, hw⟩ := exists_endsIn v
  refine ⟨w, ?_⟩
  intro u
  constructor
  · intro hu
    exact hu.unique hw
  · rintro rfl
    exact hw

end Json.Value

namespace Source

open Json (Value)
open Json.Value

variable {v w : Value}

theorem optionText_of_lookup {members : List (String × Value)}
    (h : members.lookup "value" = some v) : optionText (.object members) = optionText v := by
  rw [optionText, memberText_eq, h, Option.bind_some]

/-- A value has the text of its end. -/
theorem optionText_of_endsIn (h : EndsIn v w) : optionText v = optionText w := by
  obtain ⟨hchain, -⟩ := h
  induction hchain using Relation.ReflTransGen.head_induction_on with
  | refl => rfl
  | head hstep _ ih =>
      cases hstep with
      | value hu => rw [optionText_of_lookup hu, ih]

/-- At an end only `null` and an object have no text. -/
theorem optionText_eq_none_iff_bare (hend : ∀ u, ¬ Wraps w u) : optionText w = none ↔ w.Bare := by
  constructor
  · intro h
    cases optionText_eq_none_iff.mp h with
    | null => exact Or.inl rfl
    | bare hnone => exact Or.inr ⟨_, rfl, hnone⟩
    | wrapped hv _ => exact absurd (.value hv) (hend _)
  · rintro (rfl | ⟨members, rfl, hnone⟩)
    · rfl
    · exact optionText_eq_none_iff.mpr (.bare hnone)

theorem optionText_list (items : List Value) :
    optionText (.list items) = some (",".intercalate (items.filterMap optionText)) := by
  rw [optionText, optionTexts_eq_filterMap]

/-- Texts have themselves as their texts. -/
theorem filterMap_optionText_texts (texts : List String) :
    (texts.map Value.text).filterMap optionText = texts := by
  induction texts with
  | nil => rfl
  | cons t rest ih =>
      show (Value.text t :: rest.map Value.text).filterMap optionText = t :: rest
      rw [List.filterMap_cons_some (b := t) (by rw [optionText]), ih]

/-- Wrapping does not change the text of a value; a value has none when it comes down to `null`
    or to an object without a member `value`; and a list has those of its elements with commas
    between, from which texts without commas can be told again. -/
theorem optionText_flattens :
    (∀ (members : List (String × Value)) (v : Value), members.lookup "value" = some v →
      optionText (.object members) = optionText v) ∧
    (∀ v : Value, ∃ w, (∀ u, v.EndsIn u ↔ u = w) ∧ (optionText v = none ↔ w.Bare)) ∧
    (∀ items : List Value,
      optionText (.list items) = some (",".intercalate (items.filterMap optionText))) ∧
    ∀ texts : List String, texts ≠ [] → (∀ t ∈ texts, ',' ∉ t.toList) →
      ∃ s, optionText (.list (texts.map .text)) = some s ∧ Text.split ',' s = texts := by
  refine ⟨?_, ?_, optionText_list, ?_⟩
  · intro members v h
    exact optionText_of_lookup h
  · intro v
    obtain ⟨w, hw⟩ := v.exists_endsIn_iff
    have hend : EndsIn v w := (hw w).mpr rfl
    refine ⟨w, hw, ?_⟩
    rw [optionText_of_endsIn hend, optionText_eq_none_iff_bare hend.2]
  · intro texts hne hplain
    refine ⟨",".intercalate texts, ?_, Text.split_intercalate_by rfl hne hplain⟩
    rw [optionText_list, filterMap_optionText_texts]

/-- A wrapped list of which two elements have no text, and a list of plain texts. -/
theorem optionText_flattens_labels :
    optionText (.object [("label", .null),
        ("value", .list [.text "a", .null, .object [("label", .text "b")], .text ""])]) =
      some "a," ∧
    ∃ s, optionText (.list (["a", "", "b c"].map .text)) = some s ∧
      Text.split ',' s = ["a", "", "b c"] := by
  obtain ⟨hwrapped, -, hlist, hsplit⟩ := optionText_flattens
  refine ⟨?_, hsplit ["a", "", "b c"] (List.cons_ne_nil _ _) (by decide)⟩
  rw [hwrapped _ _ rfl, hlist]
  rfl

end Source

end EntityPlan
