import EntityPlan.Application
import EntityPlan.Proofs.Flattening

/-! # Option readings — the texts and the lists of an application's options

    Raw options are read in two ways: as lists, which keep every key, and as texts, which
    leave out the keys whose values have none.  Where a text is kept it is the list of
    that key with commas between, and where it is left out the list is empty
    (`Application.readings_agree`).  An empty list does not tell a key that is left out:
    a list without texts is read as the empty text (`Source.optionList_eq_nil_iff`). -/

namespace EntityPlan

namespace Source

open Json (Value)

variable {v : Value} {text : String}

/-! ## One value -/

theorem optionList_list (items : List Value) :
    optionList (.list items) = items.filterMap optionText := optionTexts_eq_filterMap items

/-- Whatever is no list is read as at most one text. -/
theorem optionList_of_not_list (h : ∀ items, v ≠ .list items) :
    optionList v = (optionText v).toList := by
  cases v with
  | list items => exact absurd rfl (h items)
  | null => rfl
  | boolean b => rfl
  | number n => rfl
  | text s => rfl
  | object members => rfl

/-- A text is the list of its value, joined. -/
theorem join_optionList (h : optionText v = some text) :
    ",".intercalate (optionList v) = text := by
  by_cases hv : ∃ items, v = .list items
  · obtain ⟨items, rfl⟩ := hv
    rw [optionText_list] at h
    rw [optionList_list]
    exact Option.some.inj h
  · rw [optionList_of_not_list (not_exists.mp hv), h, Option.toList_some,
      String.intercalate_singleton]

/-- The list is empty for the values without a text, and for the lists of such values. -/
theorem optionList_eq_nil_iff :
    optionList v = [] ↔ optionText v = none ∨ ∃ items, v = .list items ∧ ∀ w ∈ items, w.Silent := by
  by_cases hv : ∃ items, v = .list items
  · obtain ⟨items, rfl⟩ := hv
    have htext : ¬ optionText (.list items) = none := by
      rw [optionText_list]
      exact Option.some_ne_none _
    rw [optionList_list, List.filterMap_eq_nil_iff]
    simp only [htext, false_or, optionText_eq_none_iff, Value.list.injEq, exists_eq_left']
  · rw [optionList_of_not_list (not_exists.mp hv), Option.toList_eq_nil_iff]
    refine (or_iff_left ?_).symm
    rintro ⟨items, heq, -⟩
    exact hv ⟨items, heq⟩

end Source

namespace Application

open Json (Value)
open Source

/-! ## All options -/

variable {raw : Option (SortedMap Value)} {key : String}

theorem lookup?_textOptions (raw : Option (SortedMap Value)) (key : String) :
    (textOptions raw).lookup? key = ((raw.getD .empty).lookup? key).bind optionText :=
  SortedMap.lookup?_filterMap _ _ _

theorem lookup?_listOptions (raw : Option (SortedMap Value)) (key : String) :
    (listOptions raw).lookup? key = ((raw.getD .empty).lookup? key).map optionList :=
  SortedMap.lookup?_map _ _ _

theorem mem_keys_textOptions :
    key ∈ (textOptions raw).keys ↔
      ∃ v, (raw.getD .empty).lookup? key = some v ∧ ∃ text, optionText v = some text := by
  simp only [SortedMap.mem_keys_iff, lookup?_textOptions, Option.bind_eq_some_iff]
  constructor
  · rintro ⟨text, v, hv, htext⟩
    exact ⟨v, hv, text, htext⟩
  · rintro ⟨v, hv, text, htext⟩
    exact ⟨text, v, hv, htext⟩

/-- The lists have the keys of the raw options, and the texts those of them whose values have a
    text; such a text is the list of the key with commas between; and the list of a key whose value
    has no text is empty. -/
theorem readings_agree (raw : Option (SortedMap Value)) :
    (listOptions raw).keys = (raw.getD .empty).keys ∧
    (∀ key, key ∈ (textOptions raw).keys ↔
      ∃ v, (raw.getD .empty).lookup? key = some v ∧ ∃ text, optionText v = some text) ∧
    (∀ key v text, (raw.getD .empty).lookup? key = some v → optionText v = some text →
      (textOptions raw).lookup? key = some text ∧
        ∃ texts, (listOptions raw).lookup? key = some texts ∧ text = ",".intercalate texts) ∧
    ∀ key v, (raw.getD .empty).lookup? key = some v → optionText v = none →
      (listOptions raw).lookup? key = some [] := by
  refine ⟨SortedMap.keys_map _ _, fun _ => mem_keys_textOptions, ?_, ?_⟩
  · intro key v text hv htext
    rw [lookup?_textOptions, lookup?_listOptions, hv]
    exact ⟨htext, optionList v, rfl, (join_optionList htext).symm⟩
  · intro key v hv hnone
    rw [lookup?_listOptions, hv, Option.map_some, optionList_eq_nil_iff.mpr (Or.inl hnone)]

/-- A list with a silent element, a wrapped list, and a key without a value. -/
theorem readings_agree_paging :
    let raw : SortedMap Value := .ofList
      [("author", .list [.text "a", .null, .object [("value", .text "b")]]),
        ("book", .object [("value", .list [.text "x", .text "y"])]), ("cover", .null)]
    (listOptions (some raw)).keys = ["author", "book", "cover"] ∧
    "cover" ∉ (textOptions (some raw)).keys ∧
    ((textOptions (some raw)).lookup? "author" = some "a,b" ∧
      ∃ texts, (listOptions (some raw)).lookup? "author" = some texts ∧
        "a,b" = ",".intercalate texts) ∧
    ((textOptions (some raw)).lookup? "book" = some "x,y" ∧
      ∃ texts, (listOptions (some raw)).lookup? "book" = some texts ∧
        "x,y" = ",".intercalate texts) ∧
    (listOptions (some raw)).lookup? "cover" = some [] := by
  intro raw
  obtain ⟨hkeys, hhas, hjoin, hnone⟩ := readings_agree (some raw)
  refine ⟨hkeys.trans rfl, ?_, hjoin _ _ _ rfl rfl, hjoin _ _ _ rfl rfl, hnone _ _ rfl rfl⟩
  rw [hhas]
  rintro ⟨v, hv, text, htext⟩
  obtain rfl : v = .null := (Option.some.inj hv).symm
  exact nomatch htext

end Application

end EntityPlan
