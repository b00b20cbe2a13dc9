import EntityPlan.Model.Basic
import EntityPlan.Proofs.Repetition

/-! # Imports — what the fields of an entity need, each once

    The imports of an entity stand in the order in which its fields first need them.
    That they are distinct, are those of the fields and stand in this order says all
    there is to say of them, and of fields in two parts the imports are those of the
    first part and then the other ones of the second (`importsOf_ordered_union`). -/

namespace EntityPlan

/-- Where the first field stands that needs the import. -/
def firstNeed (fields : List FieldModel) (s : String) : Nat :=
  fields.findIdx fun f => f.importName == some s

/-- These are the imports of the fields, each once, and the one that is needed first stands
    first. -/
structure FieldModel.Needs (fields : List FieldModel) (imports : List String) : Prop where
  nodup : imports.Nodup
  mem_iff : ∀ s, s ∈ imports ↔ ∃ f ∈ fields, f.importName = some s
  ordered : imports.Pairwise fun s t => firstNeed fields s < firstNeed fields t

variable {fields more : List FieldModel} {s : String}

theorem mem_importsOf : s ∈ importsOf fields ↔ ∃ f ∈ fields, f.importName = some s := by
  show s ∈ Text.distinct (fields.filterMap (·.importName)) ↔ _
  rw [Text.mem_distinct, List.mem_filterMap]

theorem importsOf_append (fields more : List FieldModel) :
    importsOf (fields ++ more) =
      importsOf fields ++ (importsOf more).filter (· ∉ importsOf fields) := by
  show Text.distinct ((fields ++ more).filterMap (·.importName)) = _
  rw [List.filterMap_append, Text.distinct_append]
  rfl

theorem importsOf_singleton (f : FieldModel) : importsOf [f] = f.importName.toList := by
  show Text.distinct ([f].filterMap (·.importName)) = f.importName.toList
  cases h : f.importName with
  | none => rw [List.filterMap_cons_none h]; rfl
  | some s => rw [List.filterMap_cons_some h]; rfl

/-! ## Order -/

theorem firstNeed_lt (h : s ∈ importsOf fields) : firstNeed fields s < fields.length := by
  obtain ⟨f, hf, hs⟩ := mem_importsOf.mp h
  exact List.findIdx_lt_length.mpr ⟨f, hf, beq_iff_eq.mpr hs⟩

/-- Fields that come later do not change where an import was needed first. -/
theorem firstNeed_append_of_mem (h : s ∈ importsOf fields) (more : List FieldModel) :
    firstNeed (fields ++ more) s = firstNeed fields s := by
  show List.findIdx _ (fields ++ more) = _
  rw [List.findIdx_append]
  exact if_pos (firstNeed_lt h)

theorem le_firstNeed_append (h : s ∉ importsOf fields) (more : List FieldModel) :
    fields.length ≤ firstNeed (fields ++ more) s := by
  have hnone : ¬ fields.findIdx (fun f => f.importName == some s) < fields.length := by
    intro hlt
    obtain ⟨f, hf, hs⟩ := List.findIdx_lt_length.mp hlt
    exact h (mem_importsOf.mpr ⟨f, hf, beq_iff_eq.mp hs⟩)
  show fields.length ≤ List.findIdx _ (fields ++ more)
  rw [List.findIdx_append, if_neg hnone]
  exact Nat.le_add_left _ _

/-- The imports stand in the order in which the fields need them. -/
theorem ordered_importsOf (fields : List FieldModel) :
    (importsOf fields).Pairwise fun s t => firstNeed fields s < firstNeed fields t := by
  -- one more field at the end adds at most one import, and that one comes last
  induction fields using List.reverseRecOn with
  | nil => exact List.Pairwise.nil
  | append_singleton fields f ih =>
      rw [importsOf_append]
      refine List.pairwise_append.mpr ⟨?old, ?new, ?between⟩
      case old =>
        refine ih.imp_of_mem ?_
        intro s t hs ht hlt
        rw [firstNeed_append_of_mem hs, firstNeed_append_of_mem ht]
        exact hlt
      case new =>
        rw [importsOf_singleton]
        cases f.importName with
        | none => exact List.Pairwise.nil
        | some s => exact (List.pairwise_singleton _ s).filter _
      case between =>
        intro s hs t ht
        have hnew : t ∉ importsOf fields := of_decide_eq_true (List.mem_filter.mp ht).2
        rw [firstNeed_append_of_mem hs]
        exact Nat.lt_of_lt_of_le (firstNeed_lt hs) (le_firstNeed_append hnew [f])

/-! ## The imports of an entity -/

theorem needs_importsOf (fields : List FieldModel) :
    FieldModel.Needs fields (importsOf fields) where
  nodup := Text.nodup_newOnes [] _
  mem_iff _ := mem_importsOf
  ordered := ordered_importsOf fields

/-- There is only one list of what the fields need. -/
theorem FieldModel.Needs.unique {imports imports' : List String}
    (h : FieldModel.Needs fields imports) (h' : FieldModel.Needs fields imports') :
    imports = imports' := by
  have hperm : imports.Perm imports' := by
    rw [List.perm_ext_iff_of_nodup h.nodup h'.nodup]
    intro s
    rw [h.mem_iff, h'.mem_iff]
  refine hperm.eq_of_pairwise ?_ h.ordered h'.ordered
  intro s t _ _ hlt hgt
  exact absurd hgt (Nat.lt_asymm hlt)

/-- The imports of fields are what the fields need, each once and in the order of first need,
    and nothing else is; fields that come behind others add what these do not need. -/
theorem importsOf_ordered_union :
    (∀ fields imports, importsOf fields = imports ↔ FieldModel.Needs fields imports) ∧
      ∀ front back, importsOf (front ++ back) =
        importsOf front ++ (importsOf back).filter (· ∉ importsOf front) := by
  refine ⟨?_, importsOf_append⟩
  intro fields imports
  constructor
  · rintro rfl
    exact needs_importsOf fields
  · exact (needs_importsOf fields).unique

end EntityPlan
