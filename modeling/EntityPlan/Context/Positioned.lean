import EntityPlan.Json.Value

/-! # Positioned items — list elements that know their place

    A template cannot ask whether an element is the first or the last one, so each
    carries its index and says so itself. -/

namespace EntityPlan

/-- A list element with its place. -/
structure Positioned (α : Type) where
  item : α
  index : Nat
  first : Bool
  last : Bool
  deriving DecidableEq, Repr

namespace Positioned

variable {α : Type}

/-- The elements with their places, the first of them at `index` of `total`. -/
def listFrom (total index : Nat) : List α → List (Positioned α)
  | [] => []
  | a :: rest => ⟨a, index, index == 0, index + 1 == total⟩ :: listFrom total (index + 1) rest

/-- The elements with their places. -/
def list (items : List α) : List (Positioned α) := listFrom items.length 0 items

/-- The members of an element, and then those of its place. -/
def encoded (members : α → List (String × Json.Value)) (p : Positioned α) : Json.Value :=
  .object (members p.item ++
    [("index", .ofNat p.index), ("first", .boolean p.first), ("last", .boolean p.last)])

theorem length_listFrom (total index : Nat) (items : List α) :
    (listFrom total index items).length = items.length := by
  induction items generalizing index with
  | nil => rfl
  | cons a rest ih => simp [listFrom, ih]

/-- The element at a place, and what it knows of it. -/
theorem getElem?_listFrom (total index i : Nat) (items : List α) :
    (listFrom total index items)[i]? =
      items[i]?.map fun a => ⟨a, index + i, index + i == 0, index + i + 1 == total⟩ := by
  induction items generalizing index i with
  | nil => rfl
  | cons a rest ih =>
      cases i with
      | zero => rfl
      | succ i =>
          show (listFrom total (index + 1) rest)[i]? = _
          rw [ih, List.getElem?_cons_succ]
          simp only [Nat.add_comm, Nat.add_left_comm]

end Positioned

end EntityPlan
