import EntityPlan.Failure

/-! # Collections — named records in document order

    A collection keeps its entries in the order in which they came.  A record is
    added at the end, and only under a name that is not there yet; a lookup finds
    the earliest entry of a name. -/

namespace EntityPlan.Source

/-- Named records in the order of their declaration. -/
structure Collection (α : Type) where
  entries : List (String × α)
  deriving DecidableEq, Repr

namespace Collection

variable {α ε : Type}

/-- The collection without entries. -/
def empty : Collection α := ⟨[]⟩

instance : Inhabited (Collection α) := ⟨empty⟩

/-- The names, in order. -/
def names (c : Collection α) : List String := c.entries.map (·.1)

/-- The records, in order. -/
def records (c : Collection α) : List α := c.entries.map (·.2)

/-- The number of entries. -/
def size (c : Collection α) : Nat := c.entries.length

def isEmpty (c : Collection α) : Bool := c.entries.isEmpty

/-- The record of the earliest entry of this name. -/
def get? (c : Collection α) (name : String) : Option α := c.entries.lookup name

/-- An entry of this name exists. -/
def contains (c : Collection α) (name : String) : Bool := (c.get? name).isSome

/-- The collection with one more entry at its end. -/
def push (c : Collection α) (name : String) (a : α) : Collection α :=
  ⟨c.entries ++ [(name, a)]⟩

/-- Adds a record under a name that is not there yet. -/
def insert (c : Collection α) (kind name : String) (a : α) : Except Failure (Collection α) :=
  if c.contains name then .error (.duplicateDeclaration kind name) else .ok (c.push name a)

/-- Takes up one member of an object as it was read. -/
def take (c : Collection α) (member : String × Except Problem α) :
    Except Problem (Collection α) :=
  match member.2 with
  | .error p => .error p
  | .ok a => if c.contains member.1 then .error (.duplicateKey member.1) else .ok (c.push member.1 a)

/-- The collection of the members of an object, in order: the first value that could
    not be read or the first repeated key is the problem, the value before its key. -/
def ofMembers (members : List (String × Except Problem α)) : Except Problem (Collection α) :=
  members.foldlM take empty

theorem names_push (c : Collection α) (name : String) (a : α) :
    (c.push name a).names = c.names ++ [name] := by
  simp [names, push]

/-- A name is contained exactly when it is among the names. -/
theorem contains_iff_mem_names (c : Collection α) (name : String) :
    c.contains name = true ↔ name ∈ c.names := by
  obtain ⟨entries⟩ := c
  show (entries.lookup name).isSome = true ↔ name ∈ entries.map (·.1)
  induction entries with
  | nil => simp
  | cons hd tl ih =>
      obtain ⟨k, v⟩ := hd
      by_cases h : name = k
      · simp [h]
      · have hb : (name == k) = false := by simpa using h
        simp only [List.lookup_cons, hb, ih, List.map_cons, List.mem_cons, h, false_or]

end Collection

end EntityPlan.Source
