import EntityPlan.Json.Value
import EntityPlan.SortedMap

/-! # Canonical values — objects without the order of their members

    Who reads JSON knows no order of the members of an object, and of a key only the
    value that was written last.  What is left of a value is the same for two objects
    exactly when the same is found in them under every key (`same_object_iff`).  With
    different keys all members are found, in whatever order they stand
    (`same_of_perm`, `values_of_same`). -/

namespace EntityPlan.Json.Value

mutual

/-- The value as it is read: of an object one member for each key, in byte order. -/
def canonical : Value → Value
  | .null => .null
  | .boolean b => .boolean b
  | .number n => .number n
  | .text s => .text s
  | .list items => .list (canonicalItems items)
  | .object members => .object (SortedMap.ofList (canonicalMembers members)).rows

/-- The elements of a list as they are read. -/
def canonicalItems : List Value → List Value
  | [] => []
  | v :: rest => v.canonical :: canonicalItems rest

/-- The members of an object, each as it is read. -/
def canonicalMembers : List (String × Value) → List (String × Value)
  | [] => []
  | (k, v) :: rest => (k, v.canonical) :: canonicalMembers rest

end

/-- The values are read as one. -/
def Same (v w : Value) : Prop := v.canonical = w.canonical

/-- What is found under a key: the value that was written last. -/
def member? (v : Value) (key : String) : Option Value := v.members.reverse.lookup key

/-- No object of the value has two members of one key, at any depth. -/
inductive Distinct : Value → Prop
  | null : Distinct .null
  | boolean (b : Bool) : Distinct (.boolean b)
  | number (n : Number) : Distinct (.number n)
  | text (s : String) : Distinct (.text s)
  | list {items : List Value} (h : ∀ v ∈ items, Distinct v) : Distinct (.list items)
  | object {members : List (String × Value)} (hkeys : (members.map (·.1)).Nodup)
      (h : ∀ r ∈ members, Distinct r.2) : Distinct (.object members)

attribute [simp] Distinct.boolean Distinct.text

@[simp] theorem distinct_ofNat (n : Nat) : (ofNat n).Distinct := .number _

@[simp] theorem distinct_ofText? (t : Option String) : (ofText? t).Distinct := by
  cases t with
  | none => exact .null
  | some s => exact .text s

@[simp] theorem ofNat_inj {m n : Nat} : ofNat m = ofNat n ↔ m = n :=
  ⟨fun h => Int.ofNat.inj (Number.integer.inj (number.inj h)), congrArg ofNat⟩

/-- The absence of a text is not a text. -/
@[simp] theorem ofText?_inj {t t' : Option String} : ofText? t = ofText? t' ↔ t = t' := by
  refine ⟨fun h => ?_, congrArg ofText?⟩
  cases t <;> cases t'
  case none.none => rfl
  case some.some => exact congrArg some (text.inj h)
  all_goals exact nomatch h

/-! ## Lists and members -/

theorem canonicalItems_eq (items : List Value) : canonicalItems items = items.map canonical := by
  induction items with
  | nil => rfl
  | cons v rest ih =>
      show v.canonical :: canonicalItems rest = _
      rw [ih, List.map_cons]

theorem canonicalMembers_eq (ms : List (String × Value)) :
    canonicalMembers ms = ms.map fun r => (r.1, r.2.canonical) := by
  induction ms with
  | nil => rfl
  | cons r rest ih =>
      show (r.1, r.2.canonical) :: canonicalMembers rest = _
      rw [ih, List.map_cons]

theorem canonical_list (items : List Value) :
    (list items).canonical = .list (items.map canonical) :=
  congrArg list (canonicalItems_eq items)

@[simp] theorem canonical_boolean (b : Bool) : (boolean b).canonical = .boolean b := rfl

@[simp] theorem canonical_text (s : String) : (text s).canonical = .text s := rfl

@[simp] theorem canonical_ofNat (n : Nat) : (ofNat n).canonical = ofNat n := rfl

@[simp] theorem canonical_ofText? (t : Option String) : (ofText? t).canonical = ofText? t := by
  cases t <;> rfl

/-! ## What is found in an object -/

variable {ms ns : List (String × Value)}

theorem lookup?_canonicalMembers (ms : List (String × Value)) (key : String) :
    (SortedMap.ofList (canonicalMembers ms)).lookup? key =
      ((object ms).member? key).map canonical := by
  have hmap : ∀ l : List (String × Value),
      (l.map fun r => (r.1, r.2.canonical)).lookup key = (l.lookup key).map canonical := by
    intro l
    induction l with
    | nil => rfl
    | cons r rest ih =>
        rw [List.map_cons, List.lookup_cons, List.lookup_cons, ih]
        cases key == r.1 <;> rfl
  have hfold := SortedMap.lookup?_foldl_insert (canonicalMembers ms) .empty key
  rw [SortedMap.lookup?_empty, Option.or_none] at hfold
  refine hfold.trans ?_
  rw [canonicalMembers_eq, ← List.map_reverse, hmap]
  rfl

/-- Objects are read as one exactly when the same is found in them under every key. -/
theorem same_object_iff :
    (object ms).Same (object ns) ↔
      ∀ key, ((object ms).member? key).map canonical = ((object ns).member? key).map canonical := by
  constructor
  · intro h key
    have hrows : (SortedMap.ofList (canonicalMembers ms)).rows =
        (SortedMap.ofList (canonicalMembers ns)).rows := object.inj h
    rw [← lookup?_canonicalMembers, ← lookup?_canonicalMembers]
    exact congrArg (List.lookup key) hrows
  · intro h
    have hmaps : SortedMap.ofList (canonicalMembers ms) = .ofList (canonicalMembers ns) := by
      refine SortedMap.ext_lookup? fun key => ?_
      rw [lookup?_canonicalMembers, lookup?_canonicalMembers, h]
    exact congrArg (fun m => object m.rows) hmaps

example : (object [("key", .null), ("index", ofNat 0), ("key", .boolean true)]).Same
    (object [("key", .boolean true), ("index", ofNat 0)]) := rfl

/-- Where the keys differ each member is found. -/
theorem member?_eq_some_iff (h : (ms.map (·.1)).Nodup) {key : String} {v : Value} :
    (object ms).member? key = some v ↔ (key, v) ∈ ms := by
  have hrev : (ms.reverse.map (·.1)).Nodup := by
    rw [List.map_reverse]
    exact List.pairwise_reverse.mpr (h.imp Ne.symm)
  rw [← List.mem_reverse]
  exact SortedMap.lookup_eq_some_iff hrev

/-- The order of different keys is not read. -/
theorem same_of_perm (hperm : ms.Perm ns) (h : (ms.map (·.1)).Nodup) :
    (object ms).Same (object ns) := by
  have h' : (ns.map (·.1)).Nodup := (hperm.map _).nodup_iff.mp h
  refine same_object_iff.mpr fun key => congrArg _ (Option.ext fun v => ?_)
  rw [member?_eq_some_iff h, member?_eq_some_iff h', hperm.mem_iff]

/-- Objects that are read as one and have the same different keys have values that are read
    as one. -/
theorem values_of_same (hkeys : ms.map (·.1) = ns.map (·.1)) (h : (ms.map (·.1)).Nodup)
    (hsame : (object ms).Same (object ns)) :
    ms.map (·.2.canonical) = ns.map (·.2.canonical) := by
  have hlength : ms.length = ns.length := by
    rw [← List.length_map (·.1), hkeys, List.length_map]
  refine List.ext_getElem (by rw [List.length_map, List.length_map, hlength]) fun i hi hi' => ?_
  rw [List.length_map] at hi hi'
  rw [List.getElem_map, List.getElem_map]
  have hkey : ms[i].1 = ns[i].1 := by
    have hat := congrArg (·[i]?) hkeys
    simpa [hi, hi'] using hat
  have hm : (object ms).member? ms[i].1 = some ms[i].2 :=
    (member?_eq_some_iff h).mpr (List.getElem_mem hi)
  have hn : (object ns).member? ms[i].1 = some ns[i].2 :=
    (member?_eq_some_iff (hkeys ▸ h)).mpr (hkey ▸ List.getElem_mem hi')
  have hfound := same_object_iff.mp hsame ms[i].1
  rw [hm, hn] at hfound
  exact Option.some.inj hfound

end EntityPlan.Json.Value
