import EntityPlan.Proofs.Traversal
import EntityPlan.Source.Collection
import Mathlib.Data.List.Induction
import Mathlib.Data.List.Nodup

/-! # Decoding — what the members of an object come to

    The members of an object are taken up one after another, and the first one that has
    no value, or that has the key of an earlier one, ends it; of a member with both
    faults the value is the one that counts (`Collection.Decodes`).  Members with
    values, under keys that are distinct, all come into the collection, in their order
    (`Collection.decodes_iff`). -/

namespace EntityPlan.Source.Collection

variable {α : Type}

/-- The members of an object from which the entries of the collection are read. -/
def members (c : Collection α) : List (String × Except Problem α) :=
  c.entries.map fun e => (e.1, .ok e.2)

/-- Each member has a value, and a key of its own. -/
structure Sound (ms : List (String × Except Problem α)) : Prop where
  values : ∀ m ∈ ms, ∃ a, m.2 = .ok a
  keys : (ms.map (·.1)).Nodup

/-- What a member is refused for behind others: its own problem, or else its key. -/
inductive Refuses (before : List (String × Except Problem α)) :
    String × Except Problem α → Problem → Prop
  | value (key : String) (p : Problem) : Refuses before (key, .error p) p
  | key {key : String} (a : α) : key ∈ before.map (·.1) →
      Refuses before (key, .ok a) (.duplicateKey key)

/-- The rules by which the members of an object come to something. -/
inductive Decodes (ms : List (String × Except Problem α)) : Except Problem (Collection α) → Prop
  /-- all members, in their order -/
  | whole {c : Collection α} : ms = c.members → c.names.Nodup → Decodes ms (.ok c)
  /-- the problem of the first member that is refused -/
  | refused {before after : List (String × Except Problem α)} {m : String × Except Problem α}
      {p : Problem} : ms = before ++ m :: after → Sound before → Refuses before m p →
      Decodes ms (.error p)

variable {c d : Collection α} {ms : List (String × Except Problem α)}
  {m : String × Except Problem α} {p : Problem}

theorem keys_members (c : Collection α) : c.members.map (·.1) = c.names := by
  show (c.entries.map fun e => (e.1, Except.ok e.2)).map (·.1) = c.entries.map (·.1)
  rw [List.map_map]
  rfl

theorem members_push (c : Collection α) (key : String) (a : α) :
    (c.push key a).members = c.members ++ [(key, .ok a)] :=
  List.map_append

/-- A collection with one more member has one more entry. -/
theorem eq_push_of_members (h : d.members = ms ++ [m]) :
    ∃ (c : Collection α) (a : α), c.members = ms ∧ m = (m.1, .ok a) ∧ d = c.push m.1 a := by
  obtain ⟨entries⟩ := d
  obtain ⟨before, last, rfl, hbefore, hlast⟩ := List.map_eq_append_iff.mp h
  obtain ⟨e, rfl, rfl⟩ := List.map_eq_singleton_iff.mp hlast
  exact ⟨⟨before⟩, e.2, hbefore, rfl, rfl⟩

/-- Members are sound when they are those of a collection with distinct names. -/
theorem sound_iff : Sound ms ↔ ∃ c : Collection α, ms = c.members ∧ c.names.Nodup := by
  constructor
  · rintro ⟨hvalues, hkeys⟩
    have hmembers : ∃ c : Collection α, ms = c.members := by
      clear hkeys
      induction ms with
      | nil => exact ⟨empty, rfl⟩
      | cons m rest ih =>
          obtain ⟨⟨a, ha⟩, hrest⟩ := List.forall_mem_cons.mp hvalues
          obtain ⟨c, rfl⟩ := ih hrest
          exact ⟨⟨(m.1, a) :: c.entries⟩, congrArg (· :: c.members) (Prod.ext rfl ha)⟩
    obtain ⟨c, rfl⟩ := hmembers
    exact ⟨c, rfl, keys_members c ▸ hkeys⟩
  · rintro ⟨c, rfl, hnames⟩
    refine ⟨?_, (keys_members c).symm ▸ hnames⟩
    intro m hm
    obtain ⟨e, -, rfl⟩ := List.mem_map.mp hm
    exact ⟨e.2, rfl⟩

/-! ## One member -/

theorem take_eq_ok_iff :
    c.take m = .ok d ↔ ∃ a, m.2 = .ok a ∧ m.1 ∉ c.names ∧ d = c.push m.1 a := by
  obtain ⟨key, value⟩ := m
  cases value with
  | error p =>
      refine ⟨fun h => (nomatch h), ?_⟩
      rintro ⟨a, ha, -⟩
      exact nomatch ha
  | ok a =>
      show (if c.contains key then Except.error (Problem.duplicateKey key)
        else Except.ok (c.push key a)) = Except.ok d ↔ _
      rw [← contains_iff_mem_names]
      cases c.contains key <;> simp [eq_comm]

theorem take_eq_error_iff : c.take m = .error p ↔ Refuses c.members m p := by
  obtain ⟨key, value⟩ := m
  cases value with
  | error q =>
      show Except.error q = .error p ↔ _
      constructor
      · intro h
        cases h
        exact .value key p
      · rintro ⟨⟩
        rfl
  | ok a =>
      show (if c.contains key then Except.error (Problem.duplicateKey key)
        else Except.ok (c.push key a)) = Except.error p ↔ _
      have hkey : key ∈ c.members.map (·.1) ↔ c.contains key = true := by
        rw [keys_members, contains_iff_mem_names]
      cases hcontains : c.contains key with
      | true =>
          constructor
          · rintro ⟨⟩
            exact .key a (hkey.mpr hcontains)
          · rintro ⟨⟩
            rfl
      | false =>
          refine ⟨fun h => (nomatch h), ?_⟩
          rintro (⟨⟩ | ⟨_, hmem⟩)
          exact nomatch hcontains.symm.trans (hkey.mp hmem)

/-! ## All members -/

theorem ofMembers_concat (ms : List (String × Except Problem α)) (m : String × Except Problem α) :
    ofMembers (ms ++ [m]) = ofMembers ms >>= fun c => c.take m := by
  show (ms ++ [m]).foldlM take empty = _
  rw [List.foldlM_append]
  refine congrArg _ (funext fun c => ?_)
  rw [List.foldlM_cons]
  exact bind_pure _

/-- A collection is read from its own members and no others, and only if these are under
    distinct keys. -/
theorem ofMembers_eq_ok_iff : ofMembers ms = .ok c ↔ ms = c.members ∧ c.names.Nodup := by
  -- one more member at the end is taken up by the collection of those before it
  induction ms using List.reverseRecOn generalizing c with
  | nil =>
      constructor
      · intro h
        cases h
        exact ⟨rfl, List.nodup_nil⟩
      · rintro ⟨h, -⟩
        obtain ⟨entries⟩ := c
        obtain rfl : entries = [] := List.map_eq_nil_iff.mp h.symm
        rfl
  | append_singleton ms m ih =>
      rw [ofMembers_concat]
      constructor
      · intro h
        cases hms : ofMembers ms with
        | error p =>
            rw [hms] at h
            exact nomatch h
        | ok b =>
            rw [hms] at h
            obtain ⟨rfl, hnodup⟩ := ih.mp hms
            obtain ⟨a, ha, hfresh, rfl⟩ := take_eq_ok_iff.mp h
            rw [members_push, names_push]
            refine ⟨congrArg (b.members ++ [·]) (Prod.ext rfl ha), ?_⟩
            exact List.nodup_append'.mpr
              ⟨hnodup, List.nodup_singleton m.1, List.disjoint_singleton.mpr hfresh⟩
      · rintro ⟨hmembers, hnodup⟩
        obtain ⟨b, a, rfl, hm, rfl⟩ := eq_push_of_members hmembers.symm
        rw [names_push] at hnodup
        obtain ⟨hb, -, hfresh⟩ := List.nodup_append'.mp hnodup
        rw [ih.mpr ⟨rfl, hb⟩]
        exact take_eq_ok_iff.mpr
          ⟨a, congrArg Prod.snd hm, List.disjoint_singleton.mp hfresh, rfl⟩

/-- Members come to what the rules say, and to nothing else. -/
theorem decodes_iff {r : Except Problem (Collection α)} : ofMembers ms = r ↔ Decodes ms r := by
  constructor
  · rintro rfl
    cases h : ofMembers ms with
    | ok c =>
        obtain ⟨hmembers, hnodup⟩ := ofMembers_eq_ok_iff.mp h
        exact .whole hmembers hnodup
    | error p =>
        obtain ⟨before, m, after, b, hsplit, hbefore, hm⟩ := foldlM_eq_error_iff.mp h
        obtain ⟨rfl, hnodup⟩ := ofMembers_eq_ok_iff.mp hbefore
        exact .refused hsplit (sound_iff.mpr ⟨b, rfl, hnodup⟩) (take_eq_error_iff.mp hm)
  · intro h
    cases h with
    | whole hmembers hnodup => exact ofMembers_eq_ok_iff.mpr ⟨hmembers, hnodup⟩
    | refused hsplit hsound hrefuses =>
        obtain ⟨b, rfl, hnodup⟩ := sound_iff.mp hsound
        exact foldlM_eq_error_iff.mpr ⟨b.members, _, _, b, hsplit,
          ofMembers_eq_ok_iff.mpr ⟨rfl, hnodup⟩, take_eq_error_iff.mpr hrefuses⟩

/-- Members come to a collection when they are sound. -/
theorem exists_ofMembers_iff : (∃ c, ofMembers ms = .ok c) ↔ Sound ms := by
  rw [sound_iff]
  exact exists_congr fun c => ofMembers_eq_ok_iff

end EntityPlan.Source.Collection
