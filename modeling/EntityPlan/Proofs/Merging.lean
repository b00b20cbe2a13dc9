import EntityPlan.Proofs.Requirement
import EntityPlan.Source.Merge
import Mathlib.Data.List.Nodup

/-! # Merging — what a document made of several holds

    A merge inserts entries as long as they fit, entities before applications, and the
    first one with a taken name ends it; what was inserted before that one stays
    (`Document.Merged`, `Document.merge_keeps_fitting`).

    Documents made into one stand one behind another in it (`concat`).  They can be
    merged exactly when no key is twice in what they make, and then nothing of them
    is lost (`Document.foldlM_join_eq_ok_iff`). -/

namespace EntityPlan.Source

variable {α : Type}

namespace Collection

/-- The collection has the name, or one of these entries has it. -/
def Taken (c : Collection α) (before : List (String × α)) (name : String) : Prop :=
  name ∈ c.names ∨ name ∈ before.map (·.1)

/-- No entry has a name that the collection or an earlier entry has. -/
def Fits (c : Collection α) (entries : List (String × α)) : Prop :=
  ∀ before name a after, entries = before ++ (name, a) :: after → ¬ c.Taken before name

/-- The collection with entries behind its own, whatever their names are. -/
def extend (c : Collection α) (entries : List (String × α)) : Collection α :=
  ⟨c.entries ++ entries⟩

variable {kind : String} {c : Collection α} {entries before after : List (String × α)}
  {name : String} {a : α}

theorem extend_nil (c : Collection α) : c.extend [] = c :=
  congrArg mk (List.append_nil c.entries)

theorem extend_push (c : Collection α) (name : String) (a : α) (entries : List (String × α)) :
    (c.push name a).extend entries = c.extend ((name, a) :: entries) :=
  congrArg mk (List.append_assoc c.entries [(name, a)] entries)

theorem mem_names_extend {n : String} : n ∈ (c.extend before).names ↔ c.Taken before n := by
  unfold names extend Taken
  rw [List.map_append, List.mem_append]
  rfl

/-- An entry that is inserted takes its name like one in front of the others. -/
theorem taken_push {n : String} : (c.push name a).Taken before n ↔ c.Taken ((name, a) :: before) n := by
  rw [← mem_names_extend, extend_push, mem_names_extend]

theorem fits_nil (c : Collection α) : c.Fits [] := by
  intro before name a after h
  exact absurd h.symm (List.append_ne_nil_of_right_ne_nil before (List.cons_ne_nil _ _))

/-- The first entry is inserted before the others are looked at. -/
theorem fits_cons_iff : c.Fits ((name, a) :: entries) ↔
    c.contains name = false ∧ (c.push name a).Fits entries := by
  rw [Bool.eq_false_iff, Ne, contains_iff_mem_names]
  constructor
  · intro h
    refine ⟨fun hname => h [] name a entries rfl (Or.inl hname), ?_⟩
    rintro before n b after rfl hn
    exact h ((name, a) :: before) n b after rfl (taken_push.mp hn)
  · rintro ⟨hname, hrest⟩ before n b after h hn
    cases before with
    | nil =>
        obtain ⟨⟨⟩, -⟩ := List.cons.inj h
        rcases hn with hn | hn
        · exact hname hn
        · exact nomatch hn
    | cons e before =>
        obtain ⟨rfl, hentries⟩ := List.cons.inj h
        exact hrest before n b after hentries (taken_push.mpr hn)

/-- Entries fit when their names are distinct and not there yet. -/
theorem fits_iff :
    c.Fits entries ↔ (entries.map (·.1)).Nodup ∧ c.names.Disjoint (entries.map (·.1)) := by
  induction entries generalizing c with
  | nil => exact ⟨fun _ => ⟨List.nodup_nil, List.disjoint_nil_right _⟩, fun _ => fits_nil c⟩
  | cons e rest ih =>
      obtain ⟨name, a⟩ := e
      rw [fits_cons_iff, ih, names_push, List.disjoint_append_left, List.singleton_disjoint,
        List.map_cons, List.nodup_cons, List.disjoint_cons_right, Bool.eq_false_iff, Ne,
        contains_iff_mem_names]
      exact ⟨fun h => ⟨⟨h.2.2.2, h.2.1⟩, h.1, h.2.2.1⟩,
        fun h => ⟨h.2.1, h.1.2, h.2.2, h.1.1⟩⟩

/-- Entries that do not fit have a first one whose name is taken. -/
theorem fits_or_taken (c : Collection α) (entries : List (String × α)) :
    c.Fits entries ∨ ∃ before name a after, entries = before ++ (name, a) :: after ∧
      c.Fits before ∧ c.Taken before name := by
  induction entries generalizing c with
  | nil => exact Or.inl (fits_nil c)
  | cons e rest ih =>
      obtain ⟨name, a⟩ := e
      cases hname : c.contains name with
      | true =>
          exact Or.inr ⟨[], name, a, rest, rfl, fits_nil c,
            Or.inl ((contains_iff_mem_names c name).mp hname)⟩
      | false =>
          rcases ih (c.push name a) with hfits | ⟨before, n, b, after, rfl, hfits, htaken⟩
          · exact Or.inl (fits_cons_iff.mpr ⟨hname, hfits⟩)
          · exact Or.inr ⟨(name, a) :: before, n, b, after, rfl,
              fits_cons_iff.mpr ⟨hname, hfits⟩, taken_push.mp htaken⟩

/-- Entries that fit are inserted, and then come the others. -/
theorem append_of_fits (h : c.Fits before) (rest : List (String × α)) :
    c.append kind (before ++ rest) = (c.extend before).append kind rest := by
  induction before generalizing c with
  | nil => rw [extend_nil, List.nil_append]
  | cons e before ih =>
      obtain ⟨name, a⟩ := e
      obtain ⟨hname, hfits⟩ := fits_cons_iff.mp h
      rw [← extend_push, ← ih hfits, List.cons_append, append, Collection.insert, hname]
      rfl

theorem append_fits (h : c.Fits entries) :
    c.append kind entries = ⟨c.extend entries, .ok ()⟩ := by
  have happend : c.append kind (entries ++ []) = ⟨c.extend entries, .ok ()⟩ :=
    append_of_fits h []
  rwa [List.append_nil] at happend

/-- A name that is taken ends the insertion, and what was inserted stays. -/
theorem append_taken (h : c.Fits before) (hname : c.Taken before name) :
    c.append kind (before ++ (name, a) :: after) =
      ⟨c.extend before, .error (.duplicateDeclaration kind name)⟩ := by
  have hcontains : (c.extend before).contains name = true :=
    (contains_iff_mem_names _ name).mpr (mem_names_extend.mpr hname)
  rw [append_of_fits h, append, Collection.insert, hcontains]
  rfl

/-- Names stay distinct when entries that fit come to them. -/
theorem nodup_extend (hc : c.names.Nodup) (h : c.Fits entries) :
    (c.extend entries).names.Nodup := by
  obtain ⟨hnodup, hdisjoint⟩ := fits_iff.mp h
  show ((c.entries ++ entries).map (·.1)).Nodup
  rw [List.map_append]
  exact List.nodup_append'.mpr ⟨hc, hnodup, hdisjoint⟩

end Collection

namespace Document

/-- Documents as one, one behind another. -/
def concat (documents : List Document) : Document where
  entities := ⟨documents.flatMap (·.entities.entries)⟩
  applications := ⟨documents.flatMap (·.applications.entries)⟩
  relationships := documents.flatMap (·.relationships)

theorem concat_singleton (d : Document) : concat [d] = d := by
  simp only [concat, List.flatMap_cons, List.flatMap_nil, List.append_nil]

theorem concat_pair (a b : Document) :
    concat [a, b] =
      { entities := a.entities.extend b.entities.entries
        applications := a.applications.extend b.applications.entries
        relationships := a.relationships ++ b.relationships } := by
  simp only [concat, Collection.extend, List.flatMap_cons, List.flatMap_nil, List.append_nil]

/-- It makes no difference if some of the documents are made into one before. -/
theorem concat_cons (a : Document) (documents : List Document) :
    concat [a, concat documents] = concat (a :: documents) := by
  simp only [concat, List.flatMap_cons, List.flatMap_nil, List.append_nil]

theorem concat_cons_cons (a b : Document) (rest : List Document) :
    concat (concat [a, b] :: rest) = concat (a :: b :: rest) := by
  simp only [concat, List.flatMap_cons, List.flatMap_nil, List.append_nil, List.append_assoc]

theorem entityNames_concat (documents : List Document) :
    (concat documents).entities.names = documents.flatMap (·.entities.names) :=
  List.map_flatMap

theorem applicationNames_concat (documents : List Document) :
    (concat documents).applications.names = documents.flatMap (·.applications.names) :=
  List.map_flatMap

/-- No key of the document is there twice. -/
structure WellKeyed (d : Document) : Prop where
  entities : d.entities.names.Nodup
  applications : d.applications.names.Nodup

/-- No key is in both documents. -/
structure Apart (a b : Document) : Prop where
  entities : a.entities.names.Disjoint b.entities.names
  applications : a.applications.names.Disjoint b.applications.names

theorem Apart.symm {a b : Document} (h : a.Apart b) : b.Apart a :=
  ⟨List.disjoint_symm h.entities, List.disjoint_symm h.applications⟩

theorem empty_apart (d : Document) : Apart {} d :=
  ⟨List.disjoint_nil_left _, List.disjoint_nil_left _⟩

/-- What shares no key with any of the documents shares none with what they make. -/
theorem apart_concat_iff {a : Document} {documents : List Document} :
    a.Apart (concat documents) ↔ ∀ b ∈ documents, a.Apart b := by
  constructor
  · rintro ⟨he, ha⟩ b hb
    rw [entityNames_concat] at he
    rw [applicationNames_concat] at ha
    exact ⟨fun n hn hnb => he hn (List.mem_flatMap.mpr ⟨b, hb, hnb⟩),
      fun n hn hnb => ha hn (List.mem_flatMap.mpr ⟨b, hb, hnb⟩)⟩
  · intro h
    constructor
    · rw [entityNames_concat]
      intro n hn hmem
      obtain ⟨b, hb, hnb⟩ := List.mem_flatMap.mp hmem
      exact (h b hb).entities hn hnb
    · rw [applicationNames_concat]
      intro n hn hmem
      obtain ⟨b, hb, hnb⟩ := List.mem_flatMap.mp hmem
      exact (h b hb).applications hn hnb

theorem concat_apart_iff {a b x : Document} :
    (concat [a, b]).Apart x ↔ a.Apart x ∧ b.Apart x := by
  have hiff : x.Apart (concat [a, b]) ↔ x.Apart a ∧ x.Apart b := by
    rw [apart_concat_iff, List.forall_mem_cons, List.forall_mem_singleton]
  exact ⟨fun h => ⟨(hiff.mp h.symm).1.symm, (hiff.mp h.symm).2.symm⟩,
    fun h => (hiff.mpr ⟨h.1.symm, h.2.symm⟩).symm⟩

/-- Documents are well keyed as one when each of them is and no key is in two of them. -/
theorem wellKeyed_concat_iff {documents : List Document} :
    (concat documents).WellKeyed ↔ (∀ b ∈ documents, b.WellKeyed) ∧ documents.Pairwise Apart := by
  constructor
  · rintro ⟨he, ha⟩
    rw [entityNames_concat, List.nodup_flatMap] at he
    rw [applicationNames_concat, List.nodup_flatMap] at ha
    exact ⟨fun b hb => ⟨he.1 b hb, ha.1 b hb⟩, he.2.imp₂ (fun _ _ h h' => ⟨h, h'⟩) ha.2⟩
  · rintro ⟨hkeyed, hapart⟩
    constructor
    · rw [entityNames_concat, List.nodup_flatMap]
      exact ⟨fun b hb => (hkeyed b hb).entities, hapart.imp fun h => h.entities⟩
    · rw [applicationNames_concat, List.nodup_flatMap]
      exact ⟨fun b hb => (hkeyed b hb).applications, hapart.imp fun h => h.applications⟩

/-! ## One merge -/

/-- `Merged a b d r` says that `d` is what a merge of `b` into `a` leaves behind, and that it
    ends in `r`. -/
inductive Merged (a b : Document) : Document → Except Failure Unit → Prop
  /-- all records of `b` stand behind those of `a` -/
  | whole :
      a.entities.Fits b.entities.entries → a.applications.Fits b.applications.entries →
      Merged a b
        { entities := a.entities.extend b.entities.entries
          applications := a.applications.extend b.applications.entries
          relationships := a.relationships ++ b.relationships }
        (.ok ())
  /-- the entities before the first one whose key is taken, and nothing else -/
  | entity {before after : List (String × EntityRecord)} {name : String} {r : EntityRecord} :
      b.entities.entries = before ++ (name, r) :: after →
      a.entities.Fits before → a.entities.Taken before name →
      Merged a b { a with entities := a.entities.extend before }
        (.error (.duplicateDeclaration "entity" name))
  /-- all entities, and the applications before the first one whose key is taken -/
  | application {before after : List (String × ApplicationRecord)} {name : String}
      {r : ApplicationRecord} :
      a.entities.Fits b.entities.entries →
      b.applications.entries = before ++ (name, r) :: after →
      a.applications.Fits before → a.applications.Taken before name →
      Merged a b
        { a with
          entities := a.entities.extend b.entities.entries
          applications := a.applications.extend before }
        (.error (.duplicateDeclaration "application" name))

theorem merge_of_merged {a b d : Document} {r : Except Failure Unit} (h : Merged a b d r) :
    a.merge b = ⟨d, r⟩ := by
  unfold merge
  cases h with
  | whole hentities happlications =>
      rw [Collection.append_fits hentities, Collection.append_fits happlications]
  | entity hsplit hfits htaken => rw [hsplit, Collection.append_taken hfits htaken]
  | application hentities hsplit hfits htaken =>
      rw [Collection.append_fits hentities, hsplit, Collection.append_taken hfits htaken]

/-- One of the rules always applies. -/
theorem exists_merged (a b : Document) : ∃ d r, Merged a b d r := by
  rcases a.entities.fits_or_taken b.entities.entries with
    hentities | ⟨before, name, x, after, hsplit, hfits, htaken⟩
  · rcases a.applications.fits_or_taken b.applications.entries with
      happlications | ⟨before, name, x, after, hsplit, hfits, htaken⟩
    · exact ⟨_, _, .whole hentities happlications⟩
    · exact ⟨_, _, .application hentities hsplit hfits htaken⟩
  · exact ⟨_, _, .entity hsplit hfits htaken⟩

theorem merge_eq_iff {a b d : Document} {r : Except Failure Unit} :
    a.merge b = ⟨d, r⟩ ↔ Merged a b d r := by
  refine ⟨fun h => ?_, merge_of_merged⟩
  obtain ⟨d', r', h'⟩ := exists_merged a b
  cases (merge_of_merged h').symm.trans h
  exact h'

/-- However a merge ends, no key is twice in what it leaves behind. -/
theorem WellKeyed.merged {a b d : Document} {r : Except Failure Unit} (ha : a.WellKeyed)
    (h : Merged a b d r) : d.WellKeyed := by
  cases h with
  | whole hentities happlications =>
      exact ⟨Collection.nodup_extend ha.entities hentities,
        Collection.nodup_extend ha.applications happlications⟩
  | entity _ hfits _ => exact ⟨Collection.nodup_extend ha.entities hfits, ha.applications⟩
  | application hentities _ hfits _ =>
      exact ⟨Collection.nodup_extend ha.entities hentities,
        Collection.nodup_extend ha.applications hfits⟩

theorem WellKeyed.merge {a : Document} (ha : a.WellKeyed) (b : Document) :
    (a.merge b).state.WellKeyed :=
  ha.merged (merge_eq_iff.mp rfl)

/-- What is left when documents are merged one after another, whichever of them fail. -/
def afterAll (a : Document) (documents : List Document) : Document :=
  documents.foldl (fun d b => (d.merge b).state) a

theorem WellKeyed.afterAll {a : Document} (ha : a.WellKeyed) (documents : List Document) :
    (a.afterAll documents).WellKeyed := by
  induction documents generalizing a with
  | nil => exact ha
  | cons b rest ih => exact ih (ha.merge b)

/-- A merge does as the rules say, and nothing else.  Distinct keys stay distinct, also in what
    a failing merge leaves behind, and in whatever further merges make of that. -/
theorem merge_keeps_fitting (a b : Document) :
    (∀ d r, a.merge b = ⟨d, r⟩ ↔ Merged a b d r) ∧
      (a.WellKeyed → (a.merge b).state.WellKeyed ∧
        ∀ documents, ((a.merge b).state.afterAll documents).WellKeyed) :=
  ⟨fun _ _ => merge_eq_iff, fun ha => ⟨ha.merge b, (ha.merge b).afterAll⟩⟩

/-- Entities without fields under these keys. -/
def keyed (keys : List String) : Document where
  entities := ⟨keys.map fun k => (k, { name := some k, body := some [] })⟩

/-- The second entity of a document is there already, so the third one is not reached; a
    further document finds the first one taken. -/
theorem merge_keeps_fitting_keyed :
    (keyed ["Book"]).merge (keyed ["Author", "Book", "Shelf"]) =
        ⟨keyed ["Book", "Author"], .error (.duplicateDeclaration "entity" "Book")⟩ ∧
      (keyed ["Book", "Author"]).afterAll [keyed ["Shelf", "Author"]] =
        keyed ["Book", "Author", "Shelf"] ∧
      (keyed ["Book", "Author", "Shelf"]).WellKeyed := by
  have hmerge : (keyed ["Book"]).merge (keyed ["Author", "Book", "Shelf"]) =
      ⟨keyed ["Book", "Author"], .error (.duplicateDeclaration "entity" "Book")⟩ := by
    have hsplit : (keyed ["Author", "Book", "Shelf"]).entities.entries =
        (keyed ["Author"]).entities.entries ++ ("Book", _) :: (keyed ["Shelf"]).entities.entries :=
      rfl
    refine ((merge_keeps_fitting _ _).1 _ _).mpr (.entity hsplit ?_ ?_)
    · refine Collection.fits_iff.mpr ⟨List.nodup_singleton _, ?_⟩
      exact List.disjoint_singleton.mpr (by decide)
    · exact Or.inl List.mem_cons_self
  have hkeyed : (keyed ["Book"]).WellKeyed := ⟨by decide, by decide⟩
  have hafter := ((merge_keeps_fitting _ (keyed ["Author", "Book", "Shelf"])).2 hkeyed).2
    [keyed ["Shelf", "Author"]]
  rw [hmerge] at hafter
  exact ⟨hmerge, rfl, hafter⟩

/-! ## Several documents -/

/-- A document can be merged when it is well keyed and shares no key with the other one. -/
theorem join_eq_ok_iff {a b c : Document} :
    a.join b = .ok c ↔ b.WellKeyed ∧ a.Apart b ∧ c = concat [a, b] := by
  have hfits : b.WellKeyed ∧ a.Apart b ↔
      a.entities.Fits b.entities.entries ∧ a.applications.Fits b.applications.entries := by
    rw [Collection.fits_iff, Collection.fits_iff]
    exact ⟨fun h => ⟨⟨h.1.1, h.2.1⟩, h.1.2, h.2.2⟩, fun h => ⟨⟨h.1.1, h.2.1⟩, h.1.2, h.2.2⟩⟩
  rw [← and_assoc, hfits]
  unfold join Outcome.result
  obtain ⟨d, r, h⟩ := exists_merged a b
  rw [merge_of_merged h]
  cases h with
  | whole hentities happlications =>
      rw [and_iff_right ⟨hentities, happlications⟩, concat_pair]
      exact ⟨fun h => (Except.ok.inj h).symm, fun h => congrArg Except.ok h.symm⟩
  | entity hsplit _ htaken =>
      exact ⟨fun h => (nomatch h), fun h => absurd htaken (h.1.1 _ _ _ _ hsplit)⟩
  | application _ hsplit _ htaken =>
      exact ⟨fun h => (nomatch h), fun h => absurd htaken (h.1.2 _ _ _ _ hsplit)⟩

/-- Documents can be merged one after another when each is well keyed and no key is in two
    of them, and then they stand one behind another. -/
theorem foldlM_join_eq_ok_iff {documents : List Document} {start d : Document} :
    documents.foldlM join start = .ok d ↔
      (∀ b ∈ documents, b.WellKeyed) ∧ (start :: documents).Pairwise Apart ∧
        d = concat (start :: documents) := by
  -- the documents joined so far are the start for the rest
  induction documents generalizing start with
  | nil =>
      rw [concat_singleton]
      constructor
      · intro h
        cases h
        exact ⟨nofun, List.pairwise_singleton _ _, rfl⟩
      · rintro ⟨-, -, rfl⟩
        rfl
  | cons b rest ih =>
      rw [List.foldlM_cons, bind_eq_ok_iff]
      simp only [join_eq_ok_iff, ih, List.pairwise_cons, List.forall_mem_cons]
      constructor
      · rintro ⟨c, ⟨hb, hapart, rfl⟩, hrest, ⟨hfront, hpair⟩, rfl⟩
        refine ⟨⟨hb, hrest⟩, ⟨⟨hapart, ?_⟩, ?_, hpair⟩, concat_cons_cons start b rest⟩
        · exact fun x hx => (concat_apart_iff.mp (hfront x hx)).1
        · exact fun x hx => (concat_apart_iff.mp (hfront x hx)).2
      · rintro ⟨⟨hb, hrest⟩, ⟨⟨hapart, hstart⟩, hfront, hpair⟩, rfl⟩
        refine ⟨concat [start, b], ⟨hb, hapart, rfl⟩, hrest, ⟨?_, hpair⟩, ?_⟩
        · exact fun x hx => concat_apart_iff.mpr ⟨hstart x hx, hfront x hx⟩
        · exact (concat_cons_cons start b rest).symm

/-- Documents merged one after another keep all their entities, in order. -/
theorem entities_of_joined {documents : List Document} {start d : Document}
    (h : documents.foldlM join start = .ok d) :
    d.entities.entries = start.entities.entries ++ documents.flatMap (·.entities.entries) := by
  obtain ⟨-, -, rfl⟩ := foldlM_join_eq_ok_iff.mp h
  simp only [concat, List.flatMap_cons]

end Document

end EntityPlan.Source
