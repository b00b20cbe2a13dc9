import EntityPlan.Proofs.Directories
import EntityPlan.SortedMap
import Mathlib.Data.List.Nodup

/-! # Listings — what a directory is said to hold

    A file tree keeps its entries in some order, and a directory is listed in that
    order.  In a proper tree the listing of a directory has the name of each entry
    below it once (`mem_listing_iff`, `nodup_listing`).  The order tells nothing: trees
    with the same entries have the same at every location (`at?_of_perm`), and any
    order of a listing is that of some tree (`exists_listing`). -/

namespace EntityPlan

namespace FileTree

variable {t u : FileTree} {l k : Location} {name : String} {e : Entry}

/-- The locations of the entries. -/
def locations (t : FileTree) : List Location := t.entries.map (·.1)

/-- Each location has one entry at most, and names lead to it. -/
structure Proper (t : FileTree) : Prop where
  distinct : t.locations.Nodup
  named : ∀ l ∈ t.locations, ∀ name ∈ l, Path.IsName name

/-- The names right below a location. -/
def listing (t : FileTree) (l : Location) : List String := t.locations.filterMap (nameBelow? l)

theorem lookup_isSome_iff : (t.entries.lookup l).isSome = true ↔ l ∈ t.locations := by
  rw [List.lookup_isSome_iff, locations, List.mem_map]
  refine exists_congr fun r => and_congr_right fun _ => ?_
  rw [beq_iff_eq, eq_comm]

theorem nameBelow?_eq_some_iff : nameBelow? l k = some name ↔ k = l ++ [name] := by
  unfold nameBelow?
  constructor
  · intro h
    cases hlast : k.getLast? with
    | none =>
        rw [hlast] at h
        exact nomatch h
    | some last =>
        rw [hlast] at h
        by_cases hfront : k.dropLast = l
        · simp only [if_pos hfront, Option.some.injEq] at h
          obtain ⟨front, hk⟩ := List.getLast?_eq_some_iff.mp hlast
          subst h
          rw [hk, List.dropLast_concat] at hfront
          rw [hk, hfront]
        · simp only [if_neg hfront] at h
          exact nomatch h
  · rintro rfl
    simp

theorem mem_listing_iff_mem : name ∈ t.listing l ↔ l ++ [name] ∈ t.locations := by
  rw [listing, List.mem_filterMap]
  constructor
  · rintro ⟨k, hk, hname⟩
    rwa [← nameBelow?_eq_some_iff.mp hname]
  · intro h
    exact ⟨l ++ [name], h, nameBelow?_eq_some_iff.mpr rfl⟩

/-- A directory lists the names below it at which something stands. -/
theorem mem_listing_iff : name ∈ t.listing l ↔ t.at? (l ++ [name]) ≠ none := by
  rw [mem_listing_iff_mem, ← lookup_isSome_iff, Option.isSome_iff_ne_none, at?,
    if_neg (List.concat_ne_nil name l)]

/-- No name is listed twice. -/
theorem Proper.nodup_listing (ht : t.Proper) (l : Location) : (t.listing l).Nodup := by
  refine ht.distinct.filterMap ?_
  intro k k' name hk hk'
  rw [nameBelow?_eq_some_iff.mp hk, nameBelow?_eq_some_iff.mp hk']

theorem Proper.isName (ht : t.Proper) (h : name ∈ t.listing l) : Path.IsName name :=
  ht.named _ (mem_listing_iff_mem.mp h) name (List.mem_append_right l List.mem_cons_self)

theorem names_eq_ok_iff {d : Location} {p : Path} {names : List String} :
    t.names d p = .ok names ↔
      ∃ l, t.locate d p = .ok l ∧ t.at? l = some .directory ∧ names = t.listing l := by
  unfold FileTree.names
  cases t.locate d p with
  | error fault =>
      constructor
      · intro h
        exact nomatch h
      · rintro ⟨l, hd, -⟩
        exact nomatch hd
  | ok l =>
      simp only [bind, Except.bind, Except.ok.injEq, exists_eq_left']
      have hlisting : (t.entries.filterMap fun r => nameBelow? l r.1) = t.listing l := by
        rw [listing, locations, List.filterMap_map]
        rfl
      cases hl : t.at? l with
      | none => exact ⟨fun h => (nomatch h), fun h => (nomatch h.1)⟩
      | some e =>
          cases e with
          | file content => exact ⟨fun h => (nomatch h), fun h => (nomatch h.1)⟩
          | directory =>
              rw [hlisting]
              constructor
              · intro h
                exact ⟨rfl, (Except.ok.inj h).symm⟩
              · rintro ⟨-, rfl⟩
                rfl

/-- What does not lead to a directory is not listed. -/
theorem names_eq_error_iff {d : Location} {p : Path} {fault : StorageFault} :
    t.names d p = .error fault ↔ t.locate d p = .error fault ∨
      ∃ l, t.locate d p = .ok l ∧
        (t.at? l = none ∧ fault = .notFound ∨ t.Bars l ∧ fault = .notDirectory) := by
  unfold FileTree.names Bars
  cases t.locate d p with
  | error f =>
      constructor
      · intro h
        exact Or.inl h
      · rintro (h | ⟨l, hd, -⟩)
        · exact h
        · exact nomatch hd
  | ok l =>
      simp only [bind, Except.bind, reduceCtorEq, false_or, Except.ok.injEq, exists_eq_left']
      cases t.at? l with
      | none =>
          constructor
          · intro h
            exact Or.inl ⟨rfl, (Except.error.inj h).symm⟩
          · rintro (⟨-, rfl⟩ | ⟨⟨content, hcontent⟩, -⟩)
            · rfl
            · exact nomatch hcontent
      | some e =>
          cases e with
          | directory =>
              constructor
              · intro h
                exact nomatch h
              · rintro (⟨h, -⟩ | ⟨⟨content, hcontent⟩, -⟩)
                · exact nomatch h
                · exact nomatch hcontent
          | file content =>
              constructor
              · intro h
                exact Or.inr ⟨⟨content, rfl⟩, (Except.error.inj h).symm⟩
              · rintro (⟨h, -⟩ | ⟨-, rfl⟩)
                · exact nomatch h
                · rfl

/-! ## Changing a tree -/

theorem proper_empty : FileTree.empty.Proper where
  distinct := List.nodup_nil
  named _ hl := nomatch hl

theorem locations_put (t : FileTree) (l : Location) (e : Entry) :
    (t.put l e).locations = if l ∈ t.locations then t.locations else t.locations ++ [l] := by
  unfold put
  by_cases h : l ∈ t.locations
  · rw [if_pos (lookup_isSome_iff.mpr h), if_pos h]
    show (t.entries.map fun r => if r.1 = l then (l, e) else r).map (·.1) = t.entries.map (·.1)
    rw [List.map_map]
    refine List.map_congr_left fun r _ => ?_
    show (if r.1 = l then (l, e) else r).1 = r.1
    split
    · next hr => exact hr.symm
    · rfl
  · rw [if_neg (mt lookup_isSome_iff.mp h), if_neg h]
    exact List.map_append

theorem Proper.put (ht : t.Proper) (hl : ∀ name ∈ l, Path.IsName name) (e : Entry) :
    (t.put l e).Proper := by
  have hlocations := locations_put t l e
  by_cases hmem : l ∈ t.locations
  · rw [if_pos hmem] at hlocations
    constructor
    · rw [hlocations]
      exact ht.distinct
    · rw [hlocations]
      exact ht.named
  · rw [if_neg hmem] at hlocations
    constructor
    · rw [hlocations, ← List.concat_eq_append]
      exact ht.distinct.concat hmem
    · intro k hk
      rw [hlocations, List.mem_append, List.mem_singleton] at hk
      rcases hk with hk | rfl
      · exact ht.named k hk
      · exact hl

/-- A path is followed to a location that names lead to. -/
theorem follow_names {ps : List String} (hl : ∀ name ∈ l, Path.IsName name)
    (hps : ∀ piece ∈ ps, '/' ∉ piece.toList) (h : t.follow l ps = .ok k) :
    ∀ name ∈ k, Path.IsName name := by
  induction ps generalizing l with
  | nil =>
      cases h
      exact hl
  | cons piece rest ih =>
      have hrest : ∀ q ∈ rest, '/' ∉ q.toList := fun q hq => hps q (List.mem_cons_of_mem piece hq)
      rw [follow] at h
      cases hat : t.at? l with
      | none =>
          rw [hat] at h
          cases h
      | some e =>
          rw [hat] at h
          cases e with
          | file content => cases h
          | directory =>
              dsimp only at h
              split at h
              · exact ih hl hrest h
              · next hvoid =>
                  split at h
                  · exact ih (fun name hname => hl name (List.dropLast_subset l hname)) hrest h
                  · next hup =>
                      refine ih ?_ hrest h
                      intro name hname
                      rcases List.mem_append.mp hname with hname | hname
                      · exact hl name hname
                      · rw [List.mem_singleton.mp hname]
                        exact ⟨Bool.eq_false_iff.mpr hvoid, hup, hps piece List.mem_cons_self⟩

theorem locate_names {d : Location} {p : Path} (hd : ∀ name ∈ d, Path.IsName name)
    (h : t.locate d p = .ok k) : ∀ name ∈ k, Path.IsName name := by
  unfold locate at h
  split at h
  · exact nomatch h
  · refine follow_names ?_ (fun piece hpiece => Text.not_mem_of_mem_split hpiece) h
    split
    · exact fun name hname => nomatch hname
    · exact hd

/-- Making a directory leaves a tree proper. -/
theorem Proper.makeDirectory {d : Location} {p : Path} (ht : t.Proper)
    (hd : ∀ name ∈ d, Path.IsName name) (h : t.makeDirectory d p = .ok u) : u.Proper := by
  cases hlocate : t.locate d p with
  | error fault =>
      rw [FileTree.makeDirectory, hlocate] at h
      cases h
  | ok k =>
      rw [makeDirectory_of_locate hlocate] at h
      split at h
      · cases h
      · cases h
        exact ht.put (locate_names hd hlocate) .directory

/-- Writing a file leaves a tree proper. -/
theorem Proper.writeText {d : Location} {p : Path} {content : String} (ht : t.Proper)
    (hd : ∀ name ∈ d, Path.IsName name) (h : t.writeText d p content = .ok u) : u.Proper := by
  cases hlocate : t.locate d p with
  | error fault =>
      rw [FileTree.writeText, hlocate] at h
      cases h
  | ok k =>
      have hput := ht.put (locate_names hd hlocate) (.file content.toUTF8)
      simp only [FileTree.writeText, hlocate, bind, Except.bind] at h
      split at h
      · cases h
      · cases h
        exact hput

/-! ## Files in a directory -/

theorem follow_append (ps qs : List String) :
    t.follow l (ps ++ qs) = t.follow l ps >>= fun k => t.follow k qs := by
  induction ps generalizing l with
  | nil => rfl
  | cons piece rest ih =>
      rw [List.cons_append, follow, follow]
      cases t.at? l with
      | none => rfl
      | some e =>
          cases e with
          | file content => rfl
          | directory =>
              dsimp only
              split
              · exact ih
              · split
                · exact ih
                · exact ih

/-- Behind the path of a directory a name leads one location down. -/
theorem locate_join {d : Location} {p : Path} (h : t.locate d p = .ok l)
    (hl : t.at? l = some .directory) (hname : Path.IsName name) :
    t.locate d (p.join name) = .ok (l ++ [name]) := by
  have hstep : t.follow l [name] = .ok (l ++ [name]) := by
    rw [follow, hl, hname.leads]
    show (if name = ".." then _ else _) = _
    rw [if_neg hname.down]
    rfl
  have hcomponents : (p.join name).components ≠ [] := by
    rw [Path.components_join hname]
    exact List.concat_ne_nil name p.components
  obtain ⟨front, hjoined, hfront⟩ := Path.pieces_join (p := p) hname
  unfold locate at h ⊢
  split at h
  · cases h
  · rw [if_neg (Path.ne_empty_of_components hcomponents), Path.isAbsolute_join hname, hjoined,
      follow_append]
    rcases hfront with hfront | hfront
    · rw [← hfront, h]
      exact hstep
    · -- the empty last piece stays where the pieces before it have led
      rw [hfront, follow_append] at h
      cases hk : t.follow (if p.isAbsolute then [] else d) front with
      | error fault =>
          rw [hk] at h
          cases h
      | ok k =>
          rw [hk] at h
          have hvoid : t.follow k [""] = .ok l := h
          have hkl : k = l := by
            rw [follow] at hvoid
            cases hat : t.at? k with
            | none =>
                rw [hat] at hvoid
                cases hvoid
            | some e =>
                rw [hat] at hvoid
                cases e with
                | file content => cases hvoid
                | directory =>
                    cases hvoid
                    rfl
          rw [hkl]
          exact hstep

theorem isFile_of_locate {d : Location} {p : Path} (h : t.locate d p = .ok k) :
    t.isFile d p = true ↔ t.Bars k := by
  rw [isFile, entry_of_locate h]
  unfold Bars
  cases t.at? k with
  | none => exact ⟨fun h => (nomatch h), fun ⟨_, h⟩ => (nomatch h)⟩
  | some e =>
      cases e with
      | directory => exact ⟨fun h => (nomatch h), fun ⟨_, h⟩ => (nomatch h)⟩
      | file content => exact ⟨fun _ => ⟨content, rfl⟩, fun _ => rfl⟩

/-! ## The order of entries -/

theorem locations_perm (h : u.entries.Perm t.entries) : u.locations.Perm t.locations :=
  h.map Prod.fst

/-- The order of entries makes no difference to what stands where. -/
theorem Proper.at?_of_perm (ht : t.Proper) (h : u.entries.Perm t.entries) (k : Location) :
    u.at? k = t.at? k := by
  have hdistinct : u.locations.Nodup := (locations_perm h).nodup_iff.mpr ht.distinct
  unfold at?
  split
  · rfl
  · refine Option.ext fun e => ?_
    rw [SortedMap.lookup_eq_some_iff hdistinct, SortedMap.lookup_eq_some_iff ht.distinct,
      h.mem_iff]

/-- An order of what is kept of a list is that of some order of the list. -/
theorem exists_perm_filterMap {α β : Type} {f : α → Option β} {as : List α} {bs : List β}
    (h : bs.Perm (as.filterMap f)) : ∃ as' : List α, as'.Perm as ∧ as'.filterMap f = bs := by
  induction bs generalizing as with
  | nil => exact ⟨as, .refl as, List.nil_perm.mp h⟩
  | cons b rest ih =>
      obtain ⟨a, ha, hb⟩ := List.mem_filterMap.mp (h.mem_iff.mp List.mem_cons_self)
      obtain ⟨front, back, rfl⟩ := List.append_of_mem ha
      -- the element that is kept as the first one comes to the front
      have hfront : (front ++ a :: back).Perm (a :: (front ++ back)) := List.perm_middle
      have hrest : rest.Perm ((front ++ back).filterMap f) := by
        refine List.Perm.cons_inv (a := b) (h.trans ?_)
        rw [← List.filterMap_cons_some hb]
        exact hfront.filterMap f
      obtain ⟨as', hperm, hkept⟩ := ih hrest
      refine ⟨a :: as', (hperm.cons a).trans hfront.symm, ?_⟩
      rw [List.filterMap_cons_some hb, hkept]

/-- Each order of a listing is that of a tree with the same entries. -/
theorem exists_listing {names : List String} (h : names.Perm (t.listing l)) :
    ∃ u : FileTree, u.entries.Perm t.entries ∧ u.listing l = names := by
  have hnames : names.Perm (t.entries.filterMap fun r => nameBelow? l r.1) := by
    rw [listing, locations, List.filterMap_map] at h
    exact h
  obtain ⟨entries, hperm, hlisting⟩ := exists_perm_filterMap hnames
  refine ⟨⟨entries⟩, hperm, ?_⟩
  rw [listing, locations, List.filterMap_map]
  exact hlisting

end FileTree

end EntityPlan
