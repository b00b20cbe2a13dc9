import EntityPlan.Proofs.Paths
import EntityPlan.Storage.Basic
import Mathlib.Data.List.Induction

/-! # Directories — making all that are missing

    A path leads from a location over others to its own.  When a file stands on the
    way, no directory can be made there; otherwise all of them stand afterwards and
    nothing else has changed (`Workspace.run_makeDirectories`). -/

namespace EntityPlan

namespace Location

/-- One component further: two dots lead up. -/
def step (l : Location) (c : String) : Location := if c = ".." then l.dropLast else l ++ [c]

/-- Where components lead. -/
def walk (l : Location) (cs : List String) : Location := cs.foldl step l

/-- Where a path starts. -/
def start (absolute : Bool) (directory : Location) : Location :=
  if absolute then [] else directory

/-- The locations on the way, both ends included. -/
def way (l : Location) : List String → List Location
  | [] => [l]
  | c :: rest => l :: way (step l c) rest

theorem walk_concat (l : Location) (cs : List String) (c : String) :
    walk l (cs ++ [c]) = step (walk l cs) c :=
  List.foldl_append

/-- A name leads one location down. -/
theorem walk_name (l : Location) (cs : List String) {c : String} (hc : c ≠ "..") :
    walk l (cs ++ [c]) = walk l cs ++ [c] := by
  rw [walk_concat, step, if_neg hc]

theorem start_mem_way (l : Location) (cs : List String) : l ∈ way l cs := by
  cases cs <;> exact List.mem_cons_self

theorem way_concat (l : Location) (cs : List String) (c : String) :
    way l (cs ++ [c]) = way l cs ++ [walk l (cs ++ [c])] := by
  induction cs generalizing l with
  | nil => rfl
  | cons x rest ih => exact congrArg (l :: ·) (ih (step l x))

end Location

namespace FileTree

open Location

variable {t u v : FileTree} {l k : Location} {cs : List String} {c : String}

/-- A file stands at a location. -/
def Bars (t : FileTree) (k : Location) : Prop := ∃ content, t.at? k = some (.file content)

/-- Directories stand all along the way. -/
def Clear (t : FileTree) (l : Location) (cs : List String) : Prop :=
  ∀ k ∈ way l cs, t.at? k = some .directory

/-- The second tree is the first with directories at some locations. -/
structure Adds (t : FileTree) (ks : List Location) (u : FileTree) : Prop where
  directories : ∀ k ∈ ks, u.at? k = some .directory
  others : ∀ k, k ∉ ks → u.at? k = t.at? k

/-- The trees have the same files. -/
def SameFiles (t u : FileTree) : Prop :=
  ∀ k content, u.at? k = some (.file content) ↔ t.at? k = some (.file content)

theorem not_bars_of_directory {ks : List Location} (h : ∀ k ∈ ks, t.at? k = some .directory) :
    ∀ k ∈ ks, ¬ t.Bars k :=
  fun k hk ⟨_, hcontent⟩ => nomatch (h k hk).symm.trans hcontent

theorem adds_self {ks : List Location} (h : ∀ k ∈ ks, t.at? k = some .directory) : t.Adds ks t :=
  ⟨h, fun _ _ => rfl⟩

theorem adds_put (hk : k ≠ []) : t.Adds [k] (t.put k .directory) where
  directories j hj := by
    rw [List.mem_singleton.mp hj, at?_put t k k .directory hk, if_pos rfl]
  others j hj := by
    rw [at?_put t k j .directory hk, if_neg (mt List.mem_singleton.mpr hj)]

theorem Adds.append {ks ks' : List Location} (h : t.Adds ks u) (h' : u.Adds ks' v) :
    t.Adds (ks ++ ks') v := by
  constructor
  · intro k hk
    by_cases hk' : k ∈ ks'
    · exact h'.directories k hk'
    · rw [h'.others k hk', h.directories k ((List.mem_append.mp hk).resolve_right hk')]
  · intro k hk
    obtain ⟨hks, hks'⟩ := not_or.mp (mt List.mem_append.mpr hk)
    rw [h'.others k hks', h.others k hks]

theorem Adds.sameFiles {ks : List Location} (h : t.Adds ks u) (hfree : ∀ k ∈ ks, ¬ t.Bars k) :
    t.SameFiles u := by
  intro k content
  by_cases hk : k ∈ ks
  · constructor
    · intro hcontent
      exact nomatch (h.directories k hk).symm.trans hcontent
    · intro hcontent
      exact absurd ⟨content, hcontent⟩ (hfree k hk)
  · rw [h.others k hk]

theorem Adds.bars_iff {ks : List Location} (h : t.Adds ks u) (hfree : ∀ k ∈ ks, ¬ t.Bars k) :
    u.Bars k ↔ t.Bars k :=
  exists_congr fun content => h.sameFiles hfree k content

theorem SameFiles.refl (t : FileTree) : t.SameFiles t := fun _ _ => Iff.rfl

/-! ## Following a path -/

theorem follow_cons (hc : Path.isVoid c = false) (rest : List String) :
    t.follow l (c :: rest) =
      match t.at? l with
      | none => .error .notFound
      | some (.file _) => .error .notDirectory
      | some .directory => t.follow (step l c) rest := by
  rw [follow, hc]
  cases t.at? l with
  | none => rfl
  | some e =>
      cases e with
      | file content => rfl
      | directory =>
          show (if c = ".." then t.follow l.dropLast rest else t.follow (l ++ [c]) rest) = _
          unfold step
          split <;> rfl

/-- Void pieces make no difference in front of one that leads somewhere. -/
theorem follow_solid {piece : String} (hpiece : Path.isVoid piece = false) (front : List String) :
    t.follow l (front ++ [piece]) = t.follow l (Path.solid (front ++ [piece])) := by
  induction front generalizing l with
  | nil => rw [List.nil_append, Path.solid_cons [] hpiece]; rfl
  | cons x rest ih =>
      rw [List.cons_append]
      cases hx : Path.isVoid x with
      | false =>
          rw [Path.solid_cons _ hx, follow_cons hx, follow_cons hx]
          cases t.at? l with
          | none => rfl
          | some e =>
              cases e with
              | file content => rfl
              | directory => exact ih
      | true =>
          -- the location is looked at again for the piece that follows
          obtain ⟨y, ys, hys⟩ : ∃ y ys, Path.solid (rest ++ [piece]) = y :: ys := by
            rw [Path.solid_append, Path.solid_cons [] hpiece]
            exact List.exists_cons_of_ne_nil
              (List.concat_ne_nil piece _)
          rw [Path.solid_cons_of_void _ hx, ← ih, follow, hx]
          cases hl : t.at? l with
          | none => rw [ih, hys, follow, hl]
          | some e =>
              cases e with
              | file content => rw [ih, hys, follow, hl]
              | directory => rfl

theorem follow_void {ps : List String} (h : ∀ p ∈ ps, Path.isVoid p = true)
    (hl : t.at? l = some .directory) : t.follow l ps = .ok l := by
  induction ps with
  | nil => rfl
  | cons p rest ih =>
      rw [follow, hl, h p List.mem_cons_self]
      exact ih fun q hq => h q (List.mem_cons_of_mem p hq)

/-- Along directories a path leads where its components do. -/
theorem follow_of_clear (h : t.Clear l cs) (hcs : ∀ x ∈ cs ++ [c], Path.isVoid x = false) :
    t.follow l (cs ++ [c]) = .ok (walk l (cs ++ [c])) := by
  induction cs generalizing l with
  | nil =>
      rw [List.nil_append, follow_cons (hcs c List.mem_cons_self), h l List.mem_cons_self]
      rfl
  | cons x rest ih =>
      rw [List.cons_append, follow_cons (hcs x List.mem_cons_self), h l List.mem_cons_self]
      exact ih (fun k hk => h k (List.mem_cons_of_mem l hk))
        fun y hy => hcs y (List.mem_cons_of_mem x hy)

/-- A path that does not lead along directories fails, at a file or where nothing stands. -/
theorem follow_of_not_clear (h : ¬ t.Clear l cs) (hcs : ∀ x ∈ cs ++ [c], Path.isVoid x = false) :
    t.follow l (cs ++ [c]) = .error .notFound ∨
      (t.follow l (cs ++ [c]) = .error .notDirectory ∧ ∃ k ∈ way l cs, t.Bars k) := by
  induction cs generalizing l with
  | nil =>
      rw [List.nil_append, follow_cons (hcs c List.mem_cons_self)]
      cases hl : t.at? l with
      | none => exact Or.inl rfl
      | some e =>
          cases e with
          | file content => exact Or.inr ⟨rfl, l, List.mem_cons_self, content, hl⟩
          | directory =>
              refine absurd (fun k hk => ?_) h
              rw [List.mem_singleton.mp hk, hl]
  | cons x rest ih =>
      rw [List.cons_append, follow_cons (hcs x List.mem_cons_self)]
      -- the first location without a directory decides
      cases hl : t.at? l with
      | none => exact Or.inl rfl
      | some e =>
          cases e with
          | file content => exact Or.inr ⟨rfl, l, List.mem_cons_self, content, hl⟩
          | directory =>
              have hrest : ¬ t.Clear (step l x) rest := by
                intro hclear
                refine h fun k hk => ?_
                rcases List.mem_cons.mp hk with rfl | hk
                · exact hl
                · exact hclear k hk
              rcases ih hrest (fun y hy => hcs y (List.mem_cons_of_mem x hy)) with hnone | hfile
              · exact Or.inl hnone
              · obtain ⟨hfollow, k, hk, hbars⟩ := hfile
                exact Or.inr ⟨hfollow, k, List.mem_cons_of_mem l hk, hbars⟩

variable {p : Path} {absolute : Bool} {directory : Location}

theorem locate_of_leads (h : p.Leads absolute cs) (hcs : cs ≠ []) :
    t.locate directory p = t.follow (start absolute directory) cs := by
  obtain ⟨front, piece, hpieces, hpiece⟩ := h.last hcs
  have hcomponents : Path.solid (front ++ [piece]) = cs := by
    rw [← hpieces, ← Path.components_eq_solid, h.components]
  rw [locate, if_neg (Path.ne_empty_of_components (h.components.trans_ne hcs)), h.absolute, hpieces,
    follow_solid hpiece, hcomponents]
  rfl

theorem locate_of_leads_nil (h : p.Leads absolute []) (htext : p.text ≠ "")
    (hstart : t.at? (start absolute directory) = some .directory) :
    t.locate directory p = .ok (start absolute directory) := by
  have hvoid : ∀ piece ∈ p.pieces, Path.isVoid piece = true := by
    intro piece hpiece
    have hnot := List.filter_eq_nil_iff.mp h.components piece hpiece
    simpa using hnot
  rw [locate, if_neg htext, h.absolute]
  exact follow_void hvoid hstart

theorem entry_of_locate (h : t.locate directory p = .ok k) :
    t.entry directory p = (t.at? k).elim (.error .notFound) .ok := by
  simp only [entry, h, bind, Except.bind]
  cases t.at? k <;> rfl

theorem makeDirectory_of_locate (h : t.locate directory p = .ok k) :
    t.makeDirectory directory p =
      if (t.at? k).isSome then .error .occupied else .ok (t.put k .directory) := by
  simp only [makeDirectory, h, bind, Except.bind]
  cases t.at? k <;> rfl

theorem isDirectory_of_locate (h : t.locate directory p = .ok k) :
    t.isDirectory directory p = true ↔ t.at? k = some .directory := by
  rw [isDirectory, entry_of_locate h]
  cases t.at? k with
  | none => exact ⟨fun h => (nomatch h), fun h => (nomatch h)⟩
  | some e =>
      cases e with
      | directory => exact ⟨fun _ => rfl, fun _ => rfl⟩
      | file content => exact ⟨fun h => (nomatch h), fun h => (nomatch h)⟩

end FileTree

/-! ## Making directories -/

namespace Workspace

open FileTree Location

variable {w : Workspace} {p : Path} {absolute : Bool} {k : Location} {cs : List String} {c : String}
  {fault : StorageFault}

theorem run_ensureDirectory (w : Workspace) (p : Path) :
    (Storage.ensureDirectory p : StateM Workspace _).run w =
      match w.tree.makeDirectory w.directory p with
      | .ok tree => (.ok (), { w with tree })
      | .error f => (if w.tree.isDirectory w.directory p then .ok () else .error f, w) := by
  have hmake : (Storage.makeDirectory p : StateM Workspace _).run w =
      w.change (w.tree.makeDirectory w.directory p) := rfl
  unfold Storage.ensureDirectory
  rw [StateT.run_bind, hmake]
  cases w.tree.makeDirectory w.directory p with
  | ok tree => rfl
  | error f =>
      show StateT.run (do
        let stands ← (Storage.isDirectory p : StateM Workspace Bool)
        pure (if stands then Except.ok () else Except.error f)) w = _
      rfl

theorem run_ensureDirectory_of_error (h : w.tree.locate w.directory p = .error fault) :
    (Storage.ensureDirectory p : StateM Workspace _).run w = (.error fault, w) := by
  have hmake : w.tree.makeDirectory w.directory p = .error fault := by
    rw [makeDirectory, h]
    rfl
  have hnot : w.tree.isDirectory w.directory p = false := by
    rw [isDirectory, entry, h]
    rfl
  rw [run_ensureDirectory, hmake, hnot]
  rfl

/-- What becomes of a workspace in which directories are to stand at some locations: they
    do, and nothing else has changed, or a file stands in one of these places and the files
    are the same. -/
def Makes (w : Workspace) (ks : List Location) (r : Except StorageFault Unit × Workspace) : Prop :=
  (∃ tree, r = (.ok (), { w with tree }) ∧ w.tree.Adds ks tree ∧ ∀ k ∈ ks, ¬ w.tree.Bars k) ∨
    (∃ f tree, r = (.error f, { w with tree }) ∧ w.tree.SameFiles tree ∧ ∃ k ∈ ks, w.tree.Bars k)

/-- A directory that stands is left alone. -/
theorem run_ensureDirectory_of_directory (h : w.tree.locate w.directory p = .ok k)
    (hk : w.tree.at? k = some .directory) :
    (Storage.ensureDirectory p : StateM Workspace _).run w = (.ok (), w) := by
  have hmake : w.tree.makeDirectory w.directory p = .error .occupied := by
    rw [makeDirectory_of_locate h, hk]
    rfl
  rw [run_ensureDirectory, hmake, (isDirectory_of_locate h).mpr hk]
  rfl

/-- A directory is made, or stands already, unless a file does. -/
theorem run_ensureDirectory_of_locate (h : w.tree.locate w.directory p = .ok k) :
    (∃ tree, (Storage.ensureDirectory p : StateM Workspace _).run w = (.ok (), { w with tree }) ∧
        w.tree.Adds [k] tree ∧ ¬ w.tree.Bars k) ∨
      ((Storage.ensureDirectory p : StateM Workspace _).run w = (.error .occupied, w) ∧
        w.tree.Bars k) := by
  cases hk : w.tree.at? k with
  | none =>
      have hmake : w.tree.makeDirectory w.directory p = .ok (w.tree.put k .directory) := by
        rw [makeDirectory_of_locate h, hk]
        rfl
      have hne : k ≠ [] := by
        rintro rfl
        exact nomatch hk
      refine Or.inl ⟨w.tree.put k .directory, ?_, adds_put hne, ?_⟩
      · rw [run_ensureDirectory, hmake]
      · exact fun ⟨content, hcontent⟩ => nomatch hk.symm.trans hcontent
  | some e =>
      cases e with
      | directory =>
          have hself : ∀ k' ∈ [k], w.tree.at? k' = some .directory := by
            intro k' hk'
            rw [List.mem_singleton.mp hk', hk]
          exact Or.inl ⟨w.tree, run_ensureDirectory_of_directory h hk, adds_self hself,
            not_bars_of_directory hself k List.mem_cons_self⟩
      | file content =>
          have hmake : w.tree.makeDirectory w.directory p = .error .occupied := by
            rw [makeDirectory_of_locate h, hk]
            rfl
          have hnot : w.tree.isDirectory w.directory p = false := by
            refine Bool.eq_false_iff.mpr (mt (isDirectory_of_locate h).mp ?_)
            rw [hk]
            exact fun h => nomatch h
          refine Or.inr ⟨?_, content, hk⟩
          rw [run_ensureDirectory, hmake, hnot]
          rfl

/-- With directories all along the way, only the last one is left to be made. -/
theorem makes_of_adds {ks : List Location} {tree : FileTree} (hadds : w.tree.Adds ks tree)
    (hfree : ∀ k ∈ ks, ¬ w.tree.Bars k) (h : tree.locate w.directory p = .ok k) :
    w.Makes (ks ++ [k]) ((Storage.ensureDirectory p : StateM Workspace _).run { w with tree }) ∧
      ((Storage.ensureDirectory p : StateM Workspace _).run { w with tree }).1 ≠
        .error .notFound := by
  rcases run_ensureDirectory_of_locate (w := { w with tree }) h with
    ⟨tree', hrun, hadds', hfree'⟩ | ⟨hrun, hbars⟩
  · rw [hrun]
    refine ⟨Or.inl ⟨tree', rfl, hadds.append hadds', ?_⟩, fun h => nomatch h⟩
    intro k' hk'
    rcases List.mem_append.mp hk' with hk' | hk'
    · exact hfree k' hk'
    · rw [List.mem_singleton.mp hk']
      exact mt (hadds.bars_iff hfree).mpr hfree'
  · rw [hrun]
    refine ⟨Or.inr ⟨.occupied, tree, rfl, hadds.sameFiles hfree, k, ?_, ?_⟩, fun h => nomatch h⟩
    · exact List.mem_append_right ks List.mem_cons_self
    · exact (hadds.bars_iff hfree).mp hbars

theorem run_makeDirectoriesWithin_empty {n : Nat} (htext : p.text = "") :
    (Storage.makeDirectoriesWithin (n + 1) p : StateM Workspace _).run w = (.ok (), w) := by
  rw [Storage.makeDirectoriesWithin, if_pos htext]
  rfl

/-- One attempt suffices unless something on the way is missing. -/
theorem run_makeDirectoriesWithin_of_made {n : Nat} {made : Except StorageFault Unit}
    {w' : Workspace} (htext : p.text ≠ "")
    (h : (Storage.ensureDirectory p : StateM Workspace _).run w = (made, w'))
    (hmade : made ≠ .error .notFound) :
    (Storage.makeDirectoriesWithin (n + 1) p : StateM Workspace _).run w = (made, w') := by
  rw [Storage.makeDirectoriesWithin, if_neg htext, StateT.run_bind, h]
  cases made with
  | ok u => rfl
  | error f =>
      cases f with
      | notFound => exact absurd rfl hmade
      | _ => rfl

theorem run_makeDirectoriesWithin_of_missing {n : Nat} {q : Path} (htext : p.text ≠ "")
    (h : (Storage.ensureDirectory p : StateM Workspace _).run w = (.error .notFound, w))
    (hq : p.parent? = some q) :
    (Storage.makeDirectoriesWithin (n + 1) p : StateM Workspace _).run w =
      match (Storage.makeDirectoriesWithin n q : StateM Workspace _).run w with
      | (.ok (), w') => (Storage.ensureDirectory p : StateM Workspace _).run w'
      | (.error f, w') => (.error f, w') := by
  rw [Storage.makeDirectoriesWithin, if_neg htext, StateT.run_bind, h, hq]
  show StateT.run (Storage.makeDirectoriesWithin n q >>= _) w = _
  rw [StateT.run_bind]
  obtain ⟨made, w'⟩ := (Storage.makeDirectoriesWithin n q : StateM Workspace _).run w
  cases made <;> rfl

/-- At most so many directories are made as the path has components. -/
theorem run_makeDirectoriesWithin {n : Nat} (h : p.Leads absolute cs) (hn : cs.length ≤ n)
    (hstart : w.tree.at? (start absolute w.directory) = some .directory) :
    w.Makes (way (start absolute w.directory) cs)
      ((Storage.makeDirectoriesWithin (n + 1) p : StateM Workspace _).run w) := by
  -- the last component comes first: what is above is made only when it is missing
  induction cs using List.reverseRecOn generalizing p n with
  | nil =>
      have hself : ∀ k ∈ way (start absolute w.directory) [], w.tree.at? k = some .directory := by
        intro k hk
        rw [List.mem_singleton.mp hk, hstart]
      refine Or.inl ⟨w.tree, ?_, adds_self hself, ?_⟩
      · by_cases htext : p.text = ""
        · exact run_makeDirectoriesWithin_empty htext
        · refine run_makeDirectoriesWithin_of_made htext ?_ (fun h => nomatch h)
          exact run_ensureDirectory_of_directory (locate_of_leads_nil h htext hstart) hstart
      · exact not_bars_of_directory hself
  | append_singleton cs c ih =>
      have hne : cs ++ [c] ≠ [] := List.concat_ne_nil c cs
      have htext : p.text ≠ "" := Path.ne_empty_of_components (h.components.trans_ne hne)
      rw [way_concat]
      by_cases hclear : w.tree.Clear (start absolute w.directory) cs
      · have hlocate : w.tree.locate w.directory p =
            .ok (walk (start absolute w.directory) (cs ++ [c])) := by
          rw [locate_of_leads h hne, follow_of_clear hclear h.names]
        obtain ⟨hmakes, hmade⟩ :=
          makes_of_adds (adds_self hclear) (not_bars_of_directory hclear) hlocate
        rw [run_makeDirectoriesWithin_of_made htext rfl hmade]
        exact hmakes
      rcases follow_of_not_clear hclear h.names with hmissing | ⟨hfile, k, hk, hbars⟩
      · -- the parent is made first, and then the directory once more
        have hfault := (locate_of_leads h hne).trans hmissing
        obtain ⟨q, hq, hparent⟩ := Path.parent?_leads h.components
        rw [h.absolute] at hparent
        rw [run_makeDirectoriesWithin_of_missing htext (run_ensureDirectory_of_error hfault) hq]
        rw [List.length_append] at hn
        obtain ⟨n', rfl⟩ : ∃ n', n = n' + 1 := Nat.exists_eq_add_of_le' (Nat.le_of_add_left_le hn)
        rcases ih hparent (Nat.le_of_succ_le_succ hn) with
          ⟨tree, hrun, hadds, hfree⟩ | ⟨f, tree, hrun, hsame, hk⟩
        · have hclear' : tree.Clear (start absolute w.directory) cs := hadds.directories
          have hlocate : tree.locate w.directory p =
              .ok (walk (start absolute w.directory) (cs ++ [c])) := by
            rw [locate_of_leads h hne, follow_of_clear hclear' h.names]
          rw [hrun]
          exact (makes_of_adds hadds hfree hlocate).1
        · obtain ⟨k, hk, hbars⟩ := hk
          rw [hrun]
          exact Or.inr ⟨f, tree, rfl, hsame, k, List.mem_append_left _ hk, hbars⟩
      · have hfault := (locate_of_leads h hne).trans hfile
        rw [run_makeDirectoriesWithin_of_made htext (run_ensureDirectory_of_error hfault)
          (fun h => nomatch h)]
        exact Or.inr ⟨.notDirectory, w.tree, rfl, SameFiles.refl w.tree, k,
          List.mem_append_left _ hk, hbars⟩

/-- All directories on the way of a path are made unless a file stands on it. -/
theorem run_makeDirectories (h : p.Leads absolute cs)
    (hstart : w.tree.at? (start absolute w.directory) = some .directory) :
    w.Makes (way (start absolute w.directory) cs)
      ((Storage.makeDirectories p : StateM Workspace _).run w) := by
  refine run_makeDirectoriesWithin h ?_ hstart
  rw [← h.components]
  exact Nat.le_succ_of_le (List.length_filter_le ..)

end Workspace

end EntityPlan
