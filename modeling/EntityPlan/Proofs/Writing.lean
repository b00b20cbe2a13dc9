import EntityPlan.Plan.Output
import EntityPlan.Proofs.Directories

/-! # Writing — one file and its directories

    A file is written when no file stands on the way to it and no directory in its
    place; then it stands there, the way is made of directories, and nothing else
    has changed.  Otherwise the files are the same as before
    (`Workspace.run_writeFile`). -/

namespace EntityPlan

namespace FileTree

open Location

variable {t u : FileTree} {k : Location} {p : Path} {directory : Location}

/-- The second tree is the first with a file at one location and directories at others. -/
structure Gains (t : FileTree) (ks : List Location) (k : Location) (content : String)
    (u : FileTree) : Prop where
  file : u.at? k = some (.file content.toUTF8)
  directories : ∀ j ∈ ks, j ≠ k → u.at? j = some .directory
  others : ∀ j, j ∉ ks → j ≠ k → u.at? j = t.at? j

theorem Adds.gains_put {ks : List Location} (h : t.Adds ks u) (hk : k ≠ []) (content : String) :
    t.Gains ks k content (u.put k (.file content.toUTF8)) where
  file := by
    rw [at?_put u k k _ hk, if_pos rfl]
  directories j hj hjk := by
    rw [at?_put u k j _ hk, if_neg hjk, h.directories j hj]
  others j hj hjk := by
    rw [at?_put u k j _ hk, if_neg hjk, h.others j hj]

theorem writeText_of_directory (h : t.locate directory p = .ok k)
    (hk : t.at? k = some .directory) (content : String) :
    t.writeText directory p content = .error .isDirectory := by
  simp only [writeText, h, bind, Except.bind, hk]
  rfl

theorem writeText_of_free (h : t.locate directory p = .ok k)
    (hk : t.at? k ≠ some .directory) (content : String) :
    t.writeText directory p content = .ok (t.put k (.file content.toUTF8)) := by
  simp only [writeText, h, bind, Except.bind]
  cases he : t.at? k with
  | none => rfl
  | some e =>
      cases e with
      | directory => exact absurd he hk
      | file old => rfl

theorem readText_of_locate {content : String} (h : t.locate directory p = .ok k)
    (hk : t.at? k = some (.file content.toUTF8)) : t.readText directory p = .ok content := by
  have hentry : t.entry directory p = .ok (.file content.toUTF8) := by
    rw [entry_of_locate h, hk]
    rfl
  have htext : String.fromUTF8? content.toUTF8 = some content := dif_pos content.isValidUTF8
  simp only [readText, hentry, bind, Except.bind, htext]
  rfl

end FileTree

namespace Plan

variable {σ : Type}

/-- An operation whose fault is thrown as a failure. -/
theorem run_orThrow (x : StateM σ (Except StorageFault Unit)) (failure : StorageFault → Failure)
    (w : σ) :
    (ExceptT.run (do
        match ← (liftM x : ExceptT Failure (StateM σ) _) with
        | .ok () => pure ()
        | .error fault => throw (failure fault)) : StateM σ _).run w =
      ((x.run w).1.mapError failure, (x.run w).2) := by
  simp only [ExceptT.run_bind, ExceptT.run_liftM, bind_map_left, StateT.run_bind]
  obtain ⟨done, w'⟩ := x.run w
  cases done <;> rfl

variable [Storage (StateM σ)]

/-- Makes the directories that a file needs. -/
def makeAbove (f : OutputFile) : StateM σ (Except Failure Unit) :=
  match f.path.parent? with
  | none => pure (.ok ())
  | some above => (·.mapError (.storage above.text)) <$> Storage.makeDirectories above

theorem run_makeAbove {f : OutputFile} {above : Path} (h : f.path.parent? = some above) (w : σ) :
    (makeAbove f : StateM σ _).run w =
      (((Storage.makeDirectories above : StateM σ _).run w).1.mapError (.storage above.text),
        ((Storage.makeDirectories above : StateM σ _).run w).2) := by
  unfold makeAbove
  rw [h]
  exact StateT.run_map _ (Storage.makeDirectories above) w

/-- A file is written when its directories are made. -/
theorem run_writeFile_eq (f : OutputFile) (w : σ) :
    (writeFile f : ExceptT Failure (StateM σ) Unit).run.run w =
      match (makeAbove f : StateM σ _).run w with
      | (.error failure, w') => (.error failure, w')
      | (.ok (), w') =>
          (((Storage.writeText f.path f.content : StateM σ _).run w').1.mapError
              (.storage f.path.text),
            ((Storage.writeText f.path f.content : StateM σ _).run w').2) := by
  unfold writeFile makeAbove
  cases f.path.parent? with
  | none => exact run_orThrow (Storage.writeText f.path f.content) _ w
  | some above =>
      simp only [ExceptT.bind_throw, ExceptT.run_bind, ExceptT.run_liftM, bind_map_left,
        StateT.run_bind, StateT.run_map]
      obtain ⟨made, w'⟩ := (Storage.makeDirectories above : StateM σ _).run w
      cases made with
      | error fault => rfl
      | ok u => exact run_orThrow (Storage.writeText f.path f.content) _ w'

/-- The first file that cannot be written ends the writing. -/
theorem run_writeFiles_cons (f : OutputFile) (rest : List OutputFile) (w : σ) :
    (writeFiles (f :: rest) : StateM σ _).run w =
      match (writeFile f : ExceptT Failure (StateM σ) Unit).run.run w with
      | (.error failure, w') => (⟨[], .error failure⟩, w')
      | (.ok (), w') =>
          (⟨f.path :: ((writeFiles rest : StateM σ _).run w').1.state,
            ((writeFiles rest : StateM σ _).run w').1.ending⟩,
            ((writeFiles rest : StateM σ _).run w').2) := by
  rw [writeFiles, StateT.run_bind]
  obtain ⟨made, w'⟩ := (writeFile f : ExceptT Failure (StateM σ) Unit).run.run w
  cases made <;> rfl

end Plan

namespace Workspace

open FileTree Location

variable {w : Workspace} {p above : Path} {absolute : Bool} {cs : List String} {c : String}

/-- What becomes of a workspace in which a file is to stand at one location and directories
    at those on the way: they do, and nothing else has changed, or something else stands in
    one of these places and the files are the same. -/
def Writes (w : Workspace) (ks : List Location) (k : Location) (content : String)
    (r : Except Failure Unit × Workspace) : Prop :=
  (∃ tree, r = (.ok (), { w with tree }) ∧ w.tree.Gains ks k content tree ∧
      (∀ j ∈ ks, ¬ w.tree.Bars j) ∧ k ∉ ks ∧ w.tree.at? k ≠ some .directory) ∨
    (∃ f tree, r = (.error f, { w with tree }) ∧ w.tree.SameFiles tree ∧
      ((∃ j ∈ ks, w.tree.Bars j) ∨ k ∈ ks ∨ w.tree.at? k = some .directory))

theorem run_writeText (w : Workspace) (p : Path) (content : String) :
    (Storage.writeText p content : StateM Workspace _).run w =
      w.change (w.tree.writeText w.directory p content) := rfl

/-- A file is written unless a file stands on the way to it or a directory in its place. -/
theorem run_writeFile {f : Plan.OutputFile} (h : f.path.Leads absolute (cs ++ [c]))
    (hstart : w.tree.at? (start absolute w.directory) = some .directory) :
    w.Writes (way (start absolute w.directory) cs) (walk (start absolute w.directory) (cs ++ [c]))
      f.content ((Plan.writeFile f : ExceptT Failure (StateM Workspace) Unit).run.run w) := by
  obtain ⟨above, habove, hleads⟩ := Path.parent?_leads h.components
  rw [h.absolute] at hleads
  rw [Plan.run_writeFile_eq, Plan.run_makeAbove habove]
  rcases run_makeDirectories hleads hstart with
    ⟨tree, hrun, hadds, hfree⟩ | ⟨g, tree, hrun, hsame, hbars⟩
  · rw [hrun]
    have hne : cs ++ [c] ≠ [] := List.concat_ne_nil c cs
    have hclear : tree.Clear (start absolute w.directory) cs := hadds.directories
    have hlocate : tree.locate w.directory f.path =
        .ok (walk (start absolute w.directory) (cs ++ [c])) := by
      rw [locate_of_leads h hne, follow_of_clear hclear h.names]
    generalize walk (start absolute w.directory) (cs ++ [c]) = k at hlocate
    by_cases hdir : tree.at? k = some .directory
    · -- the directory stood there before, or it is one of those made on the way
      refine Or.inr ⟨.storage f.path.text .isDirectory, tree, ?_, hadds.sameFiles hfree, Or.inr ?_⟩
      · simp only [run_writeText, writeText_of_directory hlocate hdir, change, Except.mapError]
      · by_cases hk : k ∈ way (start absolute w.directory) cs
        · exact Or.inl hk
        · rw [hadds.others k hk] at hdir
          exact Or.inr hdir
    · have hne : k ≠ [] := by
        rintro rfl
        exact hdir rfl
      have hk : k ∉ way (start absolute w.directory) cs := fun hk => hdir (hclear k hk)
      refine Or.inl ⟨tree.put k (.file f.content.toUTF8), ?_, hadds.gains_put hne f.content, hfree,
        hk, ?_⟩
      · simp only [run_writeText, writeText_of_free hlocate hdir, change, Except.mapError]
      · rwa [hadds.others k hk] at hdir
  · rw [hrun]
    exact Or.inr ⟨_, tree, rfl, hsame, Or.inl hbars⟩

end Workspace

end EntityPlan
