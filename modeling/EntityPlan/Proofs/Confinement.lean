import EntityPlan.Proofs.OutputFiles
import EntityPlan.Proofs.Writing

/-! # Confinement — what a sink writes, and what it says that it wrote

    A file system is any storage at all: it may answer what it likes, and it may
    change whenever it is asked.  A watched one notes in addition which files it is
    told to write, whether or not it then does so.  A sink tells it of the files of
    the plan only, one after another, and keeps account of those that it was told
    are written (`Sink.accept_keeps`). -/

namespace EntityPlan

/-- A file system, and the paths of the files that it was told to write. -/
structure Watched (σ : Type) where
  system : σ
  touched : List Path

namespace Watched

variable {σ α β : Type}

/-- An operation on the file system of which no note is taken. -/
def pass (x : StateM σ α) : StateM (Watched σ) α := fun w =>
  ((x.run w.system).1, { w with system := (x.run w.system).2 })

/-- Takes note of a path. -/
def note (p : Path) : StateM (Watched σ) Unit := fun w =>
  ((), { w with touched := w.touched ++ [p] })

instance [Storage (StateM σ)] : Storage (StateM (Watched σ)) where
  directory := pass Storage.directory
  readText p := pass (Storage.readText p)
  isFile p := pass (Storage.isFile p)
  isDirectory p := pass (Storage.isDirectory p)
  names p := pass (Storage.names p)
  makeDirectory p := pass (Storage.makeDirectory p)
  writeText p content := do
    note p
    pass (Storage.writeText p content)

theorem pass_bind (x : StateM σ α) (k : α → StateM σ β) :
    pass (x >>= k) = pass x >>= fun a => pass (k a) := rfl

variable [Storage (StateM σ)]

/-- Nothing is noted when a directory is made. -/
theorem ensureDirectory_eq_pass (p : Path) :
    (Storage.ensureDirectory p : StateM (Watched σ) _) = pass (Storage.ensureDirectory p) := by
  unfold Storage.ensureDirectory
  rw [pass_bind]
  refine bind_congr fun made => ?_
  cases made <;> rfl

theorem makeDirectoriesWithin_eq_pass (fuel : Nat) (p : Path) :
    (Storage.makeDirectoriesWithin fuel p : StateM (Watched σ) _) =
      pass (Storage.makeDirectoriesWithin fuel p) := by
  induction fuel generalizing p with
  | zero => rfl
  | succ fuel ih =>
      unfold Storage.makeDirectoriesWithin
      by_cases hempty : p.text = ""
      · rw [if_pos hempty, if_pos hempty]
        rfl
      · rw [if_neg hempty, if_neg hempty, ensureDirectory_eq_pass, pass_bind]
        refine bind_congr fun made => ?_
        -- only a missing directory with another above it leads on
        cases p.parent? with
        | none => cases made with
          | ok u => rfl
          | error fault => cases fault <;> rfl
        | some above => cases made with
          | ok u => rfl
          | error fault =>
              cases fault with
              | notFound =>
                  dsimp only
                  rw [ih, pass_bind]
                  refine bind_congr fun made => ?_
                  cases made <;> rfl
              | _ => rfl

theorem makeDirectories_eq_pass (p : Path) :
    (Storage.makeDirectories p : StateM (Watched σ) _) = pass (Storage.makeDirectories p) :=
  makeDirectoriesWithin_eq_pass _ p

end Watched

namespace Plan

variable {σ : Type} [Storage (StateM σ)]

theorem makeAbove_eq_pass (f : OutputFile) :
    (makeAbove f : StateM (Watched σ) _) = Watched.pass (makeAbove f) := by
  unfold makeAbove
  cases f.path.parent? with
  | none => rfl
  | some above =>
      dsimp only
      rw [Watched.makeDirectories_eq_pass]
      rfl

/-- A file is noted when it is written, and nothing else is. -/
theorem run_writeFile_watched (f : OutputFile) (w : Watched σ) :
    ∃ more, (writeFile f : ExceptT Failure (StateM (Watched σ)) Unit).run.run w =
        (((writeFile f : ExceptT Failure (StateM σ) Unit).run.run w.system).1,
          ⟨((writeFile f : ExceptT Failure (StateM σ) Unit).run.run w.system).2,
            w.touched ++ more⟩) ∧
      more <+: [f.path] ∧
        (((writeFile f : ExceptT Failure (StateM σ) Unit).run.run w.system).1 = .ok () →
          more = [f.path]) := by
  rw [run_writeFile_eq, run_writeFile_eq, makeAbove_eq_pass]
  have hmade : (Watched.pass (makeAbove f) : StateM (Watched σ) _).run w =
      (((makeAbove f : StateM σ _).run w.system).1,
        { w with system := ((makeAbove f : StateM σ _).run w.system).2 }) := rfl
  rw [hmade]
  obtain ⟨made, system⟩ := (makeAbove f : StateM σ _).run w.system
  cases made with
  | error failure => exact ⟨[], by simp, List.nil_prefix, nofun⟩
  | ok u => exact ⟨[f.path], rfl, List.prefix_refl _, fun _ => rfl⟩

/-- The files noted are among those to be written, those that were written come first. -/
theorem run_writeFiles_watched (fs : List OutputFile) (w : Watched σ) :
    ∃ more, (writeFiles fs : StateM (Watched σ) _).run w =
        (((writeFiles fs : StateM σ _).run w.system).1,
          ⟨((writeFiles fs : StateM σ _).run w.system).2, w.touched ++ more⟩) ∧
      ((writeFiles fs : StateM σ _).run w.system).1.state <+: more ∧
        more <+: fs.map (·.path) := by
  induction fs generalizing w with
  | nil => exact ⟨[], by simp [writeFiles]; rfl, List.prefix_refl _, List.prefix_refl _⟩
  | cons f rest ih =>
      obtain ⟨first, hrun, hfirst, hall⟩ := run_writeFile_watched f w
      rw [run_writeFiles_cons, run_writeFiles_cons, hrun]
      clear hrun
      generalize (writeFile f : ExceptT Failure (StateM σ) Unit).run.run w.system = r at hall ⊢
      obtain ⟨made, system⟩ := r
      cases made with
      | error failure => exact ⟨first, rfl, List.nil_prefix, hfirst.trans (List.prefix_append _ _)⟩
      | ok u =>
          -- the file was noted, and the rest is noted behind it
          obtain rfl := hall rfl
          obtain ⟨more, hrest, hwritten, hmore⟩ := ih ⟨system, w.touched ++ [f.path]⟩
          refine ⟨f.path :: more, ?_, ?_, ?_⟩
          · simp only [hrest, List.append_assoc, List.singleton_append]
          · exact (List.prefix_cons_inj f.path).mpr hwritten
          · exact (List.prefix_cons_inj f.path).mpr hmore

/-- All files were written exactly when there was no failure. -/
theorem state_writeFiles_eq_iff (fs : List OutputFile) (w : σ) :
    ((writeFiles fs : StateM σ _).run w).1.state = fs.map (·.path) ↔
      ((writeFiles fs : StateM σ _).run w).1.ending = .ok () := by
  induction fs generalizing w with
  | nil => exact ⟨fun _ => rfl, fun _ => rfl⟩
  | cons f rest ih =>
      rw [run_writeFiles_cons]
      obtain ⟨made, w'⟩ := (writeFile f : ExceptT Failure (StateM σ) Unit).run.run w
      cases made with
      | error failure => exact ⟨nofun, nofun⟩
      | ok u =>
          rw [List.map_cons, List.cons.injEq, ← ih w']
          exact and_iff_right rfl

end Plan

namespace Sink

open Plan

variable {σ : Type} [Storage (StateM σ)]

/-- What a sink makes of a plan on a file system: how it ends and what it counts as
    written, what the file system is then, and which files it was told to write. -/
structure Keeps (s : Sink) (p : Plan) (w : σ) (o : Outcome Failure Sink) (w' : σ)
    (touched : List Path) : Prop where
  /-- of names that cannot stand in a path the first is refused, and nothing is done -/
  refused : (∃ x ∈ p.members, Misnamed x) →
    ∃ x, First Misnamed p.members x ∧ o.ending = .error (refusal x) ∧ w' = w ∧ touched = [] ∧
      o.state.written = []
  /-- with other names only the plan's file and those of contexts are touched, and each of
      them is below the directory of the output -/
  confined : (∀ x ∈ p.members, ¬ Misnamed x) → ∀ path ∈ touched, path.Below s.directory ∧
    (path = s.directory.join fileName ∨ ∃ x ∈ p.members,
      path = (s.directory.join x.1).join (contextFileName x.2.name) ∧
        Path.IsName x.1 ∧ Path.IsName (contextFileName x.2.name))
  /-- what counts as written was touched -/
  noted : o.state.written <+: touched
  /-- it is the plan's file and contexts behind it in the order of the plan, up to some point -/
  listed : o.state.written <+: p.paths s.directory
  /-- it is all of them exactly when there was no failure -/
  complete : o.state.written = p.paths s.directory ↔ o.ending = .ok ()
  /-- plans go on being written to the same directory -/
  directory : o.state.directory = s.directory

theorem run_accept (s : Sink) (p : Plan) (w : σ) :
    (s.accept p : StateM σ _).run w =
      (⟨⟨s.directory, ((p.write s.directory : StateM σ _).run w).1.state⟩,
          ((p.write s.directory : StateM σ _).run w).1.ending⟩,
        ((p.write s.directory : StateM σ _).run w).2) := rfl

/-- Whatever a sink counted before and whatever the file system does, nothing is written
    but files of the plan below the directory, and the account of them is right. -/
theorem accept_keeps (s : Sink) (p : Plan) (w : σ) :
    ∃ o w' touched, (s.accept p : StateM σ _).run w = (o, w') ∧
      (s.accept p : StateM (Watched σ) _).run ⟨w, []⟩ = (o, ⟨w', touched⟩) ∧
        s.Keeps p w o w' touched := by
  rw [run_accept, run_accept]
  cases hfiles : p.files s.directory with
  | error f =>
      obtain ⟨x, hx, rfl⟩ := files_eq_error_iff.mp hfiles
      simp only [write, hfiles]
      refine ⟨_, w, [], rfl, rfl, ⟨?refused, ?confined, ?noted, ?listed, ?complete, rfl⟩⟩
      case refused => exact fun _ => ⟨x, hx, rfl, rfl, rfl, rfl⟩
      case confined => exact fun _ path hpath => nomatch hpath
      case noted => exact List.nil_prefix
      case listed => exact List.nil_prefix
      case complete => exact ⟨nofun, nofun⟩
  | ok fs =>
      have hnamed := (files_eq_ok_iff.mp hfiles).1
      have hpaths := paths_of_files hfiles
      obtain ⟨touched, hrun, hwritten, htouched⟩ := run_writeFiles_watched fs ⟨w, []⟩
      have hcomplete := state_writeFiles_eq_iff fs w
      rw [hpaths] at htouched hcomplete
      simp only [write, hfiles, hrun]
      refine ⟨_, _, touched, rfl, rfl, ⟨?refused, ?confined, ?noted, ?listed, ?complete, rfl⟩⟩
      case refused =>
        rintro ⟨x, hx, hmisnamed⟩
        exact absurd hmisnamed (named_iff.mp hnamed x hx)
      case confined =>
        intro _ path hpath
        have hmem : path ∈ p.paths s.directory := htouched.subset hpath
        refine ⟨below_of_mem_paths hnamed hmem, ?_⟩
        rcases List.mem_cons.mp hmem with rfl | hmem
        · exact Or.inl rfl
        · obtain ⟨x, hx, rfl⟩ := List.mem_map.mp hmem
          obtain ⟨hgroup, hentity⟩ := hnamed x hx
          exact Or.inr ⟨x, hx, rfl, isName_of_isComponent hgroup, isName_contextFileName hentity⟩
      case noted => exact hwritten
      case listed => exact hwritten.trans htouched
      case complete => exact hcomplete

end Sink

end EntityPlan
