import EntityPlan.Proofs.Requirement
import EntityPlan.Run

/-! # Loading — what becomes of files that are read

    Files are read, decoded and merged one after another, each in the workspace as it
    was found, and the first one that cannot be taken up is the failure
    (`Workspace.run_gather`).  A run over files is one over what is read of them. -/

namespace EntityPlan

open Source

/-- A step that fails is the last one. -/
theorem run_bind {σ ε α β : Type} (x : ExceptT ε (StateM σ) α)
    (k : α → ExceptT ε (StateM σ) β) (w : σ) :
    (x >>= k).run.run w = match x.run.run w with
      | (.ok a, w') => (k a).run.run w'
      | (.error f, w') => (.error f, w') := by
  rw [ExceptT.run_bind, StateT.run_bind]
  obtain ⟨r, w'⟩ := x.run.run w
  cases r <;> rfl

/-- A sequence of steps succeeds when both of them do, the second one where the first one ends. -/
theorem run_bind_eq_ok_iff {σ ε α β : Type} {x : ExceptT ε (StateM σ) α}
    {k : α → ExceptT ε (StateM σ) β} {w w' : σ} {b : β} :
    (x >>= k).run.run w = (.ok b, w') ↔
      ∃ a w₁, x.run.run w = (.ok a, w₁) ∧ (k a).run.run w₁ = (.ok b, w') := by
  rw [run_bind]
  obtain ⟨r, w₁⟩ := x.run.run w
  cases r with
  | ok a =>
      constructor
      · intro h
        exact ⟨a, w₁, rfl, h⟩
      · rintro ⟨a', w₁', hx, h⟩
        cases hx
        exact h
  | error f =>
      refine ⟨fun h => (nomatch h), ?_⟩
      rintro ⟨a, w₁', hx, -⟩
      exact nomatch hx

namespace Workspace

/-- The document in a file. -/
def document (w : Workspace) (p : Path) : Except Failure Document :=
  match w.tree.readText w.directory p with
  | .ok text => Document.ofText p.text text
  | .error f => .error (.storage p.text f)

/-- A document with that of a file merged into it. -/
def takeUp (w : Workspace) (d : Document) (p : Path) : Except Failure Document := do
  d.join (← w.document p)

/-- What the files are read as. -/
def parse (w : Workspace) (paths : List Path) : Except Failure Document :=
  ((Document.ofFiles paths : ExceptT Failure (StateM Workspace) Document).run.run w).1

theorem run_fileText (w : Workspace) (p : Path) :
    (fileText p : ExceptT Failure (StateM Workspace) String).run.run w =
      ((w.tree.readText w.directory p).mapError (Failure.storage p.text), w) := by
  have hread : (liftM (Storage.readText p : StateM Workspace _) :
      ExceptT Failure (StateM Workspace) _).run.run w =
        (.ok (w.tree.readText w.directory p), w) := rfl
  unfold fileText
  rw [run_bind, hread]
  dsimp only
  cases w.tree.readText w.directory p <;> rfl

/-- The next file is read, decoded and merged. -/
theorem run_gather_cons (w : Workspace) (d : Document) (p : Path) (rest : List Path) :
    (d.gather (p :: rest) : ExceptT Failure (StateM Workspace) Document).run.run w =
      match w.takeUp d p with
      | .ok d' => (d'.gather rest : ExceptT Failure (StateM Workspace) Document).run.run w
      | .error f => (.error f, w) := by
  rw [Document.gather, run_bind, run_fileText]
  unfold takeUp document
  cases w.tree.readText w.directory p with
  | error f => rfl
  | ok text =>
      dsimp only [Except.mapError]
      rw [run_bind]
      cases Document.ofText p.text text with
      | error f => rfl
      | ok next =>
          show (ExceptT.mk (pure (d.join next)) >>= fun joined : Document =>
            joined.gather rest : ExceptT Failure (StateM Workspace) Document).run.run w =
              match d.join next with
              | .ok d' => (d'.gather rest : ExceptT Failure (StateM Workspace) Document).run.run w
              | .error f => (.error f, w)
          rw [run_bind]
          cases d.join next <;> rfl

/-- Files are taken up one after another, and none of them is changed. -/
theorem run_gather (w : Workspace) (d : Document) (paths : List Path) :
    (d.gather paths : ExceptT Failure (StateM Workspace) Document).run.run w =
      (paths.foldlM w.takeUp d, w) := by
  induction paths generalizing d with
  | nil => rfl
  | cons p rest ih =>
      rw [run_gather_cons, List.foldlM_cons]
      cases w.takeUp d p with
      | error f => rfl
      | ok d' => exact ih d'

theorem parse_eq (w : Workspace) (paths : List Path) :
    w.parse paths = paths.foldlM w.takeUp {} :=
  congrArg Prod.fst (run_gather w {} paths)

theorem run_load (w : Workspace) (paths : List Path) :
    (Document.load paths : ExceptT Failure (StateM Workspace) Document).run.run w =
      (absolutePaths w.path paths >>= w.parse, w) := by
  have hdirectory : (liftM (Storage.directory : StateM Workspace Path) :
      ExceptT Failure (StateM Workspace) Path).run.run w = (.ok w.path, w) := rfl
  unfold Document.load
  rw [run_bind, hdirectory]
  dsimp only
  rw [run_bind]
  cases absolutePaths w.path paths with
  | error f => rfl
  | ok resolved =>
      show (Document.gather {} resolved : ExceptT Failure (StateM Workspace) Document).run.run w =
        (w.parse resolved, w)
      rw [run_gather, parse_eq]

/-- A run over files is one over what is read of them. -/
theorem run_ofFiles (w : Workspace) (s : Settings) (paths : List Path) :
    (Run.ofFiles s paths : ExceptT Failure (StateM Workspace) (Traced Plan)).run.run w =
      ((absolutePaths w.path paths >>= w.parse).map (Run.plan s), w) := by
  unfold Run.ofFiles
  rw [run_bind, run_load]
  cases absolutePaths w.path paths >>= w.parse <;> rfl

end Workspace

end EntityPlan
