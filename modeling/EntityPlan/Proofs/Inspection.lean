import EntityPlan.Command.Execution
import EntityPlan.Proofs.Loading

/-! # Inspection — what a command looks at before anything is written

    A file system is any storage at all that is not changed by being asked
    (`Storage.Steady`).  A program that asks, and does nothing else, leaves the file
    system as it found it (`Quiet`).  Settings are loaded, documents are found and
    read, and a plan is made by such programs, whatever the answers are. -/

namespace EntityPlan

variable {σ ε ε' α β : Type}

/-- The program leaves every state as it found it. -/
def Quiet (x : StateM σ α) : Prop := ∀ w, (x.run w).2 = w

namespace Quiet

theorem pure (a : α) : Quiet (Pure.pure a : StateM σ α) := fun _ => rfl

theorem bind {x : StateM σ α} {k : α → StateM σ β} (hx : Quiet x) (hk : ∀ a, Quiet (k a)) :
    Quiet (x >>= k) := by
  intro w
  show ((k (x.run w).1).run (x.run w).2).2 = w
  rw [hx w]
  exact hk _ w

/-- A program that may fail goes on in the state that it found, or it ends there. -/
theorem run_bind {x : ExceptT ε (StateM σ) α} {k : α → ExceptT ε (StateM σ) β}
    (hx : Quiet x.run) (hk : ∀ a, Quiet (k a).run) : Quiet (x >>= k).run := by
  rw [ExceptT.run_bind]
  refine hx.bind ?_
  intro r
  cases r with
  | ok a => exact hk a
  | error e => exact Quiet.pure (Except.error e)

theorem run_pure (a : α) : Quiet (Pure.pure a : ExceptT ε (StateM σ) α).run := fun _ => rfl

theorem run_throw (e : ε) : Quiet (throw e : ExceptT ε (StateM σ) α).run := fun _ => rfl

theorem run_answer (r : Except ε α) :
    Quiet (ExceptT.mk (Pure.pure r) : ExceptT ε (StateM σ) α).run := fun _ => rfl

theorem run_lift {x : StateM σ α} (hx : Quiet x) :
    Quiet (liftM x : ExceptT ε (StateM σ) α).run :=
  hx.bind fun a => Quiet.pure (Except.ok a)

theorem run_adapt {x : ExceptT ε (StateM σ) α} (hx : Quiet x.run) (f : ε → ε') :
    Quiet (x.adapt f).run := by
  intro w
  exact hx w

/-- What a quiet program answers is all that becomes of a state. -/
theorem run_eq {x : StateM σ α} (hx : Quiet x) (w : σ) : x.run w = ((x.run w).1, w) :=
  Prod.ext rfl (hx w)

end Quiet

/-- The file system is not changed by being asked. -/
class Storage.Steady (σ : Type) [Storage (StateM σ)] : Prop where
  directory : Quiet (Storage.directory : StateM σ Path)
  readText : ∀ p, Quiet (Storage.readText p : StateM σ _)
  isFile : ∀ p, Quiet (Storage.isFile p : StateM σ _)
  names : ∀ p, Quiet (Storage.names p : StateM σ _)

instance : Storage.Steady Workspace where
  directory _ := rfl
  readText _ _ := rfl
  isFile _ _ := rfl
  names _ _ := rfl

open Storage

variable [Storage (StateM σ)] [Steady σ]

/-! ## Documents -/

namespace Source

theorem quiet_fileText (p : Path) : Quiet (fileText p : ExceptT Failure (StateM σ) String).run := by
  refine Quiet.run_bind (Quiet.run_lift (Steady.readText p)) ?_
  intro r
  cases r with
  | ok text => exact Quiet.run_pure text
  | error f => exact Quiet.run_throw _

theorem quiet_gather (d : Document) (paths : List Path) :
    Quiet (d.gather paths : ExceptT Failure (StateM σ) Document).run := by
  induction paths generalizing d with
  | nil => exact Quiet.run_pure d
  | cons p rest ih =>
      refine Quiet.run_bind (quiet_fileText p) fun text => ?_
      refine Quiet.run_bind (Quiet.run_answer _) fun next => ?_
      exact Quiet.run_bind (Quiet.run_answer _) fun joined => ih joined

theorem quiet_load (paths : List Path) :
    Quiet (Document.load paths : ExceptT Failure (StateM σ) Document).run := by
  refine Quiet.run_bind (Quiet.run_lift Steady.directory) fun base => ?_
  exact Quiet.run_bind (Quiet.run_answer _) fun paths => quiet_gather {} paths

end Source

theorem Run.quiet_ofFiles (s : Settings) (paths : List Path) :
    Quiet (Run.ofFiles s paths : ExceptT Failure (StateM σ) (Traced Plan)).run :=
  Quiet.run_bind (Source.quiet_load paths) fun d => Quiet.run_pure (Run.plan s d)

/-! ## Settings -/

namespace Settings

theorem quiet_ofFile (p : Path) :
    Quiet (Settings.ofFile p : ExceptT Failure (StateM σ) Settings).run :=
  Quiet.run_bind (Source.quiet_fileText p) fun text => Quiet.run_answer (Settings.ofText text)

theorem quiet_file? (named : Option Path) : Quiet (Settings.file? named : StateM σ _) := by
  cases named with
  | some p => exact Quiet.pure (some p)
  | none => exact (Steady.isFile defaultFile).bind fun isFile => Quiet.pure _

theorem quiet_load (named : Option Path) :
    Quiet (Settings.load named : ExceptT CommandFailure (StateM σ) Settings).run := by
  refine Quiet.run_bind (Quiet.run_lift (quiet_file? named)) ?_
  intro file
  cases file with
  | none => exact Quiet.run_pure ({} : Settings)
  | some p =>
      refine Quiet.run_bind (Quiet.run_lift (quiet_ofFile p)) ?_
      intro r
      cases r with
      | ok s => exact Quiet.run_pure s
      | error f => exact Quiet.run_throw _

end Settings

/-! ## Inputs -/

namespace Inputs

theorem quiet_existing (paths : List Path) : Quiet (Inputs.existing paths : StateM σ _) := by
  induction paths with
  | nil => exact Quiet.pure []
  | cons p rest ih =>
      refine (Steady.isFile p).bind fun isFile => ?_
      exact ih.bind fun others => Quiet.pure _

theorem quiet_discover (directory : Path) :
    Quiet (Inputs.discover directory : ExceptT CommandFailure (StateM σ) (List Path)).run := by
  refine Quiet.run_bind (Quiet.run_lift (Steady.names directory)) ?_
  intro r
  cases r with
  | error fault => exact Quiet.run_throw _
  | ok names =>
      refine Quiet.run_bind (Quiet.run_lift (quiet_existing _)) ?_
      intro paths
      cases paths with
      | nil => exact Quiet.run_throw _
      | cons p rest => exact Quiet.run_pure (p :: rest)

theorem quiet_documents (named : List Path) (s : Settings) :
    Quiet (Inputs.documents named s : ExceptT CommandFailure (StateM σ) (List Path)).run := by
  cases named with
  | nil => exact quiet_discover s.directories.input
  | cons p rest => exact Quiet.run_pure (p :: rest)

end Inputs

/-! ## Plans -/

theorem Command.quiet_plan (verbose : Bool) (s : Settings) (named : List Path) :
    Quiet (Command.plan verbose s named : ExceptT CommandFailure (StateM σ) _).run := by
  refine Quiet.run_bind (Inputs.quiet_documents named s) fun paths => ?_
  refine Quiet.run_bind (Quiet.run_adapt (Run.quiet_ofFiles s paths) _) fun traced => ?_
  refine Quiet.run_bind (Quiet.run_adapt (Quiet.run_answer traced.answer) _) fun p => ?_
  exact Quiet.run_pure (p, (logging verbose s).emitAll traced.events)

end EntityPlan
