import EntityPlan.Command.Arguments
import EntityPlan.Command.Inputs
import EntityPlan.Plan.Output
import EntityPlan.Plan.Summary
import EntityPlan.Run
import EntityPlan.Types.Listing

/-! # Execution — what a command does and says

    Generating writes the files of a plan, checking only shows what the plan holds,
    and the third action shows the type table.  Nothing is said by a command that
    fails, except why. -/

namespace EntityPlan

/-- What a command says, and why it failed if it did. -/
structure Report where
  output : String
  failure : Option CommandFailure
  deriving DecidableEq, Repr

/-- The exit status of a command. -/
def Report.status (r : Report) : Nat := r.failure.elim 0 CommandFailure.code

namespace Command

variable {m : Type → Type} [Monad m] [Storage m]

/-- A step of a run as a step of a command. -/
def ofRun {α : Type} (step : ExceptT Failure m α) : ExceptT CommandFailure m α :=
  step.adapt .run

/-- The level of a command before its settings are known. -/
def startLevel (verbose : Bool) : LogLevel := if verbose then .debug else .info

/-- The logging of a command while it runs. -/
def logging (verbose : Bool) (s : Settings) : Logging :=
  (Logging.installed (startLevel verbose)).follow verbose s

/-- The plan of the documents of a command, and the logging after it. -/
def plan (verbose : Bool) (s : Settings) (named : List Path) :
    ExceptT CommandFailure m (Plan × Logging) := do
  let paths ← Inputs.documents named s
  let traced ← ofRun (Run.ofFiles s paths)
  let plan ← ofRun (ExceptT.mk (pure traced.answer))
  return (plan, (logging verbose s).emitAll traced.events)

/-- Writes the files of a plan and says how many there are. -/
def generate (verbose : Bool) (documents : List Path) (out settings : Option Path) :
    ExceptT CommandFailure m String := do
  let s ← Settings.load settings
  let (p, _) ← plan verbose s documents
  let out := out.getD s.directories.output
  let o ← Sink.accept (m := m) ⟨out, []⟩ p
  match o.ending with
  | .error f => throw (.run f)
  | .ok () =>
      return "✓ Generated " ++ toString p.entityCount ++ " entities in " ++
        toString p.groups.length ++ " modules\n✓ Wrote " ++
        toString o.state.written.length ++ " files to " ++ out.text ++ "\n"

/-- Shows what a plan holds and how many warnings there were. -/
def check (verbose : Bool) (documents : List Path) (settings : Option Path) :
    ExceptT CommandFailure m String := do
  let s ← Settings.load settings
  let (p, g) ← plan verbose s documents
  return p.summary ++ "\n✓ JDL is valid (" ++ toString g.collector.warningCount ++ " warnings)\n"

/-- Shows the type table. -/
def types (settings : Option Path) : ExceptT CommandFailure m String := do
  let s ← Settings.load settings
  return (Run.types s).listing

/-- What an action says. -/
def output (verbose : Bool) : Action → ExceptT CommandFailure m String
  | .generate documents out settings => generate verbose documents out settings
  | .check documents settings => check verbose documents settings
  | .types settings => types settings

/-- Carries out an invocation. -/
def execute (i : Invocation) : m Report := do
  match ← (output (m := m) i.verbose i.action).run with
  | .ok text => return ⟨text, none⟩
  | .error f => return ⟨"", some f⟩

/-- What a command says about its version. -/
def versionLine : String := "jdlgen 0.3.0\n"

/-- What a command says about its arguments. -/
def usage : String :=
  "Usage: jdlgen [-v] generate [-j FILE...] [-o DIR] [-c FILE]\n" ++
  "       jdlgen [-v] check [-j FILE...] [-c FILE]\n" ++
  "       jdlgen [-v] types [-c FILE]\n"

end Command

end EntityPlan
