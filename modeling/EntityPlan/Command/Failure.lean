import EntityPlan.Path

/-! # Command failures — why a command ends without success

    A command fails with the failure of its run, perhaps with a few words in front
    that say what was being done, or because there is nothing to run on. -/

namespace EntityPlan

/-- Why a command ends without success. -/
inductive CommandFailure
  | run (failure : Failure)
  | settings (file : Path) (failure : Failure)
  | inputDirectory (directory : Path) (fault : StorageFault)
  | noInputs (directory : Path)
  deriving DecidableEq, Repr

namespace CommandFailure

/-- The text of a failure. -/
def message : CommandFailure → String
  | .run f => f.message
  | .settings file f => "failed to load configuration " ++ file.text ++ ": " ++ f.message
  | .inputDirectory d fault =>
      "failed to read input directory " ++ d.text ++ ": " ++ fault.message
  | .noInputs d => "no JDL JSON files found in " ++ d.text

/-- The failure of the run behind it. -/
def cause? : CommandFailure → Option Failure
  | .run f => some f
  | .settings _ f => some f
  | .inputDirectory _ _ => none
  | .noInputs _ => none

/-- The exit status: the code of the cause, and one if there is none. -/
def code (f : CommandFailure) : Nat := f.cause?.elim 1 Failure.code

/-- No failure exits as a success does. -/
theorem code_pos (f : CommandFailure) : 0 < f.code := by
  cases f with
  | run f => exact Failure.code_pos f
  | settings _ f => exact Failure.code_pos f
  | inputDirectory => exact Nat.one_pos
  | noInputs => exact Nat.one_pos

end CommandFailure

end EntityPlan
