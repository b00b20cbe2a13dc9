import EntityPlan.Command.Execution

/-! # The command — files and streams of the operating system

    Nothing is decided here: arguments are handed over, and what the command says
    and its status are handed back. -/

namespace EntityPlan

/-- The fault behind an error of the operating system. -/
def StorageFault.ofError : IO.Error → StorageFault
  | .noFileOrDirectory .. => .notFound
  | .alreadyExists .. => .occupied
  | .inappropriateType _ 20 _ => .notDirectory
  | .inappropriateType _ 21 _ => .isDirectory
  | e => .stated (toString e)

namespace Host

/-- An action with its error as a fault. -/
def attempt {α : Type} (action : IO α) : IO (Except StorageFault α) := do
  match ← action.toBaseIO with
  | .ok a => return .ok a
  | .error e => return .error (.ofError e)

/-- Reads a file. -/
def readText (p : Path) : IO (Except StorageFault String) := do
  match ← attempt (IO.FS.readBinFile p.text) with
  | .error f => return .error f
  | .ok content =>
      match String.fromUTF8? content with
      | some s => return .ok s
      | none => return .error .notText

/-- The names in a directory. -/
def names (p : Path) : IO (Except StorageFault (List String)) := do
  if p.text = "" then return .error .notFound
  attempt do
    let entries ← ((← IO.currentDir) / p.text).readDir
    return entries.toList.map (·.fileName)

/-- What stands at a path is of this type. -/
def hasType (p : Path) (type : IO.FS.FileType) : IO Bool := do
  match ← attempt (do ((← IO.currentDir) / p.text).metadata) with
  | .ok found => return found.type == type
  | .error _ => return false

instance : Storage IO where
  directory := do return ⟨(← IO.currentDir).toString⟩
  readText p := readText p
  isFile p := hasType p .file
  isDirectory p := hasType p .dir
  names p := names p
  makeDirectory p := attempt (IO.FS.createDir p.text)
  writeText p content := attempt (IO.FS.writeBinFile p.text content.toUTF8)

/-- Carries out an invocation and gives its status. -/
def run (i : Invocation) : IO UInt32 := do
  let report ← Command.execute i
  IO.print report.output
  match report.failure with
  | some f => IO.eprintln ("error: " ++ f.message)
  | none => pure ()
  return report.status.toUInt32

end Host

end EntityPlan

/-- The command line. -/
def main (args : List String) : IO UInt32 := do
  match EntityPlan.Arguments.parse false args with
  | .ok i => EntityPlan.Host.run i
  | .error .version =>
      IO.print EntityPlan.Command.versionLine
      return 0
  | .error .help =>
      IO.print EntityPlan.Command.usage
      return 0
  | .error .usage =>
      IO.eprint EntityPlan.Command.usage
      return 2
