import EntityPlan.Command.Failure
import EntityPlan.Diagnostics.Logging
import EntityPlan.Settings.Reading
import EntityPlan.Source.Files

/-! # Inputs — the settings and the documents of a command

    Settings come from a file that is named, else from the one in the working
    directory, else they are the defaults.  Documents are the files that are named,
    else the JSON files of the input directory in byte order of their names. -/

namespace EntityPlan

variable {m : Type → Type} [Monad m] [Storage m]

namespace Settings

/-- The settings of a file. -/
def ofFile (p : Path) : ExceptT Failure m Settings := do
  let text ← Source.fileText p
  ExceptT.mk (pure (Settings.ofText text))

/-- The file that settings are read from when none is named. -/
def defaultFile : Path := ⟨"jdlgen.toml"⟩

/-- The file that settings are read from, if there is one. -/
def file? (named : Option Path) : m (Option Path) := do
  match named with
  | some p => return some p
  | none => return if ← Storage.isFile defaultFile then some defaultFile else none

/-- The settings of a command. -/
def load (named : Option Path) : ExceptT CommandFailure m Settings := do
  match ← file? (m := m) named with
  | none => return {}
  | some p =>
      match ← (ofFile (m := m) p).run with
      | .ok s => return s
      | .error f => throw (.settings p f)

end Settings

/-- The logging of a command once its settings are known; a verbose one stays as it is, and so
    does one that was not installed. -/
def Logging.follow (g : Logging) (verbose : Bool) (s : Settings) : Logging :=
  if !verbose && g.handle.isInstalled then
    match g.handle.reload s.level with
    | .ok handle => { g with handle }
    | .error _ => g
  else g

namespace Inputs

/-- The ending of the names of document files. -/
def ending : String := "json"

/-- The names of document files among others, in byte order. -/
def documentNames (names : List String) : List String :=
  (Text.sorted names).filter fun name => Path.extension? name == some ending

/-- The paths that are those of files. -/
def existing : List Path → m (List Path)
  | [] => pure []
  | p :: rest => do
      let isFile ← Storage.isFile p
      let others ← existing rest
      return if isFile then p :: others else others

/-- The document files of a directory. -/
def discover (directory : Path) : ExceptT CommandFailure m (List Path) := do
  match ← Storage.names (m := m) directory with
  | .error fault => throw (.inputDirectory directory fault)
  | .ok names =>
      match ← existing (m := m) ((documentNames names).map directory.join) with
      | [] => throw (.noInputs directory)
      | paths => return paths

/-- The documents of a command. -/
def documents (named : List Path) (s : Settings) : ExceptT CommandFailure m (List Path) :=
  if named.isEmpty then discover s.directories.input else pure named

end Inputs

end EntityPlan
