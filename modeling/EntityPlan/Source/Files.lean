import EntityPlan.Source.Merge
import EntityPlan.Source.Reading
import EntityPlan.Storage.Basic

/-! # Document files — one document from several files

    Files are read, decoded and merged one after another, in the order in which
    they are given; the first that cannot be taken up ends the reading. -/

namespace EntityPlan.Source

variable {m : Type → Type} [Monad m] [Storage m]

/-- The text of a file. -/
def fileText (p : Path) : ExceptT Failure m String := do
  match ← Storage.readText (m := m) p with
  | .ok text => return text
  | .error f => throw (.storage p.text f)

/-- A document with those of files merged into it. -/
def Document.gather (d : Document) : List Path → ExceptT Failure m Document
  | [] => pure d
  | p :: rest => do
      let text ← fileText p
      let next ← ExceptT.mk (pure (Document.ofText p.text text))
      let joined ← ExceptT.mk (pure (d.join next))
      joined.gather rest

/-- The document of files. -/
def Document.ofFiles (paths : List Path) : ExceptT Failure m Document :=
  Document.gather {} paths

/-- Paths made absolute against a directory. -/
def absolutePaths (base : Path) (paths : List Path) : Except Failure (List Path) :=
  paths.mapM fun p =>
    match Path.absolute base p with
    | .ok q => .ok q
    | .error f => .error (.storage p.text f)

/-- The document of files, which are named by their absolute paths. -/
def Document.load (paths : List Path) : ExceptT Failure m Document := do
  let base ← Storage.directory (m := m)
  let paths ← ExceptT.mk (pure (absolutePaths base paths))
  Document.ofFiles paths

end EntityPlan.Source
