import EntityPlan.Storage.Tree

/-! # Storage — what a run needs of a file system

    Programs are written over any storage.  A workspace is one in memory: a file
    tree with a working directory. -/

namespace EntityPlan

/-- The operations on files and directories. -/
class Storage (m : Type → Type) where
  /-- the working directory -/
  directory : m Path
  readText : Path → m (Except StorageFault String)
  isFile : Path → m Bool
  isDirectory : Path → m Bool
  /-- the names in a directory, in no particular order -/
  names : Path → m (Except StorageFault (List String))
  /-- makes a directory where nothing stands -/
  makeDirectory : Path → m (Except StorageFault Unit)
  /-- writes a file; one that stood there is replaced -/
  writeText : Path → String → m (Except StorageFault Unit)

namespace Storage

variable {m : Type → Type} [Monad m] [Storage m]

/-- Makes a directory unless one stands there. -/
def ensureDirectory (p : Path) : m (Except StorageFault Unit) := do
  match ← makeDirectory p with
  | .ok () => return .ok ()
  | .error f => return if ← isDirectory p then .ok () else .error f

/-- Makes a directory and those above it that are missing, at most `fuel` of them. -/
def makeDirectoriesWithin : (fuel : Nat) → Path → m (Except StorageFault Unit)
  | 0, _ => pure (.error .notFound)
  | fuel + 1, p => do
      if p.text = "" then return .ok ()
      match ← ensureDirectory p, p.parent? with
      | .error .notFound, some above =>
          match ← makeDirectoriesWithin fuel above with
          | .ok () => ensureDirectory p
          | .error f => return .error f
      | made, _ => return made

/-- Makes a directory and those above it that are missing. -/
def makeDirectories (p : Path) : m (Except StorageFault Unit) :=
  makeDirectoriesWithin (p.pieces.length + 2) p

end Storage

/-- A file tree and the working directory in it. -/
structure Workspace where
  tree : FileTree
  directory : Location

namespace Workspace

/-- The path of the working directory. -/
def path (w : Workspace) : Path := ⟨"/" ++ "/".intercalate w.directory⟩

/-- The workspace with a changed tree, if the change was made. -/
def change (w : Workspace) (t : Except StorageFault FileTree) : Except StorageFault Unit × Workspace :=
  match t with
  | .ok tree => (.ok (), { w with tree })
  | .error f => (.error f, w)

instance : Storage (StateM Workspace) where
  directory w := (w.path, w)
  readText p w := (w.tree.readText w.directory p, w)
  isFile p w := (w.tree.isFile w.directory p, w)
  isDirectory p w := (w.tree.isDirectory w.directory p, w)
  names p w := (w.tree.names w.directory p, w)
  makeDirectory p w := w.change (w.tree.makeDirectory w.directory p)
  writeText p content w := w.change (w.tree.writeText w.directory p content)

end Workspace

end EntityPlan
