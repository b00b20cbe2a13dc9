import EntityPlan.Context.Encoding
import EntityPlan.Json.Printer
import EntityPlan.Outcome
import EntityPlan.Plan.Encoding
import EntityPlan.Storage.Basic

/-! # Output — the files of a plan

    The plan is one file, and so is the context of each entity in each group, in a
    directory of the group's name.  All names are looked at before anything is
    written: each must stand as one component of a path.  Writing stops at the first
    failure, and the files written up to there stay.  A sink takes plans one after
    another and keeps account of the files that the last one came to. -/

namespace EntityPlan

namespace Plan

/-- The name of the file of a plan. -/
def fileName : String := "jdlgen-plan.json"

/-- The name of the file of a context. -/
def contextFileName (entity : String) : String := entity ++ ".context.json"

/-- A name that can stand as one component of a path. -/
def isComponent (name : String) : Bool :=
  name != "" && name != "." && name != ".." && !name.toList.any fun c => c == '/' || c == '\\'

/-- Refuses a name that cannot stand as one component of a path. -/
def component (kind name : String) : Except Failure String :=
  if isComponent name then .ok name else .error (.malformedRecord kind name .unusableName)

/-- A file to be written. -/
structure OutputFile where
  path : Path
  content : String
  deriving DecidableEq, Repr

/-- The file of the context of an entity. -/
def contextFile (out : Path) (group : String) (m : EntityModel) : Except Failure OutputFile := do
  let directory ← component "module" group
  let name ← component "entity" m.name
  return ⟨(out.join directory).join (contextFileName name),
    (TemplateContext.ofModel m).encoded.pretty⟩

/-- Every entity with the name of its group, in the order of the plan. -/
def members (p : Plan) : List (String × EntityModel) :=
  p.groups.flatMap fun g => g.entities.map (g.name, ·)

/-- The files of a plan, that of the plan itself first. -/
def files (out : Path) (p : Plan) : Except Failure (List OutputFile) := do
  let contexts ← p.members.mapM fun m => contextFile out m.1 m.2
  return ⟨out.join fileName, p.encoded.pretty⟩ :: contexts

variable {m : Type → Type} [Monad m] [Storage m]

/-- Writes a file, and makes the directories that it needs. -/
def writeFile (f : OutputFile) : ExceptT Failure m Unit := do
  match f.path.parent? with
  | none => pure ()
  | some above =>
      match ← Storage.makeDirectories (m := m) above with
      | .ok () => pure ()
      | .error fault => throw (.storage above.text fault)
  match ← Storage.writeText (m := m) f.path f.content with
  | .ok () => pure ()
  | .error fault => throw (.storage f.path.text fault)

/-- Writes files one after another and says which ones were written. -/
def writeFiles : List OutputFile → m (Outcome Failure (List Path))
  | [] => pure ⟨[], .ok ()⟩
  | f :: rest => do
      match ← (writeFile (m := m) f).run with
      | .error failure => return ⟨[], .error failure⟩
      | .ok () =>
          let o ← writeFiles rest
          return ⟨f.path :: o.state, o.ending⟩

/-- Writes the files of a plan and says which ones were written. -/
def write (out : Path) (p : Plan) : m (Outcome Failure (List Path)) :=
  match p.files out with
  | .error f => pure ⟨[], .error f⟩
  | .ok files => writeFiles files

end Plan

/-- Where plans are written to, and the files that the last one came to. -/
structure Sink where
  directory : Path
  written : List Path
  deriving DecidableEq, Repr

/-- Writes the files of a plan.  Those of an earlier one no longer count as written. -/
def Sink.accept {m : Type → Type} [Monad m] [Storage m] (s : Sink) (p : Plan) :
    m (Outcome Failure Sink) := do
  let o ← p.write s.directory
  return ⟨{ s with written := o.state }, o.ending⟩

end EntityPlan
