import EntityPlan.Plan.Grouping
import EntityPlan.Settings.Validation
import EntityPlan.Source.Files

/-! # Runs — from documents and settings to a plan

    A run goes through its stages in order and ends at the first failure: the
    entities and then the applications of the document are declared, models are
    built, and the models are grouped. -/

namespace EntityPlan.Run

/-- The entities of a document, which must have some. -/
def entities (d : Source.Document) : Except Failure (List Entity) :=
  if d.entities.isEmpty then .error .noEntities
  else d.entities.records.mapM fun r => Entity.ofRecord r d.relationships

/-- The applications of a document, which must have some. -/
def applications (d : Source.Document) : Except Failure (List Application) :=
  if d.applications.isEmpty then .error .noApplications
  else d.applications.records.mapM Application.ofRecord

/-- The type table of a run. -/
def types (s : Settings) : TypeTable := TypeTable.builtin.withOverrides s.types

/-- What the models of a run are built by. -/
def rules (s : Settings) : ModelRules where
  types := types s
  basePackage := s.generation.basePackage
  policy := .ofStrict s.generation.strictScoping

/-- The plan of a document.  Type overrides are taken up first, with their warnings. -/
def plan (s : Settings) (d : Source.Document) : Traced Plan := do
  .logAll (TypeTable.overrideWarnings s.types)
  let entities ← .ofExcept (entities d)
  let applications ← .ofExcept (applications d)
  let models ← (rules s).models entities
  .ofExcept (Plan.ofModels models applications s.generation)

/-- The plan of the document of files. -/
def ofFiles {m : Type → Type} [Monad m] [Storage m] (s : Settings) (paths : List Path) :
    ExceptT Failure m (Traced Plan) := do
  return plan s (← Source.Document.load paths)

end EntityPlan.Run
