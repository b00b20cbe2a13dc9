import EntityPlan.Problem

/-! # Failures — why a run ends without a plan

    Every failure ends the run.  It has a text, and a stable code from which the
    command takes its exit status. -/

namespace EntityPlan

/-- What a storage operation met. -/
inductive StorageFault
  | notFound
  | occupied
  | notDirectory
  | isDirectory
  | notText
  | emptyPath
  /-- any other reason, in its own words -/
  | stated (reason : String)
  deriving DecidableEq, Repr

/-- The text of a storage fault. -/
def StorageFault.message : StorageFault → String
  | .notFound => "No such file or directory (os error 2)"
  | .occupied => "File exists (os error 17)"
  | .notDirectory => "Not a directory (os error 20)"
  | .isDirectory => "Is a directory (os error 21)"
  | .notText => "stream did not contain valid UTF-8"
  | .emptyPath => "cannot make an empty path absolute"
  | .stated reason => reason

/-- What is wrong with settings. -/
inductive SettingsFault
  | unknownLevel (name : String)
  | packageName (given : String)
  | noDefaultModule
  | noTarget (type : String)
  /-- the default group would bear the name of a declared module -/
  | moduleTaken (name : String)
  /-- the level of a logging that was never installed -/
  | notInstalled
  | unreadable (problem : Problem)
  /-- any other reason, in its own words -/
  | stated (reason : String)
  deriving DecidableEq, Repr

/-- The text of a settings fault. -/
def SettingsFault.message : SettingsFault → String
  | .unknownLevel name => "unknown log level: " ++ name
  | .packageName given => "base_package must be a dotted identifier, got '" ++ given ++ "'"
  | .noDefaultModule => "default_module cannot be empty"
  | .noTarget type => "type override '" ++ type ++ "' has an empty target"
  | .moduleTaken name =>
      "default_module '" ++ name ++ "' collides with a declared module of the same name"
  | .notInstalled => "logging is not initialised"
  | .unreadable problem => problem.message
  | .stated reason => reason

/-- What a record lacks. -/
inductive RecordFault
  | namelessEntity
  | noFieldList
  | namelessField
  | untypedField
  | unknownCardinality (given : String)
  | noTarget
  | namelessApplication
  /-- a name that cannot stand as one component of an output path -/
  | unusableName
  /-- any other reason, in its own words -/
  | stated (reason : String)
  deriving DecidableEq, Repr

/-- The text of a record fault. -/
def RecordFault.message : RecordFault → String
  | .namelessEntity => "entity without a name"
  | .noFieldList => "entity without a field list"
  | .namelessField => "field without a name"
  | .untypedField => "field without a type"
  | .unknownCardinality given => "unknown relationship type '" ++ given ++ "'"
  | .noTarget => "relationship without a target"
  | .namelessApplication => "application without a baseName"
  | .unusableName => "name cannot be used as an output path component"
  | .stated reason => reason

/-- Why a document could not be read. -/
inductive DocumentFault
  | unreadable (problem : Problem)
  /-- any other reason, in its own words -/
  | stated (reason : String)
  deriving DecidableEq, Repr

/-- The text of a document fault. -/
def DocumentFault.message : DocumentFault → String
  | .unreadable problem => problem.message
  | .stated reason => reason

/-- Why a run ends without a plan. -/
inductive Failure
  | noEntities
  | noApplications
  | unmappedType (entity field type : String)
  | ambiguousScope (entity : String)
  | unknownScope (entity value : String)
  | malformedRecord (kind name : String) (fault : RecordFault)
  | duplicateDeclaration (kind name : String)
  | undeclaredEntity (module entity : String)
  | undeclaredTarget (entity relationship target : String)
  | document (path : String) (fault : DocumentFault)
  | storage (path : String) (fault : StorageFault)
  | settings (fault : SettingsFault)
  deriving DecidableEq, Repr

namespace Failure

/-- The text of a failure. -/
def message : Failure → String
  | .noEntities => "no entities found in JDL source"
  | .noApplications => "no applications found in JDL source"
  | .unmappedType entity field type =>
      "unmapped field type: " ++ entity ++ "." ++ field ++ " is declared as '" ++ type ++ "'"
  | .ambiguousScope entity =>
      "ambiguous resource scope: " ++ entity ++ " is marked both tenant and business-unit scoped"
  | .unknownScope entity value =>
      "unknown resource scope on " ++ entity ++ ": '" ++ value ++ "'"
  | .malformedRecord kind name fault =>
      "malformed " ++ kind ++ " record '" ++ name ++ "': " ++ fault.message
  | .duplicateDeclaration kind name => "duplicate " ++ kind ++ " declaration: " ++ name
  | .undeclaredEntity module entity =>
      "module " ++ module ++ " references undeclared entity " ++ entity
  | .undeclaredTarget entity relationship target =>
      "relationship " ++ entity ++ "." ++ relationship ++ " targets undeclared entity " ++ target
  | .document path fault => "failed to parse " ++ path ++ ": " ++ fault.message
  | .storage path fault => "I/O error on " ++ path ++ ": " ++ fault.message
  | .settings fault => "configuration error: " ++ fault.message

/-- The stable code of a failure. -/
def code : Failure → Nat
  | .noEntities => 10
  | .noApplications => 11
  | .unmappedType .. => 20
  | .ambiguousScope .. => 21
  | .unknownScope .. => 22
  | .malformedRecord .. => 30
  | .duplicateDeclaration .. => 31
  | .undeclaredEntity .. => 32
  | .undeclaredTarget .. => 33
  | .document .. => 40
  | .storage .. => 41
  | .settings .. => 50

/-- No failure has the code of success. -/
theorem code_pos (f : Failure) : 0 < f.code := by cases f <;> simp [code]

end Failure

end EntityPlan
