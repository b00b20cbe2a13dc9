import EntityPlan.Json.Reader
import EntityPlan.Source.Record

/-! # Reading records — which members a record has, and in which order

    Each record type is the list of its members.  The order counts where a record
    is written as a list; by name the members may come in any order. -/

namespace EntityPlan.Source

open Json Json.Reader

/-- A member that may be absent or `null`. -/
def nullable {α ρ : Type} (name : String) (r : Nested α) (set : Option α → ρ → ρ) : Member ρ :=
  member name (fun levels => optional (r levels)) set

/-- Reads a text, which opens nothing. -/
def plainText : Nested String := fun _ => text

def OptionRecord.read : Nested OptionRecord :=
  record "RawOption"
    [ nullable "optionName" plainText fun a r => { r with name := a },
      nullable "optionValue" Reader.value fun a r => { r with value := a } ] {}

def ValidationRecord.read : Nested ValidationRecord :=
  record "RawValidation"
    [ nullable "key" plainText fun a r => { r with key := a },
      nullable "value" Reader.value fun a r => { r with value := a } ] {}

def FieldRecord.read : Nested FieldRecord :=
  record "RawField"
    [ nullable "name" plainText fun a r => { r with name := a },
      nullable "type" plainText fun a r => { r with type := a },
      nullable "javadoc" plainText fun a r => { r with description := a },
      nullable "validations" (sequence ValidationRecord.read)
        fun a r => { r with validations := a },
      nullable "annotations" (sequence OptionRecord.read)
        fun a r => { r with annotations := a } ] {}

def EntityRecord.read : Nested EntityRecord :=
  record "RawEntity"
    [ nullable "name" plainText fun a r => { r with name := a },
      nullable "tableName" plainText fun a r => { r with tableName := a },
      nullable "javadoc" plainText fun a r => { r with description := a },
      nullable "body" (sequence FieldRecord.read) fun a r => { r with body := a },
      nullable "annotations" (sequence OptionRecord.read)
        fun a r => { r with annotations := a } ] {}

def ApplicationConfig.read : Nested ApplicationConfig :=
  record "RawAppConfig"
    [ nullable "baseName" plainText fun a r => { r with baseName := a },
      nullable "packageName" plainText fun a r => { r with packageName := a },
      nullable "applicationType" plainText fun a r => { r with applicationType := a } ] {}

def Selection.read : Nested Selection :=
  record "RawEntitySelection"
    [ nullable "entityList" (sequence plainText) fun a r => { r with listed := a },
      nullable "excluded" (sequence plainText) fun a r => { r with excluded := a } ] {}

def ApplicationRecord.read : Nested ApplicationRecord :=
  record "RawApplication"
    [ nullable "config" ApplicationConfig.read fun a r => { r with config := a },
      nullable "entities" Selection.read fun a r => { r with entities := a },
      nullable "dto" (mapping Reader.value) fun a r => { r with dto := a },
      nullable "service" (mapping Reader.value) fun a r => { r with service := a },
      nullable "paginate" (mapping Reader.value) fun a r => { r with paginate := a },
      nullable "other" (mapping Reader.value) fun a r => { r with other := a } ] {}

def SideRecord.read : Nested SideRecord :=
  record "RawRelationshipSide"
    [ nullable "name" plainText fun a r => { r with name := a },
      nullable "injectedField" plainText fun a r => { r with injectedField := a },
      nullable "required" (fun _ => flag) fun a r => { r with required := a } ] {}

def RelationshipRecord.read : Nested RelationshipRecord :=
  record "RawRelationship"
    [ nullable "type" plainText fun a r => { r with kind := a },
      nullable "from" SideRecord.read fun a r => { r with source := a },
      nullable "to" SideRecord.read fun a r => { r with target := a } ] {}

/-- Reads an object of named records. -/
def Collection.read {α : Type} (item : Nested α) : Nested (Collection α) :=
  gathered "a map of name to record" item Collection.ofMembers

def Document.read : Nested Document :=
  record "RawJdl"
    [ member "entities" (Collection.read EntityRecord.read) fun a r => { r with entities := a },
      member "applications" (Collection.read ApplicationRecord.read)
        fun a r => { r with applications := a },
      member "relationships" (sequence RelationshipRecord.read)
        fun a r => { r with relationships := a } ] {}

/-- Reads a text; `path` says where the text came from. -/
def ofText {α : Type} (r : Nested α) (path text : String) : Except Failure α :=
  match whole r text with
  | .ok a => .ok a
  | .error p => .error (.document path (.unreadable p))

/-- The path given to a text that came from no file. -/
def unnamed : String := "<json>"

/-- Reads a document. -/
def Document.ofText (path text : String) : Except Failure Document := Source.ofText Document.read path text

end EntityPlan.Source
