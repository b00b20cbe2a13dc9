import EntityPlan.Settings.Validation
import EntityPlan.Toml.Decoding
import EntityPlan.Toml.Document

/-! # Reading settings — a TOML document with defaults

    Whatever a document leaves out has its default, and what it holds besides is
    passed over.  Only the target of a type override is needed. -/

namespace EntityPlan

open Toml

def Directories.read : Node → Except Problem Directories :=
  record "PathsSection"
    [ member "template_base" pathText fun a r => { r with templates := ⟨a⟩ },
      member "input_dir" pathText fun a r => { r with input := ⟨a⟩ },
      member "output_dir" pathText fun a r => { r with output := ⟨a⟩ } ] {}

def Generation.read : Node → Except Problem Generation :=
  record "GenerationSection"
    [ member "base_package" text fun a r => { r with basePackage := a },
      member "group" text fun a r => { r with group := a },
      member "version" text fun a r => { r with version := a },
      member "default_module" text fun a r => { r with defaultModule := a },
      member "strict_scoping" flag fun a r => { r with strictScoping := a } ] {}

/-- The members of a type override. -/
def TypeOverride.members : List (Member TypeOverride) :=
  [ member "target" text fun a r => { r with target := a },
    member "import" text fun a r => { r with importName := some a },
    member "db_type" text fun a r => { r with columnType := some a },
    member "db_domain" text fun a r => { r with domain := some a },
    member "example" text fun a r => { r with sample := some a } ]

/-- Reads a type override, which needs a target. -/
def TypeOverride.read (node : Node) : Except Problem TypeOverride := do
  if (items? node).any (·.isEmpty) then
    throw (.wrongLength 0 "struct TypeOverride with 5 elements")
  let r ← record "TypeOverride" members { target := "" } node
  if (rows? node).any fun rows => (rows.lookup "target").isNone then
    throw (.missingField "target")
  return r

/-- Reads the template file of a kind. -/
def TemplateKind.readFile (name : String) (node : Node) : Except Problem (TemplateKind × String) :=
  match ofName? name with
  | some kind => (text node).map (kind, ·)
  | none => .error (.unknownVariant name (all.map (·.name)))

/-- Reads a type override under its type. -/
def TypeOverride.readRow (type : String) (node : Node) : Except Problem (String × TypeOverride) :=
  (read node).map (type, ·)

namespace Settings

/-- Reads settings. -/
def read : Node → Except Problem Settings :=
  record "CodegenConfig"
    [ member "log_level" text fun a r => { r with logLevel := a },
      member "paths" Directories.read fun a r => { r with directories := a },
      member "templates" (mapping TemplateKind.readFile) fun a r => { r with templates := a },
      member "generation" Generation.read fun a r => { r with generation := a },
      member "types" (mapping TypeOverride.readRow) fun a r => { r with types := .ofList a } ] {}

/-- The settings of a document, valid or not. -/
def ofDocument (text : String) : Except Failure Settings :=
  match Toml.ofText text >>= fun rows => read (.table .header rows) with
  | .ok s => .ok s
  | .error p => .error (.settings (.unreadable p))

/-- The settings of a document, if they are valid. -/
def ofText (text : String) : Except Failure Settings := do
  let s ← ofDocument text
  s.validate
  return s

end Settings

end EntityPlan
