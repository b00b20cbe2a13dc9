import EntityPlan.LogLevel
import EntityPlan.Settings.Basic
import EntityPlan.Text.Blank
import EntityPlan.Text.Pieces

/-! # Valid settings — what a run relies on

    The level is known, the base package is a package name, the default module is
    not blank and no type override has a blank target.  The checks are made in this
    order, and the overrides in byte order of their types. -/

namespace EntityPlan

/-- A character that an identifier may start with. -/
def startsIdentifier (c : Char) : Bool := c.isAlpha || c == '_'

/-- A letter or an underscore, then letters, digits and underscores, all of ASCII. -/
def isIdentifier (cs : List Char) : Bool :=
  match cs with
  | [] => false
  | c :: rest => startsIdentifier c && rest.all fun c => c.isAlphanum || c == '_'

/-- Identifiers with single dots between them. -/
def isPackageName (s : String) : Bool := (Text.pieces '.' s.toList).all isIdentifier

namespace Settings

/-- The first override with a blank target. -/
def blankTarget? (s : Settings) : Option String :=
  (s.types.rows.find? fun o => Text.allBlank o.2.target).map (·.1)

/-- Refuses settings that a run cannot rely on. -/
def validate (s : Settings) : Except Failure Unit := do
  let _ ← LogLevel.ofName s.logLevel
  if !isPackageName s.generation.basePackage then
    throw (.settings (.packageName s.generation.basePackage))
  if Text.allBlank s.generation.defaultModule then throw (.settings .noDefaultModule)
  match s.blankTarget? with
  | some type => throw (.settings (.noTarget type))
  | none => return ()

/-- The level that the settings name; `INFO` if they name none that is known. -/
def level (s : Settings) : LogLevel :=
  match LogLevel.ofName s.logLevel with
  | .ok level => level
  | .error _ => .info

end Settings

end EntityPlan
