import EntityPlan.Diagnostics.Traced
import EntityPlan.Entity
import EntityPlan.Text.Blank

/-! # Scopes — who may see the rows of an entity

    An entity has one scope and two capabilities, all told by its annotations.  The
    business unit is the narrower scope: an entity marked for a tenant and for a
    business unit has that of the business unit, with a warning, unless the policy
    is strict. -/

namespace EntityPlan

/-- Who may see the rows of an entity. -/
inductive Scope
  | unscoped
  | tenant
  | businessUnit
  deriving DecidableEq, Repr, Inhabited

namespace Scope

/-- The name of a scope. -/
def name : Scope → String
  | .unscoped => "UnscopedResource"
  | .tenant => "TenantResource"
  | .businessUnit => "BusinessUnitResource"

/-- Every scope. -/
def all : List Scope := [.unscoped, .tenant, .businessUnit]

/-- The scope of this name. -/
def ofName? (s : String) : Option Scope := all.find? (·.name == s)

/-- The tag of a scope. -/
def tag : Scope → String
  | .unscoped => "unscoped"
  | .tenant => "tenantScoped"
  | .businessUnit => "businessUnitScoped"

/-- The table whose columns every entity of this scope has. -/
def baseColumns : Scope → String
  | .unscoped => "_common_unscoped_resource_columns"
  | .tenant => "_common_tenant_resource_columns"
  | .businessUnit => "_common_business_unit_resource_columns"

/-- A scope is found under its name. -/
theorem ofName?_name (s : Scope) : ofName? s.name = some s := by cases s <;> rfl

end Scope

/-- What becomes of an entity marked for a tenant and for a business unit. -/
inductive ScopePolicy
  /-- it has the scope of the business unit -/
  | precedence
  /-- it is refused -/
  | strict
  deriving DecidableEq, Repr

/-- The policy that settings ask for. -/
def ScopePolicy.ofStrict (strict : Bool) : ScopePolicy := if strict then .strict else .precedence

/-- The scope and the capabilities of an entity. -/
structure Classification where
  scope : Scope
  auditable : Bool
  searchable : Bool
  deriving DecidableEq, Repr

namespace Classification

/-- The annotation that names a scope. -/
def scopeAnnotation : String := "resourceType"

/-- The scope that a value of the annotation names, blanks around it not counting. -/
def declaredScope (entity value : String) : Except Failure Scope :=
  match Scope.ofName? (Text.trim value) with
  | some s => .ok s
  | none => .error (.unknownScope entity value)

/-- The scopes that the annotations name, in order. -/
def declaredScopes (e : Entity) : Except Failure (List Scope) :=
  (e.annotationValues scopeAnnotation).mapM (declaredScope e.name)

/-- The entity is marked with a scope, by name or by its tag. -/
def isMarked (e : Entity) (declared : List Scope) (s : Scope) : Bool :=
  e.hasAnnotation s.tag || declared.contains s

/-- The part of the program that its warnings name. -/
def target : String := "jdlgen_model::resource"

/-- The warning about an entity with two scopes. -/
def doubleScope (entity : String) : Event where
  level := .warn
  target := target
  message := "entity is both tenant and business-unit scoped, using BusinessUnitResource"
  details := [("entity", entity)]

/-- The scope of an entity marked with these. -/
def chooseScope (policy : ScopePolicy) (entity : String) (businessUnit tenant : Bool) :
    Traced Scope :=
  match businessUnit, tenant, policy with
  | true, true, .strict => .fail (.ambiguousScope entity)
  | true, true, .precedence => do
      .log (doubleScope entity)
      return .businessUnit
  | true, false, _ => pure .businessUnit
  | false, true, _ => pure .tenant
  | false, false, _ => pure .unscoped

/-- The scope and the capabilities of an entity. -/
def ofEntity (policy : ScopePolicy) (e : Entity) : Traced Classification := do
  let declared ← .ofExcept (declaredScopes e)
  let scope ← chooseScope policy e.name (isMarked e declared .businessUnit)
    (isMarked e declared .tenant)
  return ⟨scope, e.hasAnnotation "auditable", e.hasAnnotation "searchable"⟩

end Classification

end EntityPlan
