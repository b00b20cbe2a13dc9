/-! # Template kinds — the templates that are filled in

    Each kind has a name and a file, relative to the directory of the templates,
    that is used unless settings name another. -/

namespace EntityPlan

/-- What a template is for. -/
inductive TemplateKind
  | resource
  | createResource
  | updateResource
  | resourceInterface
  | stateServiceInterface
  | dbEntity
  | crudRepository
  | stateServiceDbImpl
  | mappingService
  | createTableSql
  | createViewSql
  | gradleBuild
  deriving DecidableEq, Repr

namespace TemplateKind

/-- Every kind. -/
def all : List TemplateKind :=
  [ .resource, .createResource, .updateResource, .resourceInterface, .stateServiceInterface,
    .dbEntity, .crudRepository, .stateServiceDbImpl, .mappingService, .createTableSql,
    .createViewSql, .gradleBuild ]

/-- The name of a kind. -/
def name : TemplateKind → String
  | .resource => "resource"
  | .createResource => "create_resource"
  | .updateResource => "update_resource"
  | .resourceInterface => "resource_interface"
  | .stateServiceInterface => "state_service_interface"
  | .dbEntity => "db_entity"
  | .crudRepository => "crud_repository"
  | .stateServiceDbImpl => "state_service_db_impl"
  | .mappingService => "mapping_service"
  | .createTableSql => "create_table_sql"
  | .createViewSql => "create_view_sql"
  | .gradleBuild => "gradle_build"

/-- The kind of this name. -/
def ofName? (s : String) : Option TemplateKind := all.find? (·.name == s)

/-- The file of a kind that settings say nothing about. -/
def defaultFile : TemplateKind → String
  | .resource => "kotlin/model/resource.mustache"
  | .createResource => "kotlin/model/resource-create.mustache"
  | .updateResource => "kotlin/model/resource-update.mustache"
  | .resourceInterface => "kotlin/model/resource-interface.mustache"
  | .stateServiceInterface => "kotlin/model/state-service.mustache"
  | .dbEntity => "kotlin/db/entity.mustache"
  | .crudRepository => "kotlin/db/crud-repository.mustache"
  | .stateServiceDbImpl => "kotlin/db/state-service-db-impl.mustache"
  | .mappingService => "kotlin/db/mapping-service.mustache"
  | .createTableSql => "sql/create-table.mustache"
  | .createViewSql => "sql/create-view.mustache"
  | .gradleBuild => "common/build.gradle.kts.mustache"

/-- A kind is found under its name. -/
theorem ofName?_name (k : TemplateKind) : ofName? k.name = some k := by cases k <;> rfl

end TemplateKind

end EntityPlan
