import NamingAudit.Rules.ClassNames
import NamingAudit.Rules.MethodNames
import NamingAudit.Rules.Routes
import NamingAudit.Rules.Database
import NamingAudit.Rules.ConfigFiles
import NamingAudit.Rules.FileNames
import NamingAudit.Rules.CommandNames

/-! The built-in rules in the order of their codes, and the options that two of them take. -/

namespace NamingAudit

structure RuleOptions where
  controllerSuffix : String
  viewExtensions : List String

def RuleOptions.standard : RuleOptions := ⟨"Controller", [".blade.php", ".php"]⟩

namespace Catalogue

def controllerNameId : String := "controller-name"

def viewFileId : String := "view-file-camel-case"

def classRules (options : RuleOptions) : List Rule :=
  [ { id := controllerNameId
      code := "CL001"
      description := "Controller names are a singular PascalCase noun plus `Controller`"
      appliesTo := .classDecl
      defaultSeverity := .error
      check := Rule.onClass (Rules.controllerName options.controllerSuffix) },
    { id := "model-name"
      code := "CL002"
      description := "Model names are a singular PascalCase noun"
      appliesTo := .classDecl
      defaultSeverity := .error
      check := Rule.onClass Rules.modelName },
    { id := "class-pascal-case"
      code := "CL003"
      description := "Class, interface and trait names are PascalCase"
      appliesTo := .classDecl
      defaultSeverity := .warning
      check := Rule.onClass Rules.classPascalCase },
    { id := "class-file-name"
      code := "CL004"
      description := "Class files are named exactly after the class they declare"
      appliesTo := .classDecl
      defaultSeverity := .error
      check := Rule.onClass Rules.classFileName },
    { id := "no-type-suffix"
      code := "CL005"
      description := "Interfaces and traits do not repeat their kind as a name suffix"
      appliesTo := .classDecl
      defaultSeverity := .warning
      check := Rule.onClass Rules.noTypeSuffix } ]

def methodRules : List Rule :=
  [ { id := "method-camel-case"
      code := "CL010"
      description := "Method names are camelCase"
      appliesTo := .method
      defaultSeverity := .warning
      check := Rule.onMethod Rules.methodCamelCase },
    { id := "resource-action-verb"
      code := "CL011"
      description := "Resource controller actions are routed by their conventional HTTP verb"
      appliesTo := .method
      defaultSeverity := .warning
      check := Rule.onMethod Rules.resourceActionVerb } ]

def routeRules : List Rule :=
  [ { id := "route-url-kebab-case"
      code := "CL020"
      description := "Route URL segments are kebab-case"
      appliesTo := .route
      defaultSeverity := .error
      check := Rule.onRoute Rules.routeUrlKebabCase },
    { id := "route-leading-slash"
      code := "CL021"
      description := "Route URLs have no leading slash unless the path is the root"
      appliesTo := .route
      defaultSeverity := .error
      check := Rule.onRoute Rules.routeLeadingSlash },
    { id := "route-name-camel-case"
      code := "CL022"
      description := "Route names are camelCase with dot-separated hierarchy (users.showActive)"
      appliesTo := .route
      defaultSeverity := .warning
      check := Rule.onRoute Rules.routeNameCamelCase },
    { id := "route-param-camel-case"
      code := "CL023"
      description := "Route parameters are camelCase"
      appliesTo := .route
      defaultSeverity := .warning
      check := Rule.onRoute Rules.routeParamCamelCase } ]

def databaseRules : List Rule :=
  [ { id := "table-name"
      code := "CL030"
      description := "Table names are plural snake_case"
      appliesTo := .table
      defaultSeverity := .error
      check := Rule.onTable Rules.tableName },
    { id := "column-snake-case"
      code := "CL031"
      description := "Column names are snake_case"
      appliesTo := .column
      defaultSeverity := .warning
      check := Rule.onColumn Rules.columnSnakeCase },
    { id := "column-model-prefix"
      code := "CL032"
      description := "Column names do not repeat the model name of their table"
      appliesTo := .column
      defaultSeverity := .info
      check := Rule.onColumn Rules.columnModelPrefix },
    { id := "pivot-table-name"
      code := "CL033"
      description := "Pivot tables are two singular model names in alphabetical order"
      appliesTo := .pivotTable
      defaultSeverity := .error
      check := Rule.onPivotTable Rules.pivotTableName },
    { id := "foreign-key-name"
      code := "CL034"
      description := "Foreign keys are the singular referenced model name plus `_id`"
      appliesTo := .foreignKey
      defaultSeverity := .error
      check := Rule.onForeignKey Rules.foreignKeyName } ]

def fileRules (options : RuleOptions) : List Rule :=
  [ { id := "config-file-kebab-case"
      code := "CL040"
      description := "Config file names are kebab-case"
      appliesTo := .configEntry
      defaultSeverity := .warning
      check := Rule.onConfigEntry Rules.configFileKebabCase },
    { id := "config-key-snake-case"
      code := "CL041"
      description := "Config keys are snake_case"
      appliesTo := .configEntry
      defaultSeverity := .warning
      check := Rule.onConfigEntry Rules.configKeySnakeCase },
    { id := "migration-file-name"
      code := "CL050"
      description := "Migration files are a timestamp prefix plus a snake_case description"
      appliesTo := .migration
      defaultSeverity := .error
      check := Rule.onMigration Rules.migrationFileName },
    { id := viewFileId
      code := "CL060"
      description := "View file names are camelCase"
      appliesTo := .view
      defaultSeverity := .warning
      check := Rule.onView (Rules.viewFileCamelCase options.viewExtensions) } ]

def commandRules : List Rule :=
  [ { id := "command-name-kebab-case"
      code := "CL070"
      description := "Console command names are kebab-case with `:` namespaces"
      appliesTo := .command
      defaultSeverity := .warning
      check := Rule.onCommand Rules.commandNameKebabCase },
    { id := "validation-rule-snake-case"
      code := "CL080"
      description := "Validation rule identifiers are snake_case"
      appliesTo := .validationRule
      defaultSeverity := .warning
      check := Rule.onValidationRule Rules.validationRuleSnakeCase } ]

def rules (options : RuleOptions) : List Rule :=
  classRules options ++ methodRules ++ routeRules ++ databaseRules ++ fileRules options
    ++ commandRules

end Catalogue

end NamingAudit
