import NamingAudit.Catalogue
import Mathlib.Data.List.Forall2

/-! Which identifier the fixes of a built-in rule rewrite, and where they are reported. Every rule has
one target and one scope for all its fixes, whatever branch of it suggests them. -/

namespace NamingAudit

/-- A fix of the verdict, if it has one, rewrites the target and is reported in the scope. -/
inductive Verdict.Fixes (target : FixTarget) (scope : Scope) : Verdict → Prop where
  | pass : Fixes target scope .pass
  | unmended {message : String} {named : FixTarget} {reported : Scope} :
      Fixes target scope (.violation ⟨message, none, named, reported⟩)
  | mended {message fix : String} :
      Fixes target scope (.violation ⟨message, some fix, target, scope⟩)

namespace Verdict.Fixes
variable {target : FixTarget} {scope : Scope}

theorem ite {condition : Prop} [Decidable condition] {first second : Verdict}
    (yes : first.Fixes target scope) (no : second.Fixes target scope) :
    (if condition then first else second).Fixes target scope := by
  split
  · exact yes
  · exact no

theorem eq_of_fix {finding : Finding} (fixes : (Verdict.violation finding).Fixes target scope)
    (mended : finding.fix.isSome = true) : finding.target = target ∧ finding.scope = scope := by
  cases fixes with
  | unmended => contradiction
  | mended => exact ⟨rfl, rfl⟩

end Verdict.Fixes

namespace Rules

theorem fixes_controllerName (suffix : String) (decl : ClassDecl) :
    (controllerName suffix decl).Fixes .name .fact := by
  refine .ite .pass ?_
  cases Text.beforeEnding? suffix.toList decl.name.toList with
  | none => exact .mended
  | some stem => exact .ite .unmended (.ite .pass .mended)

theorem fixes_modelName (decl : ClassDecl) : (modelName decl).Fixes .name .fact :=
  .ite .pass (.ite .pass (.ite .unmended .mended))

theorem fixes_classPascalCase (decl : ClassDecl) : (classPascalCase decl).Fixes .name .fact :=
  .ite .pass .mended

theorem fixes_classFileName (decl : ClassDecl) : (classFileName decl).Fixes .fileName .fact := by
  rw [classFileName]
  cases decl.fileName with
  | none => exact .pass
  | some fileName => exact .ite .pass .mended

theorem fixes_withoutSuffix (suffix name : String) :
    (withoutSuffix suffix name).Fixes .name .fact := by
  rw [withoutSuffix]
  split
  · exact .pass
  · exact .pass
  · exact .mended

theorem fixes_noTypeSuffix (decl : ClassDecl) : (noTypeSuffix decl).Fixes .name .fact := by
  rw [noTypeSuffix]
  split
  · exact fixes_withoutSuffix "Interface" decl.name
  · exact fixes_withoutSuffix "Trait" decl.name
  · exact .pass

theorem fixes_methodCamelCase (decl : MethodDecl) : (methodCamelCase decl).Fixes .name .fact :=
  .ite .pass .mended

theorem fixes_resourceActionVerb (decl : MethodDecl) :
    (resourceActionVerb decl).Fixes .name .fact := by
  refine .ite .pass ?_
  cases resourceActions.lookup decl.name with
  | none => exact .pass
  | some allowed => exact .ite .pass .unmended

theorem fixes_routeUrlKebabCase (decl : RouteDecl) : (routeUrlKebabCase decl).Fixes .path .fact :=
  .ite .pass .mended

theorem fixes_routeLeadingSlash (decl : RouteDecl) : (routeLeadingSlash decl).Fixes .path .fact :=
  .ite .pass .mended

theorem fixes_routeNameCamelCase (decl : RouteDecl) :
    (routeNameCamelCase decl).Fixes .name .fact := by
  rw [routeNameCamelCase]
  cases decl.name with
  | none => exact .pass
  | some name => exact .ite .pass .mended

theorem fixes_routeParamCamelCase (decl : RouteDecl) :
    (routeParamCamelCase decl).Fixes .path .fact :=
  .ite .pass (.ite .unmended .mended)

theorem fixes_tableName (decl : TableDecl) : (tableName decl).Fixes .name .fact :=
  .ite .pass (.ite .pass .mended)

theorem fixes_columnSnakeCase (decl : ColumnDecl) : (columnSnakeCase decl).Fixes .name .fact :=
  .ite .pass .mended

theorem fixes_columnModelPrefix (decl : ColumnDecl) :
    (columnModelPrefix decl).Fixes .name .fact := by
  refine .ite .pass ?_
  cases redundantRest? decl with
  | none => exact .pass
  | some rest => exact .mended

theorem fixes_pivotTableName (pivot : PivotTable) : (pivotTableName pivot).Fixes .name .fact := by
  rw [pivotTableName]
  exact .ite .pass .mended

theorem fixes_foreignKeyName (key : ForeignKeyRef) : (foreignKeyName key).Fixes .name .fact :=
  .ite .pass .mended

theorem fixes_configFileKebabCase (entry : ConfigEntry) :
    (configFileKebabCase entry).Fixes .fileName .file :=
  .ite .pass .mended

theorem fixes_configKeySnakeCase (entry : ConfigEntry) :
    (configKeySnakeCase entry).Fixes .key .fact :=
  .ite .pass .mended

theorem fixes_migrationFileName (file : MigrationFile) :
    (migrationFileName file).Fixes .fileName .fact := by
  rw [migrationFileName]
  split
  split
  · exact .unmended
  · split
    · exact .unmended
    · exact .ite .unmended (.ite .pass .mended)

theorem fixes_viewFileCamelCase (extensions : List String) (file : ViewFile) :
    (viewFileCamelCase extensions file).Fixes .fileName .file :=
  .ite .pass .mended

theorem fixes_commandNameKebabCase (decl : CommandDecl) :
    (commandNameKebabCase decl).Fixes .name .fact :=
  .ite .pass .mended

theorem fixes_validationRuleSnakeCase (rule : ValidationRule) :
    (validationRuleSnakeCase rule).Fixes .name .fact :=
  .ite .pass .mended

end Rules

structure RuleShape where
  id : String
  kind : FactKind
  target : FixTarget
  scope : Scope
deriving DecidableEq, Repr

structure Rule.HasShape (rule : Rule) (shape : RuleShape) : Prop where
  id : rule.id = shape.id
  kind : rule.appliesTo = shape.kind
  fixes : ∀ fact verdict, rule.check fact = .verdict verdict →
    verdict.Fixes shape.target shape.scope

theorem Rule.hasShape_checkOf {α : Type} {id code description : String} {kind : FactKind}
    {severity : Severity} {select : Fact.Payload → Option α} {judge : α → Verdict}
    {target : FixTarget} {scope : Scope} (every : ∀ payload, (judge payload).Fixes target scope) :
    Rule.HasShape ⟨id, code, description, kind, severity, checkOf kind select judge⟩
      ⟨id, kind, target, scope⟩ := by
  refine ⟨rfl, rfl, fun fact verdict checked => ?_⟩
  change checkOf kind select judge fact = .verdict verdict at checked
  rw [checkOf] at checked
  split at checked
  · cases checked
    exact every _
  · contradiction

namespace Catalogue

def classShapes : List RuleShape :=
  [⟨controllerNameId, .classDecl, .name, .fact⟩, ⟨"model-name", .classDecl, .name, .fact⟩,
    ⟨"class-pascal-case", .classDecl, .name, .fact⟩,
    ⟨"class-file-name", .classDecl, .fileName, .fact⟩,
    ⟨"no-type-suffix", .classDecl, .name, .fact⟩]

def methodShapes : List RuleShape :=
  [⟨"method-camel-case", .method, .name, .fact⟩, ⟨"resource-action-verb", .method, .name, .fact⟩]

def routeShapes : List RuleShape :=
  [⟨"route-url-kebab-case", .route, .path, .fact⟩, ⟨"route-leading-slash", .route, .path, .fact⟩,
    ⟨"route-name-camel-case", .route, .name, .fact⟩,
    ⟨"route-param-camel-case", .route, .path, .fact⟩]

def databaseShapes : List RuleShape :=
  [⟨"table-name", .table, .name, .fact⟩, ⟨"column-snake-case", .column, .name, .fact⟩,
    ⟨"column-model-prefix", .column, .name, .fact⟩,
    ⟨"pivot-table-name", .pivotTable, .name, .fact⟩,
    ⟨"foreign-key-name", .foreignKey, .name, .fact⟩]

def fileShapes : List RuleShape :=
  [⟨"config-file-kebab-case", .configEntry, .fileName, .file⟩,
    ⟨"config-key-snake-case", .configEntry, .key, .fact⟩,
    ⟨"migration-file-name", .migration, .fileName, .fact⟩, ⟨viewFileId, .view, .fileName, .file⟩]

def commandShapes : List RuleShape :=
  [⟨"command-name-kebab-case", .command, .name, .fact⟩,
    ⟨"validation-rule-snake-case", .validationRule, .name, .fact⟩]

def shapes : List RuleShape :=
  classShapes ++ methodShapes ++ routeShapes ++ databaseShapes ++ fileShapes ++ commandShapes

theorem classRules_shaped (options : RuleOptions) :
    List.Forall₂ Rule.HasShape (classRules options) classShapes :=
  .cons (Rule.hasShape_checkOf (Rules.fixes_controllerName _)) <|
  .cons (Rule.hasShape_checkOf Rules.fixes_modelName) <|
  .cons (Rule.hasShape_checkOf Rules.fixes_classPascalCase) <|
  .cons (Rule.hasShape_checkOf Rules.fixes_classFileName) <|
  .cons (Rule.hasShape_checkOf Rules.fixes_noTypeSuffix) .nil

theorem methodRules_shaped : List.Forall₂ Rule.HasShape methodRules methodShapes :=
  .cons (Rule.hasShape_checkOf Rules.fixes_methodCamelCase) <|
  .cons (Rule.hasShape_checkOf Rules.fixes_resourceActionVerb) .nil

theorem routeRules_shaped : List.Forall₂ Rule.HasShape routeRules routeShapes :=
  .cons (Rule.hasShape_checkOf Rules.fixes_routeUrlKebabCase) <|
  .cons (Rule.hasShape_checkOf Rules.fixes_routeLeadingSlash) <|
  .cons (Rule.hasShape_checkOf Rules.fixes_routeNameCamelCase) <|
  .cons (Rule.hasShape_checkOf Rules.fixes_routeParamCamelCase) .nil

theorem databaseRules_shaped : List.Forall₂ Rule.HasShape databaseRules databaseShapes :=
  .cons (Rule.hasShape_checkOf Rules.fixes_tableName) <|
  .cons (Rule.hasShape_checkOf Rules.fixes_columnSnakeCase) <|
  .cons (Rule.hasShape_checkOf Rules.fixes_columnModelPrefix) <|
  .cons (Rule.hasShape_checkOf Rules.fixes_pivotTableName) <|
  .cons (Rule.hasShape_checkOf Rules.fixes_foreignKeyName) .nil

theorem fileRules_shaped (options : RuleOptions) :
    List.Forall₂ Rule.HasShape (fileRules options) fileShapes :=
  .cons (Rule.hasShape_checkOf Rules.fixes_configFileKebabCase) <|
  .cons (Rule.hasShape_checkOf Rules.fixes_configKeySnakeCase) <|
  .cons (Rule.hasShape_checkOf Rules.fixes_migrationFileName) <|
  .cons (Rule.hasShape_checkOf (Rules.fixes_viewFileCamelCase _)) .nil

theorem commandRules_shaped : List.Forall₂ Rule.HasShape commandRules commandShapes :=
  .cons (Rule.hasShape_checkOf Rules.fixes_commandNameKebabCase) <|
  .cons (Rule.hasShape_checkOf Rules.fixes_validationRuleSnakeCase) .nil

theorem rules_shaped (options : RuleOptions) :
    List.Forall₂ Rule.HasShape (rules options) shapes :=
  List.rel_append (List.rel_append (List.rel_append (List.rel_append (List.rel_append
    (classRules_shaped options) methodRules_shaped) routeRules_shaped) databaseRules_shaped)
    (fileRules_shaped options)) commandRules_shaped

theorem exists_shape {options : RuleOptions} {rule : Rule} (member : rule ∈ rules options) :
    ∃ shape ∈ shapes, rule.HasShape shape := by
  have shaped := rules_shaped options
  obtain ⟨position, bound, rfl⟩ := List.mem_iff_getElem.mp member
  have inside : position < shapes.length := shaped.length_eq ▸ bound
  exact ⟨shapes[position], List.getElem_mem inside, shaped.get bound inside⟩

end Catalogue

end NamingAudit
