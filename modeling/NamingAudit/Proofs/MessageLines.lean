import Mathlib.Data.List.Basic
import NamingAudit.Catalogue
import NamingAudit.Proofs.Admission
import NamingAudit.Proofs.Names
import NamingAudit.Proofs.RoutePaths

/-! Line ends in messages. Identifiers hold no white space, and no case style and no change of number
brings any in, so most messages of the built-in rules are one line whatever the fact is. Five rules
repeat a text as it stands, the suffix of controllers, a file name, the extension of one or a route
parameter, and their messages break where that text does. -/

namespace NamingAudit

namespace Identifier
open NamingAudit.Casing NamingAudit.Inflection NamingAudit.Text

variable {separator : Char} {text other : List Char} {pieces : List (List Char)}

theorem IsBlankless.newline_not_mem (blankless : IsBlankless text) : '\n' ∉ text := fun member =>
  absurd (blankless '\n' member) (by decide)

theorem isBlankless_of_isIdentifier {value : String} (valid : IsIdentifier value) :
    IsBlankless value.toList := isBlankless_iff.mpr valid.2

theorem IsBlankless.of_subset (blankless : IsBlankless text) (inside : other ⊆ text) :
    IsBlankless other := fun c member => blankless c (inside member)

theorem IsBlankless.append (blankless : IsBlankless text) (blanklessToo : IsBlankless other) :
    IsBlankless (text ++ other) := fun c member =>
  (List.mem_append.mp member).elim (blankless c) (blanklessToo c)

theorem isBlankless_toSnake (ident : List Char) : IsBlankless (toSnake ident) :=
  isBlankless_joinWith rfl fun _ => isBlankless_of_mem_words

theorem isBlankless_toKebab (ident : List Char) : IsBlankless (toKebab ident) :=
  isBlankless_joinWith rfl fun _ => isBlankless_of_mem_words

theorem isBlankless_toPascal (ident : List Char) : IsBlankless (toPascal ident) :=
  isBlankless_joinPascal fun _ => isBlankless_of_mem_words

theorem isBlankless_toCamel (ident : List Char) : IsBlankless (toCamel ident) := by
  have blankless : ∀ word ∈ Casing.words ident, IsBlankless word := fun _ => isBlankless_of_mem_words
  rw [toCamel]
  cases split : Casing.words ident with
  | nil => exact fun c absent => absurd absent List.not_mem_nil
  | cons first rest =>
    rw [split, List.forall_mem_cons] at blankless
    exact blankless.1.append (isBlankless_joinPascal blankless.2)

theorem isBlankless_recased {recase : List Char → List Char} (solid : isBlank separator = false)
    (blankless : ∀ piece, IsBlankless (recase piece)) :
    IsBlankless (joinWith separator (pieces.map recase)) := by
  refine isBlankless_joinWith solid fun piece member => ?_
  obtain ⟨origin, _, rfl⟩ := List.mem_map.mp member
  exact blankless origin

theorem isBlank_of_isAsciiAlphanumeric {c : Char} (ascii : isAsciiAlphanumeric c = true) :
    isBlank c = false := by
  have kept := isDelimiter_of_isAsciiAlphanumeric ascii
  simp only [isDelimiter, Bool.or_eq_false_iff] at kept
  exact kept.2

theorem isBlankless_of_isCamel (camel : Casing.isCamel text = true) : IsBlankless text := by
  simp only [Casing.isCamel, isCapitalizedWords, Bool.and_eq_true, List.all_eq_true] at camel
  exact fun c member => isBlank_of_isAsciiAlphanumeric (camel.2.1 c member)

theorem isBlankless_of_isDelimitedLower (solid : isBlank separator = false)
    (delimited : isDelimitedLower separator text = true) : IsBlankless text := by
  simp only [isDelimitedLower, Bool.and_eq_true, List.all_eq_true, Bool.or_eq_true,
    beq_iff_eq] at delimited
  intro c member
  rcases delimited.2 c member with (small | digit) | rfl
  · exact isBlank_of_isAsciiLower small
  · exact isBlank_of_isAsciiAlphanumeric (by simp [isAsciiAlphanumeric, digit])
  · exact solid

end Identifier

namespace Text

variable {c : Char} {separator path : List Char} {pieces : List (List Char)}

theorem mem_intercalate_iff (outside : c ∉ separator) :
    c ∈ separator.intercalate pieces ↔ c ∈ pieces.flatten := by
  induction pieces with
  | nil => simp
  | cons first rest ih =>
    cases rest with
    | nil => simp
    | cons second rest =>
      rw [List.intercalate_cons_cons, List.mem_append, List.mem_append, ih, or_iff_left outside,
        ← List.mem_append, ← List.flatten_cons]

theorem mem_intercalate_map_iff {α : Type} {separator : String} {make : α → String} {has : α → Prop}
    (outside : c ∉ separator.toList) (made : ∀ item, c ∈ (make item).toList ↔ has item)
    (items : List α) :
    c ∈ (separator.intercalate (items.map make)).toList ↔ ∃ item ∈ items, has item := by
  rw [String.toList_intercalate, mem_intercalate_iff outside, List.map_map, ← List.flatMap_def,
    List.mem_flatMap]
  exact exists_congr fun item => and_congr_right fun _ => made item

theorem baseName_subset (path : List Char) : baseName path ⊆ path := fun c member => by
  have front := (List.takeWhile_sublist _).subset (List.mem_reverse.mp member)
  exact List.mem_reverse.mp front

theorem fileParts_subset (path : List Char) :
    (fileParts path).1 ⊆ path ∧ (fileParts path).2 ⊆ path := by
  rw [fileParts]
  split
  · exact ⟨baseName_subset path, List.nil_subset path⟩
  · exact ⟨fun c member => baseName_subset path ((List.takeWhile_sublist _).subset member),
      fun c member => baseName_subset path ((List.dropWhile_sublist _).subset member)⟩

theorem subset_of_beforeEnding? {ending stem : List Char}
    (found : beforeEnding? ending path = some stem) : stem ⊆ path := fun c member => by
  rw [beforeEnding?_eq_some_iff.mp found]
  exact List.mem_append_left ending member

theorem subset_of_afterBeginning? {beginning rest : List Char}
    (found : afterBeginning? beginning path = some rest) : rest ⊆ path := fun c member => by
  rw [afterBeginning?_eq_some_iff.mp found]
  exact List.mem_append_right beginning member

end Text

inductive Verdict.BreaksLike (text : List Char) : Verdict → Prop where
  | pass : BreaksLike text .pass
  | violation {finding : Finding} (same : '\n' ∈ finding.message.toList ↔ '\n' ∈ text) :
      BreaksLike text (.violation finding)

namespace Rules
open NamingAudit.Casing NamingAudit.Identifier NamingAudit.Text Verdict

variable {text : List Char} {verdict : Verdict}

theorem breaksLike_ite {passes : Prop} [Decidable passes]
    (like : ¬ passes → BreaksLike text verdict) :
    BreaksLike text (if passes then .pass else verdict) := by
  split
  · exact .pass
  · next other => exact like other

theorem breaksLike_nil {finding : Finding} (whole : '\n' ∉ finding.message.toList) :
    BreaksLike [] (.violation finding) :=
  .violation (iff_of_false whole List.not_mem_nil)

theorem controllerName_breaksLike (suffix : String) (decl : ClassDecl) :
    BreaksLike suffix.toList (controllerName suffix decl) := by
  have whole (name : String) := (isBlankless_singularPascal name).newline_not_mem
  rw [controllerName]
  refine breaksLike_ite fun _ => ?_
  split
  · exact .violation (by simp [Finding.replacing, whole])
  · rw [controllerStem]
    split
    · exact .violation (by simp [Finding.plain])
    · refine breaksLike_ite fun _ => .violation ?_
      rw [nounProblem]
      split <;> simp [Finding.replacing, whole]

theorem modelName_breaksLike (decl : ClassDecl) : BreaksLike [] (modelName decl) := by
  have whole (name : String) := (isBlankless_singularPascal name).newline_not_mem
  rw [modelName]
  refine breaksLike_ite fun _ => breaksLike_ite fun _ => ?_
  split
  · exact breaksLike_nil (by simp [Finding.plain])
  · rw [nounProblem]
    split <;> exact breaksLike_nil (by simp [Finding.replacing, whole])

theorem classPascalCase_breaksLike (decl : ClassDecl) : BreaksLike [] (classPascalCase decl) := by
  have whole := (isBlankless_toPascal decl.name.toList).newline_not_mem
  rw [classPascalCase]
  exact breaksLike_ite fun _ => breaksLike_nil (by simp [Finding.replacing, pascal, whole])

theorem classFileName_breaksLike {decl : ClassDecl} (named : IsIdentifier decl.name) :
    BreaksLike (baseName (decl.fileName.getD "").toList) (classFileName decl) := by
  have whole := (isBlankless_of_isIdentifier named).newline_not_mem
  rw [classFileName]
  split
  · exact .pass
  · next fileName found =>
    rw [found, Option.getD_some, fileNamedAfter]
    refine breaksLike_ite fun _ => .violation ?_
    have extension : (cutAtDot (baseName fileName.toList)).2 ⊆ baseName fileName.toList :=
      (List.dropWhile_sublist _).subset
    split <;> simp [whole]
    exact fun member => extension member

theorem withoutSuffix_breaksLike {suffix name : String} (suffixWhole : '\n' ∉ suffix.toList)
    (named : IsIdentifier name) : BreaksLike [] (withoutSuffix suffix name) := by
  rw [withoutSuffix]
  split
  · exact .pass
  · exact .pass
  · next stem found =>
    have whole := ((isBlankless_of_isIdentifier named).of_subset
      (subset_of_beforeEnding? found)).newline_not_mem
    exact breaksLike_nil (by simp [Finding.replacing, whole, suffixWhole])

theorem noTypeSuffix_breaksLike {decl : ClassDecl} (named : IsIdentifier decl.name) :
    BreaksLike [] (noTypeSuffix decl) := by
  rw [noTypeSuffix]
  split
  · exact withoutSuffix_breaksLike (by decide) named
  · exact withoutSuffix_breaksLike (by decide) named
  · exact .pass

theorem methodCamelCase_breaksLike (decl : MethodDecl) : BreaksLike [] (methodCamelCase decl) := by
  have whole := (isBlankless_toCamel decl.name.toList).newline_not_mem
  rw [methodCamelCase]
  exact breaksLike_ite fun _ => breaksLike_nil (by simp [Finding.replacing, camel, whole])

theorem resourceActionVerb_breaksLike {decl : MethodDecl} (named : IsIdentifier decl.name) :
    BreaksLike [] (resourceActionVerb decl) := by
  have whole := (isBlankless_of_isIdentifier named).newline_not_mem
  have verbs (verb : HttpVerb) : '\n' ∉ verb.name.toList := by cases verb <;> decide
  rw [resourceActionVerb]
  refine breaksLike_ite fun _ => ?_
  split
  · exact .pass
  · refine breaksLike_ite fun _ => breaksLike_nil ?_
    -- No name of a verb holds a line end, so a list of them holds one only by its separator.
    have joined {separator : String} (outside : '\n' ∉ separator.toList) (used : List HttpVerb) :
        '\n' ∉ (separator.intercalate (used.map HttpVerb.name)).toList := by
      rw [mem_intercalate_map_iff outside fun verb => iff_false_intro (verbs verb)]
      simp
    have allowedWhole := joined (by decide : '\n' ∉ "/".toList)
    have unexpectedWhole := joined (by decide : '\n' ∉ ", ".toList)
    simp only [Finding.plain, String.toList_append, List.mem_append, whole, allowedWhole,
      unexpectedWhole]
    simp

theorem isBlankless_normalizedSegment (segment : List Char) :
    IsBlankless (normalizedSegment segment) := by
  rw [normalizedSegment]
  split
  · next placeholder =>
    obtain ⟨inner, rfl⟩ := isPlaceholder_iff.mp placeholder
    rw [normalizedPlaceholder_braced]
    have camel := isBlankless_toCamel inner
    intro c member
    simp only [braced, List.mem_cons, List.mem_append, List.not_mem_nil, or_false] at member
    rcases member with rfl | inside | rfl
    · rfl
    · exact camel c inside
    · rfl
  split
  · next ordinary url =>
    simp only [isUrlSegment, ordinary, Bool.or_false, Bool.or_eq_true, List.isEmpty_iff,
      List.all_eq_true] at url
    rcases url with (rfl | kebab) | digits
    · exact fun c absent => absurd absent List.not_mem_nil
    · exact isBlankless_of_isDelimitedLower rfl kebab
    · exact fun c member => isBlank_of_isAsciiAlphanumeric (by
        simp [isAsciiAlphanumeric, digits c member])
  · exact isBlankless_toKebab segment

theorem isBlankless_normalizedPath (path : List Char) : IsBlankless (normalizedPath path) := by
  rw [normalizedPath]
  split
  · exact fun c member => by
      rw [List.mem_singleton.mp member]
      rfl
  · exact isBlankless_recased rfl isBlankless_normalizedSegment

theorem pathViolation_breaksLike {complaint : String} (whole : '\n' ∉ complaint.toList)
    (path : String) : BreaksLike [] (pathViolation complaint path) := by
  have wholeToo := (isBlankless_normalizedPath path.toList).newline_not_mem
  exact breaksLike_nil (by simp [whole, wholeToo])

theorem routeUrlKebabCase_breaksLike (decl : RouteDecl) :
    BreaksLike [] (routeUrlKebabCase decl) := by
  rw [routeUrlKebabCase]
  exact breaksLike_ite fun _ => pathViolation_breaksLike (by decide) decl.path

theorem routeLeadingSlash_breaksLike (decl : RouteDecl) :
    BreaksLike [] (routeLeadingSlash decl) := by
  rw [routeLeadingSlash]
  exact breaksLike_ite fun _ => pathViolation_breaksLike (by decide) decl.path

theorem routeNameCamelCase_breaksLike (decl : RouteDecl) :
    BreaksLike [] (routeNameCamelCase decl) := by
  have whole (name : List Char) : '\n' ∉ dottedCamel name :=
    (isBlankless_recased rfl isBlankless_toCamel).newline_not_mem
  rw [routeNameCamelCase]
  split
  · exact .pass
  · exact breaksLike_ite fun _ => breaksLike_nil (by simp [Finding.replacing, whole])

theorem routeParamCamelCase_breaksLike (decl : RouteDecl) :
    BreaksLike (parametersOf decl).flatten (routeParamCamelCase decl) := by
  have whole (parameter : List Char) := (isBlankless_toCamel parameter).newline_not_mem
  have separator : '\n' ∉ ", ".toList := by decide
  have listed (offending : List (List Char)) :
      '\n' ∈ (", ".intercalate (offending.map parameterComplaint)).toList ↔
        ∃ parameter ∈ offending, '\n' ∈ parameter := by
    refine mem_intercalate_map_iff separator (fun parameter => ?_) offending
    simp [parameterComplaint, whole]
  -- The parameters that the message leaves out are in camel case and hold no line end.
  have camels (parameters : List (List Char)) :
      (∃ parameter ∈ parameters.filter fun parameter => !Casing.isCamel parameter,
        '\n' ∈ parameter) ↔ '\n' ∈ parameters.flatten := by
    simp only [List.mem_filter, List.mem_flatten, and_assoc]
    refine exists_congr fun parameter => and_congr_right fun _ => and_iff_right_of_imp fun broken => ?_
    cases camel : Casing.isCamel parameter with
    | false => rfl
    | true => exact absurd broken (isBlankless_of_isCamel camel).newline_not_mem
  rw [routeParamCamelCase]
  refine breaksLike_ite fun _ => ?_
  dsimp only
  split <;>
  · refine .violation ?_
    rw [← camels, ← listed]
    simp [Finding.plain]

theorem tableName_breaksLike (decl : TableDecl) : BreaksLike [] (tableName decl) := by
  have whole := (isBlankless_pluralSnake decl.name).newline_not_mem
  rw [tableName]
  exact breaksLike_ite fun _ => breaksLike_ite fun _ =>
    breaksLike_nil (by simp [Finding.replacing, whole])

theorem columnSnakeCase_breaksLike (decl : ColumnDecl) : BreaksLike [] (columnSnakeCase decl) := by
  have whole := (isBlankless_toSnake decl.name.toList).newline_not_mem
  rw [columnSnakeCase]
  exact breaksLike_ite fun _ => breaksLike_nil (by simp [Finding.replacing, snake, whole])

theorem redundantRest?_subset {decl : ColumnDecl} {rest : String}
    (found : redundantRest? decl = some rest) : rest.toList ⊆ decl.name.toList := by
  rw [redundantRest?] at found
  cases behind : afterBeginning? (singularSnake decl.table ++ "_").toList decl.name.toList with
  | none =>
    rw [behind] at found
    contradiction
  | some chars =>
    rw [behind] at found
    have inside := subset_of_afterBeginning? behind
    cases chars with
    | nil => simp at found
    | cons first more =>
      dsimp only at found
      split at found
      · simp at found
      · rwa [← Option.some.inj found, String.toList_ofList]

theorem columnModelPrefix_breaksLike {decl : ColumnDecl} (inTable : IsIdentifier decl.table)
    (named : IsIdentifier decl.name) : BreaksLike [] (columnModelPrefix decl) := by
  have tableWhole := (isBlankless_of_isIdentifier inTable).newline_not_mem
  have blankless := isBlankless_of_isIdentifier named
  rw [columnModelPrefix]
  refine breaksLike_ite fun _ => ?_
  split
  · exact .pass
  · next rest found =>
    have inside := redundantRest?_subset found
    have whole := (blankless.of_subset inside).newline_not_mem
    exact breaksLike_nil (by simp [Finding.replacing, whole, tableWhole, blankless.newline_not_mem])

theorem pivotTableName_breaksLike (pivot : PivotTable) : BreaksLike [] (pivotTableName pivot) := by
  have whole (name : String) := (isBlankless_singularSnake name).newline_not_mem
  rw [pivotTableName]
  refine breaksLike_ite fun _ => breaksLike_nil ?_
  rw [pivotName]
  split <;> simp [Finding.replacing, whole]

theorem foreignKeyName_breaksLike {key : ForeignKeyRef} (inTable : IsIdentifier key.table)
    (named : IsIdentifier key.column) (referring : IsIdentifier key.referencedModel) :
    BreaksLike [] (foreignKeyName key) := by
  have tableWhole := (isBlankless_of_isIdentifier inTable).newline_not_mem
  have columnWhole := (isBlankless_of_isIdentifier named).newline_not_mem
  have modelWhole := (isBlankless_of_isIdentifier referring).newline_not_mem
  have expectedWhole := (isBlankless_singularSnake key.referencedModel).newline_not_mem
  rw [foreignKeyName]
  refine breaksLike_ite fun _ => breaksLike_nil ?_
  simp [Finding.replacing, tableWhole, columnWhole, modelWhole, expectedWhole]

theorem configFileKebabCase_breaksLike (entry : ConfigEntry) :
    BreaksLike (fileParts entry.file.toList).2 (configFileKebabCase entry) := by
  rw [configFileKebabCase]
  obtain ⟨stem, extension⟩ := fileParts entry.file.toList
  have whole := (isBlankless_toKebab stem).newline_not_mem
  exact breaksLike_ite fun _ => .violation (by simp [whole])

theorem isBlankless_keySegment (segment : List Char) : IsBlankless (keySegment segment) := by
  rw [keySegment]
  split
  · next key =>
    simp only [isKeySegment, Bool.or_eq_true, Bool.and_eq_true, List.all_eq_true] at key
    rcases key with snake | ⟨_, digits⟩
    · exact isBlankless_of_isDelimitedLower rfl snake
    · exact fun c member => isBlank_of_isAsciiAlphanumeric (by
        simp [isAsciiAlphanumeric, digits c member])
  · exact isBlankless_toSnake segment

theorem configKeySnakeCase_breaksLike (entry : ConfigEntry) :
    BreaksLike [] (configKeySnakeCase entry) := by
  have whole : '\n' ∉ dottedKey entry.key.toList :=
    (isBlankless_recased rfl isBlankless_keySegment).newline_not_mem
  rw [configKeySnakeCase]
  exact breaksLike_ite fun _ => breaksLike_nil (by simp [whole])

theorem descriptionVerdict_breaksLike {stamp extension : List Char} (stampWhole : '\n' ∉ stamp)
    (extensionWhole : '\n' ∉ extension) (description : List Char) :
    BreaksLike [] (descriptionVerdict stamp description extension) := by
  have whole := (isBlankless_toSnake description).newline_not_mem
  rw [descriptionVerdict]
  exact breaksLike_ite fun _ => breaksLike_nil (by simp [stampWhole, extensionWhole, whole])

theorem migrationFileName_breaksLike {file : MigrationFile} (named : IsIdentifier file.name)
    (stamped : ∀ stamp ∈ file.timestamp, IsIdentifier stamp) :
    BreaksLike [] (migrationFileName file) := by
  have blankless := isBlankless_of_isIdentifier named
  have inside := fileParts_subset file.name.toList
  rw [migrationFileName]
  generalize fileParts file.name.toList = parts at inside ⊢
  obtain ⟨stem, extension⟩ := parts
  have stemBlankless := blankless.of_subset inside.1
  have stemWhole := stemBlankless.newline_not_mem
  have extensionWhole := (blankless.of_subset inside.2).newline_not_mem
  dsimp only
  cases parted : migrationParts? stem with
  | none => exact breaksLike_nil (by simp [Finding.plain, stemWhole])
  | some parts =>
    obtain ⟨stamp, description⟩ := parts
    have stampWhole : '\n' ∉ stamp := by
      rw [migrationParts?] at parted
      split at parted
      · cases parted
        exact (stemBlankless.of_subset (List.take_subset _ _)).newline_not_mem
      · contradiction
    dsimp only
    split
    · next recorded found =>
      have recordedWhole := (isBlankless_of_isIdentifier
        (stamped recorded (Option.filter_eq_some_iff.mp found).1)).newline_not_mem
      exact breaksLike_nil (by simp [Finding.plain, stampWhole, recordedWhole])
    · split
      · exact breaksLike_nil (by simp [Finding.plain, stemWhole])
      · exact descriptionVerdict_breaksLike stampWhole extensionWhole description

theorem viewFileCamelCase_breaksLike (extensions : List String) (file : ViewFile) :
    BreaksLike (viewParts extensions file.path.toList).2 (viewFileCamelCase extensions file) := by
  rw [viewFileCamelCase]
  obtain ⟨stem, extension⟩ := viewParts extensions file.path.toList
  have whole := (isBlankless_toCamel stem).newline_not_mem
  exact breaksLike_ite fun _ => .violation (by simp [whole])

theorem commandNameKebabCase_breaksLike (decl : CommandDecl) :
    BreaksLike [] (commandNameKebabCase decl) := by
  have whole : '\n' ∉ colonKebab decl.name.toList :=
    (isBlankless_recased rfl isBlankless_toKebab).newline_not_mem
  rw [commandNameKebabCase]
  exact breaksLike_ite fun _ => breaksLike_nil (by simp [Finding.replacing, whole])

theorem validationRuleSnakeCase_breaksLike (rule : ValidationRule) :
    BreaksLike [] (validationRuleSnakeCase rule) := by
  have whole := (isBlankless_toSnake rule.identifier.toList).newline_not_mem
  rw [validationRuleSnakeCase]
  exact breaksLike_ite fun _ => breaksLike_nil (by simp [Finding.replacing, snake, whole])

end Rules

def Rule.BreaksLike (text : Fact.Payload → List Char) (rule : Rule) : Prop :=
  ∀ fact : Fact, ∀ verdict, rule.check fact = .verdict verdict →
    verdict.BreaksLike (text fact.payload)

theorem breaksLike_checkOf {α : Type} {id code description : String} {kind : FactKind}
    {severity : Severity} {select : Fact.Payload → Option α} {judge : α → Verdict}
    {text : Fact.Payload → List Char}
    (like : ∀ payload part, select payload = some part → (judge part).BreaksLike (text payload)) :
    Rule.BreaksLike text ⟨id, code, description, kind, severity, Rule.checkOf kind select judge⟩ := by
  intro fact verdict checked
  change Rule.checkOf kind select judge fact = .verdict verdict at checked
  rw [Rule.checkOf] at checked
  split at checked
  · next part selected =>
    cases checked
    exact like fact.payload part selected
  · contradiction

namespace Catalogue
open NamingAudit.Rules

/-- The text that the messages of a rule repeat as it stands. -/
def repeated (options : RuleOptions) (id : String) : Fact.Payload → List Char
  | .classDecl decl =>
    if id = controllerNameId then options.controllerSuffix.toList
    else if id = "class-file-name" then Text.baseName (decl.fileName.getD "").toList
    else []
  | .route decl => if id = "route-param-camel-case" then (parametersOf decl.toRouteDecl).flatten else []
  | .configEntry entry =>
    if id = "config-file-kebab-case" then (Text.fileParts entry.file.toList).2 else []
  | .view file => (viewParts options.viewExtensions file.path.toList).2
  | _ => []

variable (options : RuleOptions)

theorem classRules_breakLike :
    (classRules options).Forall fun rule => rule.BreaksLike (repeated options rule.id) := by
  have onClass {id code description : String} {severity : Severity} {judge : ClassDecl → Verdict}
      (like : ∀ decl : Fact.Class,
        (judge decl.toClassDecl).BreaksLike (repeated options id (.classDecl decl))) :
      Rule.BreaksLike (repeated options id)
        ⟨id, code, description, .classDecl, severity, Rule.onClass judge⟩ := by
    refine breaksLike_checkOf fun payload part selected => ?_
    cases payload <;> cases selected
    exact like _
  refine ⟨onClass fun decl => ?_, onClass fun decl => ?_, onClass fun decl => ?_,
    onClass fun decl => ?_, onClass fun decl => ?_⟩
  · exact controllerName_breaksLike options.controllerSuffix decl.toClassDecl
  · exact modelName_breaksLike decl.toClassDecl
  · exact classPascalCase_breaksLike decl.toClassDecl
  · exact classFileName_breaksLike decl.named
  · exact noTypeSuffix_breaksLike decl.named

theorem methodRules_breakLike :
    methodRules.Forall fun rule => rule.BreaksLike (repeated options rule.id) := by
  refine ⟨breaksLike_checkOf fun payload part selected => ?_,
    breaksLike_checkOf fun payload part selected => ?_⟩ <;>
    cases payload <;> cases selected
  · exact methodCamelCase_breaksLike _
  · next decl => exact resourceActionVerb_breaksLike decl.named

theorem routeRules_breakLike :
    routeRules.Forall fun rule => rule.BreaksLike (repeated options rule.id) := by
  refine ⟨breaksLike_checkOf fun payload part selected => ?_,
    breaksLike_checkOf fun payload part selected => ?_,
    breaksLike_checkOf fun payload part selected => ?_,
    breaksLike_checkOf fun payload part selected => ?_⟩ <;>
    cases payload <;> cases selected
  · exact routeUrlKebabCase_breaksLike _
  · exact routeLeadingSlash_breaksLike _
  · exact routeNameCamelCase_breaksLike _
  · exact routeParamCamelCase_breaksLike _

theorem databaseRules_breakLike :
    databaseRules.Forall fun rule => rule.BreaksLike (repeated options rule.id) := by
  refine ⟨breaksLike_checkOf fun payload part selected => ?_,
    breaksLike_checkOf fun payload part selected => ?_,
    breaksLike_checkOf fun payload part selected => ?_,
    breaksLike_checkOf fun payload part selected => ?_,
    breaksLike_checkOf fun payload part selected => ?_⟩ <;>
    cases payload <;> cases selected
  · exact tableName_breaksLike _
  · exact columnSnakeCase_breaksLike _
  · next decl => exact columnModelPrefix_breaksLike decl.inTable decl.named
  · exact pivotTableName_breaksLike _
  · next key => exact foreignKeyName_breaksLike key.inTable key.named key.referring

theorem fileRules_breakLike :
    (fileRules options).Forall fun rule => rule.BreaksLike (repeated options rule.id) := by
  refine ⟨breaksLike_checkOf fun payload part selected => ?_,
    breaksLike_checkOf fun payload part selected => ?_,
    breaksLike_checkOf fun payload part selected => ?_,
    breaksLike_checkOf fun payload part selected => ?_⟩ <;>
    cases payload <;> cases selected
  · exact configFileKebabCase_breaksLike _
  · exact configKeySnakeCase_breaksLike _
  · next file => exact migrationFileName_breaksLike file.named file.stamped
  · exact viewFileCamelCase_breaksLike options.viewExtensions _

theorem commandRules_breakLike :
    commandRules.Forall fun rule => rule.BreaksLike (repeated options rule.id) := by
  refine ⟨breaksLike_checkOf fun payload part selected => ?_,
    breaksLike_checkOf fun payload part selected => ?_⟩ <;>
    cases payload <;> cases selected
  · exact commandNameKebabCase_breaksLike _
  · exact validationRuleSnakeCase_breaksLike _

theorem rules_breakLike :
    (rules options).Forall fun rule => rule.BreaksLike (repeated options rule.id) := by
  simp only [rules, List.forall_append]
  exact ⟨⟨⟨⟨⟨classRules_breakLike options, methodRules_breakLike options⟩,
    routeRules_breakLike options⟩, databaseRules_breakLike options⟩, fileRules_breakLike options⟩,
    commandRules_breakLike options⟩

end Catalogue

end NamingAudit
