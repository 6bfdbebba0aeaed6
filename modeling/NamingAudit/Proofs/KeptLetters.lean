import NamingAudit.Proofs.CaseBlindReadings
import NamingAudit.Proofs.DelimitedFixes
import NamingAudit.Proofs.IdentifierTexts

/-! What fixes for casing keep. A text without its separators and in small letters is its skeleton. Where the
text is in ASCII, a rule that asks for another casing suggests one with the same skeleton, whatever it drops
and puts between the words: no letter, digit or other mark is lost, repeated or moved. -/

namespace NamingAudit

namespace Casing
open NamingAudit.Text

variable {c separator : Char} {text extension : List Char} {pieces : List (List Char)}
  {recase : List Char → List Char}

/-- What a fix for casing may put in or leave out: delimiters, and the colon between name spaces. -/
def isSeparator (c : Char) : Bool := isDelimiter c || c == ':'

def readLetters (c : Char) : List Char := if isSeparator c then [] else lower c

def skeleton (text : List Char) : List Char := text.flatMap readLetters

def IsAscii (text : List Char) : Prop := ∀ c ∈ text, c.toNat < 0x80

instance (text : List Char) : Decidable (IsAscii text) :=
  decidable_of_iff ((text.all fun c => decide (c.toNat < 0x80)) = true) (by simp [IsAscii])

theorem of_ascii {p : Char → Prop} (table : ∀ code < 0x80, p (Char.ofNat code)) (ascii : c.toNat < 0x80) :
    p c := by
  have entry := table c.toNat ascii
  rwa [Char.ofNat_toNat] at entry

theorem isCaseBlind_readLetters : IsCaseBlind readLetters fun c => c.toNat < 0x80 where
  fits_lower c d ascii reached := by
    have lowered : ((lower c).all fun d => decide (d.toNat < 0x80)) = true :=
      of_ascii (p := fun c => ((lower c).all fun d => decide (d.toNat < 0x80)) = true)
        (by decide +kernel) ascii
    exact of_decide_eq_true (List.all_eq_true.mp lowered d reached)
  read_lower c ascii :=
    of_ascii (p := fun c => (lower c).flatMap readLetters = readLetters c) (by decide +kernel) ascii
  read_upper c ascii :=
    of_ascii (p := fun c => (upper c).flatMap readLetters = readLetters c) (by decide +kernel) ascii
  read_delimiter c delimiter := by rw [readLetters, isSeparator, delimiter, Bool.true_or, if_pos rfl]

@[simp] theorem skeleton_append (front rest : List Char) :
    skeleton (front ++ rest) = skeleton front ++ skeleton rest := List.flatMap_append

theorem skeleton_toSnake (ascii : IsAscii text) : skeleton (toSnake text) = skeleton text :=
  isCaseBlind_readLetters.read_toSnake ascii

theorem skeleton_toKebab (ascii : IsAscii text) : skeleton (toKebab text) = skeleton text :=
  isCaseBlind_readLetters.read_toKebab ascii

theorem skeleton_toCamel (ascii : IsAscii text) : skeleton (toCamel text) = skeleton text :=
  isCaseBlind_readLetters.read_toCamel ascii

theorem skeleton_toPascal (ascii : IsAscii text) : skeleton (toPascal text) = skeleton text :=
  isCaseBlind_readLetters.read_toPascal ascii

theorem skeleton_recased_pieces (keeps : ∀ piece ∈ pieces, skeleton (recase piece) = skeleton piece) :
    skeleton ((pieces.filter fun piece => !piece.isEmpty).map recase).flatten =
      skeleton pieces.flatten := by
  induction pieces with
  | nil => rfl
  | cons first rest ih =>
    rw [List.forall_mem_cons] at keeps
    rw [List.filter_cons, List.flatten_cons, skeleton_append, ← ih keeps.2]
    cases first with
    | nil => rfl
    | cons c more => simp [keeps.1]

theorem skeleton_recased_splitOn (silent : isSeparator separator = true) (ascii : IsAscii text)
    (keeps : ∀ piece, IsAscii piece → skeleton (recase piece) = skeleton piece) :
    skeleton (joinWith separator
      (((splitOn separator text).filter fun piece => !piece.isEmpty).map recase)) = skeleton text := by
  have unread : readLetters separator = [] := by rw [readLetters, silent, if_pos rfl]
  have kept : ∀ piece ∈ splitOn separator text, skeleton (recase piece) = skeleton piece :=
    fun piece member => keeps piece fun c inside => ascii c (mem_of_mem_splitOn member inside)
  calc skeleton (joinWith separator
        (((splitOn separator text).filter fun piece => !piece.isEmpty).map recase))
      = skeleton (((splitOn separator text).filter fun piece => !piece.isEmpty).map recase).flatten :=
        read_joinWith unread _
    _ = skeleton (splitOn separator text).flatten := skeleton_recased_pieces kept
    _ = skeleton (joinWith separator (splitOn separator text)) := (read_joinWith unread _).symm
    _ = skeleton text := by rw [joinWith_splitOn]

end Casing

namespace Text

theorem fileParts_joined (path : List Char) : (fileParts path).1 ++ (fileParts path).2 = baseName path := by
  rw [fileParts]
  split
  · exact List.append_nil _
  · exact List.takeWhile_append_dropWhile

theorem baseName_baseName (path : List Char) : baseName (baseName path) = baseName path :=
  @baseName_append (baseName path) [] rfl fun _ => isSlash_of_mem_baseName

end Text

/-- The part of an identifier that a fix of the target takes the place of: of a file its name without
directories, and of a path what stands behind the slashes in front, the root aside. -/
def FixTarget.part (target : FixTarget) (text : List Char) : List Char :=
  match target with
  | .name | .key => text
  | .fileName => Text.baseName text
  | .path => if (text.dropWhile (· == '/')).isEmpty then ['/'] else text.dropWhile (· == '/')

/-- There is a text to replace, and every replacement of the part has its skeleton, if that is in ASCII. -/
def Verdict.KeepsLetters (target : FixTarget) (original : Option String) (verdict : Verdict) : Prop :=
  ∀ fix, verdict.Suggests fix → ∃ text, original = some text ∧
    (Casing.IsAscii (target.part text.toList) →
      Casing.skeleton fix.toList = Casing.skeleton (target.part text.toList))

theorem Recases.keepsLetters {rule : String → Verdict} {accepted : List Char → Bool}
    {recase : List Char → List Char} {target : FixTarget} {text : String}
    (recases : Recases rule accepted recase)
    (keeps : Casing.IsAscii (target.part text.toList) →
      Casing.skeleton (recase text.toList) = Casing.skeleton (target.part text.toList)) :
    (rule text).KeepsLetters target (some text) := by
  intro fix suggests
  refine ⟨text, rfl, fun ascii => ?_⟩
  rw [recases.eq_of_suggests suggests, String.toList_ofList, keeps ascii]

namespace Rules
open NamingAudit.Text NamingAudit.Casing

variable {fix : String} {path stem stamp description : List Char}

theorem classPascalCase_keepsLetters (decl : ClassDecl) :
    (classPascalCase decl).KeepsLetters .name (some decl.name) :=
  (classPascalCase_recases decl).keepsLetters skeleton_toPascal

theorem methodCamelCase_keepsLetters (decl : MethodDecl) :
    (methodCamelCase decl).KeepsLetters .name (some decl.name) :=
  (methodCamelCase_recases decl).keepsLetters skeleton_toCamel

theorem columnSnakeCase_keepsLetters (decl : ColumnDecl) :
    (columnSnakeCase decl).KeepsLetters .name (some decl.name) :=
  (columnSnakeCase_recases decl).keepsLetters skeleton_toSnake

theorem validationRuleSnakeCase_keepsLetters (rule : ValidationRule) :
    (validationRuleSnakeCase rule).KeepsLetters .name (some rule.identifier) :=
  (validationRuleSnakeCase_recases rule).keepsLetters skeleton_toSnake

theorem skeleton_keySegment {segment : List Char} (ascii : IsAscii segment) :
    skeleton (keySegment segment) = skeleton segment := by
  rw [keySegment]
  split
  · rfl
  · exact skeleton_toSnake ascii

theorem configKeySnakeCase_keepsLetters (entry : ConfigEntry) :
    (configKeySnakeCase entry).KeepsLetters .key (some entry.key) :=
  (configKeySnakeCase_recases entry).keepsLetters fun ascii =>
    skeleton_recased_splitOn rfl ascii fun _ => skeleton_keySegment

theorem commandNameKebabCase_keepsLetters (decl : CommandDecl) :
    (commandNameKebabCase decl).KeepsLetters .name (some decl.name) :=
  (commandNameKebabCase_recases decl).keepsLetters fun ascii =>
    skeleton_recased_splitOn rfl ascii fun _ => skeleton_toKebab

theorem routeNameCamelCase_keepsLetters (decl : RouteDecl) :
    (routeNameCamelCase decl).KeepsLetters .name decl.name := by
  intro fix suggests
  cases named : decl.name with
  | none =>
    rw [routeNameCamelCase_of_none named] at suggests
    exact absurd suggests (Verdict.not_suggests_pass fix)
  | some name =>
    have given : { decl with name := some name } = decl := by rw [← named]
    have kept : (routeNameCamelCase { decl with name := some name }).KeepsLetters .name (some name) :=
      (routeNameCamelCase_recases decl).keepsLetters fun ascii =>
        skeleton_recased_splitOn rfl ascii fun _ => skeleton_toCamel
    exact kept fix (given.symm ▸ suggests)

theorem eq_of_pathRule_suggests {decl : RouteDecl} {rule : RouteDecl → Verdict}
    (listed : rule ∈ pathRules) (suggests : (rule decl).Suggests fix) :
    fix = String.ofList (normalizedPath decl.path.toList) := by
  obtain ⟨finding, violated, suggested⟩ := suggests
  rcases fix_of_pathRule listed violated with normalized | ⟨none, _⟩
  · rw [normalized] at suggested
    exact (Option.some.inj suggested).symm
  · rw [none] at suggested
    contradiction

theorem skeleton_normalizedPath (ascii : IsAscii (FixTarget.path.part path)) :
    skeleton (normalizedPath path) = skeleton (FixTarget.path.part path) := by
  by_cases root : path.dropWhile (· == '/') = []
  · simp [normalizedPath, FixTarget.part, root]
  · have part : FixTarget.path.part path = path.dropWhile (· == '/') := by
      simp [FixTarget.part, root]
    rw [part] at ascii ⊢
    exact read_normalizedPath isCaseBlind_readLetters root ascii

theorem pathRules_keepLetters {decl : RouteDecl} {rule : RouteDecl → Verdict}
    (listed : rule ∈ pathRules) : (rule decl).KeepsLetters .path (some decl.path) := by
  intro fix suggests
  refine ⟨decl.path, rfl, fun ascii => ?_⟩
  rw [eq_of_pathRule_suggests listed suggests, String.toList_ofList, skeleton_normalizedPath ascii]

theorem skeleton_recased_stem {recase : List Char → List Char} {base : List Char} {stem extension : List Char}
    (joined : stem ++ extension = base) (ascii : IsAscii base)
    (keeps : ∀ text, IsAscii text → skeleton (recase text) = skeleton text) :
    skeleton (recase stem ++ extension) = skeleton base := by
  have asciiStem : IsAscii stem := fun c inside => ascii c (joined ▸ List.mem_append_left _ inside)
  rw [skeleton_append, keeps stem asciiStem, ← skeleton_append, joined]

theorem configFileKebabCase_keepsLetters (entry : ConfigEntry) :
    (configFileKebabCase entry).KeepsLetters .fileName (some entry.file) :=
  (configFileKebabCase_recases entry).keepsLetters fun ascii =>
    skeleton_recased_stem (fileParts_joined entry.file.toList) ascii fun _ => skeleton_toKebab

theorem viewParts_joined (extensions : List String) (path : List Char) :
    (viewParts extensions path).1 ++ (viewParts extensions path).2 = baseName path := by
  simp only [viewParts]
  split
  · next ending found =>
    obtain ⟨stem, joined⟩ := suffix_of_largestEnding? found
    rw [← joined, List.length_append, Nat.add_sub_cancel_right, List.take_left]
  · rw [fileParts_joined, baseName_baseName]

theorem viewFileCamelCase_recases (extensions : List String) :
    Recases (fun path => viewFileCamelCase extensions ⟨path⟩)
      (fun path => isCamel (viewParts extensions path).1)
      (fun path => toCamel (viewParts extensions path).1 ++ (viewParts extensions path).2) :=
  Recases.ite (fun path => isCamel (viewParts extensions path).1)
    (fun path => toCamel (viewParts extensions path).1 ++ (viewParts extensions path).2) fun _ => rfl

theorem viewFileCamelCase_keepsLetters (extensions : List String) (file : ViewFile) :
    (viewFileCamelCase extensions file).KeepsLetters .fileName (some file.path) :=
  (viewFileCamelCase_recases extensions).keepsLetters fun ascii =>
    skeleton_recased_stem (viewParts_joined extensions file.path.toList) ascii fun _ => skeleton_toCamel

theorem eq_of_migrationParts? (parts : migrationParts? stem = some (stamp, description))
    (described : description ≠ []) : stem = stamp ++ '_' :: description := by
  rw [migrationParts?] at parts
  split at parts
  · simp only [Option.some.injEq, Prod.mk.injEq] at parts
    obtain ⟨front, rest⟩ := parts
    cases behind : afterBeginning? ['_'] (stem.drop timestampLength) with
    | none =>
      rw [behind, Option.getD_none] at rest
      exact absurd rest.symm described
    | some text =>
      rw [behind, Option.getD_some] at rest
      rw [← List.take_append_drop timestampLength stem, front, afterBeginning?_eq_some_iff.mp behind,
        rest, List.singleton_append]
  · contradiction

theorem described_of_migrationFileName_suggests {file : MigrationFile}
    (parts : migrationParts? (fileParts file.name.toList).1 = some (stamp, description))
    (suggests : (migrationFileName file).Suggests fix) : description ≠ [] := by
  rintro rfl
  simp only [migrationFileName, parts] at suggests
  split at suggests
  · exact absurd (Verdict.suggests_violation_iff.mp suggests) (Option.some_ne_none fix).symm
  · exact absurd (Verdict.suggests_violation_iff.mp suggests) (Option.some_ne_none fix).symm

theorem migrationFileName_keepsLetters (file : MigrationFile) :
    (migrationFileName file).KeepsLetters .fileName (some file.name) := by
  intro fix suggests
  refine ⟨file.name, rfl, fun ascii => ?_⟩
  cases parts : migrationParts? (fileParts file.name.toList).1 with
  | none =>
    simp only [migrationFileName, parts] at suggests
    exact absurd (Verdict.suggests_violation_iff.mp suggests) (Option.some_ne_none fix).symm
  | some found =>
    obtain ⟨stamp, description⟩ := found
    have stem := eq_of_migrationParts? parts (described_of_migrationFileName_suggests parts suggests)
    obtain ⟨_, rfl⟩ := of_migrationFileName_suggests parts suggests
    have joined := fileParts_joined file.name.toList
    rw [stem] at joined
    have asciiDescription : IsAscii description := fun c inside => ascii c (by
      rw [FixTarget.part, ← joined]
      simp [inside])
    rw [String.toList_ofList, FixTarget.part, ← joined]
    rw [← List.singleton_append (l := description)]
    simp only [skeleton_append, skeleton_toSnake asciiDescription, List.append_assoc]

end Rules

def Rule.KeepsLetters (rule : Rule) : Prop :=
  ∀ fact finding fix, rule.check fact = .verdict (.violation finding) → finding.fix = some fix →
    ∃ text, fact.payload.identifierText? finding.target = some text ∧
      (Casing.IsAscii (finding.target.part text.toList) →
        Casing.skeleton fix.toList = Casing.skeleton (finding.target.part text.toList))

theorem keepsLetters_checkOf {α : Type} {id code description : String} {kind : FactKind}
    {severity : Severity} {select : Fact.Payload → Option α} {judge : α → Verdict}
    {target : FixTarget} {scope : Scope} (fixes : ∀ part, (judge part).Fixes target scope)
    (keeps : ∀ payload part, select payload = some part →
      (judge part).KeepsLetters target (payload.identifierText? target)) :
    Rule.KeepsLetters ⟨id, code, description, kind, severity, Rule.checkOf kind select judge⟩ := by
  intro fact finding fix checked suggested
  change Rule.checkOf kind select judge fact = .verdict (.violation finding) at checked
  rw [Rule.checkOf] at checked
  split at checked
  · next part selected =>
    have violated : judge part = .violation finding := Outcome.verdict.inj checked
    have aimed := ((violated ▸ fixes part).eq_of_fix (by rw [suggested]; rfl)).1
    rw [aimed]
    exact keeps fact.payload part selected fix ⟨finding, violated, suggested⟩
  · contradiction

namespace Catalogue
open NamingAudit.Rules

def casingIds : List String :=
  ["class-pascal-case", "method-camel-case", "route-url-kebab-case", "route-leading-slash",
    "route-param-camel-case", "route-name-camel-case", "column-snake-case", "config-file-kebab-case",
    "config-key-snake-case", "migration-file-name", "view-file-camel-case", "command-name-kebab-case",
    "validation-rule-snake-case"]

-- None of them is misspelled.
example : ∀ id ∈ casingIds, id ∈ shapes.map RuleShape.id := by decide

variable (options : RuleOptions)

theorem classRules_keepLetters :
    (classRules options).Forall fun rule => rule.id ∈ casingIds → rule.KeepsLetters := by
  refine ⟨?_, ?_, fun _ => keepsLetters_checkOf fixes_classPascalCase fun payload part selected => ?_,
    ?_, ?_⟩
  case refine_3 =>
    cases payload <;> cases selected
    exact classPascalCase_keepsLetters _
  all_goals
    intro listed
    simp [casingIds, controllerNameId] at listed

theorem methodRules_keepLetters :
    methodRules.Forall fun rule => rule.id ∈ casingIds → rule.KeepsLetters := by
  refine ⟨fun _ => keepsLetters_checkOf fixes_methodCamelCase fun payload part selected => ?_,
    fun listed => absurd listed (by decide)⟩
  cases payload <;> cases selected
  exact methodCamelCase_keepsLetters _

theorem routeRules_keepLetters :
    routeRules.Forall fun rule => rule.id ∈ casingIds → rule.KeepsLetters := by
  refine ⟨fun _ => keepsLetters_checkOf fixes_routeUrlKebabCase fun payload part selected => ?_,
    fun _ => keepsLetters_checkOf fixes_routeLeadingSlash fun payload part selected => ?_,
    fun _ => keepsLetters_checkOf fixes_routeNameCamelCase fun payload part selected => ?_,
    fun _ => keepsLetters_checkOf fixes_routeParamCamelCase fun payload part selected => ?_⟩ <;>
    cases payload <;> cases selected
  · exact pathRules_keepLetters (by simp [pathRules])
  · exact pathRules_keepLetters (by simp [pathRules])
  · exact routeNameCamelCase_keepsLetters _
  · exact pathRules_keepLetters (by simp [pathRules])

theorem databaseRules_keepLetters :
    databaseRules.Forall fun rule => rule.id ∈ casingIds → rule.KeepsLetters := by
  refine ⟨?_, fun _ => keepsLetters_checkOf fixes_columnSnakeCase fun payload part selected => ?_,
    ?_, ?_, ?_⟩
  case refine_2 =>
    cases payload <;> cases selected
    exact columnSnakeCase_keepsLetters _
  all_goals exact fun listed => absurd listed (by decide)

theorem fileRules_keepLetters :
    (fileRules options).Forall fun rule => rule.id ∈ casingIds → rule.KeepsLetters := by
  refine ⟨fun _ => keepsLetters_checkOf fixes_configFileKebabCase fun payload part selected => ?_,
    fun _ => keepsLetters_checkOf fixes_configKeySnakeCase fun payload part selected => ?_,
    fun _ => keepsLetters_checkOf fixes_migrationFileName fun payload part selected => ?_,
    fun _ => keepsLetters_checkOf (fixes_viewFileCamelCase _) fun payload part selected => ?_⟩ <;>
    cases payload <;> cases selected
  · exact configFileKebabCase_keepsLetters _
  · exact configKeySnakeCase_keepsLetters _
  · exact migrationFileName_keepsLetters _
  · exact viewFileCamelCase_keepsLetters options.viewExtensions _

theorem commandRules_keepLetters :
    commandRules.Forall fun rule => rule.id ∈ casingIds → rule.KeepsLetters := by
  refine ⟨fun _ => keepsLetters_checkOf fixes_commandNameKebabCase fun payload part selected => ?_,
    fun _ => keepsLetters_checkOf fixes_validationRuleSnakeCase fun payload part selected => ?_⟩ <;>
    cases payload <;> cases selected
  · exact commandNameKebabCase_keepsLetters _
  · exact validationRuleSnakeCase_keepsLetters _

theorem rules_keepLetters :
    (rules options).Forall fun rule => rule.id ∈ casingIds → rule.KeepsLetters := by
  simp only [rules, List.forall_append]
  exact ⟨⟨⟨⟨⟨classRules_keepLetters options, methodRules_keepLetters⟩, routeRules_keepLetters⟩,
    databaseRules_keepLetters⟩, fileRules_keepLetters options⟩, commandRules_keepLetters⟩

variable {options}

/-- A fix for casing changes casing and separators only. Whatever a rule for casing suggests for a fact in
place of a part in ASCII, without its delimiters and colons and in small letters it is the part itself. -/
theorem casing_fix_keeps_letters {rule : Rule} (member : rule ∈ rules options)
    (listed : rule.id ∈ casingIds) {fact : Fact} {finding : Finding} {fix : String}
    (violated : rule.check fact = .verdict (.violation finding)) (suggested : finding.fix = some fix) :
    ∃ text, fact.payload.identifierText? finding.target = some text ∧
      (Casing.IsAscii (finding.target.part text.toList) →
        Casing.skeleton fix.toList = Casing.skeleton (finding.target.part text.toList)) :=
  List.forall_iff_forall_mem.mp (rules_keepLetters options) rule member listed fact finding fix violated
    suggested

theorem kept_letters_of_userPosts :
    let fact : Fact :=
      ⟨⟨⟨"routes/web.php"⟩, 4, 1⟩, .route (.mk ⟨"/user_posts/\x7bpost_id?\x7d", .post, none, []⟩)⟩
    let finding : Finding :=
      { message := "Route URLs must be kebab-case without underscores: expected " ++
          "`user-posts/\x7bpostId?\x7d`"
        fix := some "user-posts/\x7bpostId?\x7d"
        target := .path
        scope := .fact }
    Rule.onRoute routeUrlKebabCase fact = .verdict (.violation finding) ∧
      Casing.IsAscii (FixTarget.path.part "/user_posts/\x7bpost_id?\x7d".toList) ∧
      Casing.skeleton "user-posts/\x7bpostId?\x7d".toList =
        Casing.skeleton (FixTarget.path.part "/user_posts/\x7bpost_id?\x7d".toList) := by
  intro fact finding
  have violated : Rule.onRoute routeUrlKebabCase fact = .verdict (.violation finding) := by
    decide +kernel
  have ascii : Casing.IsAscii (FixTarget.path.part "/user_posts/\x7bpost_id?\x7d".toList) := by
    decide +kernel
  have member : routeRules[0] ∈ rules .standard := by
    simp only [rules, List.mem_append]
    exact .inl (.inl (.inl (.inr List.mem_cons_self)))
  have checked : routeRules[0].check fact = .verdict (.violation finding) := violated
  obtain ⟨text, carried, kept⟩ := casing_fix_keeps_letters member (by decide) checked rfl
  cases carried
  exact ⟨violated, ascii, kept ascii⟩

end Catalogue

end NamingAudit
