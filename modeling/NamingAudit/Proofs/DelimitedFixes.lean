import NamingAudit.Proofs.JoinedWords
import NamingAudit.Proofs.Recasing
import NamingAudit.Proofs.TextCuts

/-! Fixes in snake and kebab case. Words between delimiters are in order once the first one begins with a
letter, so a rule for these styles accepts its own fix for every name of letters, digits and delimiters
whose segments begin with a letter. Rules that look at a part of the name only, a segment, a stem or what
is behind a time stamp, find the recased part again in their fix. -/

namespace NamingAudit

namespace Text

variable {c : Char} {base directory extension path stem text : List Char}

def isSlash (c : Char) : Bool := c == '/' || c == '\\'

def isDirectory (path : List Char) : Bool := path.getLast?.all isSlash

theorem baseName_eq (path : List Char) :
    baseName path = (path.reverse.takeWhile fun c => !isSlash c).reverse := by
  have same : (fun c => c != '/' && c != '\\') = fun c => !isSlash c := by
    funext c
    rw [isSlash, Bool.not_or]
    rfl
  rw [baseName, same]

theorem isSlash_of_mem_baseName (inside : c ∈ baseName path) : isSlash c = false := by
  rw [baseName_eq, List.mem_reverse] at inside
  simpa using List.mem_takeWhile_imp inside

theorem baseName_append (ofDirectory : isDirectory directory = true)
    (whole : ∀ c ∈ base, isSlash c = false) : baseName (directory ++ base) = base := by
  have kept : ∀ c ∈ base.reverse, (!isSlash c) = true := fun c inside => by
    simp [whole c (List.mem_reverse.mp inside)]
  have stopped : directory.reverse.takeWhile (fun c => !isSlash c) = [] := by
    rcases List.eq_nil_or_concat directory with rfl | ⟨front, last, rfl⟩
    · rfl
    · have slash : isSlash last = true := by simpa [isDirectory] using ofDirectory
      simp [slash]
  rw [baseName_eq, List.reverse_append, List.takeWhile_append_of_pos kept, stopped, List.append_nil,
    List.reverse_reverse]

structure IsExtension (extension : List Char) : Prop where
  whole : ∀ c ∈ extension, isSlash c = false
  dot : ∀ c ∈ extension.head?, c = '.'

theorem isExtension_fileParts (path : List Char) : IsExtension (fileParts path).2 := by
  rw [fileParts]
  split
  · constructor <;> simp
  · refine ⟨fun c inside => isSlash_of_mem_baseName ((List.dropWhile_sublist _).subset inside), ?_⟩
    intro c begins
    have stopped := List.head?_dropWhile_not (· != '.') (baseName path)
    simp only [cutAtDot] at begins
    rw [Option.mem_def.mp begins] at stopped
    simpa using stopped

theorem fileParts_append (ofDirectory : isDirectory directory = true) (nonempty : stem ≠ [])
    (whole : ∀ c ∈ stem, isSlash c = false ∧ c ≠ '.') (ending : IsExtension extension) :
    fileParts (directory ++ (stem ++ extension)) = (stem, extension) := by
  have base : baseName (directory ++ (stem ++ extension)) = stem ++ extension := by
    refine baseName_append ofDirectory fun c inside => ?_
    rcases List.mem_append.mp inside with before | behind
    · exact (whole c before).1
    · exact ending.whole c behind
  have undotted : ((stem ++ extension).head? == some '.') = false := by
    obtain ⟨first, rest, rfl⟩ := List.exists_cons_of_ne_nil nonempty
    simpa using (whole first List.mem_cons_self).2
  have kept : ∀ c ∈ stem, (c != '.') = true := fun c inside => bne_iff_ne.mpr (whole c inside).2
  have stopped : extension.takeWhile (· != '.') = [] ∧ extension.dropWhile (· != '.') = extension := by
    cases extension with
    | nil => exact ⟨rfl, rfl⟩
    | cons first rest =>
      have dot : first = '.' := ending.dot first rfl
      simp [dot]
  rw [fileParts, base, undotted, if_neg Bool.false_ne_true, cutAtDot,
    List.takeWhile_append_of_pos kept, List.dropWhile_append_of_pos kept, stopped.1, stopped.2,
    List.append_nil]

theorem all_splitOn_joinWith {separator : Char} {accepted : List Char → Bool}
    {recase : List Char → List Char} (filled : ∃ piece ∈ splitOn separator text, piece ≠ [])
    (fits : ∀ piece ∈ splitOn separator text, piece ≠ [] →
      accepted (recase piece) = true ∧ separator ∉ recase piece) :
    (splitOn separator (joinWith separator
      (((splitOn separator text).filter fun piece => !piece.isEmpty).map recase))).all accepted =
        true := by
  have made : ∀ piece ∈ ((splitOn separator text).filter fun piece => !piece.isEmpty).map recase,
      accepted piece = true ∧ separator ∉ piece := by
    refine List.forall_mem_map.mpr fun piece member => ?_
    obtain ⟨present, nonempty⟩ := List.mem_filter.mp member
    exact fits piece present (by simpa using nonempty)
  have some : ((splitOn separator text).filter fun piece => !piece.isEmpty).map recase ≠ [] := by
    obtain ⟨piece, present, nonempty⟩ := filled
    refine List.ne_nil_of_mem (List.mem_map_of_mem (List.mem_filter.mpr ⟨present, ?_⟩))
    simpa using nonempty
  rw [splitOn_joinWith (fun piece member => (made piece member).2) some, List.all_eq_true]
  exact fun piece member => (made piece member).1

end Text

namespace Casing
open NamingAudit.Text

variable {c delimiter : Char} {text : List Char}

theorem whole_of_small_or (solid : isSlash delimiter = false ∧ delimiter ≠ '.')
    (kinds : isSmall c = true ∨ c = delimiter) : isSlash c = false ∧ c ≠ '.' := by
  rcases kinds with small | rfl
  · have others {probe : Char} (large : isSmall probe = false) : c ≠ probe := ne_of_isSmall large small
    have slash : c ≠ '/' ∧ c ≠ '\\' := ⟨others rfl, others rfl⟩
    exact ⟨by simp [isSlash, slash], others rfl⟩
  · exact solid

theorem not_mem_of_isDelimitedLower (delimited : isDelimitedLower delimiter text = true)
    (large : isSmall c = false) (other : c ≠ delimiter) : c ∉ text := by
  intro inside
  have small := (of_mem_of_isDelimitedLower delimited inside).resolve_right other
  rw [small] at large
  contradiction

theorem ne_nil_of_isDelimitedLower (delimited : isDelimitedLower delimiter text = true) : text ≠ [] := by
  rintro rfl
  contradiction

/-- Some segment is not empty, and one that is neither empty nor exempt is fit for any style. -/
structure HasRecasableSegments (separator : Char) (exempt : List Char → Bool) (text : List Char) :
    Prop where
  filled : ∃ segment ∈ splitOn separator text, segment ≠ []
  recasable : ∀ segment ∈ splitOn separator text, segment ≠ [] → exempt segment = false →
    IsRecasable segment

instance (separator : Char) (exempt : List Char → Bool) (text : List Char) :
    Decidable (HasRecasableSegments separator exempt text) :=
  decidable_of_iff
    ((∃ segment ∈ splitOn separator text, segment ≠ []) ∧
      ∀ segment ∈ splitOn separator text, segment ≠ [] → exempt segment = false → IsRecasable segment)
    ⟨fun ⟨filled, recasable⟩ => ⟨filled, recasable⟩,
      fun segments => ⟨segments.filled, segments.recasable⟩⟩

end Casing

namespace Rules
open NamingAudit.Text NamingAudit.Casing

variable {fix : String} {text directory stamp description : List Char}

theorem columnSnakeCase_accepts_fix {decl : ColumnDecl} (recasable : IsRecasable decl.name.toList)
    (suggests : (columnSnakeCase decl).Suggests fix) :
    columnSnakeCase { decl with name := fix } = .pass :=
  ((columnSnakeCase_recases decl).accepts_fix_iff suggests).mpr recasable.isSnake_toSnake

theorem validationRuleSnakeCase_accepts_fix {rule : ValidationRule}
    (recasable : IsRecasable rule.identifier.toList)
    (suggests : (validationRuleSnakeCase rule).Suggests fix) :
    validationRuleSnakeCase { rule with identifier := fix } = .pass :=
  ((validationRuleSnakeCase_recases rule).accepts_fix_iff suggests).mpr recasable.isSnake_toSnake

theorem isDottedKey_dottedKey (segments : HasRecasableSegments '.' (·.all isAsciiDigit) text) :
    isDottedKey (dottedKey text) = true := by
  refine all_splitOn_joinWith segments.filled fun segment member nonempty => ?_
  have undotted := separator_not_mem member
  cases inOrder : isKeySegment segment with
  | true =>
    rw [keySegment, inOrder, if_pos rfl]
    exact ⟨inOrder, undotted⟩
  | false =>
    have others : isSnake segment = false ∧ segment.all isAsciiDigit = false := by
      simpa [isKeySegment, nonempty] using inOrder
    have snake := (segments.recasable segment member nonempty others.2).isSnake_toSnake
    rw [keySegment, inOrder, if_neg Bool.false_ne_true, isKeySegment, snake]
    exact ⟨rfl, not_mem_of_isDelimitedLower snake rfl (by decide)⟩

theorem configKeySnakeCase_accepts_fix {entry : ConfigEntry}
    (segments : HasRecasableSegments '.' (·.all isAsciiDigit) entry.key.toList)
    (suggests : (configKeySnakeCase entry).Suggests fix) :
    configKeySnakeCase { entry with key := fix } = .pass :=
  ((configKeySnakeCase_recases entry).accepts_fix_iff suggests).mpr (isDottedKey_dottedKey segments)

theorem isColonKebab_colonKebab (segments : HasRecasableSegments ':' (fun _ => false) text) :
    isColonKebab (colonKebab text) = true := by
  refine all_splitOn_joinWith segments.filled fun segment member nonempty => ?_
  have kebab := (segments.recasable segment member nonempty rfl).isKebab_toKebab
  exact ⟨kebab, not_mem_of_isDelimitedLower kebab rfl (by decide)⟩

theorem commandNameKebabCase_accepts_fix {decl : CommandDecl}
    (segments : HasRecasableSegments ':' (fun _ => false) decl.name.toList)
    (suggests : (commandNameKebabCase decl).Suggests fix) :
    commandNameKebabCase { decl with name := fix } = .pass :=
  ((commandNameKebabCase_recases decl).accepts_fix_iff suggests).mpr (isColonKebab_colonKebab segments)

theorem configFileKebabCase_accepts_fix {entry : ConfigEntry}
    (recasable : IsRecasable (fileParts entry.file.toList).1)
    (suggests : (configFileKebabCase entry).Suggests fix)
    (ofDirectory : isDirectory directory = true) :
    configFileKebabCase { entry with file := String.ofList (directory ++ fix.toList) } = .pass := by
  have kebab := recasable.isKebab_toKebab
  have whole : ∀ c ∈ toKebab (fileParts entry.file.toList).1, isSlash c = false ∧ c ≠ '.' :=
    fun c inside => whole_of_small_or (by decide) (of_mem_of_isDelimitedLower kebab inside)
  have made := (configFileKebabCase_recases entry).eq_of_suggests suggests
  have parts := fileParts_append ofDirectory (ne_nil_of_isDelimitedLower kebab) whole
    (isExtension_fileParts entry.file.toList)
  rw [(configFileKebabCase_recases entry).pass_iff, made, String.toList_ofList, String.toList_ofList,
    parts]
  exact kebab

theorem of_mem_of_isTimestamp {c : Char} (timestamp : isTimestamp stamp = true) (inside : c ∈ stamp) :
    isSmall c = true ∨ c = '_' := by
  obtain ⟨year, month, day, time, pieces, years, months, days, times⟩ := pieces_of_isTimestamp timestamp
  simp only [isDigits, Bool.and_eq_true] at years months days times
  have digits : ∀ piece ∈ splitOn '_' stamp, piece.all isAsciiDigit = true := by
    simp only [pieces, List.forall_mem_cons, List.not_mem_nil, false_implies, implies_true, and_true]
    exact ⟨years.2, months.2, days.2, times.2⟩
  rw [← joinWith_splitOn '_' stamp] at inside
  rcases mem_joinWith inside with rfl | ⟨piece, member, inPiece⟩
  · exact .inr rfl
  · have digit := List.all_eq_true.mp (digits piece member) c inPiece
    exact .inl (by rw [isSmall, digit, Bool.or_true])

theorem migrationParts?_append (timestamp : isTimestamp stamp = true) (description : List Char) :
    migrationParts? (stamp ++ '_' :: description) = some (stamp, description) := by
  have length := (lengths_of_isTimestamp timestamp).1
  have behind : afterBeginning? ['_'] ('_' :: description) = some description :=
    afterBeginning?_eq_some_iff.mpr rfl
  rw [migrationParts?, ← length, List.take_left, List.drop_left, if_pos timestamp, behind,
    Option.getD_some]

theorem isTimestamp_of_migrationParts?
    (parts : migrationParts? text = some (stamp, description)) : isTimestamp stamp = true := by
  rw [migrationParts?] at parts
  split at parts
  · next timestamp =>
    cases parts
    exact timestamp
  · contradiction

theorem migrationFileName_eq_pass {file : MigrationFile}
    (parts : migrationParts? (fileParts file.name.toList).1 = some (stamp, description))
    (recorded : ∀ timestamp ∈ file.timestamp, timestamp = String.ofList stamp)
    (snake : isSnake description = true) : migrationFileName file = .pass := by
  have agree : (file.timestamp.filter fun timestamp => timestamp != String.ofList stamp) = none :=
    Option.filter_eq_none_iff.mpr fun timestamp given => by simp [recorded timestamp given]
  have described : description.isEmpty = false := by
    simpa using ne_nil_of_isDelimitedLower snake
  simp only [migrationFileName, parts, agree, described]
  rw [if_neg Bool.false_ne_true, descriptionVerdict, if_pos snake]

theorem of_migrationFileName_suggests {file : MigrationFile}
    (parts : migrationParts? (fileParts file.name.toList).1 = some (stamp, description))
    (suggests : (migrationFileName file).Suggests fix) :
    (∀ timestamp ∈ file.timestamp, timestamp = String.ofList stamp) ∧ fix = String.ofList
      (stamp ++ ['_'] ++ toSnake description ++ (fileParts file.name.toList).2) := by
  simp only [migrationFileName, parts] at suggests
  split at suggests
  · rw [Verdict.suggests_violation_iff] at suggests
    contradiction
  · next agree =>
    -- Only the description is left to be complained of.
    refine ⟨fun timestamp given => by simpa using Option.filter_eq_none_iff.mp agree timestamp given, ?_⟩
    split at suggests
    · rw [Verdict.suggests_violation_iff] at suggests
      contradiction
    · rw [descriptionVerdict] at suggests
      split at suggests
      · exact absurd suggests (Verdict.not_suggests_pass fix)
      · rw [Verdict.suggests_violation_iff] at suggests
        exact (Option.some.inj suggests).symm

theorem migrationFileName_accepts_fix {file : MigrationFile}
    (parts : migrationParts? (fileParts file.name.toList).1 = some (stamp, description))
    (recasable : IsRecasable description) (suggests : (migrationFileName file).Suggests fix)
    (ofDirectory : isDirectory directory = true) :
    migrationFileName { file with name := String.ofList (directory ++ fix.toList) } = .pass := by
  obtain ⟨recorded, rfl⟩ := of_migrationFileName_suggests parts suggests
  have timestamp := isTimestamp_of_migrationParts? parts
  have snake := recasable.isSnake_toSnake
  have whole : ∀ c ∈ stamp ++ ['_'] ++ toSnake description, isSlash c = false ∧ c ≠ '.' := by
    intro c inside
    have kinds : isSmall c = true ∨ c = '_' := by
      rcases List.mem_append.mp inside with front | inDescription
      · rcases List.mem_append.mp front with inStamp | underscore
        · exact of_mem_of_isTimestamp timestamp inStamp
        · exact .inr (List.mem_singleton.mp underscore)
      · exact of_mem_of_isDelimitedLower snake inDescription
    exact whole_of_small_or (by decide) kinds
  have name := fileParts_append ofDirectory (by simp) whole (isExtension_fileParts file.name.toList)
  rw [String.toList_ofList]
  refine @migrationFileName_eq_pass stamp (toSnake description) _ ?_ ?_ snake
  · rw [String.toList_ofList, name, List.append_assoc]
    exact migrationParts?_append timestamp (toSnake description)
  · exact recorded

/-- A rule for snake or kebab case accepts its own fix where every segment that it looks at consists of
letters, digits and delimiters and begins with a letter, delimiters apart. Keys may have indices between
their segments. The fix for a file name may be put behind any directory. -/
theorem delimited_fix_accepted :
    (∀ (decl : ColumnDecl) (fix : String), IsRecasable decl.name.toList →
      (columnSnakeCase decl).Suggests fix → columnSnakeCase { decl with name := fix } = .pass) ∧
    (∀ (rule : ValidationRule) (fix : String), IsRecasable rule.identifier.toList →
      (validationRuleSnakeCase rule).Suggests fix →
        validationRuleSnakeCase { rule with identifier := fix } = .pass) ∧
    (∀ (entry : ConfigEntry) (fix : String),
      HasRecasableSegments '.' (·.all isAsciiDigit) entry.key.toList →
        (configKeySnakeCase entry).Suggests fix →
          configKeySnakeCase { entry with key := fix } = .pass) ∧
    (∀ (decl : CommandDecl) (fix : String),
      HasRecasableSegments ':' (fun _ => false) decl.name.toList →
        (commandNameKebabCase decl).Suggests fix →
          commandNameKebabCase { decl with name := fix } = .pass) ∧
    (∀ (entry : ConfigEntry) (fix : String) (directory : List Char),
      IsRecasable (fileParts entry.file.toList).1 → (configFileKebabCase entry).Suggests fix →
        isDirectory directory = true →
          configFileKebabCase { entry with file := String.ofList (directory ++ fix.toList) } = .pass) ∧
    ∀ (file : MigrationFile) (fix : String) (stamp description directory : List Char),
      migrationParts? (fileParts file.name.toList).1 = some (stamp, description) →
        IsRecasable description → (migrationFileName file).Suggests fix →
          isDirectory directory = true →
            migrationFileName { file with name := String.ofList (directory ++ fix.toList) } = .pass :=
  ⟨fun _ _ => columnSnakeCase_accepts_fix, fun _ _ => validationRuleSnakeCase_accepts_fix,
    fun _ _ => configKeySnakeCase_accepts_fix, fun _ _ => commandNameKebabCase_accepts_fix,
    fun _ _ _ => configFileKebabCase_accepts_fix, fun _ _ _ _ _ => migrationFileName_accepts_fix⟩

theorem accepted_delimited :
    columnSnakeCase ⟨"posts", "user_id", none⟩ = .pass ∧
      validationRuleSnakeCase ⟨"strong_password"⟩ = .pass ∧
      configKeySnakeCase ⟨"config/mailers.php", "mailgun.api_key.0"⟩ = .pass ∧
      commandNameKebabCase ⟨"app:send-mail"⟩ = .pass ∧
      configFileKebabCase ⟨"config/mail-services.php", "driver"⟩ = .pass ∧
      migrationFileName ⟨"2023_05_01_000000_create_articles.php", none⟩ = .pass := by
  obtain ⟨ofColumn, ofRule, ofKey, ofCommand, ofFile, ofMigration⟩ := delimited_fix_accepted
  refine ⟨ofColumn ⟨"posts", "userID", none⟩ "user_id" ?_ ?_,
    ofRule ⟨"Strong-Password"⟩ "strong_password" ?_ ?_,
    ofKey ⟨"config/mailers.php", "mailgun..apiKey.0"⟩ "mailgun.api_key.0" ?_ ?_,
    ofCommand ⟨"app:sendMail"⟩ "app:send-mail" ?_ ?_,
    ofFile ⟨"config/mailServices.php", "driver"⟩ "mail-services.php" "config/".toList ?_ ?_ ?_,
    ofMigration ⟨"2023_05_01_000000_createArticles.php", none⟩
      "2023_05_01_000000_create_articles.php" "2023_05_01_000000".toList "createArticles".toList [] ?_ ?_
      ?_ ?_⟩ <;> decide +kernel

end Rules

end NamingAudit
