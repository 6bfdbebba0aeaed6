import NamingAudit.Proofs.CompactOutput

/-! Configuration files. A file whose name is not in kebab case is reported once, however many entries
it has and wherever they stand: each of them gives the same diagnostic about the file as a whole, and of
equal diagnostics the report keeps one. Files are told apart by their text here, but two spellings of
one path share a diagnostic. -/

namespace NamingAudit

namespace Fact
open NamingAudit.Text NamingAudit.Casing

/-- If it is an entry of a configuration file, then of the file that the fact stands in. -/
def NamesItsFile (fact : Fact) : Prop :=
  ∀ config, fact.payload = .configEntry config → config.file = fact.location.file.text

def IsInMisnamedConfig (fact : Fact) : Prop :=
  ∃ config, fact.payload = .configEntry config ∧ isKebab (fileParts config.file.toList).1 = false

variable {record : Record} {fact : Fact}

theorem file_of_configEntry {config : Config}
    (accepted : record.payload = .ok (.configEntry config)) : config.file = record.file := by
  obtain ⟨file, line, column, body⟩ := record
  cases body
  case configEntry key =>
    obtain ⟨entry, entryOk, same⟩ := map_ok accepted
    cases same
    obtain ⟨_, _, entryOk⟩ := bind_ok entryOk
    obtain ⟨_, _, entryOk⟩ := bind_ok entryOk
    cases entryOk
    rfl
  case method =>
    obtain ⟨verbs, _, accepted⟩ := bind_ok accepted
    obtain ⟨decl, _, accepted⟩ := bind_ok accepted
    cases accepted
  all_goals
    obtain ⟨decl, _, same⟩ := map_ok accepted
    cases same

theorem namesItsFile_of_load {text : String} {batch : Batch} (loaded : load text = .ok batch) :
    ∀ fact ∈ batch.facts, fact.NamesItsFile := by
  intro fact member config entry
  obtain ⟨record, made⟩ := exists_record_of_load loaded fact member
  obtain ⟨place, accepted⟩ := toFact_ok made
  rw [place]
  exact file_of_configEntry (entry ▸ accepted)

end Fact

namespace Rules
open NamingAudit.Text NamingAudit.Casing

variable {entry other : ConfigEntry}

theorem exists_violation_configFileKebabCase_iff :
    (∃ finding, configFileKebabCase entry = .violation finding) ↔
      isKebab (fileParts entry.file.toList).1 = false := by
  unfold configFileKebabCase
  cases kebab : isKebab (fileParts entry.file.toList).1 <;> simp [kebab]

theorem configFileKebabCase_congr (same : entry.file = other.file) :
    configFileKebabCase entry = configFileKebabCase other := by
  rw [configFileKebabCase, same, configFileKebabCase]

end Rules

/-- What the rule finds is about the file of a fact as a whole, and alike for all facts in that file
among those that are given. -/
structure Rule.IsFileWide (rule : Rule) (given : Fact → Prop) : Prop where
  whole : ∀ fact finding, rule.check fact = .verdict (.violation finding) → finding.scope = .file
  alike : ∀ first second, given first → given second →
    first.location.file.text = second.location.file.text →
      ∀ one other, rule.check first = .verdict (.violation one) →
        rule.check second = .verdict (.violation other) → one = other

namespace Catalogue

def configFileRule : Rule := (fileRules .standard)[0]

theorem configFileRule_mem (options : RuleOptions) : configFileRule ∈ rules options := by
  simp [rules, fileRules, configFileRule]

theorem configFileRule_violation_iff {fact : Fact} {finding : Finding} :
    configFileRule.check fact = .verdict (.violation finding) ↔
      ∃ config, fact.payload = .configEntry config ∧
        Rules.configFileKebabCase config.toConfigEntry = .violation finding := by
  change Rule.onConfigEntry Rules.configFileKebabCase fact = _ ↔ _
  obtain ⟨location, payload⟩ := fact
  cases payload <;> simp [Rule.onConfigEntry, Rule.checkOf]

theorem exists_violation_configFileRule_iff {fact : Fact} :
    (∃ finding, configFileRule.check fact = .verdict (.violation finding)) ↔
      fact.IsInMisnamedConfig := by
  simp only [configFileRule_violation_iff, Fact.IsInMisnamedConfig,
    ← Rules.exists_violation_configFileKebabCase_iff]
  constructor
  · rintro ⟨finding, config, entry, violated⟩
    exact ⟨config, entry, finding, violated⟩
  · rintro ⟨config, entry, finding, violated⟩
    exact ⟨finding, config, entry, violated⟩

theorem configFileRule_isFileWide : configFileRule.IsFileWide Fact.NamesItsFile where
  whole fact finding violated := by
    obtain ⟨config, _, violated⟩ := configFileRule_violation_iff.mp violated
    unfold Rules.configFileKebabCase at violated
    split at violated
    split at violated
    · contradiction
    · cases violated
      rfl
  alike first second firstNamed secondNamed files one other oneViolated otherViolated := by
    obtain ⟨config, entry, oneViolated⟩ := configFileRule_violation_iff.mp oneViolated
    obtain ⟨config', entry', otherViolated⟩ := configFileRule_violation_iff.mp otherViolated
    have same : config.file = config'.file := by
      rw [firstNamed config entry, secondNamed config' entry', files]
    rw [Rules.configFileKebabCase_congr same, otherViolated] at oneViolated
    cases oneViolated
    rfl

end Catalogue

namespace Evaluator

section FileWide
variable {evaluator : Evaluator} {options : RuleOptions} {rule : Rule} {given : Fact → Prop}
  (builtIn : evaluator.registry.rules = Catalogue.rules options)
  (member : rule ∈ Catalogue.rules options) (fileWide : rule.IsFileWide given)
include builtIn member fileWide

theorem eq_violationAt_of_code {fact : Fact} {diagnostic : Diagnostic}
    (found : diagnostic ∈ evaluator.findings fact) (coded : diagnostic.code = rule.code) :
    ∃ entry ∈ evaluator.registry.entries, entry.rule = rule ∧ ∃ finding,
      rule.check fact = .verdict (.violation finding) ∧
        diagnostic = violationAt entry (.wholeFile fact.location.file) finding := by
  obtain ⟨entry, applied, finding, violated, rfl⟩ := (mem_findings_iff builtIn).mp found
  obtain ⟨listed, _, _⟩ := Registry.mem_rulesFor_iff.mp applied
  obtain rfl : entry.rule = rule :=
    Catalogue.eq_of_code (builtIn_of_applied builtIn applied) member coded
  refine ⟨entry, listed, rfl, finding, violated, ?_⟩
  rw [fileWide.whole fact finding violated]
  rfl

theorem eq_of_file {first second : Fact} (firstGiven : given first) (secondGiven : given second)
    {one other : Diagnostic} (oneFound : one ∈ evaluator.findings first)
    (otherFound : other ∈ evaluator.findings second) (oneCoded : one.code = rule.code)
    (otherCoded : other.code = rule.code)
    (files : one.location.file.text = other.location.file.text) : one = other := by
  obtain ⟨entry, listed, ofRule, finding, violated, rfl⟩ :=
    eq_violationAt_of_code builtIn member fileWide oneFound oneCoded
  obtain ⟨entry', listed', ofRule', finding', violated', rfl⟩ :=
    eq_violationAt_of_code builtIn member fileWide otherFound otherCoded
  have texts : first.location.file.text = second.location.file.text := files
  obtain rfl : entry = entry' := Registry.eq_of_id listed listed' (by rw [ofRule, ofRule'])
  obtain rfl : finding = finding' :=
    fileWide.alike first second firstGiven secondGiven texts finding finding' violated violated'
  have paths : first.location.file = second.location.file := congrArg SourcePath.mk texts
  rw [paths]

variable {facts : List Fact}

/-- Such a rule is reported once for a file. Equal diagnostics may stem from any two facts in it, but
the report ascends strictly and has no place for the second. -/
theorem nodup_files_of_code (all : ∀ fact ∈ facts, given fact) :
    (((evaluator.evaluate facts).diagnostics.filter fun diagnostic =>
      diagnostic.code == rule.code).map fun diagnostic => diagnostic.location.file.text).Nodup := by
  have distinct := evaluator.evaluate_isDistinctSort facts
  have source {diagnostic : Diagnostic}
      (reported : diagnostic ∈ (evaluator.evaluate facts).diagnostics) :
      ∃ fact, given fact ∧ diagnostic ∈ evaluator.findings fact := by
    obtain ⟨fact, seen, found⟩ := List.mem_flatMap.mp (distinct.mem reported)
    exact ⟨fact, all fact (mem_visible.mp seen).1, found⟩
  rw [List.Nodup, List.pairwise_map, List.pairwise_filter]
  refine distinct.ascending.imp_of_mem fun {one other} oneReported otherReported less => ?_
  intro oneCoded otherCoded files
  obtain ⟨first, firstGiven, oneFound⟩ := source oneReported
  obtain ⟨second, secondGiven, otherFound⟩ := source otherReported
  obtain rfl := eq_of_file builtIn member fileWide firstGiven secondGiven oneFound
    otherFound (eq_of_beq oneCoded) (eq_of_beq otherCoded) files
  exact absurd less (by simp [Std.ReflCmp.compare_self])

theorem exists_violation_of_code {diagnostic : Diagnostic}
    (reported : diagnostic ∈ (evaluator.evaluate facts).diagnostics)
    (coded : diagnostic.code = rule.code) :
    ∃ fact ∈ visible evaluator.exclude facts,
      (∃ finding, rule.check fact = .verdict (.violation finding)) ∧
        diagnostic.location = .wholeFile fact.location.file := by
  obtain ⟨fact, seen, found⟩ :=
    List.mem_flatMap.mp ((evaluator.evaluate_isDistinctSort facts).mem reported)
  obtain ⟨entry, _, _, finding, violated, rfl⟩ :=
    eq_violationAt_of_code builtIn member fileWide found coded
  exact ⟨fact, seen, ⟨finding, violated⟩, rfl⟩

theorem exists_reported_of_violation {entry : RegisteredRule}
    (found : evaluator.registry.get? rule.id = some entry) (enabled : entry.enabled = true)
    {fact : Fact} (seen : fact ∈ visible evaluator.exclude facts) (kind : fact.kind = rule.appliesTo)
    {finding : Finding} (violated : rule.check fact = .verdict (.violation finding)) :
    ∃ diagnostic ∈ (evaluator.evaluate facts).diagnostics, diagnostic.code = rule.code ∧
      diagnostic.location.same (.wholeFile fact.location.file) = true := by
  obtain ⟨listed, named⟩ := Registry.get?_eq_some_iff.mp found
  obtain rfl : entry.rule = rule :=
    Catalogue.eq_of_id (builtIn ▸ List.mem_map_of_mem listed) member named
  have applied := Registry.mem_rulesFor_iff.mpr ⟨listed, enabled, kind.symm⟩
  have gathered := List.mem_flatMap.mpr ⟨fact, seen,
    (mem_findings_iff builtIn).mpr ⟨entry, applied, finding, violated, rfl⟩⟩
  obtain ⟨reported, present, tie⟩ :=
    (evaluator.evaluate_isDistinctSort facts).exists_tie gathered
  have same := Diagnostic.same_comm ((Diagnostic.compare_eq_iff _ _).mp tie)
  simp only [Diagnostic.same, Bool.and_eq_true, beq_iff_eq] at same
  obtain ⟨⟨⟨⟨⟨⟨_, code⟩, _⟩, place⟩, _⟩, _⟩, _⟩ := same
  refine ⟨reported, present, code, ?_⟩
  have whole : (violationAt entry (placeOf fact finding.scope) finding).location =
      .wholeFile fact.location.file := by
    rw [fileWide.whole fact finding violated]
    rfl
  rwa [whole] at place

end FileWide

/-- Under every preset and all settings that enable the rule, and for all facts as documents give them,
no two diagnostics about the name of a configuration file are about one file, each is about a file that
was checked, and every checked file with a bad name has one, at line and column 0. -/
theorem configFile_reported_once (evaluator : Evaluator) {preset : Preset} {settings : Settings}
    (built : Registry.build preset settings = .ok evaluator.registry) {entry : RegisteredRule}
    (found : evaluator.registry.get? "config-file-kebab-case" = some entry)
    (enabled : entry.enabled = true) {facts : List Fact}
    (named : ∀ fact ∈ facts, fact.NamesItsFile) :
    (((evaluator.evaluate facts).diagnostics.filter fun diagnostic =>
        diagnostic.code == "CL040").map fun diagnostic => diagnostic.location.file.text).Nodup ∧
      (∀ fact ∈ visible evaluator.exclude facts, fact.IsInMisnamedConfig →
        ∃ diagnostic ∈ (evaluator.evaluate facts).diagnostics, diagnostic.code = "CL040" ∧
          diagnostic.location.line = 0 ∧ diagnostic.location.column = 0 ∧
            diagnostic.location.file.same fact.location.file = true) ∧
      (∀ diagnostic ∈ (evaluator.evaluate facts).diagnostics, diagnostic.code = "CL040" →
        ∃ fact ∈ visible evaluator.exclude facts, fact.IsInMisnamedConfig ∧
          diagnostic.location = .wholeFile fact.location.file) ∧
      ∀ text batch, Fact.load text = .ok batch → ∀ fact ∈ batch.facts, fact.NamesItsFile := by
  have builtIn := Registry.rules_of_build built
  have member := Catalogue.configFileRule_mem (.ofSettings settings)
  have fileWide := Catalogue.configFileRule_isFileWide
  refine ⟨nodup_files_of_code builtIn member fileWide named, ?_, ?_,
    fun _ _ => Fact.namesItsFile_of_load⟩
  · intro fact seen misnamed
    obtain ⟨finding, violated⟩ := Catalogue.exists_violation_configFileRule_iff.mpr misnamed
    obtain ⟨config, payload, _⟩ := misnamed
    have kind : fact.kind = .configEntry := congrArg Fact.Payload.kind payload
    obtain ⟨diagnostic, reported, coded, place⟩ :=
      exists_reported_of_violation builtIn member fileWide found enabled seen kind violated
    simp only [Location.same, Bool.and_eq_true, beq_iff_eq] at place
    exact ⟨diagnostic, reported, coded, place.1.2, place.2, place.1.1⟩
  · intro diagnostic reported coded
    obtain ⟨fact, seen, violated, place⟩ :=
      exists_violation_of_code builtIn member fileWide reported coded
    exact ⟨fact, seen, Catalogue.exists_violation_configFileRule_iff.mp violated, place⟩

def scatteredConfigEntries : List Fact := twoConfigEntries ++
  [⟨⟨⟨"config//Mail_Services.php"⟩, 4, 1⟩, .configEntry (.mk ⟨"config//Mail_Services.php", "mailer"⟩)⟩,
    ⟨⟨⟨"config/cache.php"⟩, 2, 5⟩, .configEntry (.mk ⟨"config/cache.php", "default"⟩)⟩]

theorem reported_once_scatteredConfigEntries : ∃ registry : Registry, ∃ entry,
    Registry.build .recommended .standard = .ok registry ∧
      registry.get? "config-file-kebab-case" = some entry ∧ entry.enabled = true ∧
      (∀ fact ∈ scatteredConfigEntries, fact.NamesItsFile) ∧
      (gathered ⟨registry, none, 1, []⟩ scatteredConfigEntries).diagnostics.map Diagnostic.code =
        ["CL040", "CL040", "CL040"] ∧
      (((evaluate ⟨registry, none, 1, []⟩ scatteredConfigEntries).diagnostics.filter
        fun diagnostic => diagnostic.code == "CL040").map
          fun diagnostic => diagnostic.location.file.text).Nodup ∧
      ∃ diagnostic ∈ (evaluate ⟨registry, none, 1, []⟩ scatteredConfigEntries).diagnostics,
        diagnostic.code = "CL040" ∧ diagnostic.location.line = 0 ∧ diagnostic.location.column = 0 ∧
          diagnostic.location.file.same ⟨"config//Mail_Services.php"⟩ = true := by
  obtain ⟨registry, built, rulesFor⟩ := exists_standard .recommended
  let evaluator : Evaluator := ⟨registry, none, 1, []⟩
  obtain ⟨entry, applied, named⟩ : ∃ entry ∈ registry.rulesFor .configEntry,
      entry.rule.id = "config-file-kebab-case" := by
    rw [rulesFor]
    decide +kernel
  obtain ⟨member, enabled, _⟩ := Registry.mem_rulesFor_iff.mp applied
  have found := Registry.get?_eq_some_iff.mpr ⟨member, named⟩
  have all : ∀ fact ∈ scatteredConfigEntries, fact.NamesItsFile := by
    simp [scatteredConfigEntries, twoConfigEntries, Fact.NamesItsFile]
  obtain ⟨once, exhaustive, _⟩ :=
    configFile_reported_once evaluator built found enabled all
  have misnamed : scatteredConfigEntries[2].IsInMisnamedConfig := ⟨_, rfl, by decide +kernel⟩
  have reported := exhaustive _ (mem_visible.mpr ⟨List.getElem_mem _, rfl⟩) misnamed
  refine ⟨registry, entry, built, found, enabled, all, ?_, once, reported⟩
  obtain ⟨other, again, standard⟩ := exists_standardReport .recommended
  obtain rfl : registry = other := Except.ok.inj (built.symm.trans again)
  change (scatteredConfigEntries.flatMap evaluator.findings).map Diagnostic.code = _
  rw [(standard none 1 []).1]
  decide +kernel

end Evaluator

end NamingAudit
