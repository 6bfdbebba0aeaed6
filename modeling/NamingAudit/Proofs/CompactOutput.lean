import NamingAudit.CommandLine
import NamingAudit.Proofs.DocumentText
import NamingAudit.Proofs.FixConflicts
import NamingAudit.Proofs.MessageLines
import NamingAudit.Proofs.Selection

/-! Compact output and its lines. A diagnostic is printed as it stands, so it takes one line exactly
when neither the path of its file nor its message holds a line end. Messages hold no more line ends than
the texts that they repeat, which settles when a whole output has a line for each diagnostic. -/

namespace NamingAudit

namespace CommandLine
open NamingAudit.Text

def outputLines (output : String) : List String :=
  ((splitOn '\n' output.toList).dropLast).map String.ofList

variable {lines : List String}

theorem outputLines_joinLines (lines : List String) :
    outputLines (Completion.joinLines lines) =
      lines.flatMap fun line => (splitOn '\n' line.toList).map String.ofList := by
  induction lines with
  | nil => rfl
  | cons line rest ih =>
    have joined : (Completion.joinLines (line :: rest)).toList =
        line.toList ++ '\n' :: (Completion.joinLines rest).toList := by
      simp [Completion.joinLines]
    rw [outputLines, joined, splitOn_append_separator,
      List.dropLast_append_of_ne_nil (splitOn_ne_nil _ _), List.map_append, List.flatMap_cons, ← ih,
      outputLines]

theorem length_outputLines (lines : List String) :
    (outputLines (Completion.joinLines lines)).length =
      lines.length + (lines.flatMap String.toList).count '\n' := by
  rw [outputLines_joinLines]
  induction lines with
  | nil => rfl
  | cons line rest ih =>
    rw [List.flatMap_cons, List.length_append, ih, List.length_map, length_splitOn,
      List.flatMap_cons, List.count_append, List.length_cons]
    omega

theorem length_outputLines_iff :
    (outputLines (Completion.joinLines lines)).length = lines.length ↔
      ∀ line ∈ lines, '\n' ∉ line.toList := by
  rw [length_outputLines, Nat.add_eq_left, List.count_eq_zero]
  simp only [List.mem_flatMap, not_exists, not_and]

theorem outputLines_joinLines_iff :
    outputLines (Completion.joinLines lines) = lines ↔ ∀ line ∈ lines, '\n' ∉ line.toList := by
  refine ⟨fun same => length_outputLines_iff.mp (congrArg List.length same), fun whole => ?_⟩
  have single : ∀ line ∈ lines, (splitOn '\n' line.toList).map String.ofList = [line] := by
    intro line member
    rw [splitOn_of_not_mem (whole line member), List.map_singleton, String.ofList_toList]
  rw [outputLines_joinLines, List.flatMap_congr single, List.flatMap_singleton']

end CommandLine

namespace SourcePath
open NamingAudit.Text

variable {c : Char} {piece : List Char} {component : Component}

theorem label_of_mem_leading {pieces : List (List Char)} (member : component ∈ leading pieces) :
    component.label = "" := by
  unfold leading at member
  split at member
  case h_3 => contradiction
  all_goals
    rw [List.mem_singleton.mp member, Component.label]
    exact fun _ absent => by contradiction

theorem inner?_of_mem (notDot : c ≠ '.') (inside : c ∈ piece) :
    inner? piece = some (.named (String.ofList piece)) := by
  rw [inner?, if_neg, if_neg]
  · intro dots
    simp [eq_of_beq dots, notDot] at inside
  · intro void
    rcases Bool.or_eq_true_iff.mp void with nothing | dot
    · simp [eq_of_beq nothing] at inside
    · simp [eq_of_beq dot, notDot] at inside

theorem mem_of_mem_label (made : inner? piece = some component)
    (inside : c ∈ component.label.toList) : c ∈ piece := by
  unfold inner? at made
  split at made
  · contradiction
  · split at made <;> cases made
    · simp [Component.label] at inside
    · simpa [Component.label] using inside

theorem mem_text_iff (notSlash : c ≠ '/') (notDot : c ≠ '.') (path : SourcePath) :
    c ∈ path.text.toList ↔ ∃ component ∈ path.components, c ∈ component.label.toList := by
  have split : c ∈ path.text.toList ↔ ∃ piece ∈ splitOn '/' path.text.toList, c ∈ piece := by
    conv_lhs => rw [← joinWith_splitOn '/' path.text.toList]
    rw [joinWith, mem_intercalate_iff (by simpa using notSlash), List.mem_flatten]
  rw [split]
  constructor
  · rintro ⟨piece, present, inside⟩
    have listed := List.mem_filterMap.mpr ⟨piece, present, inner?_of_mem notDot inside⟩
    exact ⟨_, List.mem_append_right _ listed, by simpa [Component.label] using inside⟩
  · rintro ⟨component, listed, inside⟩
    rcases List.mem_append.mp listed with first | within
    · simp [label_of_mem_leading first] at inside
    · obtain ⟨piece, present, made⟩ := List.mem_filterMap.mp within
      exact ⟨piece, present, mem_of_mem_label made inside⟩

end SourcePath

namespace Diagnostic

theorem newline_not_mem_toDigits (number : Nat) : '\n' ∉ Nat.toDigits 10 number := fun member =>
  absurd (Nat.isDigit_of_mem_toDigits (by decide) (by decide) member) (by decide)

theorem newline_mem_display_iff {diagnostic : Diagnostic} (whole : '\n' ∉ diagnostic.code.toList) :
    '\n' ∈ diagnostic.display.toList ↔
      '\n' ∈ diagnostic.location.file.text.toList ∨ '\n' ∈ diagnostic.message.toList := by
  have severity : '\n' ∉ diagnostic.severity.name.toList := by
    cases diagnostic.severity <;> decide
  simp [display, Location.display, whole, severity, newline_not_mem_toDigits]

theorem newline_mem_display_congr {first second : Diagnostic} (same : first.same second = true)
    (whole : '\n' ∉ first.code.toList) :
    '\n' ∈ first.display.toList ↔ '\n' ∈ second.display.toList := by
  simp only [Diagnostic.same, Bool.and_eq_true, beq_iff_eq, Location.same_iff] at same
  obtain ⟨⟨⟨⟨⟨⟨_, codes⟩, _⟩, files, _⟩, messages⟩, _⟩, _⟩ := same
  rw [newline_mem_display_iff whole, newline_mem_display_iff (codes ▸ whole), messages,
    SourcePath.mem_text_iff (by decide) (by decide),
    SourcePath.mem_text_iff (by decide) (by decide), files]

end Diagnostic

theorem Catalogue.newline_not_mem_code {options : RuleOptions} {rule : Rule}
    (member : rule ∈ rules options) : '\n' ∉ rule.code.toList := by
  have listed : rule.code ∈ codes := map_code_rules options ▸ List.mem_map_of_mem member
  have whole : ∀ code ∈ codes, '\n' ∉ code.toList := by decide +kernel
  exact whole rule.code listed

namespace Evaluator

variable {options : RuleOptions} {entry : RegisteredRule} {fact : Fact} {diagnostic : Diagnostic}

theorem found_iff (judges : entry.rule.Judges) (sameKind : fact.kind = entry.rule.appliesTo) :
    evaluateRule entry fact = some diagnostic ↔ ∃ finding,
      entry.rule.check fact = .verdict (.violation finding) ∧
        violationAt entry (placeOf fact finding.scope) finding = diagnostic := by
  obtain ⟨verdict, checked⟩ := judges fact sameKind
  rw [evaluateRule, checked]
  cases verdict with
  | pass => simp
  | violation finding => simp

theorem placeOf_file (fact : Fact) (scope : Scope) :
    (placeOf fact scope).file = fact.location.file := by
  cases scope <;> rfl

/-- A finding is told in one line, but for the breaks in a path and in a text that is repeated. -/
theorem newline_mem_violationAt_iff (builtIn : entry.rule ∈ Catalogue.rules options)
    {finding : Finding}
    (violated : entry.rule.check fact = .verdict (.violation finding)) :
    '\n' ∈ (violationAt entry (placeOf fact finding.scope) finding).display.toList ↔
      '\n' ∈ fact.location.file.text.toList ∨
        '\n' ∈ Catalogue.repeated options entry.rule.id fact.payload := by
  have breaks := List.forall_iff_forall_mem.mp (Catalogue.rules_breakLike options) _ builtIn
  cases breaks fact _ violated with
  | violation same =>
    rw [Diagnostic.newline_mem_display_iff (Catalogue.newline_not_mem_code builtIn), ← same]
    simp only [violationAt, placeOf_file]

section Reports
variable (evaluator : Evaluator) (facts : List Fact)

/-- No finding about a checked fact is in a file whose path holds a line end, and none repeats a text
that does. -/
def FindsUnbroken (options : RuleOptions) : Prop :=
  ∀ fact ∈ evaluator.examined facts, ∀ entry ∈ evaluator.registry.rulesFor fact.kind,
    ∀ finding, entry.rule.check fact = .verdict (.violation finding) →
      '\n' ∉ fact.location.file.text.toList ∧
        '\n' ∉ Catalogue.repeated options entry.rule.id fact.payload

variable {evaluator facts} (builtIn : evaluator.registry.rules = Catalogue.rules options)
include builtIn

theorem builtIn_of_applied {kind : FactKind} (applied : entry ∈ evaluator.registry.rulesFor kind) :
    entry.rule ∈ Catalogue.rules options :=
  builtIn ▸ List.mem_map_of_mem (Registry.mem_rulesFor_iff.mp applied).1

theorem mem_findings_iff : diagnostic ∈ evaluator.findings fact ↔
    ∃ entry ∈ evaluator.registry.rulesFor fact.kind, ∃ finding,
      entry.rule.check fact = .verdict (.violation finding) ∧
        violationAt entry (placeOf fact finding.scope) finding = diagnostic := by
  rw [findings, List.mem_filterMap]
  refine exists_congr fun entry => and_congr_right fun applied => ?_
  obtain ⟨_, _, kind⟩ := Registry.mem_rulesFor_iff.mp applied
  have listed := builtIn_of_applied builtIn applied
  exact found_iff (Catalogue.selectsOwnKind_of_mem listed).judges kind.symm

theorem newline_not_mem_code (found : diagnostic ∈ evaluator.findings fact) :
    '\n' ∉ diagnostic.code.toList := by
  obtain ⟨entry, applied, finding, _, rfl⟩ := (mem_findings_iff builtIn).mp found
  exact Catalogue.newline_not_mem_code (builtIn_of_applied builtIn applied)

theorem gathered_unbroken_iff :
    (∀ diagnostic ∈ (evaluator.gathered (facts ++ Composite.join facts)).diagnostics,
      '\n' ∉ diagnostic.display.toList) ↔ evaluator.FindsUnbroken facts options := by
  constructor
  · intro whole fact seen entry applied finding violated
    have listed := builtIn_of_applied builtIn applied
    have found := (mem_findings_iff builtIn).mpr ⟨entry, applied, finding, violated, rfl⟩
    have unbroken := whole _ (List.mem_flatMap.mpr ⟨fact, seen, found⟩)
    rwa [newline_mem_violationAt_iff listed violated, not_or] at unbroken
  · intro unbroken diagnostic member
    obtain ⟨fact, seen, found⟩ := List.mem_flatMap.mp member
    obtain ⟨entry, applied, finding, violated, rfl⟩ := (mem_findings_iff builtIn).mp found
    have listed := builtIn_of_applied builtIn applied
    rw [newline_mem_violationAt_iff listed violated, not_or]
    exact unbroken fact seen entry applied finding violated

theorem report_unbroken_iff :
    (∀ diagnostic ∈ (evaluator.evaluateProject facts).diagnostics,
      '\n' ∉ diagnostic.display.toList) ↔ evaluator.FindsUnbroken facts options := by
  have distinct := evaluator.evaluate_isDistinctSort (facts ++ Composite.join facts)
  rw [← gathered_unbroken_iff builtIn]
  constructor
  · intro whole diagnostic member
    obtain ⟨fact, _, found⟩ := List.mem_flatMap.mp member
    -- The report may hold an equal one instead, with another spelling of the path.
    obtain ⟨kept, reported, tie⟩ := distinct.exists_tie member
    have same := (Diagnostic.compare_eq_iff diagnostic kept).mp tie
    rw [Diagnostic.newline_mem_display_congr same (newline_not_mem_code builtIn found)]
    exact whole kept reported
  · exact fun whole diagnostic reported => whole diagnostic (distinct.mem reported)

end Reports

end Evaluator

namespace CommandLine

def compactOutput (options : CheckOptions) (evaluator : Evaluator) (batch : Fact.Batch) : String :=
  Completion.joinLines ((Check.resultOf options evaluator batch).lines .compact)

/-- Whatever the arguments, the settings and the facts are, the compact output of a check has a line
for each diagnostic of its report, and that diagnostic on it, exactly when no finding is in a file whose
path holds a line end and none repeats a text with one: the suffix of controllers, the name of a file or
its extension, or a route parameter. Otherwise it has more lines. -/
theorem compact_line_per_diagnostic_iff {options : CheckOptions} {settings : Settings}
    {evaluator : Evaluator} (built : Check.evaluatorOf options settings = .ok evaluator)
    (batch : Fact.Batch) :
    let report := (Check.resultOf options evaluator batch).report
    let printed := outputLines (compactOutput options evaluator batch)
    (printed = report.diagnostics.map Diagnostic.display ↔
        evaluator.FindsUnbroken batch.facts (.ofSettings settings)) ∧
      (printed.length = report.diagnostics.length ↔
        evaluator.FindsUnbroken batch.facts (.ofSettings settings)) ∧
      report.diagnostics.length ≤ printed.length := by
  intro report printed
  have builtIn := Check.evaluatorOf_ok built
  rw [← Evaluator.report_unbroken_iff builtIn]
  have displays : (∀ line ∈ report.diagnostics.map Diagnostic.display, '\n' ∉ line.toList) ↔
      ∀ diagnostic ∈ report.diagnostics, '\n' ∉ diagnostic.display.toList := List.forall_mem_map
  have length : (report.diagnostics.map Diagnostic.display).length = report.diagnostics.length :=
    List.length_map _
  refine ⟨outputLines_joinLines_iff.trans displays, ?_, ?_⟩
  · rw [← length]
    exact length_outputLines_iff.trans displays
  · rw [← length]
    exact (length_outputLines _).ge.trans' (Nat.le_add_right _ _)

theorem exists_facts_of_load {text : String} {facts : List Fact}
    (loads : (Fact.load text).toOption.map Fact.Batch.facts = some facts) :
    ∃ batch, Fact.load text = .ok batch ∧ batch.facts = facts := by
  cases loaded : Fact.load text with
  | error problem =>
    rw [loaded] at loads
    contradiction
  | ok batch =>
    rw [loaded] at loads
    exact ⟨batch, rfl, Option.some.inj loads⟩

def compactCheck : CheckOptions := ⟨"facts.json", ".", .compact, none, none, [], false⟩

def recommendedRules (kind : FactKind) : List RegisteredRule :=
  ((Catalogue.rules .standard).mapIdx (Registry.configured .recommended .standard)).filter
    fun entry => entry.enabled && entry.rule.appliesTo == kind

theorem exists_compactCheck : ∃ evaluator : Evaluator,
    Check.evaluatorOf compactCheck .standard = .ok evaluator ∧
      evaluator.exclude = Evaluator.vendorPatterns ∧
      evaluator.registry.rulesFor = recommendedRules := by
  obtain ⟨registry, built, rulesFor⟩ := Evaluator.exists_standard .recommended
  have preset : Check.presetOf compactCheck .standard = .ok .recommended := by decide +kernel
  have registered : Check.registryOf compactCheck .standard = .ok registry := by
    rw [Check.registryOf, preset]
    exact bind_of_ok rfl (bind_of_ok (by rw [built]; rfl) rfl)
  refine ⟨⟨registry, none, EngineSettings.standardBatchSize, Evaluator.vendorPatterns⟩, ?_, rfl,
    funext rulesFor⟩
  rw [Check.evaluatorOf, registered]
  rfl

theorem diagnostics_compactCheck {evaluator : Evaluator} {facts : List Fact}
    {found : List Diagnostic} (exclude : evaluator.exclude = Evaluator.vendorPatterns)
    (rulesFor : evaluator.registry.rulesFor = recommendedRules)
    (gathered : (Evaluator.visible Evaluator.vendorPatterns (facts ++ Composite.join facts)).flatMap
      (Evaluator.standardFindings .recommended) = found)
    (ascending : found.Pairwise fun first second => compare first second = .lt) :
    (evaluator.evaluateProject facts).diagnostics = found := by
  have findings : evaluator.findings = Evaluator.standardFindings .recommended := by
    funext fact
    rw [Evaluator.findings, rulesFor]
    rfl
  have distinct := evaluator.evaluate_isDistinctSort (facts ++ Composite.join facts)
  rw [Evaluator.gathered, exclude, findings, gathered] at distinct
  exact distinct.unique ⟨ascending, fun _ => rfl⟩

def commandRecord (file name : String) : String :=
  "\x7b\"kind\":\"command\",\"file\":\"" ++ file ++ "\",\"name\":\"" ++ name ++ "\"\x7d"

def commandFact (file : String) (command : Fact.Command) : Fact :=
  ⟨⟨⟨file⟩, 0, 0⟩, .command command⟩

def commandComplaint (file fix : String) : Diagnostic where
  ruleId := "command-name-kebab-case"
  code := "CL070"
  severity := .warning
  location := ⟨⟨file⟩, 0, 0⟩
  message := "Command names must be kebab-case: expected `" ++ fix ++ "`"
  suggestion := some ⟨"replace with `" ++ fix ++ "`", some ⟨⟨⟨file⟩, 0, 0⟩, .name, fix⟩⟩
  priority := 20

def commandsBesideBreak : List Fact :=
  [commandFact "app/Kernel.php" (.mk ⟨"ClearCache"⟩), commandFact "app/Kernel.php" (.mk ⟨"NotifyUsers"⟩),
    commandFact "app/Sy\nnc.php" (.mk ⟨"sync-all"⟩)]

def commandsDocument : String :=
  Fact.Document.ofTexts [commandRecord "app/Kernel.php" "ClearCache",
    commandRecord "app/Kernel.php" "NotifyUsers", commandRecord "app/Sy\\nnc.php" "sync-all"]

theorem compact_commandsBesideBreak : ∃ evaluator batch,
    Check.evaluatorOf compactCheck .standard = .ok evaluator ∧
      Fact.load commandsDocument = .ok batch ∧
      (Check.resultOf compactCheck evaluator batch).report.diagnostics.length = 2 ∧
      outputLines (compactOutput compactCheck evaluator batch) =
        ["app/Kernel.php:0:0: warning [CL070] Command names must be kebab-case: " ++
            "expected `clear-cache`",
          "app/Kernel.php:0:0: warning [CL070] Command names must be kebab-case: " ++
            "expected `notify-users`"] := by
  obtain ⟨evaluator, built, exclude, rulesFor⟩ := exists_compactCheck
  have loads : (Fact.load commandsDocument).toOption.map Fact.Batch.facts =
      some commandsBesideBreak := by decide +kernel
  obtain ⟨batch, loaded, facts⟩ := exists_facts_of_load loads
  have examined : evaluator.examined batch.facts = commandsBesideBreak := by
    rw [Evaluator.examined, exclude, facts]
    decide +kernel
  have judged : ∀ fact ∈ commandsBesideBreak, ∀ entry ∈ recommendedRules fact.kind,
      entry.rule.check fact = .verdict .pass ∨ '\n' ∉ fact.location.file.text.toList ∧
        '\n' ∉ Catalogue.repeated (.ofSettings .standard) entry.rule.id fact.payload := by
    decide +kernel
  have unbroken : evaluator.FindsUnbroken batch.facts (.ofSettings .standard) := by
    rw [Evaluator.FindsUnbroken, examined, rulesFor]
    intro fact seen entry applied finding violated
    refine (judged fact seen entry applied).resolve_left fun passed => ?_
    rw [violated] at passed
    cases passed
  have diagnostics : (evaluator.evaluateProject batch.facts).diagnostics =
      [commandComplaint "app/Kernel.php" "clear-cache",
        commandComplaint "app/Kernel.php" "notify-users"] := by
    rw [facts]
    exact diagnostics_compactCheck exclude rulesFor (by decide +kernel) (by decide +kernel)
  refine ⟨evaluator, batch, built, loaded, congrArg List.length diagnostics, ?_⟩
  rw [(compact_line_per_diagnostic_iff built batch).1.mpr unbroken]
  refine (congrArg (List.map Diagnostic.display) diagnostics).trans ?_
  decide +kernel

def brokenDocument : String :=
  Fact.Document.ofTexts [commandRecord "app/Sy\\nnc.php" "SyncAll"]

/-- One diagnostic on two lines. -/
theorem compact_breaks_in_path : ∃ evaluator batch,
    Check.evaluatorOf compactCheck .standard = .ok evaluator ∧
      Fact.load brokenDocument = .ok batch ∧
      (Check.resultOf compactCheck evaluator batch).report.diagnostics.length = 1 ∧
      outputLines (compactOutput compactCheck evaluator batch) =
        ["app/Sy",
          "nc.php:0:0: warning [CL070] Command names must be kebab-case: expected `sync-all`"] := by
  obtain ⟨evaluator, built, exclude, rulesFor⟩ := exists_compactCheck
  have loads : (Fact.load brokenDocument).toOption.map Fact.Batch.facts =
      some [commandFact "app/Sy\nnc.php" (.mk ⟨"SyncAll"⟩)] := by decide +kernel
  obtain ⟨batch, loaded, facts⟩ := exists_facts_of_load loads
  have diagnostics : (evaluator.evaluateProject batch.facts).diagnostics =
      [commandComplaint "app/Sy\nnc.php" "sync-all"] := by
    rw [facts]
    exact diagnostics_compactCheck exclude rulesFor (by decide +kernel) (List.pairwise_singleton _ _)
  refine ⟨evaluator, batch, built, loaded, congrArg List.length diagnostics, ?_⟩
  have lines : (Check.resultOf compactCheck evaluator batch).lines .compact =
      [commandComplaint "app/Sy\nnc.php" "sync-all"].map Diagnostic.display :=
    congrArg (List.map Diagnostic.display) diagnostics
  rw [compactOutput, lines]
  decide +kernel

end CommandLine

end NamingAudit
