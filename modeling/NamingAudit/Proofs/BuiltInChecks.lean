import NamingAudit.Proofs.BuiltRegistry
import NamingAudit.Proofs.FactOrder
import NamingAudit.Proofs.TextCuts

/-! The built-in rules never fail. Each judges every fact of the kind that it is for, a registry gives it
no others, and no place where it cuts a text can break; so a report of built-in rules holds no internal
diagnostic. -/

namespace NamingAudit

namespace Rule

def Judges (rule : Rule) : Prop :=
  ∀ fact : Fact, fact.kind = rule.appliesTo → ∃ verdict, rule.check fact = .verdict verdict

/-- Made by `checkOf`, and what it selects is there in every fact of its kind. -/
def SelectsOwnKind (rule : Rule) : Prop :=
  ∃ (α : Type) (select : Fact.Payload → Option α) (judge : α → Verdict),
    rule.check = checkOf rule.appliesTo select judge ∧
      ∀ payload : Fact.Payload, payload.kind = rule.appliesTo → (select payload).isSome = true

theorem selectsOwnKind_checkOf {α : Type} {id code description : String} {kind : FactKind}
    {severity : Severity} {select : Fact.Payload → Option α} {judge : α → Verdict}
    (finds : ∀ payload : Fact.Payload, payload.kind = kind → (select payload).isSome = true) :
    SelectsOwnKind ⟨id, code, description, kind, severity, checkOf kind select judge⟩ :=
  ⟨α, select, judge, rfl, finds⟩

theorem SelectsOwnKind.judges {rule : Rule} (selects : rule.SelectsOwnKind) : rule.Judges := by
  obtain ⟨α, select, judge, made, finds⟩ := selects
  intro fact sameKind
  obtain ⟨part, selected⟩ := Option.isSome_iff_exists.mp (finds fact.payload sameKind)
  exact ⟨judge part, by rw [made, checkOf, selected]⟩

end Rule

namespace Catalogue
open Rule

theorem rules_selectOwnKind (options : RuleOptions) : (rules options).Forall SelectsOwnKind := by
  simp only [rules, List.forall_append]
  refine ⟨⟨⟨⟨⟨⟨?_, ?_, ?_, ?_, ?_⟩, ⟨?_, ?_⟩⟩, ⟨?_, ?_, ?_, ?_⟩⟩, ⟨?_, ?_, ?_, ?_, ?_⟩⟩,
    ⟨?_, ?_, ?_, ?_⟩⟩, ⟨?_, ?_⟩⟩
  all_goals
    refine selectsOwnKind_checkOf fun payload sameKind => ?_
    cases payload <;> first | rfl | contradiction

theorem selectsOwnKind_of_mem {options : RuleOptions} {rule : Rule} (member : rule ∈ rules options) :
    rule.SelectsOwnKind :=
  List.forall_iff_forall_mem.mp (rules_selectOwnKind options) rule member

def codes : List String := (rules .standard).map Rule.code

theorem map_code_rules (options : RuleOptions) : (rules options).map Rule.code = codes := by
  simp only [codes, rules, classRules, fileRules, List.map_append, List.map_cons, List.map_nil]

theorem codes_nodup : codes.Nodup := by decide +kernel

theorem eq_of_code {options : RuleOptions} {first second : Rule} (one : first ∈ rules options)
    (other : second ∈ rules options) (same : first.code = second.code) : first = second :=
  List.inj_on_of_nodup_map (map_code_rules options ▸ codes_nodup) one other same

theorem code_ne_internal {options : RuleOptions} {rule : Rule} (member : rule ∈ rules options) :
    rule.code ≠ Evaluator.internalCode := by
  have listed : rule.code ∈ codes := map_code_rules options ▸ List.mem_map_of_mem member
  have others : ∀ code ∈ codes, code ≠ Evaluator.internalCode := by decide +kernel
  exact others rule.code listed

end Catalogue

namespace Registry

variable {preset : Preset} {settings : Settings} {registry : Registry}

theorem builtIn_of_mem (built : build preset settings = .ok registry) {entry : RegisteredRule}
    (member : entry ∈ registry.entries) : entry.rule ∈ Catalogue.rules (.ofSettings settings) :=
  rules_of_build built ▸ List.mem_map_of_mem member

theorem judges_of_mem (built : build preset settings = .ok registry) {entry : RegisteredRule}
    (member : entry ∈ registry.entries) : entry.rule.Judges :=
  (Catalogue.selectsOwnKind_of_mem (builtIn_of_mem built member)).judges

theorem mem_rulesFor_iff {kind : FactKind} {entry : RegisteredRule} :
    entry ∈ registry.rulesFor kind ↔
      entry ∈ registry.entries ∧ entry.enabled = true ∧ entry.rule.appliesTo = kind := by
  simp [rulesFor_eq]

end Registry

namespace Evaluator

theorem code_of_evaluateRule {entry : RegisteredRule} (judges : entry.rule.Judges) {fact : Fact}
    (sameKind : fact.kind = entry.rule.appliesTo) {diagnostic : Diagnostic}
    (found : evaluateRule entry fact = some diagnostic) : diagnostic.code = entry.rule.code := by
  obtain ⟨verdict, checked⟩ := judges fact sameKind
  rw [evaluateRule, checked] at found
  cases verdict with
  | pass => contradiction
  | violation finding =>
    cases found
    rfl

/-- Under every preset and all settings that give a registry, the built-in rules judge every fact of
their kind, they are given no others, no cut of theirs breaks, and no report of theirs holds an
internal diagnostic. -/
theorem builtIn_checks_never_fail {preset : Preset} {settings : Settings} {registry : Registry}
    (built : Registry.build preset settings = .ok registry) :
    Rules.CutsSucceed (.ofSettings settings) ∧
      (∀ entry ∈ registry.entries, entry.rule.Judges) ∧
      (∀ facts, ∀ fact ∈ facts ++ Composite.join facts, ∀ entry ∈ registry.rulesFor fact.kind,
        entry.rule.appliesTo = fact.kind ∧ ∃ verdict, entry.rule.check fact = .verdict verdict) ∧
      ∀ workers batchSize exclude facts,
        ∀ diagnostic ∈ (evaluateProject ⟨registry, workers, batchSize, exclude⟩ facts).diagnostics,
          diagnostic.code ≠ internalCode := by
  refine ⟨Rules.cutsSucceed _, fun entry => Registry.judges_of_mem built, ?_, ?_⟩
  · intro facts fact _ entry applied
    obtain ⟨member, _, kind⟩ := Registry.mem_rulesFor_iff.mp applied
    exact ⟨kind, Registry.judges_of_mem built member fact kind.symm⟩
  · intro workers batchSize exclude facts diagnostic reported
    rw [evaluateProject, evaluate_eq] at reported
    obtain ⟨fact, _, _, found⟩ :=
      mem_gathered.mp ((Report.finalize_isDistinctSort _).mem reported)
    obtain ⟨entry, applied, made⟩ := List.mem_filterMap.mp found
    obtain ⟨member, _, kind⟩ := Registry.mem_rulesFor_iff.mp applied
    rw [code_of_evaluateRule (Registry.judges_of_mem built member) kind.symm made]
    exact Catalogue.code_ne_internal (Registry.builtIn_of_mem built member)

def umlautSettings : Settings :=
  { Settings.standard with
    rules := ⟨[("controller-name", ⟨none, none, SortedMap.empty.insert "suffix" (.text "Süd")⟩),
      ("view-file-camel-case",
        ⟨none, none, SortedMap.empty.insert "extensions" (.array [.text "é", .text ".é"])⟩)],
      by decide +kernel⟩ }

def umlautFacts : List Fact :=
  [⟨⟨⟨"a.php"⟩, 1, 1⟩, .classDecl (.mk ⟨"nordÖstSüd", .controller, none⟩)⟩,
    ⟨⟨⟨"a.php"⟩, 2, 1⟩, .route (.mk ⟨"straße/\x7bÄpfel?\x7d", .get, none, []⟩)⟩,
    ⟨⟨⟨"a.php"⟩, 3, 1⟩, .migration (.mk ⟨"2023_05_01_00000é_add", none⟩)⟩,
    ⟨⟨⟨"überSicht.é"⟩, 1, 1⟩, .view (.mk ⟨"ü/überSicht.é"⟩)⟩]

theorem umlauts_never_fail : ∃ registry : Registry,
    Registry.build .strict umlautSettings = .ok registry ∧
      Rules.CutsSucceed (.ofSettings umlautSettings) ∧
      (∀ entry ∈ registry.entries, entry.rule.Judges) ∧
      (∀ diagnostic ∈ (evaluateProject ⟨registry, none, 1, []⟩ umlautFacts).diagnostics,
        diagnostic.code ≠ internalCode) ∧
      (umlautFacts.flatMap (findings ⟨registry, none, 1, []⟩)).map Diagnostic.code =
        ["CL001", "CL020", "CL023", "CL050", "CL060"] := by
  have known : (umlautSettings.rules.entries.find? fun setting =>
      !Catalogue.ids.contains setting.1) = none :=
    List.find?_eq_none.mpr (by decide +kernel)
  obtain ⟨registry, entries, built⟩ := Registry.build_eq .strict umlautSettings
  rw [known] at built
  obtain ⟨cuts, judged, _, codes⟩ := builtIn_checks_never_fail built
  refine ⟨registry, built, cuts, judged, codes none 1 [] umlautFacts, ?_⟩
  have found : findings ⟨registry, none, 1, []⟩ = fun fact =>
      (((Catalogue.rules (.ofSettings umlautSettings)).mapIdx
        (Registry.configured .strict umlautSettings)).filter fun entry =>
          entry.enabled && entry.rule.appliesTo == fact.kind).filterMap
            fun entry => evaluateRule entry fact :=
    funext fun fact => by rw [findings_eq, entries]
  rw [found]
  decide +kernel

end Evaluator

end NamingAudit
