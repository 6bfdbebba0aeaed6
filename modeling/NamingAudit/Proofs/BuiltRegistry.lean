import NamingAudit.Proofs.Registry
import Mathlib.Data.List.TakeWhile

/-! The registry of a run in closed form. Registration, the loop of a preset and the settings on top of
it change each rule on its own, so the whole comes down to one formula for a rule. It fails only for
settings of rules that are not built in, and then it names the least of them. -/

namespace NamingAudit
open Std

namespace Catalogue

def ids : List String := (rules .standard).map Rule.id

theorem map_id_rules (options : RuleOptions) : (rules options).map Rule.id = ids := by
  simp only [ids, rules, classRules, fileRules, List.map_append, List.map_cons, List.map_nil]

theorem ids_nodup : ids.Nodup := by decide +kernel

theorem eq_of_id {options : RuleOptions} {first second : Rule} (one : first ∈ rules options)
    (other : second ∈ rules options) (same : first.id = second.id) : first = second :=
  List.inj_on_of_nodup_map (map_id_rules options ▸ ids_nodup) one other same

end Catalogue

namespace Registry
open StateChange

variable {registry : Registry}

theorem map_mapIdx {α : Type u} {β : Type v} {γ : Type w} (make : Nat → α → β) (change : β → γ)
    (items : List α) :
    (items.mapIdx make).map change =
      items.mapIdx fun position item => change (make position item) := by
  apply List.ext_getElem?
  intro position
  simp only [List.getElem?_map, List.getElem?_mapIdx, Option.map_map, Function.comp_def]

theorem mapIdx_eq_map {α : Type u} {β : Type v} (make : α → β) (items : List α) :
    items.mapIdx (fun _ item => make item) = items.map make := by
  apply List.ext_getElem?
  intro position
  simp

theorem ids_of_fresh {rules : List Rule} (entries : registry.entries = rules.mapIdx freshRule) :
    registry.ids = rules.map Rule.id := by
  rw [ids, entries, map_mapIdx]
  exact mapIdx_eq_map Rule.id rules

theorem ofRules_eq {rules : List Rule} (distinct : (rules.map Rule.id).Nodup) :
    ∃ registry, ofRules rules = .ok registry ∧ registry.entries = rules.mapIdx freshRule := by
  induction rules using List.reverseRecOn with
  | nil => exact ⟨empty, rfl, rfl⟩
  | append_singleton rules rule ih =>
    rw [List.map_append, List.nodup_append] at distinct
    obtain ⟨registry, built, entries⟩ := ih distinct.1
    have absent : rule.id ∉ registry.ids := by
      rw [ids_of_fresh entries]
      exact fun member => distinct.2.2 _ member rule.id (by simp) rfl
    have length : registry.entries.length = rules.length := by rw [entries, List.length_mapIdx]
    obtain ⟨changed, registered, extended⟩ := register_of_not_mem absent
    refine ⟨changed, ?_, ?_⟩
    · rw [ofRules] at built ⊢
      rw [List.foldlM_append, built]
      exact (bind_pure _).trans registered
    · rw [extended, length, entries, List.mapIdx_concat]

def restricted (preset : Preset) : StateChange where
  apply entry := { entry with enabled := entry.enabled && preset.includes entry.rule.id }
  rule_apply _ := rfl
  priority_apply _ := rfl

def raised (preset : Preset) : StateChange where
  apply entry :=
    { entry with
      severity := if preset = .strict ∧ entry.severity = .warning then .error else entry.severity }
  rule_apply _ := rfl
  priority_apply _ := rfl

theorem exists_get? {id : String} (known : id ∈ registry.ids) :
    ∃ entry, registry.get? id = some entry ∧
      ∀ other ∈ registry.entries, other.rule.id = id → other = entry := by
  obtain ⟨entry, member, same⟩ := List.mem_map.mp known
  refine ⟨entry, get?_eq_some_iff.mpr ⟨member, same⟩, fun other present named => ?_⟩
  exact eq_of_id present member (named.trans same.symm)

theorem promote_eq (preset : Preset) {id : String} (known : id ∈ registry.ids) :
    (if preset == .strict && (registry.get? id).any fun entry => entry.severity == .warning
      then registry.setSeverity id .error else .ok registry) =
        .ok (registry.mapEntries ((raised preset).onRule id)) := by
  obtain ⟨entry, found, alone⟩ := exists_get? known
  rw [found, Option.any_some]
  by_cases warns : preset = .strict ∧ entry.severity = .warning
  · rw [if_pos (by simpa using warns), setSeverity, update_eq, if_pos known]
    refine congrArg Except.ok (mapEntries_congr fun other present => onRule_congr fun same => ?_)
    simp only [alone other present same, grading, raised, if_pos warns]
  · rw [if_neg (by simpa using warns)]
    refine congrArg Except.ok (mapEntries_eq_self fun other present => ?_).symm
    rw [onRule_apply]
    split
    case isTrue same => simp only [alone other present same, raised, if_neg warns]
    case isFalse => rfl

theorem presetRule_eq (preset : Preset) {id : String} (known : id ∈ registry.ids) :
    presetRule preset registry id =
      .ok (registry.mapEntries (((raised preset).comp (restricted preset)).onRule id)) := by
  rw [presetRule]
  by_cases included : preset.includes id = true
  · rw [if_pos included]
    refine (promote_eq preset known).trans (congrArg Except.ok ?_)
    refine mapEntries_congr fun entry _ => onRule_congr fun same => ?_
    have kept : restricted preset entry = entry := by
      simp only [restricted, same, included, Bool.and_true]
    rw [comp_apply, kept]
  · have disabled : registry.disable id =
        .ok (registry.mapEntries ((restricted preset).onRule id)) := by
      rw [disable, update_eq, if_pos known]
      refine congrArg Except.ok (mapEntries_congr fun entry _ => onRule_congr fun same => ?_)
      simp [restricted, enabling, same, included]
    have still : id ∈ (registry.mapEntries ((restricted preset).onRule id)).ids := by
      rwa [ids_mapEntries]
    rw [if_neg included, disabled]
    refine (promote_eq preset still).trans ?_
    rw [mapEntries_mapEntries, onRule_comp]

/-- A loop over distinct rules that changes one at a time changes each of them on its own. -/
theorem foldlM_onRule {step : Registry → String → Except RegistryError Registry}
    {change : StateChange}
    (changes : ∀ {registry : Registry} {id}, id ∈ registry.ids →
      step registry id = .ok (registry.mapEntries (change.onRule id)))
    {chosen : List String} (known : ∀ id ∈ chosen, id ∈ registry.ids) (distinct : chosen.Nodup) :
    ∃ whole, chosen.foldlM step registry = .ok (registry.mapEntries whole) ∧
      ∀ entry, whole entry = if entry.rule.id ∈ chosen then change entry else entry := by
  induction chosen generalizing registry with
  | nil => exact ⟨unchanged, congrArg Except.ok registry.mapEntries_unchanged.symm, fun _ => rfl⟩
  | cons id rest ih =>
    have fresh := List.nodup_cons.mp distinct
    have still : ∀ other ∈ rest, other ∈ (registry.mapEntries (change.onRule id)).ids := by
      intro other member
      rw [ids_mapEntries]
      exact known other (List.mem_cons_of_mem id member)
    obtain ⟨whole, folded, effect⟩ := ih still fresh.2
    refine ⟨whole.comp (change.onRule id), ?_, fun entry => ?_⟩
    · rw [List.foldlM_cons, changes (known id List.mem_cons_self)]
      exact folded.trans (congrArg Except.ok (mapEntries_mapEntries ..))
    · by_cases same : entry.rule.id = id
      · simp [onRule_apply, effect, same, fresh.1, change.rule_apply]
      · simp [onRule_apply, effect, same]

theorem foldlM_ids {step : Registry → String → Except RegistryError Registry} {change : StateChange}
    (changes : ∀ {registry : Registry} {id}, id ∈ registry.ids →
      step registry id = .ok (registry.mapEntries (change.onRule id)))
    (registry : Registry) : registry.ids.foldlM step registry = .ok (registry.mapEntries change) := by
  obtain ⟨whole, folded, effect⟩ := foldlM_onRule changes (fun _ member => member) registry.ids_nodup
  rw [folded]
  refine congrArg Except.ok (mapEntries_congr fun entry member => ?_)
  have known : entry.rule.id ∈ registry.ids := List.mem_map.mpr ⟨entry, member, rfl⟩
  rw [effect, if_pos known]

def overlaidBy (settings : List (String × RuleSettings)) : StateChange where
  apply entry := (SortedMap.lookup? entry.rule.id settings).elim entry fun own => overlay own entry
  rule_apply entry := by cases SortedMap.lookup? entry.rule.id settings <;> rfl
  priority_apply entry := by cases SortedMap.lookup? entry.rule.id settings <;> rfl

theorem overlaidBy_apply (settings : List (String × RuleSettings)) (entry : RegisteredRule) :
    overlaidBy settings entry =
      (SortedMap.lookup? entry.rule.id settings).elim entry fun own => overlay own entry := rfl

def isKnown (registry : Registry) (setting : String × RuleSettings) : Bool :=
  registry.ids.contains setting.1

theorem overlaidBy_nil : overlaidBy [] = unchanged := rfl

theorem overlaidBy_cons {id : String} {own : RuleSettings} {rest : List (String × RuleSettings)}
    (below : ∀ setting ∈ rest, compare id setting.1 = .lt) :
    (overlaidBy rest).comp ((overlay own).onRule id) = overlaidBy ((id, own) :: rest) := by
  ext1 entry
  rw [comp_apply, onRule_apply, overlaidBy_apply _ entry, SortedMap.lookup?_cons]
  by_cases same : entry.rule.id = id
  · rw [if_pos same, if_pos (same ▸ ReflCmp.compare_self), overlaidBy_apply, (overlay own).rule_apply,
      same, SortedMap.lookup?_eq_none_of_lt below]
    rfl
  · rw [if_neg same, if_neg (mt LawfulEqOrd.eq_of_compare same), overlaidBy_apply]

theorem applyEntries_eq (registry : Registry) {settings : List (String × RuleSettings)}
    (ascending : settings.Pairwise fun first second => compare first.1 second.1 = .lt) :
    registry.applyEntries settings =
      (registry.mapEntries (overlaidBy (settings.takeWhile registry.isKnown)),
        (settings.find? fun setting => !registry.isKnown setting).elim (.ok ())
          fun setting => .error (.unknownRule setting.1)) := by
  induction settings generalizing registry with
  | nil => exact congrArg (·, Except.ok ()) registry.mapEntries_unchanged.symm
  | cons setting rest ih =>
    have bounds := List.pairwise_cons.mp ascending
    rw [Registry.applyEntries, update_eq]
    by_cases known : registry.isKnown setting = true
    · have still : (registry.mapEntries ((overlay setting.2).onRule setting.1)).isKnown =
          registry.isKnown := by
        funext other
        rw [isKnown, isKnown, ids_mapEntries]
      rw [if_pos (by simpa [isKnown] using known), List.takeWhile_cons_of_pos known,
        List.find?_cons_of_neg (by simp [known])]
      refine (ih _ bounds.2).trans ?_
      rw [still, mapEntries_mapEntries, overlaidBy_cons]
      intro other member
      exact bounds.1 other ((List.takeWhile_prefix _).subset member)
    · rw [if_neg (by simpa [isKnown] using known), List.takeWhile_cons_of_neg known,
        List.find?_cons_of_pos (by simp [known]), overlaidBy_nil, mapEntries_unchanged]
      rfl

def IsUnknown (settings : Settings) (id : String) : Prop :=
  settings.rules.contains id = true ∧ id ∉ Catalogue.ids

/-- A built-in rule in a run: its settings come first, then the preset, then the rule itself. -/
def configured (preset : Preset) (settings : Settings) (position : Nat) (rule : Rule) :
    RegisteredRule where
  rule := rule
  enabled :=
    ((settings.rules.get? rule.id).bind RuleSettings.enabled).getD (preset.includes rule.id)
  severity :=
    ((settings.rules.get? rule.id).bind RuleSettings.severity).getD
      (if preset = .strict ∧ rule.defaultSeverity = .warning then .error else rule.defaultSeverity)
  priority := position

theorem overlaidBy_freshRule (preset : Preset) (settings : Settings) (position : Nat) (rule : Rule) :
    overlaidBy settings.rules.entries (raised preset (restricted preset (freshRule position rule))) =
      configured preset settings position rule := by
  rw [overlaidBy_apply, (raised preset).rule_apply, (restricted preset).rule_apply, configured]
  change (settings.rules.get? rule.id).elim _ _ = _
  cases settings.rules.get? rule.id with
  | none => simp [raised, restricted, freshRule]
  | some own => simp [overlay, raised, restricted, freshRule]

theorem firstUnknown_isLeast (rules : SortedMap String RuleSettings) (known : List String) :
    SortedMap.IsLeast compare (fun id => rules.contains id = true ∧ id ∉ known)
      ((rules.entries.find? fun setting => !known.contains setting.1).map Prod.fst) := by
  cases found : rules.entries.find? fun setting => !known.contains setting.1 with
  | none =>
    intro id unknown
    obtain ⟨own, member⟩ := SortedMap.contains_iff.mp unknown.1
    have passed := List.find?_eq_none.mp found (id, own) member
    exact unknown.2 (by simpa using passed)
  | some setting =>
    obtain ⟨fails, before, behind, split, passed⟩ := List.find?_eq_some_iff_append.mp found
    have member : setting ∈ rules.entries := List.mem_of_find?_eq_some found
    refine ⟨⟨SortedMap.contains_iff.mpr ⟨setting.2, member⟩, by simpa using fails⟩, ?_⟩
    intro id unknown
    obtain ⟨own, listed⟩ := SortedMap.contains_iff.mp unknown.1
    rw [split] at listed
    rcases List.mem_append.mp listed with early | late
    · exact absurd (passed (id, own) early) (by simpa using unknown.2)
    · rcases List.mem_cons.mp late with same | later
      · rw [← same]
        exact Ordering.isLE_of_eq_eq ReflCmp.compare_self
      · have bounds : (before ++ setting :: behind).Pairwise fun first second =>
            compare first.1 second.1 = .lt := split ▸ rules.ascending
        have less := (List.pairwise_cons.mp (List.pairwise_append.mp bounds).2.1).1 _ later
        exact Ordering.isLE_of_eq_lt less

theorem build_eq_applySettings (preset : Preset) (settings : Settings) :
    ∃ registry : Registry, registry.entries = (Catalogue.rules (.ofSettings settings)).mapIdx
        (fun position rule => raised preset (restricted preset (freshRule position rule))) ∧
      build preset settings =
        match registry.applySettings settings with
        | (registry, .ok _) => .ok registry
        | (_, .error error) => .error error := by
  have distinct : ((Catalogue.rules (.ofSettings settings)).map Rule.id).Nodup := by
    rw [Catalogue.map_id_rules]
    exact Catalogue.ids_nodup
  obtain ⟨fresh, registered, entries⟩ := ofRules_eq distinct
  have looped : fresh.ids.foldlM (presetRule preset) fresh =
      .ok (fresh.mapEntries ((raised preset).comp (restricted preset))) :=
    foldlM_ids (presetRule_eq preset) fresh
  refine ⟨fresh.mapEntries ((raised preset).comp (restricted preset)), ?_, ?_⟩
  · simp only [mapEntries, entries, map_mapIdx, comp_apply]
  · rw [build, registered]
    change (fresh.ids.foldlM (presetRule preset) fresh >>= _) = _
    rw [looped]
    rfl

theorem rules_of_build {preset : Preset} {settings : Settings}
    (built : build preset settings = .ok registry) :
    registry.rules = Catalogue.rules (.ofSettings settings) := by
  obtain ⟨loaded, entries, eq⟩ := build_eq_applySettings preset settings
  obtain ⟨change, changed⟩ := loaded.applyEntries_cases settings.rules.entries
  have listed : loaded.rules = Catalogue.rules (.ofSettings settings) := by
    rw [rules, entries, map_mapIdx]
    exact (mapIdx_eq_map _ _).trans (List.map_id' _)
  have kept : (loaded.applySettings settings).1 = registry := by
    rw [eq] at built
    split at built
    case h_1 applied =>
      cases built
      rw [applied]
    case h_2 => contradiction
  rw [← kept, applySettings, changed, rules_mapEntries, listed]

theorem build_eq (preset : Preset) (settings : Settings) :
    ∃ registry : Registry, registry.entries =
        (Catalogue.rules (.ofSettings settings)).mapIdx (configured preset settings) ∧
      build preset settings =
        (settings.rules.entries.find? fun setting => !Catalogue.ids.contains setting.1).elim
          (.ok registry) fun setting => .error (.unknownRule setting.1) := by
  obtain ⟨loaded, entries, built⟩ := build_eq_applySettings preset settings
  refine ⟨loaded.mapEntries (overlaidBy settings.rules.entries), ?_, ?_⟩
  · simp only [mapEntries, entries, map_mapIdx, overlaidBy_freshRule]
  · have isKnown : loaded.isKnown = fun setting => Catalogue.ids.contains setting.1 := by
      have ids : loaded.ids = Catalogue.ids := by
        rw [← Catalogue.map_id_rules (.ofSettings settings), ids, entries, map_mapIdx]
        exact mapIdx_eq_map Rule.id _
      funext setting
      rw [Registry.isKnown, ids]
    rw [built, applySettings, loaded.applyEntries_eq settings.rules.ascending, isKnown]
    cases found : settings.rules.entries.find? fun setting => !Catalogue.ids.contains setting.1 with
    | none =>
      have known : settings.rules.entries.takeWhile
          (fun setting => Catalogue.ids.contains setting.1) = settings.rules.entries := by
        rw [List.takeWhile_eq_self_iff]
        intro setting member
        simpa using List.find?_eq_none.mp found setting member
      rw [known]
      rfl
    | some setting => rfl

/-- A run fails to start exactly when its settings name rules that are not built in, and the error names
the least of these. Otherwise the built-in rules are registered in their order, and whether one is
enabled and how grave it is are settled independently, by its settings before the preset. -/
theorem build_closedForm (preset : Preset) (settings : Settings) :
    ((∃ error, build preset settings = .error error) ↔ ∃ id, IsUnknown settings id) ∧
      (∀ error, build preset settings = .error error → ∃ id, error = .unknownRule id ∧
        SortedMap.IsLeast compare (IsUnknown settings) (some id)) ∧
      ∀ registry, build preset settings = .ok registry → registry.entries =
        (Catalogue.rules (.ofSettings settings)).mapIdx (configured preset settings) := by
  have least : SortedMap.IsLeast compare (IsUnknown settings) _ :=
    firstUnknown_isLeast settings.rules Catalogue.ids
  obtain ⟨made, entries, built⟩ := build_eq preset settings
  rw [built]
  cases found : settings.rules.entries.find? fun setting => !Catalogue.ids.contains setting.1 with
  | none =>
    rw [found] at least
    refine ⟨⟨?_, ?_⟩, ?_, ?_⟩
    · rintro ⟨error, failed⟩
      contradiction
    · rintro ⟨id, unknown⟩
      exact absurd unknown (least id)
    · intro error failed
      contradiction
    · intro registry succeeded
      cases succeeded
      exact entries
  | some setting =>
    rw [found] at least
    refine ⟨⟨fun _ => ⟨setting.1, least.1⟩, fun _ => ⟨_, rfl⟩⟩, ?_, ?_⟩
    · intro error failed
      cases failed
      exact ⟨setting.1, rfl, least⟩
    · intro registry succeeded
      contradiction

def overlaidSettings : Settings where
  preset := none
  failOn := none
  engine := .standard
  rules := ⟨[("model-name", ⟨none, some .info, .empty⟩),
      ("route-name-camel-case", ⟨some true, none, .empty⟩),
      ("table-name", ⟨some false, some .warning, .empty⟩)], by decide +kernel⟩

theorem build_overlaidSettings :
    ∃ registry, build .minimal overlaidSettings = .ok registry ∧
      (registry.entries.filter RegisteredRule.enabled).map
          (fun entry => (entry.rule.id, entry.severity)) =
        [("controller-name", .error), ("model-name", .info), ("route-name-camel-case", .warning),
          ("pivot-table-name", .error), ("foreign-key-name", .error)] := by
  have closed := build_closedForm .minimal overlaidSettings
  have known : ¬ ∃ id, IsUnknown overlaidSettings id := by
    rintro ⟨id, given, unknown⟩
    obtain ⟨own, member⟩ := SortedMap.contains_iff.mp given
    have listed : ∀ setting ∈ overlaidSettings.rules.entries, setting.1 ∈ Catalogue.ids := by
      decide +kernel
    exact unknown (listed _ member)
  cases built : build .minimal overlaidSettings with
  | error error => exact absurd (closed.1.mp ⟨error, built⟩) known
  | ok registry =>
    refine ⟨registry, rfl, ?_⟩
    rw [closed.2.2 registry built]
    decide +kernel

end Registry

end NamingAudit
