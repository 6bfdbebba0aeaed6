import NamingAudit.CommandLine.Check
import NamingAudit.Proofs.Admission
import NamingAudit.Proofs.BuiltRegistry

/-! Running some rules only. The loop that enables the chosen rules and disables all others comes down
to one formula for a rule. So a selection neither adds nor drops a rule, it succeeds as a whole or leaves
the registry as it was, and a check runs the built-in rules in their order whatever its arguments and
settings are. -/

namespace NamingAudit

namespace Registry

def flagged (flags : RegisteredRule → Bool) : StateChange where
  apply entry := { entry with enabled := flags entry }
  rule_apply _ := rfl
  priority_apply _ := rfl

def switched (ids : List String) : StateChange := flagged fun entry => ids.contains entry.rule.id

variable {registry selected : Registry}

theorem enableOnly_eq (ids : List String) (registry : Registry) :
    registry.enableOnly ids = .ok (registry.mapEntries (switched ids)) := by
  refine foldlM_ids (fun {registry id} known => ?_) registry
  split <;>
  · next chosen =>
    refine (update_eq registry id _).trans ?_
    rw [if_pos known]
    refine congrArg Except.ok (mapEntries_congr fun entry _ => StateChange.onRule_congr fun same => ?_)
    simpa [switched, flagged, enabling, same] using chosen

theorem rules_of_select {filter : String} (done : registry.select filter = .ok selected) :
    selected.rules = registry.rules := by
  obtain ⟨ids, _, switch⟩ := bind_ok done
  rw [enableOnly_eq] at switch
  cases switch
  exact rules_mapEntries (switched ids) registry

theorem outcome_switchEach (chosen order : List String) (registry : Registry) :
    outcome (registry.switchEach chosen order) =
      order.foldlM
        (fun (changed : Registry) id =>
          if chosen.contains id then changed.enable id else changed.disable id) registry := by
  induction order generalizing registry with
  | nil => rfl
  | cons id rest ih =>
    have step : registry.perform (if chosen.contains id then .enable id else .disable id) =
        registry.keeping (if chosen.contains id then registry.enable id else registry.disable id) := by
      split <;> rfl
    rw [List.foldlM_cons, switchEach, step]
    cases if chosen.contains id then registry.enable id else registry.disable id with
    | ok changed => exact ih changed
    | error error => rfl

/-- Changing a registry in place or returning a changed one makes no difference to a success. -/
theorem select_eq_outcome (filter : String) (registry : Registry) :
    registry.select filter = outcome (registry.selectInPlace filter) := by
  rw [select, selectInPlace]
  cases (selectionNames filter).mapM registry.resolve with
  | ok ids => exact (outcome_switchEach ids registry.ids registry).symm
  | error error => rfl

theorem eq_of_outcome {result : Registry × Except RegistryError Unit} {changed : Registry}
    (done : outcome result = .ok changed) : result = (changed, .ok ()) := by
  obtain ⟨after, _ | _⟩ := result <;> cases done
  rfl

def isUnmatched (registry : Registry) (name : String) : Bool :=
  !registry.entries.any fun entry => isCalled entry name

def resolved? (registry : Registry) (name : String) : Option String :=
  (registry.entries.find? fun entry => isCalled entry name).map fun entry => entry.rule.id

theorem resolve_eq (registry : Registry) (name : String) :
    registry.resolve name = (registry.resolved? name).elim (.error (.unknownRule name)) .ok := by
  rw [resolve, resolved?]
  cases registry.entries.find? fun entry => isCalled entry name <;> rfl

theorem resolved?_eq_none_iff {name : String} :
    registry.resolved? name = none ↔ registry.isUnmatched name = true := by
  simp [resolved?, isUnmatched]

theorem mapM_resolve (registry : Registry) (names : List String) :
    names.mapM registry.resolve =
      (names.find? registry.isUnmatched).elim (.ok (names.filterMap registry.resolved?))
        fun name => .error (.unknownRule name) := by
  induction names with
  | nil => rfl
  | cons name rest ih =>
    rw [List.mapM_cons, ih, resolve_eq]
    cases found : registry.resolved? name with
    | none =>
      rw [List.find?_cons_of_pos (resolved?_eq_none_iff.mp found)]
      rfl
    | some id =>
      have matched : ¬ registry.isUnmatched name = true := by
        rw [← resolved?_eq_none_iff, found]
        exact Option.some_ne_none id
      rw [List.find?_cons_of_neg matched, List.filterMap_cons_some found]
      cases rest.find? registry.isUnmatched <;> rfl

def narrowed (names : List String) (registry : Registry) : Registry :=
  { registry with
    entries := registry.entries.mapIdx fun position entry =>
      { entry with
        enabled := names.any fun name =>
          registry.entries.findIdx? (fun other => isCalled other name) == some position }
    coherent := registry.coherent.of_sameRules (List.ext_getElem (by simp) (by simp))
      (List.ext_getElem (by simp) (by simp)) }

theorem resolved?_eq_some_iff {name : String} {position : Nat}
    (bound : position < registry.entries.length) :
    registry.resolved? name = some registry.entries[position].rule.id ↔
      registry.entries.findIdx? (fun other => isCalled other name) = some position := by
  rw [resolved?, Option.map_eq_some_iff, List.findIdx?_eq_some_iff_getElem]
  constructor
  · rintro ⟨entry, found, same⟩
    obtain ⟨called, index, inside, rfl, before⟩ := List.find?_eq_some_iff_getElem.mp found
    -- No other rule has the id, so the rule that was found stands at the position.
    have idInside : index < registry.ids.length := by simpa [ids] using inside
    have idBound : position < registry.ids.length := by simpa [ids] using bound
    have sameIds : registry.ids[index] = registry.ids[position] := by simpa [ids] using same
    obtain rfl := (List.Nodup.getElem_inj_iff registry.ids_nodup).mp sameIds
    exact ⟨inside, called, fun other less => by simpa using before other less⟩
  · rintro ⟨_, called, before⟩
    refine ⟨registry.entries[position], List.find?_eq_some_iff_getElem.mpr ?_, rfl⟩
    exact ⟨called, position, bound, rfl, fun other less => by simpa using before other less⟩

theorem mapEntries_switched (names : List String) (registry : Registry) :
    registry.mapEntries (switched (names.filterMap registry.resolved?)) = registry.narrowed names := by
  refine ext_entries (List.ext_getElem (by simp [mapEntries, narrowed]) fun position bound _ => ?_)
  have inside : position < registry.entries.length := by simpa [mapEntries] using bound
  simp only [mapEntries, narrowed, List.getElem_map, List.getElem_mapIdx, switched, flagged]
  congr 1
  rw [Bool.eq_iff_iff]
  simp only [List.contains_iff_mem, List.mem_filterMap, List.any_eq_true, beq_iff_eq,
    resolved?_eq_some_iff inside]

theorem selectInPlace_eq (filter : String) (registry : Registry) :
    registry.selectInPlace filter =
      ((selectionNames filter).find? registry.isUnmatched).elim
        (registry.narrowed (selectionNames filter), .ok ())
        fun name => (registry, .error (.unknownRule name)) := by
  rw [selectInPlace, mapM_resolve]
  cases (selectionNames filter).find? registry.isUnmatched with
  | some name => rfl
  | none =>
    refine eq_of_outcome ((outcome_switchEach _ _ registry).trans ?_)
    exact (registry.enableOnly_eq _).trans (congrArg Except.ok (registry.mapEntries_switched _))

theorem narrowed_congr {names names' : List String} (same : ∀ name, name ∈ names ↔ name ∈ names')
    (registry : Registry) : registry.narrowed names = registry.narrowed names' := by
  have alike (position : Nat) :
      (names.any fun name =>
        registry.entries.findIdx? (fun other => isCalled other name) == some position) =
      names'.any fun name =>
        registry.entries.findIdx? (fun other => isCalled other name) == some position := by
    rw [Bool.eq_iff_iff]
    simp only [List.any_eq_true, same]
  simp only [narrowed, alike]

theorem isUnmatched_mapEntries (change : StateChange) (registry : Registry) :
    (registry.mapEntries change).isUnmatched = registry.isUnmatched := by
  funext name
  simp only [isUnmatched, mapEntries, List.any_map, Function.comp_def, isCalled, change.rule_apply]

theorem narrowed_flagged (names : List String) (flags : RegisteredRule → Bool) (registry : Registry) :
    (registry.mapEntries (flagged flags)).narrowed names = registry.narrowed names := by
  refine ext_entries ?_
  simp only [narrowed, mapEntries, flagged, List.findIdx?_map, Function.comp_def, isCalled]
  exact List.ext_getElem (by simp) fun position _ _ => by simp

theorem selectInPlace_flagged {filter : String}
    (matched : (selectionNames filter).find? registry.isUnmatched = none)
    (flags : RegisteredRule → Bool) :
    (registry.mapEntries (flagged flags)).selectInPlace filter =
      (registry.narrowed (selectionNames filter), .ok ()) := by
  rw [selectInPlace_eq, isUnmatched_mapEntries, matched, narrowed_flagged, Option.elim_none]

theorem selectInPlace_selectInPlace (filter : String) (registry : Registry) :
    (registry.selectInPlace filter).1.selectInPlace filter = registry.selectInPlace filter := by
  rw [registry.selectInPlace_eq]
  cases matched : (selectionNames filter).find? registry.isUnmatched with
  | some name => exact (registry.selectInPlace_eq filter).trans (by rw [matched])
  | none =>
    have again := selectInPlace_flagged matched fun entry =>
      ((selectionNames filter).filterMap registry.resolved?).contains entry.rule.id
    rw [← mapEntries_switched]
    rw [← mapEntries_switched] at again
    exact again

theorem selectInPlace_congr {filter other : String}
    (same : ∀ name, name ∈ selectionNames other ↔ name ∈ selectionNames filter) :
    (registry.selectInPlace other).1 = (registry.selectInPlace filter).1 ∧
      ((registry.selectInPlace other).2 = .ok () ↔ (registry.selectInPlace filter).2 = .ok ()) := by
  have both : (selectionNames other).find? registry.isUnmatched = none ↔
      (selectionNames filter).find? registry.isUnmatched = none := by
    simp only [List.find?_eq_none, same]
  rw [registry.selectInPlace_eq, registry.selectInPlace_eq, narrowed_congr same]
  cases found : (selectionNames other).find? registry.isUnmatched with
  | none =>
    rw [both.mp found]
    exact ⟨rfl, .rfl⟩
  | some name =>
    have unmatched : (selectionNames filter).find? registry.isUnmatched ≠ none :=
      mt both.mpr (found ▸ Option.some_ne_none name)
    obtain ⟨name', found'⟩ := Option.ne_none_iff_exists'.mp unmatched
    rw [found']
    exact ⟨rfl, iff_of_false nofun nofun⟩

/-- A selection is all or nothing. If no rule goes by some name of the filter, it fails with the first
such name and leaves the registry as it was. Otherwise exactly the rules that are the first to go by one
of the names are enabled, whatever was enabled before. A second time it changes nothing, and the order
and the number of the names make no difference. -/
theorem select_allOrNothing (registry : Registry) (filter : String) :
    registry.select filter = outcome (registry.selectInPlace filter) ∧
      (∀ name, (selectionNames filter).find? registry.isUnmatched = some name →
        registry.selectInPlace filter = (registry, .error (.unknownRule name))) ∧
      ((selectionNames filter).find? registry.isUnmatched = none →
        registry.selectInPlace filter = (registry.narrowed (selectionNames filter), .ok ()) ∧
          ∀ flags : RegisteredRule → Bool,
            (registry.mapEntries (flagged flags)).selectInPlace filter =
              registry.selectInPlace filter) ∧
      (registry.selectInPlace filter).1.selectInPlace filter = registry.selectInPlace filter ∧
      ∀ other : String, (∀ name, name ∈ selectionNames other ↔ name ∈ selectionNames filter) →
        (registry.selectInPlace other).1 = (registry.selectInPlace filter).1 ∧
          ((registry.selectInPlace other).2 = .ok () ↔ (registry.selectInPlace filter).2 = .ok ()) := by
  refine ⟨select_eq_outcome filter registry, fun name unmatched => ?_, fun matched => ?_,
    registry.selectInPlace_selectInPlace filter, fun other => selectInPlace_congr⟩
  · rw [selectInPlace_eq, unmatched, Option.elim_some]
  · have selected : registry.selectInPlace filter =
        (registry.narrowed (selectionNames filter), .ok ()) := by
      rw [selectInPlace_eq, matched, Option.elim_none]
    exact ⟨selected, fun flags => (selectInPlace_flagged matched flags).trans selected.symm⟩

theorem select_commandsByCode :
    let registry := registering Catalogue.commandRules
    registry.selectInPlace "cl070, bogus,ghost" = (registry, .error (.unknownRule "bogus")) ∧
      registry.selectInPlace " cl070,,CL070" = (registry.narrowed ["cl070", "CL070"], .ok ()) ∧
      (registry.narrowed ["cl070", "CL070"]).entries.map (fun entry => (entry.rule.id, entry.enabled)) =
        [("command-name-kebab-case", true), ("validation-rule-snake-case", false)] := by
  intro registry
  have names : selectionNames " cl070,,CL070" = ["cl070", "CL070"] := by decide +kernel
  have unknown : (selectionNames "cl070, bogus,ghost").find? registry.isUnmatched = some "bogus" := by
    decide +kernel
  have known : (selectionNames " cl070,,CL070").find? registry.isUnmatched = none := by decide +kernel
  have selected := ((select_allOrNothing registry " cl070,,CL070").2.2.1 known).1
  rw [names] at selected
  exact ⟨(select_allOrNothing registry _).2.1 "bogus" unknown, selected, by decide +kernel⟩

end Registry

namespace CommandLine.Check

variable {options : CheckOptions} {settings : Settings}

theorem registryOf_ok {registry : Registry} (built : registryOf options settings = .ok registry) :
    registry.rules = Catalogue.rules (.ofSettings settings) := by
  obtain ⟨preset, _, built⟩ := bind_ok built
  obtain ⟨whole, wholeOk, built⟩ := bind_ok built
  have rules := Registry.rules_of_build (mapError_ok wholeOk)
  split at built
  · exact (Registry.rules_of_select (mapError_ok built)).trans rules
  · cases built
    exact rules

/-- Whatever the arguments and settings are, an evaluator has the built-in rules. -/
theorem evaluatorOf_ok {evaluator : Evaluator}
    (built : evaluatorOf options settings = .ok evaluator) :
    evaluator.registry.rules = Catalogue.rules (.ofSettings settings) := by
  obtain ⟨registry, registryOk, built⟩ := bind_ok built
  obtain ⟨patterns, _, made⟩ := bind_ok (mapError_ok built)
  cases made
  exact registryOf_ok registryOk

end CommandLine.Check

end NamingAudit
