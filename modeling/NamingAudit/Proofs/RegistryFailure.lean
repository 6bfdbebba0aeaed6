import NamingAudit.Proofs.BuiltRegistry

/-! What operations on a registry leave behind when they fail, and what settings do when they do not.
An operation on one rule succeeds or changes nothing. Settings are applied in the order of the ids up
to the first that is not registered, as if only the settings before it had been given. Settings for
different rules commute, so those that apply as a whole can also be applied one at a time. -/

namespace NamingAudit
open Std

namespace Settings

def before (id : String) (settings : Settings) : Settings :=
  { settings with
    rules := ⟨settings.rules.entries.filter fun setting => compare setting.1 id == .lt,
      settings.rules.ascending.filter _⟩ }

def only (setting : String × RuleSettings) : Settings :=
  { standard with rules := ⟨[setting], List.pairwise_singleton _ setting⟩ }

end Settings

namespace Registry
open StateChange

/-- All operations but those that may concern several rules. -/
def Operation.IsSingle : Operation → Prop
  | .applySettings _ => False
  | _ => True

def refusal? (registry : Registry) : Operation → Option RegistryError
  | .register rule => if rule.id ∈ registry.ids then some (.duplicateRuleId rule.id) else none
  | .enable id => if id ∈ registry.ids then none else some (.unknownRule id)
  | .disable id => if id ∈ registry.ids then none else some (.unknownRule id)
  | .setSeverity id _ => if id ∈ registry.ids then none else some (.unknownRule id)
  | .applySettings _ => none

/-- The result is the given error and the registry as it was, or else a success. -/
def Refuses (registry : Registry) (result : Registry × Except RegistryError Unit) :
    Option RegistryError → Prop
  | some error => result = (registry, .error error)
  | none => result.2 = .ok ()

theorem refuses_update (registry : Registry) (id : String) (change : StateChange) :
    registry.Refuses (registry.keeping (registry.update id change))
      (if id ∈ registry.ids then none else some (.unknownRule id)) := by
  rw [update_eq]
  split <;> rfl

/-- An operation on one rule fails for an id that is taken or for one that is unknown, and then the
registry stays what it was. -/
theorem refuses (registry : Registry) {operation : Operation} (single : operation.IsSingle) :
    registry.Refuses (registry.perform operation) (registry.refusal? operation) := by
  cases operation with
  | applySettings settings => exact single.elim
  | enable id => exact registry.refuses_update id _
  | disable id => exact registry.refuses_update id _
  | setSeverity id severity => exact registry.refuses_update id _
  | register rule =>
    rw [Registry.perform, refusal?]
    by_cases taken : rule.id ∈ registry.ids
    · rw [if_pos taken, register_of_mem taken]
      rfl
    · obtain ⟨changed, registered, _⟩ := register_of_not_mem taken
      rw [if_neg taken, registered]
      rfl

def withSetting (registry : Registry) (setting : String × RuleSettings) : Registry :=
  registry.mapEntries ((overlay setting.2).onRule setting.1)

theorem ids_withSetting (registry : Registry) (setting : String × RuleSettings) :
    (registry.withSetting setting).ids = registry.ids :=
  ids_mapEntries ((overlay setting.2).onRule setting.1) registry

theorem applyEntries_of_known {registry : Registry} {settings : List (String × RuleSettings)}
    (known : ∀ setting ∈ settings, setting.1 ∈ registry.ids) :
    registry.applyEntries settings = (settings.foldl withSetting registry, .ok ()) := by
  induction settings generalizing registry with
  | nil => rfl
  | cons setting rest ih =>
    have others : ∀ other ∈ rest, other.1 ∈ (registry.withSetting setting).ids := by
      rw [ids_withSetting]
      exact fun other member => known other (List.mem_cons_of_mem setting member)
    rw [Registry.applyEntries, update_eq, if_pos (known setting List.mem_cons_self)]
    exact ih others

/-- Settings applied one at a time, in the given order, as long as each of them succeeds. -/
def applyEach (registry : Registry) (settings : List (String × RuleSettings)) :
    Except RegistryError Registry :=
  settings.foldlM
    (fun registry setting =>
      match registry.perform (.applySettings (.only setting)) with
      | (changed, .ok _) => .ok changed
      | (_, .error error) => .error error)
    registry

theorem applyEach_of_known {registry : Registry} {settings : List (String × RuleSettings)}
    (known : ∀ setting ∈ settings, setting.1 ∈ registry.ids) :
    registry.applyEach settings = .ok (settings.foldl withSetting registry) := by
  induction settings generalizing registry with
  | nil => rfl
  | cons setting rest ih =>
    have others : ∀ other ∈ rest, other.1 ∈ (registry.withSetting setting).ids := by
      rw [ids_withSetting]
      exact fun other member => known other (List.mem_cons_of_mem setting member)
    have first : ∀ other ∈ [setting], other.1 ∈ registry.ids := by
      simpa using known setting List.mem_cons_self
    have alone : registry.perform (.applySettings (.only setting)) =
        (registry.withSetting setting, .ok ()) := applyEntries_of_known first
    rw [applyEach, List.foldlM_cons, alone]
    exact ih others

theorem withSetting_comm {registry : Registry} {first second : String × RuleSettings}
    (different : first.1 ≠ second.1) :
    (registry.withSetting first).withSetting second =
      (registry.withSetting second).withSetting first := by
  simp only [withSetting, mapEntries_mapEntries]
  refine mapEntries_congr fun entry _ => ?_
  by_cases one : entry.rule.id = first.1
  · simp [onRule_apply, one, overlay, different]
  · by_cases other : entry.rule.id = second.1
    · simp [onRule_apply, other, overlay, Ne.symm different]
    · simp [onRule_apply, one, other]

theorem foldl_withSetting_perm {settings : SortedMap String RuleSettings}
    {order : List (String × RuleSettings)} (perm : order.Perm settings.entries)
    (registry : Registry) :
    order.foldl withSetting registry = settings.entries.foldl withSetting registry := by
  refine perm.foldl_eq' (fun first firstMember second secondMember between => ?_) registry
  by_cases same : first.1 = second.1
  · have found := SortedMap.get?_of_mem (perm.mem_iff.mp firstMember)
    have met := SortedMap.get?_of_mem (perm.mem_iff.mp secondMember)
    rw [same, met] at found
    rw [Prod.ext same (Option.some.inj found).symm]
  · exact withSetting_comm same

def IsUnregistered (registry : Registry) (settings : Settings) (id : String) : Prop :=
  settings.rules.contains id = true ∧ id ∉ registry.ids

theorem get?_mapEntries (registry : Registry) (change : StateChange) (id : String) :
    (registry.mapEntries change).get? id = (registry.get? id).map change := by
  simp only [get?, mapEntries, List.getElem?_map, Option.map_bind, Function.comp_def]

theorem get?_overlaidBy_of_absent {registry : Registry} {settings : List (String × RuleSettings)}
    {id : String} (absent : SortedMap.lookup? id settings = none) :
    (registry.mapEntries (overlaidBy settings)).get? id = registry.get? id := by
  rw [get?_mapEntries]
  cases found : registry.get? id with
  | none => rfl
  | some entry =>
    have named := (get?_eq_some_iff.mp found).2
    rw [Option.map_some, overlaidBy_apply, named, absent, Option.elim_none]

theorem overlaidBy_overlaidBy (settings : List (String × RuleSettings)) :
    (overlaidBy settings).comp (overlaidBy settings) = overlaidBy settings := by
  ext1 entry
  have kept := (overlaidBy settings).rule_apply entry
  rw [comp_apply, overlaidBy_apply settings (overlaidBy settings entry), kept, overlaidBy_apply]
  cases SortedMap.lookup? entry.rule.id settings with
  | none => rfl
  | some own =>
    cases enabled : own.enabled <;> cases severity : own.severity <;>
      simp [overlay, enabled, severity]

structure StoppedAt (registry : Registry) (settings : Settings) (id : String)
    (after : Registry) : Prop where
  least : SortedMap.IsLeast compare (registry.IsUnregistered settings) (some id)
  applied : registry.applySettings (settings.before id) = (after, .ok ())
  untouched : ∀ other, compare other id ≠ .lt → after.get? other = registry.get? other

structure AppliedAll (registry : Registry) (settings : Settings) (after : Registry) : Prop where
  unnamed : ∀ other, settings.rules.contains other = false →
    after.get? other = registry.get? other
  again : after.applySettings settings = (after, .ok ())
  inAnyOrder : ∀ order : List (String × RuleSettings), order.Perm settings.rules.entries →
    registry.applyEach order = .ok after

section ApplySettings
variable {registry : Registry} {settings : Settings}

theorem applySettings_of_known
    (known : ∀ setting ∈ settings.rules.entries, setting.1 ∈ registry.ids) :
    registry.applySettings settings =
      (registry.mapEntries (overlaidBy settings.rules.entries), .ok ()) := by
  have passed : ∀ setting ∈ settings.rules.entries, registry.isKnown setting = true :=
    fun setting member => by simpa [isKnown] using known setting member
  have none : settings.rules.entries.find? (fun setting => !registry.isKnown setting) = none := by
    simpa using passed
  rw [applySettings, applyEntries_eq _ settings.rules.ascending,
    List.takeWhile_eq_self_iff.mpr passed, none]
  rfl

theorem appliedAll (known : ∀ setting ∈ settings.rules.entries, setting.1 ∈ registry.ids) :
    registry.AppliedAll settings (registry.mapEntries (overlaidBy settings.rules.entries)) where
  unnamed other absent := get?_overlaidBy_of_absent (by simpa [SortedMap.contains, SortedMap.get?] using absent)
  again := by
    have still : ∀ setting ∈ settings.rules.entries,
        setting.1 ∈ (registry.mapEntries (overlaidBy settings.rules.entries)).ids := by
      rwa [ids_mapEntries]
    rw [applySettings_of_known still, mapEntries_mapEntries, overlaidBy_overlaidBy]
  inAnyOrder order perm := by
    have ordered : ∀ setting ∈ order, setting.1 ∈ registry.ids :=
      fun setting member => known setting (perm.mem_iff.mp member)
    have whole := (applyEntries_of_known known).symm.trans (applySettings_of_known known)
    rw [applyEach_of_known ordered, foldl_withSetting_perm perm, (Prod.mk.inj whole).1]

theorem stoppedAt {setting : String × RuleSettings}
    (found : settings.rules.entries.find? (fun setting => !registry.isKnown setting) =
      some setting) :
    ∃ after, registry.applySettings settings = (after, .error (.unknownRule setting.1)) ∧
      registry.StoppedAt settings setting.1 after := by
  obtain ⟨unknown, early, late, split, passed⟩ := List.find?_eq_some_iff_append.mp found
  have known : ∀ other ∈ early, registry.isKnown other = true := by simpa using passed
  have bounds : (early ++ setting :: late).Pairwise fun first second =>
      compare first.1 second.1 = .lt := split ▸ settings.rules.ascending
  have below : ∀ other ∈ early, compare other.1 setting.1 = .lt := fun other member =>
    (List.pairwise_append.mp bounds).2.2 other member setting List.mem_cons_self
  have above : ∀ other ∈ late, ¬ compare other.1 setting.1 = .lt := fun other member less => by
    have more := (List.pairwise_cons.mp (List.pairwise_append.mp bounds).2.1).1 other member
    rw [OrientedCmp.gt_of_lt less] at more
    contradiction
  have taken : settings.rules.entries.takeWhile registry.isKnown = early := by
    rw [split, List.takeWhile_append_of_pos known, List.takeWhile_cons_of_neg (by simpa using unknown),
      List.append_nil]
  have kept : (settings.before setting.1).rules.entries = early := by
    change settings.rules.entries.filter (fun other => compare other.1 setting.1 == .lt) = early
    rw [split, List.filter_append, List.filter_eq_self.mpr (by simpa using below),
      List.filter_cons_of_neg (by simp [ReflCmp.compare_self]),
      List.filter_eq_nil_iff.mpr (by simpa using above), List.append_nil]
  refine ⟨registry.mapEntries (overlaidBy early), ?_, ?_, ?_, fun other beyond => ?_⟩
  · rw [applySettings, applyEntries_eq _ settings.rules.ascending, taken, found, Option.elim_some]
  · have least := firstUnknown_isLeast settings.rules registry.ids
    have first : settings.rules.entries.find? (fun setting => !registry.ids.contains setting.1) =
        some setting := found
    rwa [first] at least
  · rw [applySettings_of_known, kept]
    rw [kept]
    exact fun other member => by simpa [isKnown] using known other member
  · refine get?_overlaidBy_of_absent ?_
    simp only [SortedMap.lookup?, Option.map_eq_none_iff, List.find?_eq_none, beq_iff_eq]
    intro own member tie
    rw [LawfulEqOrd.eq_of_compare tie] at beyond
    exact beyond (below own member)

end ApplySettings

/-- An operation that concerns one rule fails exactly for an id that is taken, when it registers, or
not registered, and then leaves the registry as it was. Settings fail exactly when they name a rule that
is not registered; the error names the least of these, and the registry is left as if only the settings
of lesser ids had been given. When they succeed they touch the rules they name and no other, a second
time they change nothing, and applied one at a time they lead to the same registry in every order. -/
theorem failure_and_state (registry : Registry) :
    (∀ operation : Operation, operation.IsSingle →
      registry.Refuses (registry.perform operation) (registry.refusal? operation)) ∧
      ∀ settings : Settings,
        ((∃ error, (registry.applySettings settings).2 = .error error) ↔
          ∃ id, registry.IsUnregistered settings id) ∧
        (∀ after error, registry.applySettings settings = (after, .error error) →
          ∃ id, error = .unknownRule id ∧ registry.StoppedAt settings id after) ∧
        ∀ after, registry.applySettings settings = (after, .ok ()) →
          registry.AppliedAll settings after := by
  refine ⟨fun operation => registry.refuses, fun settings => ?_⟩
  have least := firstUnknown_isLeast settings.rules registry.ids
  cases found : settings.rules.entries.find? fun setting => !registry.isKnown setting with
  | none =>
    have known : ∀ setting ∈ settings.rules.entries, setting.1 ∈ registry.ids := by
      simpa [isKnown] using found
    have applied := applySettings_of_known known
    have first : settings.rules.entries.find? (fun setting => !registry.ids.contains setting.1) =
        none := found
    rw [first] at least
    rw [applied]
    refine ⟨⟨?_, ?_⟩, ?_, ?_⟩
    · rintro ⟨error, failed⟩
      contradiction
    · rintro ⟨id, unknown⟩
      exact absurd unknown (least id)
    · intro after error failed
      cases (Prod.mk.inj failed).2
    · intro after succeeded
      rw [← (Prod.mk.inj succeeded).1]
      exact appliedAll known
  | some setting =>
    obtain ⟨stopped, applied, stoppedAt⟩ := stoppedAt found
    rw [applied]
    refine ⟨⟨fun _ => ⟨setting.1, stoppedAt.least.1⟩, fun _ => ⟨_, rfl⟩⟩, ?_, ?_⟩
    · intro after error failed
      obtain ⟨rfl, same⟩ := Prod.mk.inj failed
      exact ⟨setting.1, (Except.error.inj same).symm, stoppedAt⟩
    · intro after succeeded
      cases (Prod.mk.inj succeeded).2

def settingsAroundGhost : Settings :=
  { Settings.standard with
    rules := ⟨[("command-name-kebab-case", ⟨some false, none, .empty⟩), ("ghost", ⟨none, none, .empty⟩),
      ("validation-rule-snake-case", ⟨none, some .error, .empty⟩)], by decide +kernel⟩ }

theorem stoppedAt_ghost :
    let registry := registering Catalogue.commandRules
    (registry.applySettings settingsAroundGhost).2 = .error (.unknownRule "ghost") ∧
      registry.StoppedAt settingsAroundGhost "ghost" (registry.applySettings settingsAroundGhost).1 ∧
      (registry.applySettings settingsAroundGhost).1.entries.map
          (fun entry => (entry.rule.id, entry.enabled, entry.severity)) =
        [("command-name-kebab-case", false, .warning),
          ("validation-rule-snake-case", true, .warning)] := by
  intro registry
  have ids : registry.ids = ["command-name-kebab-case", "validation-rule-snake-case"] := by
    decide +kernel
  obtain ⟨fails, stops, _⟩ := (failure_and_state registry).2 settingsAroundGhost
  obtain ⟨error, failed⟩ := fails.mpr ⟨"ghost", rfl, by simp [ids]⟩
  have whole : registry.applySettings settingsAroundGhost =
      ((registry.applySettings settingsAroundGhost).1, .error error) := by rw [← failed]
  obtain ⟨id, named, stopped⟩ := stops _ error whole
  have ghost : id = "ghost" := by
    obtain ⟨own, given⟩ := SortedMap.contains_iff.mp stopped.least.1.1
    have unregistered := stopped.least.1.2
    simp only [settingsAroundGhost, List.mem_cons, Prod.mk.injEq, List.not_mem_nil] at given
    rw [ids] at unregistered
    rcases given with ⟨rfl, _⟩ | ⟨rfl, _⟩ | ⟨rfl, _⟩ | absent
    · simp at unregistered
    · rfl
    · simp at unregistered
    · exact absent.elim
  rw [ghost] at named stopped
  rw [named] at failed
  exact ⟨failed, stopped, by decide +kernel⟩

end Registry

end NamingAudit
