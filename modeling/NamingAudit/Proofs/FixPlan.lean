import NamingAudit.FixPlan
import NamingAudit.Proofs.Comparison
import NamingAudit.Proofs.SortedMap
import Mathlib.Data.List.Perm.Basic

/-! What a fix plan makes of a report. The diagnostics that would rewrite something are parted by the
identifier that they rewrite, where paths count by their components. Each part is put in order of
precedence, its first diagnostic is accepted and the others are superseded. This determines the plan. -/

namespace NamingAudit
open Std

theorem FixKey.compare_eq_iff {first second : FixKey} :
    compare first second = .eq ↔
      first.location.same second.location = true ∧ first.target = second.target := by
  change compareLex _ _ first second = .eq ↔ _
  simp only [compareLex_eq_eq, compareOn, Location.compare_eq_iff, Std.compare_eq_iff_eq]

def Replacement.key (replacement : Replacement) : FixKey :=
  ⟨replacement.location, replacement.target⟩

namespace PlannedFix

def key (fix : PlannedFix) : FixKey := ⟨fix.location, fix.target⟩

def candidates (fix : PlannedFix) : List Diagnostic := fix.accepted :: fix.superseded

theorem eq_of_candidates {first second : PlannedFix}
    (same : first.candidates = second.candidates) : first = second := by
  obtain ⟨accepted, superseded⟩ := List.cons.inj same
  cases first
  cases second
  simp_all

end PlannedFix

namespace FixPlan

instance : TransCmp precedence :=
  inferInstanceAs (TransCmp (compareLex (compareOn Diagnostic.priority)
    (compareLex (compareOn Diagnostic.ruleId) (compareOn Diagnostic.message))))

def fixable (diagnostics : List Diagnostic) : List Diagnostic :=
  diagnostics.filter fun diagnostic => diagnostic.replacement?.isSome

def contends (key : FixKey) (diagnostic : Diagnostic) : Bool :=
  diagnostic.replacement?.any fun replacement => compare key replacement.key == .eq

theorem contends_iff {key : FixKey} {diagnostic : Diagnostic} :
    contends key diagnostic = true ↔
      ∃ replacement, diagnostic.replacement? = some replacement ∧
        compare key replacement.key = .eq := by
  simp only [contends, Option.any_eq_true, beq_iff_eq]

theorem contends_congr {first second : FixKey} (tie : compare first second = .eq) :
    contends first = contends second := by
  funext diagnostic
  simp only [contends, TransCmp.congr_left tie]

structure Resolves (diagnostics : List Diagnostic) (plan : FixPlan) : Prop where
  complete : (plan.fixes.flatMap PlannedFix.candidates).Perm (fixable diagnostics)
  ascending : plan.fixes.Pairwise fun first second => compare first.key second.key = .lt
  settled : ∀ fix ∈ plan.fixes,
    Order.IsStableSort precedence (diagnostics.filter (contends fix.key)) fix.candidates
  grounded : ∀ fix ∈ plan.fixes, ∃ replacement, fix.accepted.replacement? = some replacement ∧
    fix.location = replacement.location ∧ fix.target = replacement.target ∧
      fix.newText = replacement.newText

theorem keyed?_eq (diagnostic : Diagnostic) :
    keyed? diagnostic =
      diagnostic.replacement?.map fun replacement => (replacement.key, [diagnostic]) := rfl

theorem flatMap_keyed (diagnostics : List Diagnostic) :
    (diagnostics.filterMap keyed?).flatMap Prod.snd = fixable diagnostics := by
  induction diagnostics with
  | nil => rfl
  | cons diagnostic rest ih =>
    rw [List.filterMap_cons, keyed?_eq, fixable, List.filter_cons]
    cases diagnostic.replacement? with
    | none => exact ih
    | some replacement => exact congrArg (diagnostic :: ·) ih

theorem flatMap_keyed_at (key : FixKey) (diagnostics : List Diagnostic) :
    ((diagnostics.filterMap keyed?).filter fun pair => compare key pair.1 == .eq).flatMap Prod.snd =
      diagnostics.filter (contends key) := by
  induction diagnostics with
  | nil => rfl
  | cons diagnostic rest ih =>
    rw [List.filterMap_cons, keyed?_eq, List.filter_cons, contends]
    cases diagnostic.replacement? with
    | none => exact ih
    | some replacement =>
      by_cases tie : compare key replacement.key = .eq
      · simp only [Option.map_some, Option.any_some, List.filter_cons, tie, beq_self_eq_true, if_true,
          List.flatMap_cons, List.singleton_append, ih]
      · simp only [Option.map_some, Option.any_some, List.filter_cons, beq_iff_eq, tie, if_false, ih]

/-- Each group holds what would rewrite one identifier, in report order, and there is no empty one. -/
theorem groups_eq {diagnostics : List Diagnostic} {group : FixKey × List Diagnostic}
    (member : group ∈ (groups diagnostics).entries) :
    group.2 = diagnostics.filter (contends group.1) ∧ group.2 ≠ [] := by
  constructor
  · have found : (groups diagnostics).get? group.1 = some group.2 :=
      SortedMap.get?_of_mem member
    have held := SortedMap.getD_collect_append (diagnostics.filterMap keyed?) group.1
    rw [flatMap_keyed_at] at held
    rw [← held]
    exact (congrArg (Option.getD · []) found).symm
  · refine SortedMap.forall_mem_collect (· ≠ []) (fun pair given => ?_)
      (fun old new nonempty _ empty => nonempty (List.append_eq_nil_iff.mp empty).1) group member
    obtain ⟨diagnostic, _, keyed⟩ := List.mem_filterMap.mp given
    obtain ⟨replacement, _, rfl⟩ := Option.map_eq_some_iff.mp keyed
    exact List.cons_ne_nil _ _

theorem choose?_eq_some_iff {candidates : List Diagnostic} {fix : PlannedFix} :
    choose? candidates = some fix ↔ fix.candidates = Order.sort precedence candidates := by
  rw [choose?]
  cases Order.sort precedence candidates with
  | nil => simp [PlannedFix.candidates]
  | cons accepted superseded =>
    refine ⟨fun chosen => ?_, fun same => ?_⟩
    · cases chosen
      rfl
    · have equal : fix = ⟨accepted, superseded⟩ := PlannedFix.eq_of_candidates same
      rw [equal]

theorem choose?_eq_none_iff {candidates : List Diagnostic} :
    choose? candidates = none ↔ candidates = [] := by
  have length : (Order.sort precedence candidates).length = candidates.length :=
    (Order.sort_perm candidates).length_eq
  rw [choose?]
  split
  case h_1 sorted =>
    rw [sorted, List.length_nil] at length
    exact iff_of_true rfl (List.length_eq_zero_iff.mp length.symm)
  case h_2 accepted superseded sorted =>
    refine iff_of_false (Option.some_ne_none _) ?_
    rintro rfl
    rw [sorted] at length
    contradiction

theorem grounded_of_contends {fix : PlannedFix} {key : FixKey}
    (contended : contends key fix.accepted = true) :
    ∃ replacement, fix.accepted.replacement? = some replacement ∧
      fix.location = replacement.location ∧ fix.target = replacement.target ∧
        fix.newText = replacement.newText ∧ compare key fix.key = .eq := by
  obtain ⟨replacement, given, tie⟩ := contends_iff.mp contended
  have location : fix.location = replacement.location := by simp [PlannedFix.location, given]
  have target : fix.target = replacement.target := by simp [PlannedFix.target, given]
  have newText : fix.newText = replacement.newText := by
    simp [PlannedFix.newText, Diagnostic.fixText?, given]
  refine ⟨replacement, given, location, target, newText, ?_⟩
  rwa [PlannedFix.key, location, target]

theorem of_choose? {diagnostics : List Diagnostic} {group : FixKey × List Diagnostic}
    {fix : PlannedFix} (member : group ∈ (groups diagnostics).entries)
    (chosen : choose? group.2 = some fix) :
    compare group.1 fix.key = .eq ∧
      Order.IsStableSort precedence (diagnostics.filter (contends fix.key)) fix.candidates := by
  have held := (groups_eq member).1
  have sorted := choose?_eq_some_iff.mp chosen
  have accepted : fix.accepted ∈ group.2 := by
    rw [← (Order.sort_perm group.2).mem_iff, ← sorted]
    exact List.mem_cons_self
  have contended : contends group.1 fix.accepted = true := by
    rw [held] at accepted
    exact (List.mem_filter.mp accepted).2
  obtain ⟨_, _, _, _, _, tie⟩ := grounded_of_contends contended
  refine ⟨tie, ?_⟩
  rw [← contends_congr tie, Order.isStableSort_iff, ← held]
  exact sorted

theorem flatMap_chosen (chosen : List (FixKey × List Diagnostic)) :
    (chosen.filterMap fun group => choose? group.2).flatMap PlannedFix.candidates =
      chosen.flatMap fun group => Order.sort precedence group.2 := by
  induction chosen with
  | nil => rfl
  | cons group rest ih =>
    rw [List.filterMap_cons, List.flatMap_cons, ← ih, choose?]
    cases Order.sort precedence group.2 <;> rfl

theorem length_flatMap_candidates (fixes : List PlannedFix) :
    (fixes.flatMap PlannedFix.candidates).length =
      fixes.length + (fixes.flatMap PlannedFix.superseded).length := by
  induction fixes with
  | nil => rfl
  | cons fix rest ih =>
    simp only [List.flatMap_cons, List.length_append, PlannedFix.candidates, List.length_cons, ih]
    omega

theorem resolves_ofReport (report : Report) : Resolves report.diagnostics (ofReport report) := by
  have origin : ∀ fix ∈ (ofReport report).fixes, ∃ group ∈ (groups report.diagnostics).entries,
      choose? group.2 = some fix := fun fix member => List.mem_filterMap.mp member
  have settled : ∀ fix ∈ (ofReport report).fixes, Order.IsStableSort precedence
      (report.diagnostics.filter (contends fix.key)) fix.candidates := by
    intro fix member
    obtain ⟨group, present, chosen⟩ := origin fix member
    exact (of_choose? present chosen).2
  constructor
  case complete =>
    calc (ofReport report).fixes.flatMap PlannedFix.candidates
      _ = (groups report.diagnostics).entries.flatMap fun group =>
            Order.sort precedence group.2 := flatMap_chosen _
      List.Perm _ ((groups report.diagnostics).entries.flatMap Prod.snd) :=
        List.Perm.flatMap_left _ fun group _ => Order.sort_perm group.2
      List.Perm _ ((report.diagnostics.filterMap keyed?).flatMap Prod.snd) :=
        SortedMap.flatMap_collect_append_perm _
      _ = fixable report.diagnostics := flatMap_keyed _
  case ascending =>
    apply List.pairwise_filterMap.mpr
    refine List.Pairwise.imp_of_mem ?_ (groups report.diagnostics).ascending
    intro first second firstMember secondMember less one oneChosen other otherChosen
    have firstTie := (of_choose? firstMember oneChosen).1
    have secondTie := (of_choose? secondMember otherChosen).1
    rwa [← TransCmp.congr_left firstTie, ← TransCmp.congr_right secondTie]
  case settled => exact settled
  case grounded =>
    intro fix member
    have accepted : fix.accepted ∈ report.diagnostics.filter (contends fix.key) :=
      (settled fix member).perm.mem_iff.mp List.mem_cons_self
    obtain ⟨replacement, given, location, target, newText, _⟩ :=
      grounded_of_contends (List.mem_filter.mp accepted).2
    exact ⟨replacement, given, location, target, newText⟩

theorem Resolves.of_mem {diagnostics : List Diagnostic} {plan : FixPlan}
    (resolves : Resolves diagnostics plan) {fix : PlannedFix} (member : fix ∈ plan.fixes)
    {candidate : Diagnostic} (inside : candidate ∈ fix.candidates) :
    candidate ∈ diagnostics ∧ contends fix.key candidate = true :=
  List.mem_filter.mp ((resolves.settled fix member).perm.mem_iff.mp inside)

theorem Resolves.exists_fix {diagnostics : List Diagnostic} {plan : FixPlan}
    (resolves : Resolves diagnostics plan) {diagnostic : Diagnostic} {key : FixKey}
    (member : diagnostic ∈ diagnostics) (contended : contends key diagnostic = true) :
    ∃ fix ∈ plan.fixes, compare key fix.key = .eq ∧ diagnostic ∈ fix.candidates := by
  obtain ⟨replacement, given, tie⟩ := contends_iff.mp contended
  have fixes : diagnostic ∈ fixable diagnostics := List.mem_filter.mpr ⟨member, by simp [given]⟩
  obtain ⟨fix, present, inside⟩ := List.mem_flatMap.mp (resolves.complete.mem_iff.mpr fixes)
  refine ⟨fix, present, ?_, inside⟩
  obtain ⟨other, same, back⟩ := contends_iff.mp (resolves.of_mem present inside).2
  rw [given] at same
  cases same
  exact TransCmp.eq_trans tie (OrientedCmp.eq_symm back)

theorem Resolves.eq_of_key {diagnostics : List Diagnostic} {plan : FixPlan}
    (resolves : Resolves diagnostics plan) {first second : PlannedFix} (one : first ∈ plan.fixes)
    (other : second ∈ plan.fixes) (tie : compare first.key second.key = .eq) : first = second := by
  have ascending : plan.fixes.Pairwise fun left right =>
      compareOn PlannedFix.key left right = .lt := resolves.ascending
  exact Order.eq_of_tie ascending one other tie

theorem Resolves.unique {diagnostics : List Diagnostic} {first second : FixPlan}
    (one : Resolves diagnostics first) (other : Resolves diagnostics second) : first = second := by
  have met {first second : FixPlan} (one : Resolves diagnostics first)
      (other : Resolves diagnostics second) : ∀ fix ∈ first.fixes, ∃ partner ∈ second.fixes,
        compareOn PlannedFix.key fix partner = .eq := by
    intro fix member
    have accepted := one.of_mem member List.mem_cons_self
    obtain ⟨partner, present, tie, _⟩ := other.exists_fix accepted.1 accepted.2
    exact ⟨partner, present, tie⟩
  have fixes : List.Forall₂ (· = ·) first.fixes second.fixes := by
    have ascending : first.fixes.Pairwise fun left right =>
        compareOn PlannedFix.key left right = .lt := one.ascending
    apply Order.forall₂_of_ascending ascending other.ascending (met one other)
    · intro partner present
      obtain ⟨fix, member, tie⟩ := met other one partner present
      exact ⟨fix, member, OrientedCmp.eq_symm tie⟩
    · intro fix member partner present tie
      have sorted := Order.isStableSort_iff.mp (one.settled fix member)
      have partnerSorted := Order.isStableSort_iff.mp (other.settled partner present)
      rw [← contends_congr tie, ← sorted] at partnerSorted
      exact PlannedFix.eq_of_candidates partnerSorted.symm
  cases first
  cases second
  exact congrArg FixPlan.mk (List.forall₂_eq_eq_eq ▸ fixes)

/-- The plan of a report loses and repeats nothing that would rewrite something. Its fixes ascend by
identifier; each stands for all diagnostics that would rewrite that identifier, sorted by precedence
and in report order where they tie, with the first of them accepted. No other plan does this. -/
theorem ofReport_resolves_uniquely (report : Report) :
    (∀ plan, Resolves report.diagnostics plan ↔ plan = ofReport report) ∧
      (ofReport report).fixes.length + (ofReport report).supersededCount =
        (fixable report.diagnostics).length ∧
      ∀ group ∈ (groups report.diagnostics).entries,
        ∃ fix ∈ (ofReport report).fixes, choose? group.2 = some fix := by
  have resolves := resolves_ofReport report
  refine ⟨fun plan => ⟨fun other => other.unique resolves, ?_⟩, ?_, ?_⟩
  · rintro rfl
    exact resolves
  · rw [← resolves.complete.length_eq, length_flatMap_candidates, supersededCount]
  · intro group member
    cases chosen : choose? group.2 with
    | none => exact absurd (choose?_eq_none_iff.mp chosen) (groups_eq member).2
    | some fix => exact ⟨fix, List.mem_filterMap.mpr ⟨group, member, chosen⟩, rfl⟩

end FixPlan

end NamingAudit
