import NamingAudit.Proofs.FixConflicts
import NamingAudit.Proofs.ReportOrder

/-! What the order of a report does to its plan. The fixes for one identifier are sorted stably by
priority, rule and message, which is less than diagnostics differ by. Those that tie stay in the order of
the report. So a plan shows this order and no more of it, and not at all once a report is finalized. -/

namespace NamingAudit
open Std

namespace Diagnostic

theorem Agree.symm {first second : List Diagnostic} (agree : Agree first second) :
    Agree second first :=
  agree.flip.imp fun _ _ => same_comm

theorem Agree.filter {first second : List Diagnostic} {keep : Diagnostic → Bool}
    (respects : ∀ one other, one.same other = true → keep one = keep other)
    (agree : Agree first second) : Agree (first.filter keep) (second.filter keep) :=
  List.rel_filter (fun one other same => by simp only [respects one other same]) agree

end Diagnostic

namespace PlannedFix
open Diagnostic (Agree)

structure Same (first second : PlannedFix) : Prop where
  accepted : first.accepted.same second.accepted = true
  superseded : Agree first.superseded second.superseded

theorem same_iff {first second : PlannedFix} :
    first.Same second ↔ Agree first.candidates second.candidates := by
  rw [Agree, candidates, candidates, List.forall₂_cons]
  exact ⟨fun same => ⟨same.accepted, same.superseded⟩, fun same => ⟨same.1, same.2⟩⟩

theorem Same.symm {first second : PlannedFix} (same : first.Same second) : second.Same first :=
  ⟨Diagnostic.same_comm same.accepted, same.superseded.symm⟩

/-- Settles one identifier between the same diagnostics. Those in the same place agree in all that the
precedence of fixes looks at, so only diagnostics that tie may have changed places. -/
structure SameButTies (first second : PlannedFix) : Prop where
  keys : compare first.key second.key = .eq
  perm : first.candidates.Perm second.candidates
  ties : List.Forall₂ (fun one other => FixPlan.precedence one other = .eq) first.candidates
    second.candidates

end PlannedFix

namespace FixPlan
open Diagnostic (Agree)

def Same (first second : FixPlan) : Prop :=
  List.Forall₂ PlannedFix.Same first.fixes second.fixes

theorem Same.symm {first second : FixPlan} (same : first.Same second) : second.Same first :=
  List.Forall₂.imp (fun _ _ => PlannedFix.Same.symm) (List.Forall₂.flip same)

theorem precedence_eq_iff {first second : Diagnostic} :
    precedence first second = .eq ↔
      first.priority = second.priority ∧ first.ruleId = second.ruleId ∧
        first.message = second.message := by
  simp only [precedence, compareLex_eq_eq, compareOn, Std.compare_eq_iff_eq]

theorem ties_precedence_of_same (rival : Diagnostic) {first second : Diagnostic}
    (same : first.same second = true) :
    Order.ties precedence rival first = Order.ties precedence rival second := by
  simp only [Diagnostic.same, Bool.and_eq_true, beq_iff_eq] at same
  have tie : precedence first second = .eq :=
    precedence_eq_iff.mpr ⟨same.2, same.1.1.1.1.1.1, same.1.1.2⟩
  rw [Order.ties, Order.ties, TransCmp.congr_right tie]

theorem contends_eq_of_same (key : FixKey) {first second : Diagnostic}
    (same : first.same second = true) : contends key first = contends key second :=
  Bool.eq_iff_iff.mpr ⟨contends_of_same same, contends_of_same (Diagnostic.same_comm same)⟩

def rivals (key : FixKey) (rival : Diagnostic) (diagnostics : List Diagnostic) : List Diagnostic :=
  (diagnostics.filter (contends key)).filter (Order.ties precedence rival)

section Rivals
variable {key : FixKey} {rival : Diagnostic} {reported reported' : List Diagnostic}
  {plan plan' : FixPlan}

theorem mem_rivals {candidate : Diagnostic} :
    candidate ∈ rivals key rival reported ↔
      candidate ∈ reported ∧ contends key candidate = true ∧ precedence rival candidate = .eq := by
  simp only [rivals, List.mem_filter, Order.ties_iff, and_assoc]

theorem precedence_of_mem_rivals {one other : Diagnostic} (oneMember : one ∈ rivals key rival reported)
    (otherMember : other ∈ rivals key rival reported') : precedence one other = .eq :=
  TransCmp.eq_trans (OrientedCmp.eq_symm (mem_rivals.mp oneMember).2.2)
    (mem_rivals.mp otherMember).2.2

theorem rivals_perm (perm : reported.Perm reported') :
    (rivals key rival reported).Perm (rivals key rival reported') :=
  (perm.filter _).filter _

theorem agree_rivals (agree : Agree reported reported') :
    Agree (rivals key rival reported) (rivals key rival reported') :=
  (agree.filter fun _ _ => contends_eq_of_same key).filter fun _ _ => ties_precedence_of_same rival

theorem rivals_cons {first : Diagnostic} (rest : List Diagnostic)
    (contended : contends key first = true) (tie : precedence rival first = .eq) :
    rivals key rival (first :: rest) = first :: rivals key rival rest := by
  rw [rivals, List.filter_cons_of_pos contended, List.filter_cons_of_pos (Order.ties_iff.mpr tie),
    rivals]

theorem Resolves.filter_candidates (resolves : Resolves reported plan) {fix : PlannedFix}
    (planned : fix ∈ plan.fixes) (keys : compare key fix.key = .eq) (rival : Diagnostic) :
    fix.candidates.filter (Order.ties precedence rival) = rivals key rival reported := by
  rw [rivals, contends_congr keys]
  exact (resolves.settled fix planned).stable rival

theorem Resolves.keys_of_same (resolves : Resolves reported plan) (resolves' : Resolves reported' plan')
    {fix fix' : PlannedFix} (planned : fix ∈ plan.fixes) (planned' : fix' ∈ plan'.fixes)
    (same : fix.Same fix') : compare fix.key fix'.key = .eq := by
  have accepted := (resolves.of_mem planned List.mem_cons_self).2
  rw [contends_eq_of_same fix.key same.accepted] at accepted
  obtain ⟨_, given, tie⟩ := contends_iff.mp accepted
  obtain ⟨_, given', tie'⟩ := contends_iff.mp (resolves'.of_mem planned' List.mem_cons_self).2
  rw [given] at given'
  cases given'
  exact TransCmp.eq_trans tie (OrientedCmp.eq_symm tie')

theorem Same.agree_rivals_of_mem (same : plan.Same plan') (resolves : Resolves reported plan)
    (resolves' : Resolves reported' plan') {contender : Diagnostic} (given : contender ∈ reported)
    (contended : contends key contender = true) :
    Agree (rivals key rival reported) (rivals key rival reported') := by
  obtain ⟨fix, planned, keys, _⟩ := resolves.exists_fix given contended
  obtain ⟨fix', planned', alike⟩ := Order.exists_of_forall₂ same planned
  have keys' := TransCmp.eq_trans keys (resolves.keys_of_same resolves' planned planned' alike)
  rw [← resolves.filter_candidates planned keys, ← resolves'.filter_candidates planned' keys']
  exact (PlannedFix.same_iff.mp alike).filter fun _ _ => ties_precedence_of_same rival

theorem Same.agree_rivals (same : plan.Same plan') (resolves : Resolves reported plan)
    (resolves' : Resolves reported' plan') :
    Agree (rivals key rival reported) (rivals key rival reported') := by
  -- A fix for the identifier shows its rivals. Where neither report asks for one, there are none.
  by_cases met : ∃ contender ∈ reported, contends key contender = true
  · obtain ⟨contender, given, contended⟩ := met
    exact same.agree_rivals_of_mem resolves resolves' given contended
  · by_cases met' : ∃ contender ∈ reported', contends key contender = true
    · obtain ⟨contender, given, contended⟩ := met'
      exact (same.symm.agree_rivals_of_mem resolves' resolves given contended).symm
    · have none {reported : List Diagnostic}
          (free : ¬ ∃ contender ∈ reported, contends key contender = true) :
          rivals key rival reported = [] :=
        List.eq_nil_iff_forall_not_mem.mpr fun contender member =>
          free ⟨contender, (mem_rivals.mp member).1, (mem_rivals.mp member).2.1⟩
      rw [none met, none met']
      exact .nil

def RewrittenBy (reported reported' : List Diagnostic) : Prop :=
  ∀ key, ∀ one ∈ reported, contends key one = true → ∃ other ∈ reported', contends key other = true

theorem Resolves.exists_partner (resolves : Resolves reported plan)
    (resolves' : Resolves reported' plan') (rewritten : RewrittenBy reported reported') :
    ∀ fix ∈ plan.fixes, ∃ fix' ∈ plan'.fixes, compareOn PlannedFix.key fix fix' = .eq := by
  intro fix planned
  obtain ⟨given, contended⟩ := resolves.of_mem planned List.mem_cons_self
  obtain ⟨other, given', contended'⟩ := rewritten fix.key fix.accepted given contended
  obtain ⟨fix', planned', keys, _⟩ := resolves'.exists_fix given' contended'
  exact ⟨fix', planned', keys⟩

theorem Resolves.forall₂_fixes {related : PlannedFix → PlannedFix → Prop}
    (resolves : Resolves reported plan) (resolves' : Resolves reported' plan')
    (rewritten : RewrittenBy reported reported') (rewritten' : RewrittenBy reported' reported)
    (related_of_keys : ∀ fix ∈ plan.fixes, ∀ fix' ∈ plan'.fixes,
      compare fix.key fix'.key = .eq → related fix fix') :
    List.Forall₂ related plan.fixes plan'.fixes := by
  have ascending : plan.fixes.Pairwise fun left right =>
      compareOn PlannedFix.key left right = .lt := resolves.ascending
  refine Order.forall₂_of_ascending ascending resolves'.ascending
    (resolves.exists_partner resolves' rewritten) (fun fix' planned' => ?_) related_of_keys
  obtain ⟨fix, planned, keys⟩ := resolves'.exists_partner resolves rewritten' fix' planned'
  exact ⟨fix, planned, OrientedCmp.eq_symm keys⟩

theorem Resolves.forall₂_candidates {related : Diagnostic → Diagnostic → Prop} {fix fix' : PlannedFix}
    (resolves : Resolves reported plan) (resolves' : Resolves reported' plan')
    (planned : fix ∈ plan.fixes) (planned' : fix' ∈ plan'.fixes)
    (keys : compare fix.key fix'.key = .eq)
    (classes : ∀ rival, List.Forall₂ related (rivals fix.key rival reported)
      (rivals fix.key rival reported')) :
    List.Forall₂ related fix.candidates fix'.candidates := by
  refine Order.forall₂_of_filter_ties (resolves.settled fix planned).ascending
    (resolves'.settled fix' planned').ascending fun rival => ?_
  rw [resolves.filter_candidates planned ReflCmp.compare_self, resolves'.filter_candidates planned' keys]
  exact classes rival

theorem exists_contender_of_agree
    (agree : ∀ rival, Agree (rivals key rival reported) (rivals key rival reported'))
    {one : Diagnostic} (given : one ∈ reported) (contended : contends key one = true) :
    ∃ other ∈ reported', contends key other = true := by
  have inside : one ∈ rivals key one reported :=
    mem_rivals.mpr ⟨given, contended, ReflCmp.compare_self⟩
  obtain ⟨other, member, _⟩ := Order.exists_of_forall₂ (agree one) inside
  exact ⟨other, (mem_rivals.mp member).1, (mem_rivals.mp member).2.1⟩

/-- Two plans are the same exactly when what ties for an identifier was reported in the same order. -/
theorem same_iff_agree_rivals (resolves : Resolves reported plan)
    (resolves' : Resolves reported' plan') :
    plan.Same plan' ↔
      ∀ key rival, Agree (rivals key rival reported) (rivals key rival reported') := by
  refine ⟨fun same key rival => same.agree_rivals resolves resolves', fun agree => ?_⟩
  refine resolves.forall₂_fixes resolves' (fun key _ => exists_contender_of_agree (agree key))
    (fun key _ => exists_contender_of_agree fun rival => (agree key rival).symm)
    fun fix planned fix' planned' keys => PlannedFix.same_iff.mpr ?_
  exact resolves.forall₂_candidates resolves' planned planned' keys (agree fix.key)

theorem sameButTies_of_perm (resolves : Resolves reported plan) (resolves' : Resolves reported' plan')
    (perm : reported.Perm reported') :
    List.Forall₂ PlannedFix.SameButTies plan.fixes plan'.fixes := by
  refine resolves.forall₂_fixes resolves'
    (fun _ one given contended => ⟨one, perm.mem_iff.mp given, contended⟩)
    (fun _ one given contended => ⟨one, perm.mem_iff.mpr given, contended⟩)
    fun fix planned fix' planned' keys => ⟨keys, ?_, ?_⟩
  · have contenders := perm.filter (contends fix.key)
    have settled' := (resolves'.settled fix' planned').perm
    rw [← contends_congr keys] at settled'
    exact ((resolves.settled fix planned).perm.trans contenders).trans settled'.symm
  · exact resolves.forall₂_candidates resolves' planned planned' keys fun rival =>
      Order.forall₂_of_length_eq (rivals_perm perm).length_eq fun _ member _ member' =>
        precedence_of_mem_rivals member member'

end Rivals

/-- Diagnostics that would rewrite one identifier are told apart by priority, rule and message. -/
def PrecedenceDecides (diagnostics : List Diagnostic) : Prop :=
  ∀ one ∈ diagnostics, ∀ other ∈ diagnostics, ∀ key,
    contends key one = true → contends key other = true →
      one.priority = other.priority → one.ruleId = other.ruleId → one.message = other.message →
        one.same other = true

theorem PrecedenceDecides.same_ofReport {report other : Report}
    (decides : PrecedenceDecides report.diagnostics)
    (perm : other.diagnostics.Perm report.diagnostics) : (ofReport other).Same (ofReport report) := by
  refine (same_iff_agree_rivals (resolves_ofReport _) (resolves_ofReport _)).mpr fun key rival => ?_
  refine Order.forall₂_of_length_eq (rivals_perm perm).length_eq fun one oneMember two twoMember => ?_
  obtain ⟨priority, ruleId, message⟩ :=
    precedence_eq_iff.mp (precedence_of_mem_rivals oneMember twoMember)
  obtain ⟨oneGiven, oneContends, _⟩ := mem_rivals.mp oneMember
  obtain ⟨twoGiven, twoContends, _⟩ := mem_rivals.mp twoMember
  exact decides one (perm.mem_iff.mp oneGiven) two twoGiven key oneContends twoContends priority ruleId
    message

theorem precedenceDecides_of_same {report : Report}
    (orderless : ∀ other : Report, other.diagnostics.Perm report.diagnostics →
      (ofReport other).Same (ofReport report)) : PrecedenceDecides report.diagnostics := by
  intro one oneGiven other otherGiven key oneContends otherContends priority ruleId message
  have leading (first : Diagnostic) (given : first ∈ report.diagnostics) :
      Agree (rivals key one (first :: report.diagnostics.erase first))
        (rivals key one report.diagnostics) :=
    let reordered : Report := ⟨first :: report.diagnostics.erase first, report.factsChecked⟩
    (orderless reordered (List.perm_cons_erase given).symm).agree_rivals
      (resolves_ofReport reordered) (resolves_ofReport report)
  have oneLeads := leading one oneGiven
  have otherLeads := leading other otherGiven
  rw [rivals_cons _ oneContends ReflCmp.compare_self] at oneLeads
  rw [rivals_cons _ otherContends (precedence_eq_iff.mpr ⟨priority, ruleId, message⟩)] at otherLeads
  generalize rivals key one report.diagnostics = tied at oneLeads otherLeads
  cases tied with
  | nil => cases oneLeads
  | cons foremost behind =>
    have ahead := (List.forall₂_cons.mp oneLeads).1
    exact Diagnostic.same_trans ahead (Diagnostic.same_comm (List.forall₂_cons.mp otherLeads).1)

theorem same_ofReport_finalize {first second : Report}
    (perm : first.diagnostics.Perm second.diagnostics) :
    (ofReport first.finalize).Same (ofReport second.finalize) := by
  have agree : Agree first.finalize.diagnostics second.finalize.diagnostics :=
    Report.agree_finalize_iff.mpr
      ⟨fun one member => ⟨one, perm.mem_iff.mp member, one.same_self⟩,
        fun other member => ⟨other, perm.mem_iff.mpr member, other.same_self⟩⟩
  exact (same_iff_agree_rivals (resolves_ofReport _) (resolves_ofReport _)).mpr
    fun _ _ => agree_rivals agree

/-- The order of a report makes no difference to its plan but for the order of fixes that tie. It makes
none at all exactly when diagnostics that would rewrite one identifier and agree in priority, rule and
message are the same, and never for a report that is finalized. -/
theorem plan_orderless_iff (report : Report) :
    (∀ other : Report, other.diagnostics.Perm report.diagnostics →
        List.Forall₂ PlannedFix.SameButTies (ofReport other).fixes (ofReport report).fixes) ∧
      ((∀ other : Report, other.diagnostics.Perm report.diagnostics →
          (ofReport other).Same (ofReport report)) ↔ PrecedenceDecides report.diagnostics) ∧
        ∀ other : Report, other.diagnostics.Perm report.diagnostics →
          (ofReport other.finalize).Same (ofReport report.finalize) :=
  ⟨fun other => sameButTies_of_perm (resolves_ofReport other) (resolves_ofReport report),
    ⟨precedenceDecides_of_same, fun decides _ => decides.same_ofReport⟩,
    fun _ => same_ofReport_finalize⟩

def requestedName (ruleId newText : String) : Diagnostic where
  ruleId := ruleId
  code := "CL000"
  severity := .error
  location := ⟨⟨"app/Models/Users.php"⟩, 3, 7⟩
  message := "msg"
  suggestion := some ⟨"replace with `" ++ newText ++ "`",
    some ⟨⟨⟨"app/Models/Users.php"⟩, 3, 7⟩, .name, newText⟩⟩
  priority := 1

theorem same_plan_twoRules :
    let report : Report := ⟨[requestedName "a-rule" "A", requestedName "b-rule" "B"], 2⟩
    let reversed : Report := ⟨[requestedName "b-rule" "B", requestedName "a-rule" "A"], 2⟩
    reversed.diagnostics.Perm report.diagnostics ∧ PrecedenceDecides report.diagnostics ∧
      (ofReport reversed).Same (ofReport report) := by
  intro report reversed
  have perm : reversed.diagnostics.Perm report.diagnostics := .swap ..
  have decides : PrecedenceDecides report.diagnostics := by
    intro one oneMember other otherMember key _ _ _ ruleId _
    simp only [report, List.mem_cons, List.not_mem_nil, or_false] at oneMember otherMember
    rcases oneMember with rfl | rfl <;> rcases otherMember with rfl | rfl
    case inl.inl => exact Diagnostic.same_self _
    case inr.inr => exact Diagnostic.same_self _
    all_goals exact absurd ruleId (by decide)
  exact ⟨perm, decides, (plan_orderless_iff report).2.1.mpr decides reversed perm⟩

/-- One rule that asks for two names with one message: the plan takes the name that was reported first. -/
theorem plan_depends_on_order :
    let report : Report := ⟨[requestedName "model-name" "User", requestedName "model-name" "Person"], 2⟩
    let reversed : Report := ⟨[requestedName "model-name" "Person", requestedName "model-name" "User"], 2⟩
    reversed.diagnostics.Perm report.diagnostics ∧ ¬ (ofReport reversed).Same (ofReport report) := by
  intro report reversed
  refine ⟨.swap .., fun same => ?_⟩
  let key : FixKey := ⟨⟨⟨"app/Models/Users.php"⟩, 3, 7⟩, .name⟩
  have agree : Agree (rivals key (requestedName "model-name" "User") reversed.diagnostics)
      (rivals key (requestedName "model-name" "User") report.diagnostics) :=
    same.agree_rivals (resolves_ofReport reversed) (resolves_ofReport report)
  have kept : rivals key (requestedName "model-name" "User") report.diagnostics = report.diagnostics := by
    decide +kernel
  have keptReversed : rivals key (requestedName "model-name" "User") reversed.diagnostics =
      reversed.diagnostics := by decide +kernel
  rw [kept, keptReversed] at agree
  have names : (requestedName "model-name" "Person").same (requestedName "model-name" "User") = true :=
    (List.forall₂_cons.mp agree).1
  exact absurd names (by decide +kernel)

end FixPlan

end NamingAudit
