import NamingAudit.Proofs.Sharding
import Mathlib.Data.List.Lex

/-! The order of reports. Diagnostics are compared field by field until two differ, so the comparison is a
total order that ties only what is the same. Paths come in the order of their components, and names in
that of their bytes, because the bytes of a text come in the order of its characters. Finalizing a report
then leaves a list that nothing but the set of its diagnostics determines. -/

namespace NamingAudit
open Std

namespace Text

def bytes (text : String) : List UInt8 := text.toUTF8.data.toList

theorem bytes_eq (text : String) : bytes text = text.toList.flatMap String.utf8EncodeChar := by
  rw [bytes, String.toUTF8_eq_toByteArray, ← String.utf8Encode_toList, List.utf8Encode,
    List.toList_data_toByteArray]

private theorem byte_cons_lt_iff {lead lead' : Nat} (small : lead < 256) (small' : lead' < 256)
    {behind behind' : List UInt8} :
    UInt8.ofNat lead :: behind < UInt8.ofNat lead' :: behind' ↔
      lead < lead' ∨ lead = lead' ∧ behind < behind' := by
  rw [List.cons_lt_cons_iff, UInt8.lt_iff_toNat_lt, ← UInt8.toNat_inj, UInt8.toNat_ofNat_of_lt' small,
    UInt8.toNat_ofNat_of_lt' small']

/-- The bytes of a character begin with one that tells how many follow, and bring the digits of its code
to the base 64 from the highest to the lowest. So the lesser code has the lesser bytes, whatever stands
behind them. -/
theorem utf8EncodeChar_append_lt {first second : Char} (less : first < second)
    (behind behind' : List UInt8) :
    String.utf8EncodeChar first ++ behind < String.utf8EncodeChar second ++ behind' := by
  have codes : first.val.toNat < second.val.toNat := UInt32.lt_iff_toNat_lt.mp less
  have bound : second.val.toNat < 0x110000 := second.valid.elim (fun low => by omega) fun high => high.2
  have third (code : Nat) : code / 4096 = code / 64 / 64 := (Nat.div_div_eq_div_mul code 64 64).symm
  have fourth (code : Nat) : code / 262144 = code / 64 / 64 / 64 := by
    rw [Nat.div_div_eq_div_mul, Nat.div_div_eq_div_mul]
  simp only [String.utf8EncodeChar, third, fourth]
  generalize first.val.toNat = code at codes
  generalize second.val.toNat = code' at codes bound
  -- One case for each pair of lengths; the codes rule out that the second character is the shorter.
  split_ifs
  all_goals
    simp (disch := omega) only [List.cons_append, List.nil_append, byte_cons_lt_iff]
    omega

theorem flatMap_utf8EncodeChar_lt {first second : List Char} (less : first < second) :
    first.flatMap String.utf8EncodeChar < second.flatMap String.utf8EncodeChar := by
  induction less with
  | @nil head rest =>
    obtain ⟨lead, others, encoded⟩ := List.exists_cons_of_ne_nil (String.utf8EncodeChar_ne_nil (c := head))
    rw [List.flatMap_cons, encoded]
    exact List.nil_lt_cons _ _
  | rel less =>
    rw [List.flatMap_cons, List.flatMap_cons]
    exact utf8EncodeChar_append_lt less _ _
  | cons _ ih =>
    rw [List.flatMap_cons, List.flatMap_cons]
    exact List.append_left_lt ih

theorem lt_iff_bytes {first second : String} : first < second ↔ bytes first < bytes second := by
  simp only [bytes_eq, String.lt_iff]
  refine ⟨flatMap_utf8EncodeChar_lt, fun less => ?_⟩
  rcases Std.lt_trichotomy first.toList second.toList with before | equal | behind
  · exact before
  · rw [equal] at less
    exact absurd less (List.lt_irrefl _)
  · exact absurd less (List.lt_asymm (flatMap_utf8EncodeChar_lt behind))

end Text

namespace SourcePath

/-- The root comes first, then a dot, then two dots, then names in the order of their bytes. -/
inductive Component.Before : Component → Component → Prop
  | root_here : Before .root .here
  | root_parent : Before .root .parent
  | root_named (name : String) : Before .root (.named name)
  | here_parent : Before .here .parent
  | here_named (name : String) : Before .here (.named name)
  | parent_named (name : String) : Before .parent (.named name)
  | named {first second : String} (less : Text.bytes first < Text.bytes second) :
    Before (.named first) (.named second)

theorem Component.compare_lt_iff {first second : Component} :
    compare first second = .lt ↔ Before first second := by
  have keys : compare first second = .lt ↔
      first.rank < second.rank ∨ first.rank = second.rank ∧ first.label < second.label := by
    change (compare first.rank second.rank).then (compare first.label second.label) = .lt ↔ _
    rw [Ordering.then_eq_lt, Std.compare_eq_lt, Std.compare_eq_lt, Std.compare_eq_iff_eq]
  rw [keys]
  constructor
  · rintro (less | ⟨ranks, labels⟩)
    · cases first <;> cases second <;> first | (simp [rank] at less; done) | constructor
    · cases first <;> cases second
      case named.named => exact .named (Text.lt_iff_bytes.mp labels)
      all_goals first | (simp [rank] at ranks; done) | exact absurd labels (String.lt_irrefl _)
  · rintro (_ | _ | _ | _ | _ | _ | less)
    case named => exact .inr ⟨rfl, Text.lt_iff_bytes.mpr less⟩
    all_goals exact .inl (by simp [rank])

theorem compare_components_lt_iff {first second : List Component} :
    compare first second = .lt ↔ List.Lex Component.Before first second := by
  rw [List.compare_eq_compareLex]
  induction first generalizing second with
  | nil =>
    cases second with
    | nil => simp [List.compareLex_nil_nil]
    | cons => simp [List.compareLex_nil_cons]
  | cons one rest ih =>
    cases second with
    | nil => simp [List.compareLex_cons_nil]
    | cons other others =>
      rw [List.compareLex_cons_cons, Ordering.then_eq_lt, Component.compare_lt_iff, Std.compare_eq_iff_eq, ih]
      constructor
      · rintro (before | ⟨rfl, behind⟩)
        · exact .rel before
        · exact .cons behind
      · intro less
        cases less with
        | rel before => exact .inl before
        | cons behind => exact .inr ⟨rfl, behind⟩

theorem compare_lt_iff {first second : SourcePath} :
    compare first second = .lt ↔ List.Lex Component.Before first.components second.components :=
  compare_components_lt_iff

end SourcePath

structure Order.IsTotal (cmp : α → α → Ordering) (same : α → α → Bool) : Prop where
  swap : ∀ first second, cmp second first = (cmp first second).swap
  trans : ∀ first second third, (cmp first second).isLE → (cmp second third).isLE →
    (cmp first third).isLE
  eq_iff : ∀ first second, cmp first second = .eq ↔ same first second = true

namespace Diagnostic

theorem compare_isTotal : Order.IsTotal compare Diagnostic.same where
  swap _ _ := OrientedCmp.eq_swap
  trans _ _ _ := TransCmp.isLE_trans
  eq_iff := compare_eq_iff

theorem ties_compare (diagnostic : Diagnostic) : Order.ties compare diagnostic = diagnostic.same := by
  funext other
  rw [Bool.eq_iff_iff, Order.ties_iff, compare_eq_iff]

structure SameMembers (first second : List Diagnostic) : Prop where
  left : ∀ one ∈ first, ∃ other ∈ second, one.same other = true
  right : ∀ other ∈ second, ∃ one ∈ first, one.same other = true

def Agree (first second : List Diagnostic) : Prop :=
  List.Forall₂ (fun one other => one.same other = true) first second

end Diagnostic

namespace Report
open Diagnostic (Agree SameMembers)

theorem agree_finalize_iff {first second : Report} :
    Agree first.finalize.diagnostics second.finalize.diagnostics ↔
      SameMembers first.diagnostics second.diagnostics := by
  have step := first.finalize_isDistinctSort.forall₂_tie_iff second.finalize_isDistinctSort
  simp only [Diagnostic.compare_eq_iff] at step
  rw [Agree, step]
  exact ⟨fun met => ⟨met.1, met.2⟩, fun members => ⟨members.left, members.right⟩⟩

theorem finalize_finalize (report : Report) : report.finalize.finalize = report.finalize :=
  finalize_eq_iff.mpr (alike_finalize report)

/-- Strictly ascending, with the diagnostics of a report, and of those that are the same the first. -/
structure IsFinalForm (report result : Report) : Prop where
  ascending : result.diagnostics.Pairwise fun first second => compare first second = .lt
  sameMembers : SameMembers report.diagnostics result.diagnostics
  first : ∀ diagnostic : Diagnostic,
    result.diagnostics.find? diagnostic.same = report.diagnostics.find? diagnostic.same
  factsChecked : result.factsChecked = report.factsChecked

theorem finalize_isFinalForm (report : Report) : report.IsFinalForm report.finalize := by
  have distinct := report.finalize_isDistinctSort
  refine ⟨distinct.ascending, agree_finalize_iff.mp ?_, fun diagnostic => ?_, rfl⟩
  · rw [finalize_finalize, Agree, List.forall₂_same]
    exact fun diagnostic _ => diagnostic.same_self
  · rw [← Diagnostic.ties_compare, distinct.first]

theorem isFinalForm_iff {report result : Report} :
    report.IsFinalForm result ↔ result = report.finalize := by
  constructor
  · intro final
    have distinct : Order.IsDistinctSort compare report.diagnostics result.diagnostics :=
      ⟨final.ascending, fun diagnostic => by rw [Diagnostic.ties_compare, final.first]⟩
    cases result
    rw [Report.mk.injEq]
    exact ⟨distinct.unique report.finalize_isDistinctSort, final.factsChecked⟩
  · rintro rfl
    exact report.finalize_isFinalForm

theorem destutter_sorted (report : Report) :
    report.sorted.destutter (fun first second => first.same second = false) =
      report.finalize.diagnostics :=
  (Order.dropRepeats_eq_destutter report.sorted).symm

/-- Report order is total, with paths by component and names by byte, and ties only what is the same.
Finalizing therefore gives the one list that ascends strictly and keeps the first of the diagnostics that
are the same. It does so once and for all, and alike for any two reports of the same diagnostics. -/
theorem finalize_canonical :
    Order.IsTotal compare Diagnostic.same ∧
      (∀ first second : SourcePath,
        (compare first second = .eq ↔ first.components = second.components) ∧
          (compare first second = .lt ↔
            List.Lex SourcePath.Component.Before first.components second.components)) ∧
      ∀ report : Report,
        (∀ result, report.IsFinalForm result ↔ result = report.finalize) ∧
          report.finalize.finalize = report.finalize ∧
          report.sorted.Perm report.diagnostics ∧
          report.sorted.destutter (fun first second => first.same second = false) =
            report.finalize.diagnostics ∧
          ∀ other : Report, SameMembers report.diagnostics other.diagnostics →
            Agree report.finalize.diagnostics other.finalize.diagnostics := by
  refine ⟨Diagnostic.compare_isTotal, fun first second => ⟨?_, SourcePath.compare_lt_iff⟩,
    fun report => ⟨fun result => isFinalForm_iff, report.finalize_finalize, Order.sort_perm _,
      report.destutter_sorted, fun other => agree_finalize_iff.mpr⟩⟩
  rw [SourcePath.compare_eq_iff, SourcePath.same_iff]

def misnamedCommand (file : String) (line : Nat) : Diagnostic where
  ruleId := "command-name-kebab-case"
  code := "CL070"
  severity := .warning
  location := ⟨⟨file⟩, line, 5⟩
  message := "Command names must be kebab-case: expected `send-mail`"
  suggestion := some ⟨"replace with `send-mail`", some ⟨⟨⟨file⟩, line, 5⟩, .name, "send-mail"⟩⟩
  priority := 20

theorem finalize_respelled :
    let spelled : Report := ⟨[misnamedCommand "app/Sync.php" 9, misnamedCommand "app/Kernel.php" 4], 2⟩
    let respelled : Report := ⟨[misnamedCommand "app//Kernel.php" 4, misnamedCommand "app/Kernel.php" 4,
      misnamedCommand "app/./Sync.php" 9], 3⟩
    SameMembers spelled.diagnostics respelled.diagnostics ∧
      Agree spelled.finalize.diagnostics respelled.finalize.diagnostics := by
  intro spelled respelled
  have members : SameMembers spelled.diagnostics respelled.diagnostics :=
    ⟨by decide +kernel, by decide +kernel⟩
  exact ⟨members, (finalize_canonical.2.2 spelled).2.2.2.2 respelled members⟩

end Report

end NamingAudit
