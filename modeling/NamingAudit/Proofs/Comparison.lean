import NamingAudit.Composite
import NamingAudit.Report
import NamingAudit.Proofs.Order

/-! The comparisons of the library are total orders. Vocabularies and names tie only with themselves;
paths, places and diagnostics tie exactly when they are the same but for the spelling of paths. -/

namespace NamingAudit
open Std

instance instLawfulOrderString : LawfulOrderOrd String where
  isLE_compare _ _ := isLE_compareOfLessAndEq String.le_antisymm String.not_le String.le_total
  isGE_compare _ _ := isGE_compareOfLessAndEq String.le_antisymm String.not_le String.le_total

instance : TransOrd Severity := inferInstanceAs (TransCmp (compareOn Severity.rank))

instance : LawfulEqOrd Severity :=
  Order.lawfulEqCmp_compareOn fun first second : Severity => by
    cases first <;> cases second <;> simp [Severity.rank]

instance : LawfulEqOrd FixTarget :=
  Order.lawfulEqCmp_compareOn fun first second : FixTarget => by
    cases first <;> cases second <;> simp [FixTarget.rank]

namespace SourcePath

instance : LawfulEqOrd Component where
  eq_of_compare {first second} tie := by
    have both : compare first.rank second.rank = .eq ∧ compare first.label second.label = .eq :=
      compareLex_eq_eq.mp tie
    have ranks : first.rank = second.rank := LawfulEqOrd.eq_of_compare both.1
    have labels : first.label = second.label := LawfulEqOrd.eq_of_compare both.2
    cases first <;> cases second <;> simp_all [Component.rank, Component.label]

theorem same_iff {first second : SourcePath} :
    first.same second = true ↔ first.components = second.components := by
  rw [same, beq_iff_eq]

theorem compare_eq_iff {first second : SourcePath} :
    compare first second = .eq ↔ first.same second = true := by
  change compare first.components second.components = .eq ↔ _
  rw [Std.compare_eq_iff_eq, same, beq_iff_eq]

end SourcePath

namespace Location

theorem compare_eq_iff {first second : Location} :
    compare first second = .eq ↔ first.same second = true := by
  change compareLex _ _ first second = .eq ↔ _
  simp only [compareLex_eq_eq, compareOn, SourcePath.compare_eq_iff, Std.compare_eq_iff_eq, same,
    Bool.and_eq_true, beq_iff_eq, and_assoc]

theorem same_iff {first second : Location} :
    first.same second = true ↔ first.file.components = second.file.components ∧
      first.line = second.line ∧ first.column = second.column := by
  simp only [same, SourcePath.same_iff, Bool.and_eq_true, beq_iff_eq, and_assoc]

theorem eq_of_same {first second : Location} (same : first.same second = true)
    (files : first.file = second.file) : first = second := by
  simp only [Location.same, Bool.and_eq_true, beq_iff_eq] at same
  cases first
  cases second
  simp_all

end Location

theorem Fact.same_self (fact : Fact) : fact.same fact = true := by
  simp [Fact.same, Location.same, SourcePath.same]

theorem Fact.same_iff {first second : Fact} :
    first.same second = true ↔
      first.location.same second.location = true ∧ first.payload = second.payload := by
  rw [same, Bool.and_eq_true, beq_iff_eq]

theorem Fact.same_comm {first second : Fact} (same : first.same second = true) :
    second.same first = true := by
  rw [Fact.same_iff, Location.same_iff] at same ⊢
  obtain ⟨⟨components, line, column⟩, payload⟩ := same
  exact ⟨⟨components.symm, line.symm, column.symm⟩, payload.symm⟩

theorem sameOption_iff {α : Type u} [Ord α] {same : α → α → Bool}
    (agrees : ∀ first second, compare first second = .eq ↔ same first second = true)
    {first second : Option α} :
    compare first second = .eq ↔ sameOption same first second = true := by
  cases first <;> cases second
  case some.some one other => exact agrees one other
  all_goals simp [compare, sameOption]

theorem eq_of_sameOption {α : Type u} {same : α → α → Bool} {first second : Option α}
    (faithful : ∀ one other, first = some one → second = some other → same one other = true →
      one = other)
    (both : sameOption same first second = true) : first = second := by
  cases first <;> cases second
  case none.none => rfl
  case some.some one other => exact congrArg some (faithful one other rfl rfl both)
  all_goals contradiction

namespace Replacement

instance : TransOrd Replacement :=
  inferInstanceAs (TransCmp (compareLex (compareOn location)
    (compareLex (compareOn target) (compareOn newText))))

theorem compare_eq_iff (first second : Replacement) :
    compare first second = .eq ↔ first.same second = true := by
  change compareLex _ _ first second = .eq ↔ _
  simp only [compareLex_eq_eq, compareOn, Location.compare_eq_iff, Std.compare_eq_iff_eq, same,
    Bool.and_eq_true, beq_iff_eq, and_assoc]

end Replacement

namespace Suggestion

instance : TransOrd Suggestion :=
  inferInstanceAs (TransCmp (compareLex (compareOn message) (compareOn replacement)))

theorem compare_eq_iff (first second : Suggestion) :
    compare first second = .eq ↔ first.same second = true := by
  change compareLex _ _ first second = .eq ↔ _
  simp only [compareLex_eq_eq, compareOn, Std.compare_eq_iff_eq, same,
    sameOption_iff Replacement.compare_eq_iff, Bool.and_eq_true, beq_iff_eq]

end Suggestion

namespace Diagnostic

instance : TransOrd Diagnostic :=
  inferInstanceAs (TransCmp (compareLex (compareOn fun d : Diagnostic => d.location.file)
    (compareLex (compareOn fun d => d.location.line)
      (compareLex (compareOn fun d => d.location.column)
        (compareLex (compareOn ruleId)
          (compareLex (compareOn message)
            (compareLex (compareOn code)
              (compareLex (compareOn severity)
                (compareLex (compareOn priority) (compareOn suggestion))))))))))

/-- The report order leaves nothing out: diagnostics tie only when every field is the same. -/
theorem compare_eq_iff (first second : Diagnostic) :
    compare first second = .eq ↔ first.same second = true := by
  change compareLex _ _ first second = .eq ↔ _
  simp only [compareLex_eq_eq, compareOn, SourcePath.compare_eq_iff, Std.compare_eq_iff_eq, same,
    Location.same, sameOption_iff Suggestion.compare_eq_iff, Bool.and_eq_true, beq_iff_eq]
  tauto

theorem same_self (diagnostic : Diagnostic) : diagnostic.same diagnostic = true :=
  (compare_eq_iff diagnostic diagnostic).mp ReflCmp.compare_self

theorem same_comm {first second : Diagnostic} (same : first.same second = true) :
    second.same first = true :=
  (compare_eq_iff second first).mp (OrientedCmp.eq_symm ((compare_eq_iff first second).mpr same))

theorem same_trans {first second third : Diagnostic} (one : first.same second = true)
    (other : second.same third = true) : first.same third = true :=
  (compare_eq_iff first third).mp
    (TransCmp.eq_trans ((compare_eq_iff first second).mpr one)
      ((compare_eq_iff second third).mpr other))

end Diagnostic

namespace Composite

instance : LawfulEqOrd Names where
  eq_of_compare {first second} tie := by
    change compareLex _ _ first second = .eq at tie
    simp only [compareLex_eq_eq, compareOn, Std.compare_eq_iff_eq] at tie
    cases first
    cases second
    simp_all

end Composite

end NamingAudit
