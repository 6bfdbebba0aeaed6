import NamingAudit.Proofs.JoinedWords
import NamingAudit.Proofs.Recasing
import NamingAudit.Proofs.TableNames

/-! Fixes in camel and Pascal case. What is suggested for a name is the words of the name behind capitals,
and the rules ask for capitals that stand apart. So a rule accepts its own fix exactly when no word of the
name is a single letter with another letter behind it. -/

namespace NamingAudit

namespace Rules
open NamingAudit.Text NamingAudit.Casing NamingAudit.Identifier

variable {name fix : String} {text : List Char}

theorem dot_not_mem_of_isPlain (plain : IsPlain name) : '.' ∉ name.toList := by
  intro inside
  have kinds := plain '.' inside
  revert kinds
  decide

theorem startsWith_toCamel (recasable : IsRecasable text) :
    startsWith ['_', '_'] (toCamel text) = false := by
  have begins : (toCamel text).head?.any isAsciiLower = true := by
    rw [toCamel, head?_joinCamel recasable.small, recasable.begins]
  cases recased : toCamel text with
  | nil => rfl
  | cons c rest =>
    have small : isAsciiLower c = true := by simpa [recased] using begins
    have other : '_' ≠ c := by
      rintro rfl
      contradiction
    simp [startsWith, List.isPrefixOf, other]

theorem isDottedCamel_of_not_mem (whole : '.' ∉ text) : isDottedCamel text = isCamel text := by
  simp [isDottedCamel, splitOn_of_not_mem whole]

theorem dottedCamel_of_not_mem (whole : '.' ∉ text) : dottedCamel text = toCamel text := by
  rw [dottedCamel, splitOn_of_not_mem whole]
  cases text with
  | nil => rfl
  | cons c rest => simp

theorem isDottedCamel_dottedCamel_iff (recasable : IsRecasable text) (whole : '.' ∉ text) :
    isDottedCamel (dottedCamel text) = true ↔ CapitalsApart (words text).tail := by
  have caseless : isCaseless '.' = true := by decide +kernel
  have wholeToo : '.' ∉ toCamel text := fun inside => whole (mem_of_mem_toCamel caseless inside)
  rw [dottedCamel_of_not_mem whole, isDottedCamel_of_not_mem wholeToo, recasable.isCamel_toCamel_iff]

theorem other_of_classPascalCase_suggests {decl : ClassDecl}
    (suggests : (classPascalCase decl).Suggests fix) :
    (decl.role == .controller || decl.role == .model) = false := by
  cases exempt : decl.role == .controller || decl.role == .model with
  | false => rfl
  | true =>
    rw [classPascalCase, exempt, Bool.true_or, if_pos rfl] at suggests
    exact absurd suggests (Verdict.not_suggests_pass fix)

/-- A rule for camel or Pascal case accepts its own fix for a name of letters, digits and underscores that
begins with a letter exactly when no word of the name is a single letter with another letter behind it. The
first word has no capital in camel case, and does not count there. An accepted fix is another name. -/
theorem capitalized_fix_accepted_iff (plain : IsPlain name)
    (begins : name.toList.head?.any isAsciiLetter = true) :
    (∀ (decl : MethodDecl) (fix : String), decl.name = name → (methodCamelCase decl).Suggests fix →
      (methodCamelCase { decl with name := fix } = .pass ↔ CapitalsApart (words name.toList).tail) ∧
        (CapitalsApart (words name.toList).tail → fix ≠ name)) ∧
    (∀ (decl : RouteDecl) (fix : String), decl.name = some name →
      (routeNameCamelCase decl).Suggests fix →
        (routeNameCamelCase { decl with name := some fix } = .pass ↔
          CapitalsApart (words name.toList).tail) ∧
        (CapitalsApart (words name.toList).tail → fix ≠ name)) ∧
    ∀ (decl : ClassDecl) (fix : String), decl.name = name → (classPascalCase decl).Suggests fix →
      (classPascalCase { decl with name := fix } = .pass ↔ CapitalsApart (words name.toList)) ∧
        (CapitalsApart (words name.toList) → fix ≠ name) := by
  have recasable := isRecasable_of_head? plain.isPlainText begins
  refine ⟨?_, ?_, ?_⟩
  · rintro decl fix rfl suggests
    refine (methodCamelCase_recases decl).fix_accepted_iff suggests ?_
    rw [startsWith_toCamel recasable, Bool.false_or, recasable.isCamel_toCamel_iff]
  · intro decl fix named suggests
    have given : { decl with name := some name } = decl := by rw [← named]
    exact (routeNameCamelCase_recases decl).fix_accepted_iff (given ▸ suggests)
      (isDottedCamel_dottedCamel_iff recasable (dot_not_mem_of_isPlain plain))
  · rintro decl fix rfl suggests
    refine (classPascalCase_recases decl).fix_accepted_iff suggests ?_
    rw [other_of_classPascalCase_suggests suggests, Bool.false_or, recasable.isPascal_toPascal_iff]

theorem accepted_showActive :
    methodCamelCase ⟨"showActive", .controller, []⟩ = .pass ∧
      routeNameCamelCase ⟨"users/active", .get, some "showActive", []⟩ = .pass ∧
      classPascalCase ⟨"ShowActive", .command, none⟩ = .pass := by
  have plain : IsPlain "show_active" := by decide +kernel
  have apart : CapitalsApart (words "show_active".toList) := by decide +kernel
  have apartToo : CapitalsApart (words "show_active".toList).tail := by decide +kernel
  obtain ⟨ofMethod, ofRoute, ofClass⟩ := capitalized_fix_accepted_iff plain rfl
  refine ⟨(ofMethod ⟨"show_active", .controller, []⟩ "showActive" rfl ?_).1.mpr apartToo,
    (ofRoute ⟨"users/active", .get, some "show_active", []⟩ "showActive" rfl ?_).1.mpr apartToo,
    (ofClass ⟨"show_active", .command, none⟩ "ShowActive" rfl ?_).1.mpr apart⟩ <;> decide +kernel

/-- `IRepository` is asked to be replaced by itself: its first word is a letter. -/
theorem iRepository_for_itself :
    classPascalCase ⟨"IRepository", .contract, none⟩ = .violation
      (.replacing "Class names must be PascalCase: expected `IRepository`" "IRepository") := by
  decide +kernel

end Rules

end NamingAudit
