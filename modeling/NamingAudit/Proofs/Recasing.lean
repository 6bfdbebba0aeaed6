import NamingAudit.Catalogue

/-! Rules that ask for another casing. Most of them look at one text: they accept it, or they suggest the
text recased. Stated of the text alone, with the rest of the fact held fast, they are one kind of rule. -/

namespace NamingAudit

def Verdict.Suggests (verdict : Verdict) (fix : String) : Prop :=
  ∃ finding, verdict = .violation finding ∧ finding.fix = some fix

@[simp] theorem Verdict.not_suggests_pass (fix : String) : ¬ Verdict.pass.Suggests fix := by
  rintro ⟨finding, none, _⟩
  contradiction

theorem Verdict.suggests_violation_iff {finding : Finding} {fix : String} :
    (Verdict.violation finding).Suggests fix ↔ finding.fix = some fix := by
  constructor
  · rintro ⟨_, same, suggested⟩
    rwa [Verdict.violation.inj same]
  · intro suggested
    exact ⟨finding, rfl, suggested⟩

instance (verdict : Verdict) (fix : String) : Decidable (verdict.Suggests fix) :=
  match verdict with
  | .pass => isFalse (Verdict.not_suggests_pass fix)
  | .violation finding => decidable_of_iff (finding.fix = some fix) Verdict.suggests_violation_iff.symm

/-- The rule accepts a text or suggests the recased one. -/
structure Recases (rule : String → Verdict) (accepted : List Char → Bool)
    (recase : List Char → List Char) : Prop where
  pass_iff : ∀ text, rule text = .pass ↔ accepted text.toList = true
  eq_of_suggests : ∀ {text fix}, (rule text).Suggests fix → fix = String.ofList (recase text.toList)

namespace Recases
variable {rule : String → Verdict} {accepted : List Char → Bool} {recase : List Char → List Char}
  {text fix : String}

theorem ite (accepted : List Char → Bool) (recase : List Char → List Char)
    {finding : String → Finding}
    (fixes : ∀ text, (finding text).fix = some (String.ofList (recase text.toList))) :
    Recases (fun text => if accepted text.toList then .pass else .violation (finding text))
      accepted recase := by
  constructor
  · intro text
    split <;> simp_all
  · intro text fix suggests
    split at suggests
    · exact absurd suggests (Verdict.not_suggests_pass fix)
    · rw [Verdict.suggests_violation_iff, fixes] at suggests
      exact (Option.some.inj suggests).symm

theorem accepts_fix_iff (recases : Recases rule accepted recase) (suggests : (rule text).Suggests fix) :
    rule fix = .pass ↔ accepted (recase text.toList) = true := by
  rw [recases.pass_iff, recases.eq_of_suggests suggests, String.toList_ofList]

theorem ne_of_accepts (suggests : (rule text).Suggests fix) (accepts : rule fix = .pass) :
    fix ≠ text := by
  rintro rfl
  rw [accepts] at suggests
  exact Verdict.not_suggests_pass fix suggests

/-- When the rule accepts the recased text, it accepts its fix, which then is another text. -/
theorem fix_accepted_iff {condition : Prop} (recases : Recases rule accepted recase)
    (suggests : (rule text).Suggests fix)
    (fits : accepted (recase text.toList) = true ↔ condition) :
    (rule fix = .pass ↔ condition) ∧ (condition → fix ≠ text) := by
  have accepts := (recases.accepts_fix_iff suggests).trans fits
  exact ⟨accepts, fun held => ne_of_accepts suggests (accepts.mpr held)⟩

end Recases

namespace Rules
open NamingAudit.Text NamingAudit.Casing

theorem methodCamelCase_recases (decl : MethodDecl) :
    Recases (fun name => methodCamelCase { decl with name })
      (fun name => startsWith ['_', '_'] name || isCamel name) toCamel :=
  Recases.ite (fun name => startsWith ['_', '_'] name || isCamel name) toCamel fun _ => rfl

theorem routeNameCamelCase_recases (decl : RouteDecl) :
    Recases (fun name => routeNameCamelCase { decl with name := some name }) isDottedCamel
      dottedCamel :=
  Recases.ite _ _ fun _ => rfl

theorem classPascalCase_recases (decl : ClassDecl) :
    Recases (fun name => classPascalCase { decl with name })
      (fun name => decl.role == .controller || decl.role == .model || isPascal name) toPascal :=
  Recases.ite (fun name => decl.role == .controller || decl.role == .model || isPascal name) toPascal
    fun _ => rfl

theorem columnSnakeCase_recases (decl : ColumnDecl) :
    Recases (fun name => columnSnakeCase { decl with name }) isSnake toSnake :=
  Recases.ite _ _ fun _ => rfl

theorem validationRuleSnakeCase_recases (rule : ValidationRule) :
    Recases (fun identifier => validationRuleSnakeCase { rule with identifier }) isSnake toSnake :=
  Recases.ite _ _ fun _ => rfl

theorem configKeySnakeCase_recases (entry : ConfigEntry) :
    Recases (fun key => configKeySnakeCase { entry with key }) isDottedKey dottedKey :=
  Recases.ite _ _ fun _ => rfl

theorem commandNameKebabCase_recases (decl : CommandDecl) :
    Recases (fun name => commandNameKebabCase { decl with name }) isColonKebab colonKebab :=
  Recases.ite _ _ fun _ => rfl

theorem configFileKebabCase_recases (entry : ConfigEntry) :
    Recases (fun file => configFileKebabCase { entry with file })
      (fun file => isKebab (fileParts file).1)
      (fun file => toKebab (fileParts file).1 ++ (fileParts file).2) :=
  Recases.ite (fun file => isKebab (fileParts file).1)
    (fun file => toKebab (fileParts file).1 ++ (fileParts file).2) fun _ => rfl

end Rules

end NamingAudit
