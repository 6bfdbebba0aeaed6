import NamingAudit.Identifier
import NamingAudit.Rule

/-! Names of console commands and of validation rules. -/

namespace NamingAudit.Rules
open NamingAudit.Text NamingAudit.Casing

def isColonKebab (name : List Char) : Bool := (splitOn ':' name).all isKebab

def colonKebab (name : List Char) : List Char :=
  joinWith ':' (((splitOn ':' name).filter fun segment => !segment.isEmpty).map toKebab)

def commandNameKebabCase (decl : CommandDecl) : Verdict :=
  if isColonKebab decl.name.toList then .pass
  else
    let expected := String.ofList (colonKebab decl.name.toList)
    .violation (.replacing
      ("Command names must be kebab-case: expected `" ++ expected ++ "`") expected)

def validationRuleSnakeCase (rule : ValidationRule) : Verdict :=
  if Identifier.isSnake rule.identifier then .pass
  else
    let expected := Identifier.snake rule.identifier
    .violation (.replacing
      ("Validation rule identifiers must be snake_case: expected `" ++ expected ++ "`") expected)

end NamingAudit.Rules
