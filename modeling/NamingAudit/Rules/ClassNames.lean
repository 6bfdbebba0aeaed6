import NamingAudit.Identifier
import NamingAudit.Rule

/-! Names of classes and of the files that declare them. Controllers and models carry a singular
noun; other classes only have to be in Pascal case. -/

namespace NamingAudit.Rules
open NamingAudit.Text

def nounProblem (name : String) : String :=
  if Identifier.isPascal name then "singular" else "PascalCase"

def missingSuffix (suffix name : String) : Verdict :=
  let expected := Identifier.singularPascal name ++ suffix
  .violation (.replacing
    ("Controller names must end with `" ++ suffix ++ "`: expected `" ++ expected ++ "`") expected)

def controllerStem (suffix name stem : String) : Verdict :=
  if stem == "" then
    .violation (.plain
      ("Controller names must start with a resource noun before `" ++ suffix ++ "`"))
  else
    let expected := Identifier.singularPascal stem ++ suffix
    if expected == name then .pass
    else
      .violation (.replacing
        ("Controller names must be " ++ nounProblem stem ++ ": expected `" ++ expected ++ "`")
        expected)

/-- A controller is a singular noun in Pascal case with the suffix behind it. -/
def controllerName (suffix : String) (decl : ClassDecl) : Verdict :=
  if decl.role != .controller then .pass
  else
    match beforeEnding? suffix.toList decl.name.toList with
    | none => missingSuffix suffix decl.name
    | some stem => controllerStem suffix decl.name (String.ofList stem)

def modelName (decl : ClassDecl) : Verdict :=
  if decl.role != .model then .pass
  else
    let expected := Identifier.singularPascal decl.name
    if expected == decl.name then .pass
    else if expected == "" then
      .violation (.plain "Model names must be a singular PascalCase noun")
    else
      .violation (.replacing
        ("Model names must be " ++ nounProblem decl.name ++ ": expected `" ++ expected ++ "`")
        expected)

/-- Classes that are neither controllers nor models are in Pascal case. -/
def classPascalCase (decl : ClassDecl) : Verdict :=
  if decl.role == .controller || decl.role == .model || Identifier.isPascal decl.name then .pass
  else
    let expected := Identifier.pascal decl.name
    .violation (.replacing ("Class names must be PascalCase: expected `" ++ expected ++ "`") expected)

def fileNamedAfter (name fileName : String) : Verdict :=
  let base := baseName fileName.toList
  let (stem, extension) := cutAtDot base
  if String.ofList stem == name then .pass
  else
    let expected := if extension.length ≤ 1 then name else name ++ String.ofList extension
    .violation
      { message := "File `" ++ String.ofList base ++ "` must be named after class `" ++ name
          ++ "`: expected `" ++ expected ++ "`"
        fix := some expected
        target := .fileName
        scope := .fact }

def classFileName (decl : ClassDecl) : Verdict :=
  match decl.fileName with
  | none => .pass
  | some fileName => fileNamedAfter decl.name fileName

def withoutSuffix (suffix name : String) : Verdict :=
  match beforeEnding? suffix.toList name.toList with
  | none => .pass
  | some [] => .pass
  | some stem =>
    let stem := String.ofList stem
    .violation (.replacing
      (suffix ++ " names must not be suffixed with `" ++ suffix ++ "`: expected `" ++ stem ++ "`")
      stem)

def noTypeSuffix (decl : ClassDecl) : Verdict :=
  match decl.role with
  | .contract => withoutSuffix "Interface" decl.name
  | .mixin => withoutSuffix "Trait" decl.name
  | _ => .pass

end NamingAudit.Rules
