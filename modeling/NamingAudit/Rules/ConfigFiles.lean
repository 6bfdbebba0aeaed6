import NamingAudit.Identifier
import NamingAudit.Rule

/-! Configuration files and the dotted keys in them. -/

namespace NamingAudit.Rules
open NamingAudit.Text NamingAudit.Casing

/-- The stem of a configuration file is in kebab case; a fault is reported once for the file. -/
def configFileKebabCase (entry : ConfigEntry) : Verdict :=
  let (stem, extension) := fileParts entry.file.toList
  if isKebab stem then .pass
  else
    let expected := String.ofList (toKebab stem ++ extension)
    .violation
      { message := "Config file names must be kebab-case: expected `" ++ expected ++ "`"
        fix := some expected
        target := .fileName
        scope := .file }

/-- Snake case, or the index of a list element. -/
def isKeySegment (segment : List Char) : Bool :=
  isSnake segment || (!segment.isEmpty && segment.all isAsciiDigit)

def keySegment (segment : List Char) : List Char :=
  if isKeySegment segment then segment else toSnake segment

def isDottedKey (key : List Char) : Bool := (splitOn '.' key).all isKeySegment

def dottedKey (key : List Char) : List Char :=
  joinWith '.' (((splitOn '.' key).filter fun segment => !segment.isEmpty).map keySegment)

def configKeySnakeCase (entry : ConfigEntry) : Verdict :=
  if isDottedKey entry.key.toList then .pass
  else
    let expected := String.ofList (dottedKey entry.key.toList)
    .violation
      { message := "Config keys must be snake_case: expected `" ++ expected ++ "`"
        fix := some expected
        target := .key
        scope := .fact }

end NamingAudit.Rules
