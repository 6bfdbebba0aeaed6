import NamingAudit.Identifier
import NamingAudit.Rule
import NamingAudit.Text.Bytes

/-! Names of migration files, a time stamp and a description, and of view templates. -/

namespace NamingAudit.Rules
open NamingAudit.Text NamingAudit.Casing

def daysInMonth (year month : Nat) : Nat :=
  if month == 2 then
    if year % 4 == 0 && (year % 100 != 0 || year % 400 == 0) then 29 else 28
  else if month == 4 || month == 6 || month == 9 || month == 11 then 30
  else 31

def digitsValue (digits : List Char) : Nat :=
  digits.foldl (fun value digit => value * 10 + (digit.toNat - '0'.toNat)) 0

def isDigits (count : Nat) (text : List Char) : Bool :=
  text.length == count && text.all isAsciiDigit

/-- `YYYY_MM_DD_HHMMSS`, the date and the time of day being real ones. -/
def isTimestamp (text : List Char) : Bool :=
  match splitOn '_' text with
  | [year, month, day, time] =>
    isDigits 4 year && isDigits 2 month && isDigits 2 day && isDigits 6 time
      && 1 ≤ digitsValue month && digitsValue month ≤ 12
      && 1 ≤ digitsValue day
      && digitsValue day ≤ daysInMonth (digitsValue year) (digitsValue month)
      && digitsValue (time.take 2) ≤ 23
      && digitsValue ((time.drop 2).take 2) ≤ 59
      && digitsValue (time.drop 4) ≤ 59
  | _ => false

def isDigitBytes (count : Nat) (text : List Char) : Bool :=
  byteLength text == count && text.all isAsciiDigit

/-- The time of day is cut in hours, minutes and seconds once it is known to be digits. -/
def cutTimestamp? (text : List Char) : Option Bool :=
  match splitOn '_' text with
  | [year, month, day, time] =>
    if isDigitBytes 4 year && isDigitBytes 2 month && isDigitBytes 2 day && isDigitBytes 6 time then do
      let hour ← slice? 0 2 time
      let minute ← slice? 2 4 time
      let second ← slice? 4 (byteLength time) time
      return 1 ≤ digitsValue month && digitsValue month ≤ 12
        && 1 ≤ digitsValue day
        && digitsValue day ≤ daysInMonth (digitsValue year) (digitsValue month)
        && digitsValue hour ≤ 23 && digitsValue minute ≤ 59
        && digitsValue second ≤ 59
    else return false
  | _ => some false

def timestampLength : Nat := 17

/-- Time stamp and description; the description is empty unless an underscore precedes it. -/
def migrationParts? (stem : List Char) : Option (List Char × List Char) :=
  let stamp := stem.take timestampLength
  if isTimestamp stamp then
    some (stamp, (afterBeginning? ['_'] (stem.drop timestampLength)).getD [])
  else none

def cutMigration? (stem : List Char) : Option (Option (List Char × List Char)) :=
  match cutAt? timestampLength stem with
  | none => some none
  | some (stamp, _) => do
    if ← cutTimestamp? stamp then
      let (_, behind) ← cutAt? timestampLength stem
      return some (stamp, (afterBeginning? ['_'] behind).getD [])
    else return none

def descriptionVerdict (stamp description extension : List Char) : Verdict :=
  if isSnake description then .pass
  else
    let expected := String.ofList (stamp ++ ['_'] ++ toSnake description ++ extension)
    .violation
      { message := "Migration descriptions must be snake_case: expected `" ++ expected ++ "`"
        fix := some expected
        target := .fileName
        scope := .fact }

def migrationFileName (file : MigrationFile) : Verdict :=
  let (stem, extension) := fileParts file.name.toList
  match migrationParts? stem with
  | none =>
    .violation (.plain
      ("Migration `" ++ String.ofList stem ++ "` must start with a `YYYY_MM_DD_HHMMSS` timestamp"))
  | some (stamp, description) =>
    match file.timestamp.filter fun recorded => recorded != String.ofList stamp with
    | some recorded =>
      .violation (.plain
        ("Migration timestamp `" ++ String.ofList stamp
          ++ "` does not match the recorded timestamp `" ++ recorded ++ "`"))
    | none =>
      if description.isEmpty then
        .violation (.plain
          ("Migration `" ++ String.ofList stem
            ++ "` must describe its change after the timestamp"))
      else descriptionVerdict stamp description extension

def larger (size : List Char → Nat) (best : Option (List Char)) (ending : List Char) :
    Option (List Char) :=
  match best with
  | none => some ending
  | some other => if size other ≤ size ending then some ending else some other

/-- The largest of the endings that leave something of the name, the last of several. -/
def largestEnding? (size : List Char → Nat) (endings : List (List Char)) (base : List Char) :
    Option (List Char) :=
  (endings.filter fun ending => size ending < size base && endsWith ending base).foldl (larger size)
    none

def viewParts (extensions : List String) (path : List Char) : List Char × List Char :=
  let base := baseName path
  match largestEnding? List.length (extensions.map String.toList) base with
  | some ending => (base.take (base.length - ending.length), ending)
  | none => fileParts base

/-- Stem and extension of a view, the ending with the most bytes being cut off by their number. -/
def cutView? (extensions : List String) (path : List Char) : Option (List Char × List Char) :=
  let base := baseName path
  match largestEnding? byteLength (extensions.map String.toList) base with
  | some ending => cutAt? (byteLength base - byteLength ending) base
  | none => cutFileName? base

def viewFileCamelCase (extensions : List String) (file : ViewFile) : Verdict :=
  let (stem, extension) := viewParts extensions file.path.toList
  if isCamel stem then .pass
  else
    let expected := String.ofList (toCamel stem ++ extension)
    .violation
      { message := "View file names must be camelCase: expected `" ++ expected ++ "`"
        fix := some expected
        target := .fileName
        scope := .file }

end NamingAudit.Rules
