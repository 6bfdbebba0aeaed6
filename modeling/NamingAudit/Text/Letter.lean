import NamingAudit.Text.AlphanumericTable
import NamingAudit.Text.LetterTable

/-! Letters, numbers and the letter case of single characters. Below 0x80 the case is the ASCII one; from there on the
tables decide. A mapping may give several characters, and it never looks at the neighbours. -/

namespace NamingAudit.Text

def isAsciiUpper (c : Char) : Bool := 'A' ≤ c && c ≤ 'Z'

def isAsciiLower (c : Char) : Bool := 'a' ≤ c && c ≤ 'z'

def isAsciiDigit (c : Char) : Bool := '0' ≤ c && c ≤ '9'

def isAsciiAlphanumeric (c : Char) : Bool := isAsciiUpper c || isAsciiLower c || isAsciiDigit c

def isAlphanumeric (c : Char) : Bool :=
  if c.toNat < 0x80 then isAsciiAlphanumeric c
  else inRuns AlphanumericTable.alphanumeric c.toNat

def isUpper (c : Char) : Bool :=
  if c.toNat < 0x80 then isAsciiUpper c else inRuns LetterTable.uppercase c.toNat

def isLower (c : Char) : Bool :=
  if c.toNat < 0x80 then isAsciiLower c else inRuns LetterTable.lowercase c.toNat

def asciiLower (c : Char) : Char :=
  if isAsciiUpper c then Char.ofNat (c.toNat + 32) else c

def asciiUpper (c : Char) : Char :=
  if isAsciiLower c then Char.ofNat (c.toNat - 32) else c

/-- The entry of a table of expansions, else the shifted code point, else the character itself. -/
def mapByTables (expansions : List (Nat × List Char)) (shifts : List ShiftedRun) (c : Char) :
    List Char :=
  match expansions.lookup c.toNat with
  | some target => target
  | none =>
    match shiftCode? shifts c.toNat with
    | some code => [Char.ofNat code]
    | none => [c]

def lower (c : Char) : List Char :=
  if c.toNat < 0x80 then [asciiLower c]
  else mapByTables LetterTable.toLowerExpansions LetterTable.toLowerShifts c

def upper (c : Char) : List Char :=
  if c.toNat < 0x80 then [asciiUpper c]
  else mapByTables LetterTable.toUpperExpansions LetterTable.toUpperShifts c

def asciiLowerText (text : String) : String :=
  String.ofList (text.toList.map asciiLower)

def asciiUpperText (text : String) : String :=
  String.ofList (text.toList.map asciiUpper)

end NamingAudit.Text
