import NamingAudit.Json.Number
import NamingAudit.Text.Letter

/-! Reading JSON from left to right, up to the first problem. A value is either kept, and then its
nesting is limited and its numbers and texts have to be representable, or it is skipped, and then
only its form counts. -/

namespace NamingAudit.Json

inductive Problem where
  | endOfText
  | wrongType
  | malformed
deriving DecidableEq, Repr

def isJsonBlank (c : Char) : Bool := c == ' ' || c == '\n' || c == '\t' || c == '\r'

def skipBlanks (chars : List Char) : List Char := chars.dropWhile isJsonBlank

/-- What is expected of a value to be read: the levels it may still open when it is kept. -/
inductive Use where
  | keep (levels : Nat)
  | skip
deriving DecidableEq, Repr

namespace Use

def isKept : Use → Bool
  | keep _ => true
  | skip => false

def enter : Use → Except Problem Use
  | keep levels => if levels ≤ 1 then .error .malformed else .ok (keep (levels - 1))
  | skip => .ok skip

end Use

def takeDigits (chars : List Char) : List Char × List Char :=
  (chars.takeWhile Text.isAsciiDigit, chars.dropWhile Text.isAsciiDigit)

/-- A digit is missing. At the end of the text a kept number is cut short; a skipped one is in any
case no number. -/
def missingDigit (kept : Bool) (rest : List Char) : Problem :=
  if kept && rest.isEmpty then .endOfText else .malformed

def readWhole (kept : Bool) (chars : List Char) : Except Problem (List Char × List Char) :=
  match chars with
  | '0' :: rest =>
    if rest.head?.any Text.isAsciiDigit then .error .malformed else .ok (['0'], rest)
  | _ =>
    match takeDigits chars with
    | ([], rest) => .error (missingDigit kept rest)
    | digits => .ok digits

def readFraction (kept : Bool) (chars : List Char) : Except Problem (List Char × List Char) :=
  match chars with
  | '.' :: rest =>
    match takeDigits rest with
    | ([], rest) => .error (missingDigit kept rest)
    | digits => .ok digits
  | _ => .ok ([], chars)

def digitsToNat (digits : List Char) : Nat :=
  digits.foldl (fun value digit => value * 10 + Numeral.digitValue digit) 0

def readExponentSign (chars : List Char) : Bool × List Char :=
  match chars with
  | '+' :: rest => (false, rest)
  | '-' :: rest => (true, rest)
  | _ => (false, chars)

def readExponentDigits (kept : Bool) (chars : List Char) :
    Except Problem (Option Int × List Char) :=
  let (negative, rest) := readExponentSign chars
  match takeDigits rest with
  | ([], rest) => .error (missingDigit kept rest)
  | (digits, rest) =>
    let size : Int := digitsToNat digits
    .ok (some (if negative then -size else size), rest)

def readExponent (kept : Bool) (chars : List Char) : Except Problem (Option Int × List Char) :=
  match chars with
  | 'e' :: rest => readExponentDigits kept rest
  | 'E' :: rest => readExponentDigits kept rest
  | _ => .ok (none, chars)

def readNumber (kept negative : Bool) (chars : List Char) :
    Except Problem (Value × List Char) := do
  let (whole, chars) ← readWhole kept chars
  let (fraction, chars) ← readFraction kept chars
  let (exponent, chars) ← readExponent kept chars
  if kept then
    match (Numeral.mk negative whole fraction exponent).value? with
    | some number => return (.number number, chars)
    | none => .error .malformed
  else return (.null, chars)

inductive TextState where
  | plain
  | escape
  | hex (lead : Option Nat) (missing : Nat) (code : Nat)
  | pairBackslash (lead : Nat)
  | pairLetter (lead : Nat)

def hexValue? (c : Char) : Option Nat :=
  if '0' ≤ c && c ≤ '9' then some (c.toNat - '0'.toNat)
  else if 'a' ≤ c && c ≤ 'f' then some (c.toNat - 'a'.toNat + 10)
  else if 'A' ≤ c && c ≤ 'F' then some (c.toNat - 'A'.toNat + 10)
  else none

def simpleEscape? (c : Char) : Option Char :=
  match c with
  | '"' => some '"'
  | '\\' => some '\\'
  | '/' => some '/'
  | 'b' => some '\x08'
  | 'f' => some '\x0c'
  | 'n' => some '\n'
  | 'r' => some '\r'
  | 't' => some '\t'
  | _ => none

def isLeadSurrogate (code : Nat) : Bool := 0xd800 ≤ code && code ≤ 0xdbff

def isTrailSurrogate (code : Nat) : Bool := 0xdc00 ≤ code && code ≤ 0xdfff

/-- A hexadecimal escape may begin here only if four more bytes exist. -/
def beginHex (lead : Option Nat) (rest : List Char) : Except Problem TextState :=
  if (rest.take 4).foldl (fun size c => size + c.utf8Size) 0 < 4 then .error .endOfText
  else .ok (.hex lead 4 0)

def endHex (kept : Bool) (lead : Option Nat) (code : Nat) :
    Except Problem (List Char × TextState) :=
  if !kept then .ok ([], .plain)
  else
    match lead with
    | none =>
      if isTrailSurrogate code then .error .malformed
      else if isLeadSurrogate code then .ok ([], .pairBackslash code)
      else .ok ([Char.ofNat code], .plain)
    | some lead =>
      if isTrailSurrogate code then
        .ok ([Char.ofNat (0x10000 + (lead - 0xd800) * 0x400 + (code - 0xdc00))], .plain)
      else .error .malformed

def readText (kept : Bool) (state : TextState) (before : List Char) :
    List Char → Except Problem (List Char × List Char)
  | [] => .error .endOfText
  | c :: rest =>
    match state with
    | .plain =>
      if c == '"' then .ok (before.reverse, rest)
      else if c == '\\' then readText kept .escape before rest
      else if c < ' ' then .error .malformed
      else readText kept .plain (c :: before) rest
    | .escape =>
      match simpleEscape? c with
      | some plain => readText kept .plain (plain :: before) rest
      | none =>
        if c == 'u' then
          match beginHex none rest with
          | .ok state => readText kept state before rest
          | .error problem => .error problem
        else .error .malformed
    | .hex lead missing code =>
      match hexValue? c with
      | none => .error .malformed
      | some digit =>
        let code := code * 16 + digit
        if missing ≤ 1 then
          match endHex kept lead code with
          | .ok (added, state) => readText kept state (added ++ before) rest
          | .error problem => .error problem
        else readText kept (.hex lead (missing - 1) code) before rest
    | .pairBackslash lead =>
      if c == '\\' then readText kept (.pairLetter lead) before rest else .error .malformed
    | .pairLetter lead =>
      if c == 'u' then
        match beginHex (some lead) rest with
        | .ok state => readText kept state before rest
        | .error problem => .error problem
      else .error .malformed

def readString (kept : Bool) (chars : List Char) : Except Problem (String × List Char) := do
  let (text, rest) ← readText kept .plain [] chars
  return (String.ofList text, rest)

def readLiteral (value : Value) : List Char → List Char → Except Problem (Value × List Char)
  | [], rest => .ok (value, rest)
  | _ :: _, [] => .error .endOfText
  | wanted :: more, c :: rest =>
    if c == wanted then readLiteral value more rest else .error .malformed

def readScalar? (kept : Bool) (chars : List Char) : Option (Except Problem (Value × List Char)) :=
  match chars with
  | 'n' :: rest => some (readLiteral .null ['u', 'l', 'l'] rest)
  | 't' :: rest => some (readLiteral (.bool true) ['r', 'u', 'e'] rest)
  | 'f' :: rest => some (readLiteral (.bool false) ['a', 'l', 's', 'e'] rest)
  | '-' :: rest => some (readNumber kept true rest)
  | '"' :: rest => some ((readString kept rest).map fun (text, rest) => (.text text, rest))
  | c :: _ => if Text.isAsciiDigit c then some (readNumber kept false chars) else none
  | [] => none

def nextItem (isFirst : Bool) (chars : List Char) : Except Problem (Option (List Char)) :=
  match skipBlanks chars with
  | [] => .error .endOfText
  | ']' :: _ => .ok none
  | c :: rest =>
    if isFirst then .ok (some (c :: rest))
    else if c == ',' then
      match skipBlanks rest with
      | [] => .error .endOfText
      | ']' :: _ => .error .malformed
      | start => .ok (some start)
    else .error .malformed

def nextKey (isFirst : Bool) (chars : List Char) : Except Problem (Option (List Char)) :=
  match skipBlanks chars with
  | [] => .error .endOfText
  | '}' :: _ => .ok none
  | c :: rest =>
    if isFirst then (if c == '"' then .ok (some rest) else .error .malformed)
    else if c == ',' then
      match skipBlanks rest with
      | [] => .error .endOfText
      | '"' :: start => .ok (some start)
      | _ => .error .malformed
    else .error .malformed

def readColon (chars : List Char) : Except Problem (List Char) :=
  match skipBlanks chars with
  | [] => .error .endOfText
  | ':' :: rest => .ok rest
  | _ => .error .malformed

mutual

/-- Reads one value. The fuel bounds the calls; twice the length of the text always suffices. -/
def readValue (use : Use) : Nat → List Char → Except Problem (Value × List Char)
  | 0, _ => .error .malformed
  | fuel + 1, chars =>
    match skipBlanks chars with
    | [] => .error .endOfText
    | '[' :: rest => do
      let (items, rest) ← readItems (← use.enter) true fuel rest
      return (.array items, rest)
    | '{' :: rest => do
      let (members, rest) ← readMembers (← use.enter) true fuel rest
      return (objectOf members, rest)
    | start => (readScalar? use.isKept start).getD (.error .malformed)

def readItems (use : Use) (isFirst : Bool) :
    Nat → List Char → Except Problem (List Value × List Char)
  | 0, _ => .error .malformed
  | fuel + 1, chars => do
    match ← nextItem isFirst chars with
    | none => return ([], (skipBlanks chars).drop 1)
    | some start =>
      let (item, rest) ← readValue use fuel start
      let (items, rest) ← readItems use false fuel rest
      return (item :: items, rest)

def readMembers (use : Use) (isFirst : Bool) :
    Nat → List Char → Except Problem (List (String × Value) × List Char)
  | 0, _ => .error .malformed
  | fuel + 1, chars => do
    match ← nextKey isFirst chars with
    | none => return ([], (skipBlanks chars).drop 1)
    | some start =>
      let (key, rest) ← readString use.isKept start
      let (value, rest) ← readValue use fuel (← readColon rest)
      let (members, rest) ← readMembers use false fuel rest
      return ((key, value) :: members, rest)

end

def fuelFor (chars : List Char) : Nat := 2 * chars.length + 2

def readEnd (chars : List Char) : Except Problem Unit :=
  if (skipBlanks chars).isEmpty then .ok () else .error .malformed

/-- Levels that a text may open, the outermost included. -/
def nestingLimit : Nat := 128

def parse (text : String) : Except Problem Value := do
  let chars := text.toList
  let (value, rest) ← readValue (.keep nestingLimit) (fuelFor chars) chars
  let _ ← readEnd rest
  return value

end NamingAudit.Json
