import NamingAudit.Toml.Value
import NamingAudit.Text.Letter

/-! TOML texts, numbers, dates and times. Each reader takes what begins at the front and returns it
with the rest; line ends are single line feeds. -/

namespace NamingAudit.Toml
open NamingAudit.Text

abbrev Chars := List Char

def isGap (c : Char) : Bool := c == ' ' || c == '\t'

def isLineChar (c : Char) : Bool := c == '\t' || (' ' ≤ c && c != '\x7f')

def hexValue? (c : Char) : Option Nat :=
  if isAsciiDigit c then some (c.toNat - '0'.toNat)
  else if 'a' ≤ c && c ≤ 'f' then some (c.toNat - 'a'.toNat + 10)
  else if 'A' ≤ c && c ≤ 'F' then some (c.toNat - 'A'.toNat + 10)
  else none

inductive TextState where
  | plain
  | escape
  | hex (missing code : Nat)
  | fold (newLine : Bool)
  | quotes (count : Nat)

def simpleEscape? (c : Char) : Option Char :=
  match c with
  | 'b' => some '\x08'
  | 't' => some '\t'
  | 'n' => some '\n'
  | 'f' => some '\x0c'
  | 'r' => some '\r'
  | '"' => some '"'
  | '\\' => some '\\'
  | _ => none

/-- The next state and what it adds, read backwards; `none` on a fault. -/
abbrev Advance := Option (TextState × Chars)

def advanceEscape (multiline : Bool) (c : Char) : Advance :=
  match simpleEscape? c with
  | some plain => some (.plain, [plain])
  | none =>
    if c == 'u' then some (.hex 4 0, [])
    else if c == 'U' then some (.hex 8 0, [])
    else if multiline && isGap c then some (.fold false, [])
    else if multiline && c == '\n' then some (.fold true, [])
    else none

def advanceHex (missing code : Nat) (c : Char) : Advance :=
  match hexValue? c with
  | none => none
  | some digit =>
    let code := code * 16 + digit
    if 1 < missing then some (.hex (missing - 1) code, [])
    else if code.isValidChar then some (.plain, [Char.ofNat code])
    else none

def readBasic (state : TextState) (before : Chars) : Chars → Option (Chars × Chars)
  | [] => none
  | c :: rest =>
    match state with
    | .escape => (advanceEscape false c).bind fun (state, added) =>
      readBasic state (added ++ before) rest
    | .hex missing code => (advanceHex missing code c).bind fun (state, added) =>
      readBasic state (added ++ before) rest
    | _ =>
      if c == '"' then some (before.reverse, rest)
      else if c == '\\' then readBasic .escape before rest
      else if isLineChar c then readBasic .plain (c :: before) rest
      else none

def advancePlain (c : Char) : Advance :=
  if c == '"' then some (.quotes 1, [])
  else if c == '\\' then some (.escape, [])
  else if c == '\n' || isLineChar c then some (.plain, [c])
  else none

def advanceBlock (state : TextState) (c : Char) : Advance :=
  match state with
  | .plain => advancePlain c
  | .escape => advanceEscape true c
  | .hex missing code => advanceHex missing code c
  | .fold newLine =>
    if isGap c then some (.fold newLine, [])
    else if c == '\n' then some (.fold true, [])
    else if newLine then advancePlain c
    else none
  | .quotes count =>
    if c == '"' then (if count < 5 then some (.quotes (count + 1), []) else none)
    else (advancePlain c).map fun (state, added) => (state, added ++ List.replicate count '"')

def readBlock (advance : TextState → Char → Advance) (quote : Char) (state : TextState)
    (before : Chars) : Chars → Option (Chars × Chars)
  | [] =>
    match state with
    | .quotes count =>
      if 3 ≤ count then some ((List.replicate (count - 3) quote ++ before).reverse, []) else none
    | _ => none
  | c :: rest =>
    match state with
    | .quotes count =>
      if 3 ≤ count && c != quote then
        some ((List.replicate (count - 3) quote ++ before).reverse, c :: rest)
      else (advance state c).bind fun (state, added) =>
        readBlock advance quote state (added ++ before) rest
    | _ => (advance state c).bind fun (state, added) =>
      readBlock advance quote state (added ++ before) rest

def advanceLiteral (state : TextState) (c : Char) : Advance :=
  match state with
  | .quotes count =>
    if c == '\'' then (if count < 5 then some (.quotes (count + 1), []) else none)
    else if c == '\n' || isLineChar c then
      some (.plain, c :: List.replicate count '\'')
    else none
  | _ =>
    if c == '\'' then some (.quotes 1, [])
    else if c == '\n' || isLineChar c then some (.plain, [c])
    else none

def readLiteral (chars : Chars) : Option (Chars × Chars) :=
  let inner := chars.takeWhile fun c => c != '\'' && isLineChar c
  match chars.drop inner.length with
  | '\'' :: rest => some (inner, rest)
  | _ => none

def dropFirstNewLine : Chars → Chars
  | '\n' :: rest => rest
  | chars => chars

def readString (chars : Chars) : Option (String × Chars) :=
  let read :=
    match chars with
    | '"' :: '"' :: '"' :: rest => readBlock advanceBlock '"' .plain [] (dropFirstNewLine rest)
    | '"' :: rest => readBasic .plain [] rest
    | '\'' :: '\'' :: '\'' :: rest =>
      readBlock advanceLiteral '\'' .plain [] (dropFirstNewLine rest)
    | '\'' :: rest => readLiteral rest
    | _ => none
  read.map fun (text, rest) => (String.ofList text, rest)

def readQuotedKey (chars : Chars) : Option (String × Chars) :=
  let read :=
    match chars with
    | '"' :: rest => readBasic .plain [] rest
    | '\'' :: rest => readLiteral rest
    | _ => none
  read.map fun (text, rest) => (String.ofList text, rest)

/-- Single underscores may stand between digits. -/
def wellSpaced : Chars → Bool
  | [] => false
  | ['_'] => false
  | '_' :: '_' :: _ => false
  | [_] => true
  | _ :: rest => wellSpaced rest

def readDigits (isDigit : Char → Bool) (chars : Chars) : Option (Chars × Chars) :=
  let run := chars.takeWhile fun c => isDigit c || c == '_'
  if run.head? != some '_' && wellSpaced run then
    some (run.filter (· != '_'), chars.drop run.length)
  else none

def valueIn (base : Nat) (digits : Chars) : Nat :=
  digits.foldl (fun value digit => value * base + (hexValue? digit).getD 0) 0

def inWord (value : Int) : Bool := -(twoTo 63 : Int) ≤ value && value < twoTo 63

def readInBase (base : Nat) (chars : Chars) : Option (Value × Chars) := do
  let (digits, rest) ← readDigits (fun c => (hexValue? c).any (· < base)) chars
  let value : Int := valueIn base digits
  if inWord value then some (.integer value, rest) else none

def readWhole (chars : Chars) : Option (Chars × Chars) := do
  let (digits, rest) ← readDigits isAsciiDigit chars
  if digits.head? == some '0' && digits.length != 1 then none else some (digits, rest)

def readSign (chars : Chars) : Bool × Chars :=
  match chars with
  | '+' :: rest => (false, rest)
  | '-' :: rest => (true, rest)
  | _ => (false, chars)

def readFraction (chars : Chars) : Option (Chars × Chars) :=
  match chars with
  | '.' :: rest => readDigits isAsciiDigit rest
  | _ => some ([], chars)

def readExponentDigits (chars : Chars) : Option (Option Int × Chars) := do
  let (negative, rest) := readSign chars
  let (digits, rest) ← readDigits isAsciiDigit rest
  let size : Int := valueIn 10 digits
  some (some (if negative then -size else size), rest)

def readExponent (chars : Chars) : Option (Option Int × Chars) :=
  match chars with
  | 'e' :: rest => readExponentDigits rest
  | 'E' :: rest => readExponentDigits rest
  | _ => some (none, chars)

/-- Positive numbers beyond the range are refused, negative ones become infinite. -/
def inRange? (value : Binary64) : Option Value :=
  if value == .infinite false then none else some (.real value)

def readDecimal (negative : Bool) (chars : Chars) : Option (Value × Chars) := do
  let (whole, rest) ← readWhole chars
  let (fraction, rest) ← readFraction rest
  let (exponent, rest) ← readExponent rest
  if fraction.isEmpty && exponent.isNone then
    let size : Int := valueIn 10 whole
    let value := if negative then -size else size
    if inWord value then some (.integer value, rest) else none
  else
    let power := exponent.getD 0 - fraction.length
    let value ← inRange? (.ofDecimal negative (valueIn 10 (whole ++ fraction)) power)
    some (value, rest)

def readNumber (chars : Chars) : Option (Value × Chars) :=
  match chars with
  | '0' :: 'x' :: rest => readInBase 16 rest
  | '0' :: 'o' :: rest => readInBase 8 rest
  | '0' :: 'b' :: rest => readInBase 2 rest
  | _ =>
    let (negative, rest) := readSign chars
    match rest with
    | 'i' :: 'n' :: 'f' :: rest => some (.real (.infinite negative), rest)
    | 'n' :: 'a' :: 'n' :: rest => some (.real .notANumber, rest)
    | _ => readDecimal negative rest

def readField (width low high : Nat) (chars : Chars) : Option (Nat × Chars) :=
  let digits := chars.take width
  let value := valueIn 10 digits
  if digits.length == width && digits.all isAsciiDigit && low ≤ value && value ≤ high then
    some (value, chars.drop width)
  else none

def readMark (mark : Char) (chars : Chars) : Option Chars :=
  match chars with
  | c :: rest => if c == mark then some rest else none
  | [] => none

def daysIn (year month : Nat) : Nat :=
  if month == 2 then
    if year % 4 == 0 && (year % 100 != 0 || year % 400 == 0) then 29 else 28
  else if month == 4 || month == 6 || month == 9 || month == 11 then 30
  else 31

def readDate (chars : Chars) : Option (Date × Chars) := do
  let (year, rest) ← readField 4 0 9999 chars
  let (month, rest) ← readField 2 1 12 (← readMark '-' rest)
  let (day, rest) ← readField 2 1 (daysIn year month) (← readMark '-' rest)
  some (⟨year, month, day⟩, rest)

def readNanoseconds (chars : Chars) : Nat × Chars :=
  match chars with
  | '.' :: rest =>
    let digits := rest.takeWhile isAsciiDigit
    if digits.isEmpty then (0, chars)
    else
      let kept := digits.take 9
      (valueIn 10 kept * tenTo (9 - kept.length), rest.drop digits.length)
  | _ => (0, chars)

def readTime (lastHour : Nat) (chars : Chars) : Option (Time × Chars) := do
  let (hour, rest) ← readField 2 0 lastHour chars
  let (minute, rest) ← readField 2 0 59 (← readMark ':' rest)
  let (second, rest) ← readField 2 0 60 (← readMark ':' rest)
  let (nanosecond, rest) := readNanoseconds rest
  some (⟨hour, minute, second, nanosecond⟩, rest)

def readShift (sign : Int) (chars : Chars) : Option (Option Offset × Chars) := do
  let (hours, rest) ← readField 2 0 23 chars
  let (minutes, rest) ← readField 2 0 59 (← readMark ':' rest)
  some (some (.minutes (sign * (hours * 60 + minutes))), rest)

def readOffset (chars : Chars) : Option (Option Offset × Chars) :=
  match chars with
  | 'Z' :: rest => some (some .utc, rest)
  | 'z' :: rest => some (some .utc, rest)
  | '+' :: rest => readShift 1 rest
  | '-' :: rest => readShift (-1) rest
  | _ => some (none, chars)

def beginsTime (chars : Chars) : Bool :=
  (chars.take 2).all isAsciiDigit && (chars.drop 2).head? == some ':'

def beginsDate (chars : Chars) : Bool :=
  (chars.take 4).all isAsciiDigit && (chars.drop 4).head? == some '-'

def isTimeMark (c : Char) : Bool := c == 'T' || c == 't' || c == ' '

def readDatetime (chars : Chars) : Option (Value × Chars) := do
  let (date, rest) ← readDate chars
  if rest.head?.any isTimeMark && beginsTime (rest.drop 1) then
    let (time, rest) ← readTime 23 (rest.drop 1)
    let (offset, rest) ← readOffset rest
    some (.datetime ⟨some date, some time, offset⟩, rest)
  else some (.datetime ⟨some date, none, none⟩, rest)

def readLocalTime (chars : Chars) : Option (Value × Chars) :=
  (readTime 23 chars).map fun (time, rest) => (.datetime ⟨none, some time, none⟩, rest)

def readScalar (chars : Chars) : Option (Value × Chars) :=
  match chars with
  | '"' :: _ => (readString chars).map fun (text, rest) => (.text text, rest)
  | '\'' :: _ => (readString chars).map fun (text, rest) => (.text text, rest)
  | 't' :: 'r' :: 'u' :: 'e' :: rest => some (.bool true, rest)
  | 'f' :: 'a' :: 'l' :: 's' :: 'e' :: rest => some (.bool false, rest)
  | _ =>
    if beginsDate chars then readDatetime chars
    else if beginsTime chars then readLocalTime chars
    else readNumber chars

end NamingAudit.Toml
