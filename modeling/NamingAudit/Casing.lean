import NamingAudit.Text.Blank
import NamingAudit.Text.Letter
import NamingAudit.Text.Pieces

/-! Words of an identifier, the four casing styles as predicates, and the conversions into them.
A word is lower case text between two boundaries; delimiters are lost, everything else is kept.
The predicates admit ASCII only, the conversions take any text. -/

namespace NamingAudit.Casing
open NamingAudit.Text

abbrev Word := List Char

def isDelimiter (c : Char) : Bool := c == '_' || c == '-' || c == '.' || isBlank c

/-- A capital starts a word after a small letter or a digit, and when it is the last of a run of
capitals with a small letter behind it. -/
def startsWord (previous next : Option Char) : Bool :=
  previous.any fun before =>
    isLower before || isAsciiDigit before || (isUpper before && next.any isLower)

def flush (current : Word) : List Word :=
  if current.isEmpty then [] else [current]

/-- The words of the text to come, given its predecessor and the word under construction. -/
def wordsFrom (previous : Option Char) (current : Word) : List Char → List Word
  | [] => flush current
  | c :: rest =>
    if isDelimiter c then flush current ++ wordsFrom (some c) [] rest
    else if isUpper c && !current.isEmpty && startsWord previous rest.head? then
      current :: wordsFrom (some c) (lower c) rest
    else wordsFrom (some c) (current ++ lower c) rest

def words (ident : List Char) : List Word := wordsFrom none [] ident

def charBefore? (chars : List Char) : Nat → Option Char
  | 0 => none
  | position + 1 => chars[position]?

/-- What a scan for words has in hand before the character at its position is read. -/
structure Scan where
  position : Nat
  done : List Word
  current : Word
deriving DecidableEq

namespace Scan

def start : Scan := ⟨0, [], []⟩

def looksBehind (scan : Scan) (c : Char) : Bool := isUpper c && !scan.current.isEmpty

/-- Reads the character at the position. There is no result when the character before it is asked for and
there is none. -/
def step? (text : List Char) (scan : Scan) (c : Char) : Option Scan :=
  if isDelimiter c then some ⟨scan.position + 1, scan.done ++ flush scan.current, []⟩
  else if scan.looksBehind c then
    (charBefore? text scan.position).map fun before =>
      if startsWord (some before) text[scan.position + 1]? then
        ⟨scan.position + 1, scan.done ++ [scan.current], lower c⟩
      else ⟨scan.position + 1, scan.done, scan.current ++ lower c⟩
  else some ⟨scan.position + 1, scan.done, scan.current ++ lower c⟩

def after? (text read : List Char) : Option Scan := read.foldlM (step? text) start

def words (scan : Scan) : List Word := scan.done ++ flush scan.current

end Scan

def scannedWords? (ident : List Char) : Option (List Word) := (Scan.after? ident ident).map Scan.words

def anyAdjacent (related : Char → Char → Bool) : List Char → Bool
  | [] => false
  | [_] => false
  | first :: second :: rest => related first second || anyAdjacent related (second :: rest)

def isDelimitedLower (delimiter : Char) (ident : List Char) : Bool :=
  ident.head?.any isAsciiLower
    && ident.getLast? != some delimiter
    && !anyAdjacent (fun first second => first == delimiter && second == delimiter) ident
    && ident.all fun c => isAsciiLower c || isAsciiDigit c || c == delimiter

def isSnake (ident : List Char) : Bool := isDelimitedLower '_' ident

def isKebab (ident : List Char) : Bool := isDelimitedLower '-' ident

/-- Letters and digits without two capitals in a row. -/
def isCapitalizedWords (ident : List Char) : Bool :=
  ident.all isAsciiAlphanumeric
    && !anyAdjacent (fun first second => isAsciiUpper first && isAsciiUpper second) ident

def isCamel (ident : List Char) : Bool :=
  ident.head?.any isAsciiLower && isCapitalizedWords ident

def isPascal (ident : List Char) : Bool :=
  ident.head?.any isAsciiUpper && isCapitalizedWords ident

def capitalize : Word → Word
  | [] => []
  | first :: rest => upper first ++ rest

def joinPascal (parts : List Word) : List Char := parts.flatMap capitalize

def joinCamel : List Word → List Char
  | [] => []
  | first :: rest => first ++ joinPascal rest

def toSnake (ident : List Char) : List Char := joinWith '_' (words ident)

def toKebab (ident : List Char) : List Char := joinWith '-' (words ident)

def toCamel (ident : List Char) : List Char := joinCamel (words ident)

def toPascal (ident : List Char) : List Char := joinPascal (words ident)

end NamingAudit.Casing
