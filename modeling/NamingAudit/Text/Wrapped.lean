import NamingAudit.Text.Columns
import NamingAudit.Text.Letter
import NamingAudit.Text.LineBreak
import NamingAudit.Text.Pieces

/-! Texts filled into rows of limited width. A row may end where the text may be broken and behind a
hyphen within a word; a word that is wider than a row is cut. -/

namespace NamingAudit.Text

structure Fragment where
  letters : List Char
  blanks : Nat
deriving DecidableEq, Repr

def Fragment.ofStretch (stretch : List Char) : Fragment :=
  let letters := dropWhileEnd (· == ' ') stretch
  ⟨letters, stretch.length - letters.length⟩

def Fragment.columns (fragment : Fragment) : Nat := totalColumns fragment.letters

/-- The letters cut behind each hyphen that stands between two alphanumeric characters. -/
def hyphenPieces (piece : List Char) (previous : Option Char) : List Char → List (List Char)
  | [] => [piece]
  | c :: rest =>
    if c == '-' && previous.any isAlphanumeric && rest.head?.any isAlphanumeric then
      (piece ++ [c]) :: hyphenPieces [] (some c) rest
    else hyphenPieces (piece ++ [c]) (some c) rest

def withBlanks (blanks : Nat) : List (List Char) → List Fragment
  | [] => [⟨[], blanks⟩]
  | [last] => [⟨last, blanks⟩]
  | piece :: rest => ⟨piece, 0⟩ :: withBlanks blanks rest

def Fragment.atHyphens (fragment : Fragment) : List Fragment :=
  withBlanks fragment.blanks (hyphenPieces [] none fragment.letters)

def piecesWithin (room : Nat) (piece : List Char) (used : Nat) : List Char → List (List Char)
  | [] => if piece.isEmpty then [] else [piece.reverse]
  | c :: rest =>
    if 0 < used && room < used + columns c then
      piece.reverse :: piecesWithin room [c] (columns c) rest
    else piecesWithin room (c :: piece) (used + columns c) rest

def Fragment.atWidth (room : Nat) (fragment : Fragment) : List Fragment :=
  if fragment.columns ≤ room then [fragment]
  else withBlanks fragment.blanks (piecesWithin room [] 0 fragment.letters)

/-- Fills rows one by one: a fragment that does not fit begins the next row. -/
def fillRows (room : Nat) (row : List Fragment) (used : Nat) : List Fragment → List (List Fragment)
  | [] => [row]
  | fragment :: rest =>
    let width := fragment.columns
    if room < used + width && !row.isEmpty then
      row :: fillRows room [fragment] (width + fragment.blanks) rest
    else fillRows room (row ++ [fragment]) (used + width + fragment.blanks) rest

def rowText : List Fragment → List Char
  | [] => []
  | [last] => last.letters
  | fragment :: rest =>
    fragment.letters ++ List.replicate fragment.blanks ' ' ++ rowText rest

def wrapLine (room : Nat) (line : List Char) : List (List Char) :=
  let fragments :=
    (((stretches line).map Fragment.ofStretch).flatMap Fragment.atHyphens).flatMap
      (Fragment.atWidth room)
  (fillRows room [] 0 (⟨[], 0⟩ :: fragments)).map rowText

def withMargins (first others : List Char) : List (List Char) → List (List Char)
  | [] => []
  | row :: rest => (first ++ row) :: rest.map fun next => others ++ next

/-- Fills a text into rows of `width` columns. The margins are equally wide and count in it. -/
def fill (width : Nat) (first others text : String) : String :=
  let room := width - totalColumns first.toList
  let rows := (splitOn '\n' text.toList).flatMap (wrapLine room)
  String.ofList (joinWith '\n' (withMargins first.toList others.toList rows))

end NamingAudit.Text
