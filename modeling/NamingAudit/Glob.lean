/-! Patterns over file paths. A question mark stands for one character and a star for any run, both
of slashes too; two stars stand for whole directories; brackets list characters or exclude them. -/

namespace NamingAudit.Glob

structure CharRange where
  first : Char
  last : Char
deriving DecidableEq, Repr

inductive Token where
  | char (c : Char)
  | anyChar
  | anyRun
  /-- Nothing, any run up to a slash, or everything that is left. -/
  | directories
  | oneOf (ranges : List CharRange)
  | noneOf (ranges : List CharRange)
deriving DecidableEq, Repr

inductive PatternFault where
  | tooManyStars
  | starsInComponent
  | unclosedClass
deriving DecidableEq, Repr

structure PatternError where
  position : Nat
  fault : PatternFault
deriving DecidableEq, Repr

def PatternFault.reason : PatternFault → String
  | tooManyStars => "wildcards are either regular `*` or recursive `**`"
  | starsInComponent => "recursive wildcards must form a single path component"
  | unclosedClass => "invalid range pattern"

def PatternError.message (error : PatternError) : String :=
  "Pattern syntax error near position " ++ error.position.repr ++ ": " ++ error.fault.reason

structure Pattern where
  tokens : List Token
deriving DecidableEq, Repr

def classRanges : List Char → List CharRange
  | first :: '-' :: last :: rest => ⟨first, last⟩ :: classRanges rest
  | c :: rest => ⟨c, c⟩ :: classRanges rest
  | [] => []

def closeClass? (chars : List Char) : Option (List Char × List Char) :=
  match chars with
  | [] => none
  | first :: rest =>
    let inside := rest.takeWhile (· != ']')
    match rest.drop inside.length with
    | _ :: after => some (first :: inside, after)
    | [] => none

def readClass? (chars : List Char) : Option (Token × List Char) :=
  match chars with
  | '!' :: rest => (closeClass? rest).map fun (inside, after) => (.noneOf (classRanges inside), after)
  | _ => (closeClass? chars).map fun (inside, after) => (.oneOf (classRanges inside), after)

def readDirectories (position : Nat) (previous : Option Char) (rest : List Char) :
    Except PatternError (List Char) :=
  if previous.all (· == '/') then
    match rest with
    | [] => .ok []
    | '/' :: rest => .ok rest
    | _ => .error ⟨position + 2, .starsInComponent⟩
  else .error ⟨position - 1, .starsInComponent⟩

def consDirectories (tokens : List Token) : List Token :=
  if tokens.head? == some .directories then tokens else .directories :: tokens

/-- Reads the tokens from a position on. The fuel bounds the steps; each takes a character. -/
def readTokens (position : Nat) (previous : Option Char) :
    Nat → List Char → Except PatternError (List Token)
  | 0, _ => .ok []
  | _ + 1, [] => .ok []
  | fuel + 1, '?' :: rest => do
    return .anyChar :: (← readTokens (position + 1) (some '?') fuel rest)
  | fuel + 1, '[' :: rest =>
    match readClass? rest with
    | none => .error ⟨position, .unclosedClass⟩
    | some (token, after) => do
      let width := 1 + (rest.length - after.length)
      return token :: (← readTokens (position + width) (some ']') fuel after)
  | fuel + 1, '*' :: rest => do
    let stars := 1 + (rest.takeWhile (· == '*')).length
    let after := rest.dropWhile (· == '*')
    if 2 < stars then .error ⟨position + 2, .tooManyStars⟩
    else if stars == 2 then
      let behind ← readDirectories position previous after
      let width := 2 + (after.length - behind.length)
      let last := if behind.length == after.length then '*' else '/'
      return consDirectories (← readTokens (position + width) (some last) fuel behind)
    else return .anyRun :: (← readTokens (position + 1) (some '*') fuel after)
  | fuel + 1, c :: rest => do
    return .char c :: (← readTokens (position + 1) (some c) fuel rest)

def Pattern.compile (text : String) : Except PatternError Pattern :=
  (readTokens 0 none (text.length + 1) text.toList).map Pattern.mk

def inRanges (ranges : List CharRange) (c : Char) : Bool :=
  ranges.any fun range => range.first ≤ c && c ≤ range.last

def Token.admits : Token → Char → Bool
  | char wanted, c => wanted == c
  | anyChar, _ => true
  | oneOf ranges, c => inRanges ranges c
  | noneOf ranges, c => !inRanges ranges c
  | anyRun, _ => false
  | directories, _ => false

def suffixes : List Char → List (List Char)
  | [] => [[]]
  | c :: rest => (c :: rest) :: suffixes rest

def afterSlashes : List Char → List (List Char)
  | [] => []
  | c :: rest => if c == '/' then rest :: afterSlashes rest else afterSlashes rest

def matchTokens : List Token → List Char → Bool
  | [], text => text.isEmpty
  | .anyRun :: tokens, text => (suffixes text).any fun rest => matchTokens tokens rest
  | .directories :: tokens, text =>
    matchTokens tokens text
      || (afterSlashes text).any (fun rest => matchTokens tokens rest)
      || matchTokens tokens []
  | token :: tokens, text =>
    match text with
    | [] => false
    | c :: rest => token.admits c && matchTokens tokens rest

def Pattern.admits (pattern : Pattern) (text : String) : Bool :=
  matchTokens pattern.tokens text.toList

end NamingAudit.Glob
