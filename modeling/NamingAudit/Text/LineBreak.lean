import NamingAudit.Text.BreakClassTable

/-! Where a text may be broken into lines, by the Unicode line breaking algorithm. Nearly everywhere
the classes on both sides decide. Beyond the last class the context remembers blanks, a joiner, a
hyphen behind a Hebrew letter, and whether regional indicators stand in pairs. -/

namespace NamingAudit.Text

def breakClass (c : Char) : BreakClass :=
  ((BreakClassTable.groups.find? fun group => inRuns group.2 c.toNat).map (·.1)).getD .letter

namespace BreakClass

def boundAcrossBlanks (left right : BreakClass) : Bool :=
  match left, right with
  | _, wordJoiner => true
  | _, closing => true
  | _, closingParenthesis => true
  | _, exclamation => true
  | _, separator => true
  | _, slash => true
  | opening, _ => true
  | quotation, opening => true
  | closing, nonstarter => true
  | closingParenthesis, nonstarter => true
  | dash, dash => true
  | _, _ => false

def boundInNumber (left right : BreakClass) : Bool :=
  ((left == closing || left == closingParenthesis || left == digit) && right.isNumberSign)
    || (left.isNumberSign && (right == opening || right == digit))
    || ((left == hyphen || left == separator || left == slash || left == digit) && right == digit)

def boundInSyllable (left right : BreakClass) : Bool :=
  match left with
  | leadingJamo =>
    right == leadingJamo || right == vowelJamo || right == syllable || right == closedSyllable
  | vowelJamo => right == vowelJamo || right == trailingJamo
  | syllable => right == vowelJamo || right == trailingJamo
  | trailingJamo => right == trailingJamo
  | closedSyllable => right == trailingJamo
  | _ => false

def boundInWord (left right : BreakClass) : Bool :=
  (left.isLetter && (right.isLetter || right == digit || right == opening || right.isNumberSign))
    || (right.isLetter && (left == digit || left == separator || left == closingParenthesis
      || left.isNumberSign))
    || (left == digit && right == opening)
    || (left == closingParenthesis && right == digit)
    || (left == slash && right == hebrewLetter)
    || (left == beforeNumber && (right.isPictograph || right.isKorean))
    || ((left.isPictograph || left.isKorean) && right == afterNumber)
    || (left == emojiBase && right == emojiModifier)

def bound (left right : BreakClass) : Bool :=
  boundAcrossBlanks left right
    || left == wordJoiner || left == glue
    || (right == glue && left != breakAfter && left != hyphen)
    || left == quotation || right == quotation
    || (left != contingent && right != contingent
      && (right == breakAfter || right == hyphen || right == nonstarter || left == breakBefore
        || right == inseparable || boundInWord left right || boundInNumber left right
        || boundInSyllable left right))

end BreakClass

structure BreakContext where
  left : BreakClass
  spaced : Bool
  joined : Bool
  hebrewHyphen : Bool
  single : Bool
deriving DecidableEq, Repr

namespace BreakContext

def start : BreakContext := ⟨.hardBreak, false, false, false, false⟩

def takesMark (context : BreakContext) : Bool :=
  !context.spaced && context.left != .hardBreak && context.left != .space
    && context.left != .zeroWidthSpace

/-- A mark that belongs to nothing counts as a letter. -/
def standing (next : BreakClass) : BreakClass := if next.isMark then .letter else next

def breaksBefore (context : BreakContext) (next : BreakClass) : Bool :=
  if context.left == .hardBreak then true
  else if next == .hardBreak || next == .space || next == .zeroWidthSpace then false
  else if context.left == .zeroWidthSpace then true
  else if context.joined || (next.isMark && context.takesMark) then false
  else if context.spaced || context.left == .space then
    !context.left.boundAcrossBlanks (standing next)
  else
    !(context.left.bound (standing next)
      || (context.hebrewHyphen && next != .contingent)
      || (context.single && next == .regional))

def advance (context : BreakContext) (next : BreakClass) : BreakContext :=
  if next == .space then
    if context.left == .hardBreak then ⟨.space, false, false, false, false⟩
    else { context with spaced := true, joined := false }
  else if next.isMark && context.takesMark then { context with joined := next == .joiner }
  else
    { left := standing next
      spaced := false
      joined := next == .joiner
      hebrewHyphen :=
        context.left == .hebrewLetter && !context.spaced
          && (next == .hyphen || next == .breakAfter)
      single := next == .regional && (context.spaced || !context.single) }

end BreakContext

def stretchesFrom (mayEnd : List Char → Bool) (context : BreakContext) (stretch : List Char) :
    List Char → List (List Char)
  | [] => if stretch.isEmpty then [] else [stretch.reverse]
  | c :: rest =>
    let next := breakClass c
    if !stretch.isEmpty && context.breaksBefore next && mayEnd stretch then
      stretch.reverse :: stretchesFrom mayEnd (context.advance next) [c] rest
    else stretchesFrom mayEnd (context.advance next) (c :: stretch) rest

def endsWithoutHyphen (stretch : List Char) : Bool :=
  stretch.head?.all fun last => last != '-' && last != '\u00ad'

def stretches (text : List Char) : List (List Char) :=
  stretchesFrom endsWithoutHyphen .start [] text

end NamingAudit.Text
