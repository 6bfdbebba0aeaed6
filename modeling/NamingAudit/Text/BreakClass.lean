/-! The line breaking classes of the Unicode Character Database. Line ends of every kind are one class
here, since no text is broken before one and every text is behind it. -/

namespace NamingAudit.Text

inductive BreakClass where
  | hardBreak
  | space
  | zeroWidthSpace
  | joiner
  | mark
  | wordJoiner
  | glue
  | letter
  | hebrewLetter
  | digit
  | opening
  | closing
  | closingParenthesis
  | quotation
  | exclamation
  | separator
  | slash
  | hyphen
  | dash
  | breakAfter
  | breakBefore
  | contingent
  | inseparable
  | nonstarter
  | beforeNumber
  | afterNumber
  | ideograph
  | emojiBase
  | emojiModifier
  | regional
  | leadingJamo
  | vowelJamo
  | trailingJamo
  | syllable
  | closedSyllable
deriving DecidableEq, Repr

namespace BreakClass

/-- Marks belong to the character before them, and so do joiners. -/
def isMark (cls : BreakClass) : Bool := cls == mark || cls == joiner

def isLetter (cls : BreakClass) : Bool := cls == letter || cls == hebrewLetter

def isPictograph (cls : BreakClass) : Bool :=
  cls == ideograph || cls == emojiBase || cls == emojiModifier

def isKorean (cls : BreakClass) : Bool :=
  cls == leadingJamo || cls == vowelJamo || cls == trailingJamo || cls == syllable
    || cls == closedSyllable

def isNumberSign (cls : BreakClass) : Bool := cls == beforeNumber || cls == afterNumber

end BreakClass

end NamingAudit.Text
