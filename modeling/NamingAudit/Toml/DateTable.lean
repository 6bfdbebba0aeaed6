import NamingAudit.Toml.Scalar
import NamingAudit.Toml.Table

/-! Dates and times in the form of tables. A reader that knows nothing of dates takes one for a table
with its text under a reserved key, and such a table among values of any kind is the date or time
again. The text may be looser than in a document: twenty-four is an hour, and a shift is any number
of hours and minutes that makes no more than a day. -/

namespace NamingAudit.Toml

def dateKey : String := "$__toml_private_datetime"

def readLooseShift (sign : Int) (chars : Chars) : Option (Option Offset) := do
  let (hours, rest) ← readField 2 0 99 chars
  let (minutes, rest) ← readField 2 0 99 (← readMark ':' rest)
  let size := hours * 60 + minutes
  if size ≤ 24 * 60 && rest.isEmpty then some (some (.minutes (sign * size))) else none

def readLooseOffset (chars : Chars) : Option (Option Offset) :=
  match chars with
  | [] => some none
  | ['Z'] => some (some .utc)
  | ['z'] => some (some .utc)
  | '+' :: rest => readLooseShift 1 rest
  | '-' :: rest => readLooseShift (-1) rest
  | _ => none

namespace Datetime

def ofText? (text : String) : Option Datetime := do
  let chars := text.toList
  if chars[2]? == some ':' then
    let (time, rest) ← readTime 24 chars
    if rest.isEmpty then some ⟨none, some time, none⟩ else none
  else
    let (date, rest) ← readDate chars
    match rest with
    | [] => some ⟨some date, none, none⟩
    | mark :: rest =>
      if isTimeMark mark then
        let (time, rest) ← readTime 24 rest
        some ⟨some date, some time, ← readLooseOffset rest⟩
      else none

end Datetime

namespace Value

def entriesOrDate? : Value → Option Entries
  | table _ entries => some entries
  | datetime value => some [(dateKey, .text value.render)]
  | _ => none

mutual

/-- Puts dates and times in the place of the tables that stand for them, at any depth. Such a table
has the reserved key first; anything behind it, and a text that is no date, is refused. -/
def readDates : Value → Option Value
  | array items => (readDatesInItems items).map .array
  | tables latest earlier => do
    some (.tables (← latest.readDates) (← readDatesInItems earlier))
  | table origin [] => some (.table origin [])
  | table origin ((key, value) :: rest) =>
    if key == dateKey then
      if rest.isEmpty then (value.text?.bind Datetime.ofText?).map .datetime else none
    else do
      some (.table origin ((key, ← value.readDates) :: (← readDatesInEntries rest)))
  | value => some value

def readDatesInItems : List Value → Option (List Value)
  | [] => some []
  | value :: rest => do some ((← value.readDates) :: (← readDatesInItems rest))

def readDatesInEntries : List (String × Value) → Option (List (String × Value))
  | [] => some []
  | (key, value) :: rest => do some ((key, ← value.readDates) :: (← readDatesInEntries rest))

end

end Value

end NamingAudit.Toml
