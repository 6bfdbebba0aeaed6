import NamingAudit.Decimal.Shortest

/-! TOML values. Dates and times keep what was written of them; a table keeps how it came about,
which decides what later lines may still add to it. -/

namespace NamingAudit.Toml

structure Date where
  year : Nat
  month : Nat
  day : Nat
deriving DecidableEq, Repr

structure Time where
  hour : Nat
  minute : Nat
  second : Nat
  nanosecond : Nat
deriving DecidableEq, Repr

inductive Offset where
  | utc
  | minutes (east : Int)
deriving DecidableEq, Repr

structure Datetime where
  date : Option Date
  time : Option Time
  offset : Option Offset
deriving DecidableEq, Repr

namespace Datetime
open Decimal (padLeft dropFinalZeros)

def twoDigits (n : Nat) : List Char := padLeft 2 (Nat.toDigits 10 n)

def renderDate (date : Date) : List Char :=
  padLeft 4 (Nat.toDigits 10 date.year) ++ '-' :: twoDigits date.month ++ '-' :: twoDigits date.day

def renderTime (time : Time) : List Char :=
  let fraction :=
    if time.nanosecond == 0 then []
    else '.' :: dropFinalZeros (padLeft 9 (Nat.toDigits 10 time.nanosecond))
  twoDigits time.hour ++ ':' :: twoDigits time.minute ++ ':' :: twoDigits time.second ++ fraction

def renderOffset : Offset → List Char
  | .utc => ['Z']
  | .minutes east =>
    let size := east.natAbs
    (if east < 0 then '-' else '+') :: twoDigits (size / 60) ++ ':' :: twoDigits (size % 60)

def render (datetime : Datetime) : String :=
  let date := (datetime.date.map renderDate).getD []
  let mark := if datetime.date.isSome && datetime.time.isSome then ['T'] else []
  let time := (datetime.time.map renderTime).getD []
  let offset := (datetime.offset.map renderOffset).getD []
  String.ofList (date ++ mark ++ time ++ offset)

end Datetime

inductive TableOrigin where
  | inline
  | header
  | path
  | dotted
deriving DecidableEq, Repr

inductive Value where
  | text (value : String)
  | integer (value : Int)
  | real (value : Binary64)
  | bool (value : Bool)
  | datetime (value : Datetime)
  | array (items : List Value)
  /-- The tables of one header in double brackets, the latest first. -/
  | tables (latest : Value) (earlier : List Value)
  | table (origin : TableOrigin) (entries : List (String × Value))

namespace Value

def items? : Value → Option (List Value)
  | array items => some items
  | tables latest earlier => some (latest :: earlier).reverse
  | _ => none

def entries? : Value → Option (List (String × Value))
  | table _ entries => some entries
  | _ => none

def text? : Value → Option String
  | text value => some value
  | _ => none

def isEmptyContainer (value : Value) : Bool :=
  match value.items?, value.entries? with
  | some [], _ => true
  | _, some [] => true
  | _, _ => false

end Value

def realLayout : Decimal.Layout := ⟨-4, 15, false, .up⟩

end NamingAudit.Toml
