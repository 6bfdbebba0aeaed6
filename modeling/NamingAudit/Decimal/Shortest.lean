import NamingAudit.Decimal.Binary64

/-! The shortest decimal that reads back as a given number: on the grids of one, two, … digits the
neighbours of the exact value are tried, and the first grid with one inside the rounding interval
decides. A layout then says how the digits are written. -/

namespace NamingAudit.Decimal

structure Scaled where
  digits : Nat
  power : Int
deriving DecidableEq, Repr

structure Interval where
  low : Nat
  value : Nat
  high : Nat
  unit : Nat
  inclusive : Bool

def interval (significand : Nat) (exponent : Int) : Interval :=
  let narrow := significand == twoTo 52 && Binary64.leastExponent < exponent
  let (scale, unit) := Binary64.ratio 1 (exponent - 2)
  { low := (4 * significand - if narrow then 1 else 2) * scale
    value := 4 * significand * scale
    high := (4 * significand + 2) * scale
    unit := unit
    inclusive := significand % 2 == 0 }

def compareScaled (digits : Nat) (power : Int) (bound unit : Nat) : Ordering :=
  if 0 ≤ power then compare (digits * tenTo power.toNat * unit) bound
  else compare (digits * unit) (bound * tenTo (-power).toNat)

def Interval.contains (interval : Interval) (digits : Nat) (power : Int) : Bool :=
  let low := compareScaled digits power interval.low interval.unit
  let high := compareScaled digits power interval.high interval.unit
  (low == .gt || (interval.inclusive && low == .eq))
    && (high == .lt || (interval.inclusive && high == .eq))

/-- The value divided by `10 ^ power`: the floor, and where the rest lies against one half. -/
def Interval.onGrid (interval : Interval) (power : Int) : Nat × Ordering :=
  let (numerator, denominator) :=
    if 0 ≤ power then (interval.value, interval.unit * tenTo power.toNat)
    else (interval.value * tenTo (-power).toNat, interval.unit)
  (numerator / denominator, compare (2 * (numerator % denominator)) denominator)

inductive Tie where
  | up
  | toEven
deriving DecidableEq, Repr

def candidate? (interval : Interval) (tie : Tie) (power : Int) : Option Nat :=
  let (below, rest) := interval.onGrid power
  let above := below + 1
  match interval.contains below power, interval.contains above power with
  | false, false => none
  | true, false => some below
  | false, true => some above
  | true, true =>
    match rest with
    | .lt => some below
    | .gt => some above
    | .eq => some (if tie == .toEven && below % 2 == 0 then below else above)

def search (interval : Interval) (tie : Tie) (power : Int) : Nat → Scaled
  | 0 => ⟨(interval.onGrid power).1, power⟩
  | rounds + 1 =>
    match candidate? interval tie power with
    | some digits => ⟨digits, power⟩
    | none => search interval tie (power - 1) rounds

def leadingPower (numerator denominator : Nat) : Int :=
  if denominator ≤ numerator then (Nat.toDigits 10 (numerator / denominator)).length - 1
  else
    let digits := (Nat.toDigits 10 (denominator / numerator)).length
    if numerator * tenTo (digits - 1) < denominator then -(digits : Int) else 1 - (digits : Int)

def shortest (tie : Tie) (significand : Nat) (exponent : Int) : Scaled :=
  let interval := interval significand exponent
  search interval tie (leadingPower interval.value interval.unit) 18

/-- How digits are laid out: positional notation between two exponents of the leading digit, both
included, and otherwise one digit, a point, the rest, and the exponent. -/
structure Layout where
  firstPositional : Int
  lastPositional : Int
  plusSign : Bool
  tie : Tie

def dropFinalZeros (digits : List Char) : List Char :=
  (digits.reverse.dropWhile (· == '0')).reverse

def zeros (count : Nat) : List Char := List.replicate count '0'

def padLeft (width : Nat) (digits : List Char) : List Char :=
  zeros (width - digits.length) ++ digits

def positional (digits : List Char) (point : Int) : List Char :=
  if point ≤ 0 then '0' :: '.' :: (zeros (-point).toNat ++ digits)
  else
    let whole := point.toNat
    if digits.length ≤ whole then digits ++ zeros (whole - digits.length) ++ ['.', '0']
    else digits.take whole ++ ['.'] ++ digits.drop whole

def Layout.exponentPart (layout : Layout) (exponent : Int) : List Char :=
  let sign := if exponent < 0 then ['-'] else if layout.plusSign then ['+'] else []
  'e' :: (sign ++ Nat.toDigits 10 exponent.natAbs)

def scientific (layout : Layout) (digits : List Char) (exponent : Int) : List Char :=
  let mantissa :=
    match digits with
    | [] => ['0']
    | [first] => [first]
    | first :: rest => first :: '.' :: rest
  mantissa ++ layout.exponentPart exponent

def Layout.write (layout : Layout) (value : Scaled) : List Char :=
  let all := Nat.toDigits 10 value.digits
  let exponent : Int := value.power + all.length - 1
  let digits := dropFinalZeros all
  if layout.firstPositional ≤ exponent && exponent ≤ layout.lastPositional then
    positional digits (exponent + 1)
  else scientific layout digits exponent

def Layout.render (layout : Layout) : Binary64 → String
  | .notANumber => "NaN"
  | .infinite negative => if negative then "-inf" else "inf"
  | .finite negative significand exponent =>
    let sign := if negative then ['-'] else []
    let body :=
      if significand == 0 then ['0', '.', '0']
      else layout.write (shortest layout.tie significand exponent)
    String.ofList (sign ++ body)

end NamingAudit.Decimal
