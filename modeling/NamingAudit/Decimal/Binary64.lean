import NamingAudit.Decimal.Power

/-! Numbers of the binary interchange format of 64 bits, with exact arithmetic in between: a finite
number is `significand * 2 ^ exponent`, and every operation rounds its exact result once, to the
nearest number and on a tie to the even significand. -/

namespace NamingAudit

inductive Binary64 where
  | finite (negative : Bool) (significand : Nat) (exponent : Int)
  | infinite (negative : Bool)
  | notANumber
deriving DecidableEq, Repr

namespace Binary64

def leastExponent : Int := -1074

def greatestExponent : Int := 971

def roundQuotient (numerator denominator : Nat) : Nat :=
  let quotient := numerator / denominator
  let twice := 2 * (numerator % denominator)
  if denominator < twice || (twice == denominator && quotient % 2 == 1) then quotient + 1
  else quotient

/-- The greatest `e` with `2 ^ e ≤ numerator / denominator`, for positive arguments. -/
def floorLog2 (numerator denominator : Nat) : Int :=
  let guess : Int := (Nat.log2 numerator : Int) - Nat.log2 denominator
  let fits :=
    if 0 ≤ guess then denominator * twoTo guess.toNat ≤ numerator
    else denominator ≤ numerator * twoTo (-guess).toNat
  if fits then guess else guess - 1

def nearest (negative : Bool) (numerator denominator : Nat) : Binary64 :=
  if numerator == 0 then finite negative 0 leastExponent
  else
    let exponent := max (floorLog2 numerator denominator - 52) leastExponent
    let significand :=
      if 0 ≤ exponent then roundQuotient numerator (denominator * twoTo exponent.toNat)
      else roundQuotient (numerator * twoTo (-exponent).toNat) denominator
    let (significand, exponent) :=
      if significand == twoTo 53 then (twoTo 52, exponent + 1) else (significand, exponent)
    if greatestExponent < exponent then infinite negative
    else finite negative significand exponent

def ofNat (n : Nat) : Binary64 := nearest false n 1

/-- The number nearest to `digits * 10 ^ power`. Beyond the bounds the result is known without
computing the power. -/
def ofDecimal (negative : Bool) (digits : Nat) (power : Int) : Binary64 :=
  let magnitude : Int := (Nat.toDigits 10 digits).length + power
  if digits == 0 || magnitude < -330 then finite negative 0 leastExponent
  else if 310 < magnitude then infinite negative
  else if 0 ≤ power then nearest negative (digits * tenTo power.toNat) 1
  else nearest negative digits (tenTo (-power).toNat)

def ratio (significand : Nat) (exponent : Int) : Nat × Nat :=
  if 0 ≤ exponent then (significand * twoTo exponent.toNat, 1)
  else (significand, twoTo (-exponent).toNat)

def isZero : Binary64 → Bool
  | finite _ significand _ => significand == 0
  | _ => false

def isInfinite : Binary64 → Bool
  | infinite _ => true
  | _ => false

def negate : Binary64 → Binary64
  | finite negative significand exponent => finite (!negative) significand exponent
  | infinite negative => infinite (!negative)
  | notANumber => notANumber

def scaleUp (value factor : Binary64) : Binary64 :=
  match value, factor with
  | finite negative significand exponent, finite _ otherSignificand otherExponent =>
    let (numerator, denominator) := ratio significand exponent
    let (otherNumerator, otherDenominator) := ratio otherSignificand otherExponent
    nearest negative (numerator * otherNumerator) (denominator * otherDenominator)
  | _, _ => value

def scaleDown (value divisor : Binary64) : Binary64 :=
  match value, divisor with
  | finite negative significand exponent, finite _ otherSignificand otherExponent =>
    let (numerator, denominator) := ratio significand exponent
    let (otherNumerator, otherDenominator) := ratio otherSignificand otherExponent
    nearest negative (numerator * otherDenominator) (denominator * otherNumerator)
  | _, _ => value

end Binary64

end NamingAudit
