import NamingAudit.Json.Value

/-! Numerals of JSON. Digits are gathered into an integer of 64 bits; once the next digit would
overflow it, further digits before the point only scale the number and those behind it are lost.
The integer then takes one rounded multiplication or division by a power of ten. -/

namespace NamingAudit.Json

/-- The parts of a numeral; no digit in the fraction means that there is no point. -/
structure Numeral where
  negative : Bool
  whole : List Char
  fraction : List Char
  exponent : Option Int

namespace Numeral

def digitValue (c : Char) : Nat := c.toNat - '0'.toNat

def wordBound : Nat := twoTo 64

/-- Appends digits while the result stays below the bound; the rest is returned. -/
def gather (significand : Nat) : List Char → Nat × List Char
  | [] => (significand, [])
  | digit :: rest =>
    let next := significand * 10 + digitValue digit
    if next < wordBound then gather next rest else (significand, digit :: rest)

def powerOfTen (power : Nat) : Binary64 := Binary64.ofDecimal false 1 power

def realOf? (significand : Nat) (power : Int) : Option Binary64 :=
  let value := Binary64.ofNat significand
  if value.isZero then some value
  else if 308 < power then none
  else if 0 ≤ power then
    let product := value.scaleUp (powerOfTen power.toNat)
    if product.isInfinite then none else some product
  else if -308 ≤ power then some (value.scaleDown (powerOfTen (-power).toNat))
  else if -616 ≤ power then
    some ((value.scaleDown (powerOfTen 308)).scaleDown (powerOfTen (-power - 308).toNat))
  else some (Binary64.ofNat 0)

def signed (negative : Bool) (value : Binary64) : Number :=
  .real (if negative then value.negate else value)

/-- Minus zero and integers outside 64 bits are reals. -/
def integer (negative : Bool) (significand : Nat) : Number :=
  if !negative then .natural significand
  else if significand == 0 || twoTo 63 < significand then signed true (Binary64.ofNat significand)
  else .negative significand

def value? (numeral : Numeral) : Option Number :=
  let (significand, dropped) := gather 0 numeral.whole
  if numeral.fraction.isEmpty && numeral.exponent.isNone && dropped.isEmpty then
    some (integer numeral.negative significand)
  else
    let (significand, lost) := gather significand numeral.fraction
    let kept := numeral.fraction.length - lost.length
    let power := (dropped.length : Int) - kept + numeral.exponent.getD 0
    (realOf? significand power).map (signed numeral.negative)

end Numeral

end NamingAudit.Json
