import LockFleet.Binary64.Basic

/-!
# Decimal numerals as double-precision numbers

A numeral is a whole significand with a decimal exponent.  Its value is found in two roundings: the
significand is rounded to a double-precision number, and that is multiplied or divided by the
rounded power of ten.  A power beyond `10 ^ 308` is divided out in steps of `10 ^ 308`.

* `Binary64.scaled?`: the number of a sign, a significand and an exponent, unless it is too large;
* `Binary64.ofInt`: the number nearest to a whole number.
-/

namespace LockFleet.Binary64

/-- The magnitude bits as a fraction `num / 2 ^ 1074`. -/
def numerator (bits : Nat) : Nat :=
  let (m, q) := (ofMagnitude false bits).magnitude
  m * Nat.pow 2 q

/-- The largest decimal exponent whose power is a finite number. -/
def maxPower : Nat := 308

/-- The magnitude bits of the rounded power of ten. -/
def powerOfTen (k : Nat) : Nat := roundNat (Nat.pow 10 k)

/-- The rounded product of two magnitudes. -/
def times (a b : Nat) : Nat :=
  roundRatio (numerator a * numerator b) (unitsPerOne * unitsPerOne)

/-- The rounded quotient of two magnitudes. -/
def dividedBy (a b : Nat) : Nat := roundRatio (numerator a) (numerator b)

/-- Divides a magnitude by a power of ten, in steps of at most `10 ^ 308`. -/
def shrink (bits : Nat) (k : Nat) : Nat :=
  if k ≤ maxPower then dividedBy bits (powerOfTen k)
  else if bits = 0 then 0
  else shrink (dividedBy bits (powerOfTen maxPower)) (k - maxPower)
termination_by k
decreasing_by simp [maxPower] at *; omega

/-- Multiplies a magnitude by a power of ten, unless the result is too large. -/
def grow? (bits : Nat) (k : Nat) : Option Nat :=
  if bits = 0 then some 0
  else if maxPower < k then none
  else
    let product := times bits (powerOfTen k)
    if product < infinityBits then some product else none

/-- The number `± significand · 10 ^ exponent`, unless it is too large. -/
def scaled? (negative : Bool) (significand : Nat) (exponent : Int) : Option Binary64 :=
  let bits := roundNat significand
  if exponent < 0 then some (ofMagnitude negative (shrink bits exponent.natAbs))
  else (grow? bits exponent.natAbs).map (ofMagnitude negative)

/-- The number nearest to a whole number of 64 bits. -/
def ofInt (n : Int) : Binary64 := ofMagnitude (n < 0) (roundNat n.natAbs)

end LockFleet.Binary64
