/-!
# Double-precision numbers as bits

A metric such as a temperature is stored exactly as the device sent it, so a number is kept as its
64 bits.  Arithmetic is exact arithmetic on naturals followed by one rounding.

* `Binary64`: sign, exponent and fraction packed into a word;
* `Binary64.magnitude`: the finite value as `m · 2 ^ (q - 1074)`;
* `Binary64.roundRatio`: the nearest number to a quotient, ties to the even fraction.
-/

namespace LockFleet

/-- A double-precision number, given by its bits. -/
structure Binary64 where
  bits : UInt64
  deriving DecidableEq, Repr, Inhabited

namespace Binary64

/-- The magnitude bits of infinity; every finite magnitude is smaller. -/
def infinityBits : Nat := 0x7FF0000000000000

/-- The weight of the sign bit. -/
def signBit : Nat := 0x8000000000000000

/-- The leading bit of a normal number, which is not stored. -/
def hiddenBit : Nat := 0x10000000000000

/-- How often the smallest positive number goes into one: `2 ^ 1074`. -/
def unitsPerOne : Nat := Nat.pow 2 1074

/-- The bits without the sign. -/
def magnitudeBits (x : Binary64) : Nat := x.bits.toNat % signBit

/-- Whether the sign bit is set. -/
def isNegative (x : Binary64) : Bool := signBit ≤ x.bits.toNat

/-- Neither infinite nor a NaN. -/
def isFinite (x : Binary64) : Bool := x.magnitudeBits < infinityBits

/-- The number with a sign and magnitude bits. -/
def ofMagnitude (negative : Bool) (bits : Nat) : Binary64 :=
  ⟨(if negative then signBit + bits else bits).toUInt64⟩

/-- A finite number's magnitude as `(m, q)`, standing for `m · 2 ^ (q - 1074)`. -/
def magnitude (x : Binary64) : Nat × Nat :=
  let exponent := x.magnitudeBits / hiddenBit
  let fraction := x.magnitudeBits % hiddenBit
  if exponent = 0 then (fraction, 0) else (fraction + hiddenBit, exponent - 1)

/-- The quotient rounded to a whole number, a half to the even neighbour. -/
def divideToEven (num den : Nat) : Nat :=
  let quotient := num / den
  let twice := 2 * (num % den)
  if twice < den then quotient
  else if den < twice then quotient + 1
  else quotient + quotient % 2

/-- The binary exponent `q` at which `num / den` has its 53 leading bits in units of
`2 ^ (q - 1074)`; zero for the smallest magnitudes. -/
def leadingExponent (num den : Nat) : Nat :=
  let guess : Int := (num.log2 : Int) - den.log2 + 1074 - 53
  let low := guess.toNat
  if 2 * hiddenBit * (den * Nat.pow 2 low) ≤ num * unitsPerOne then low + 1 else low

/-- The magnitude bits nearest to `num / den`, a tie going to the even fraction.  The result is
at least `infinityBits` when the quotient is too large. -/
def roundRatio (num den : Nat) : Nat :=
  if num = 0 then 0
  else
    let q := leadingExponent num den
    q * hiddenBit + divideToEven (num * unitsPerOne) (den * Nat.pow 2 q)

/-- The magnitude bits nearest to a whole number. -/
def roundNat (n : Nat) : Nat := roundRatio n 1

end Binary64

end LockFleet
