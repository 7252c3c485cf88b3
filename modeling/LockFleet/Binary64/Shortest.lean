import LockFleet.Binary64.Basic

/-!
# Shortest decimal digits

The digits of a finite number are the fewest that read back as the same number; of two decimals of
that length the nearer one is taken, and of two equally near ones the one with the even last digit.

* `Binary64.shortest`: digits and exponent of a positive finite magnitude;
* `Binary64.Layout`: where positional writing ends and how an exponent is written;
* `Binary64.text`: the written form of a finite number.
-/

namespace LockFleet.Binary64

/-! ### Digits -/

/-- The reals that round to a magnitude, in units of `1 / (4 · 2 ^ 1074)`: both ends, the
magnitude itself, and whether the ends belong to them. -/
structure Interval where
  low : Nat
  mid : Nat
  high : Nat
  closed : Bool

/-- The interval of a positive finite number.  Below a power of two the neighbours are closer. -/
def interval (x : Binary64) : Interval :=
  let (m, q) := x.magnitude
  let step := Nat.pow 2 q
  let below := if m = hiddenBit ∧ 0 < q then step else 2 * step
  { low := 4 * m * step - below, mid := 4 * m * step, high := 4 * m * step + 2 * step,
    closed := m % 2 = 0 }

/-- Whether a real given as `num / den` units lies in the interval. -/
def Interval.holds (i : Interval) (num den : Nat) : Bool :=
  if i.closed then i.low * den ≤ num ∧ num ≤ i.high * den
  else i.low * den < num ∧ num < i.high * den

/-- One unit of the interval scale as a denominator. -/
def unitDenominator : Nat := 4 * unitsPerOne

/-- The power of ten as a fraction. -/
def tenPower (e : Int) : Nat × Nat :=
  if e < 0 then (1, Nat.pow 10 e.natAbs) else (Nat.pow 10 e.natAbs, 1)

/-- The grid point of `10 ^ e` next to the magnitude that reads back as it, if there is one: the
nearer of the two neighbours, and the even one of two equally near. -/
def gridPoint? (i : Interval) (e : Int) : Option Nat :=
  let (num, den) := tenPower e
  let scale := unitDenominator * num
  let floor := i.mid * den / scale
  let inside := fun d => i.holds (d * scale) den
  match inside floor, inside (floor + 1) with
  | false, false => none
  | true, false => some floor
  | false, true => some (floor + 1)
  | true, true =>
    let twice := 2 * (i.mid * den % scale)
    if twice < scale then some floor
    else if scale < twice then some (floor + 1)
    else some (floor + floor % 2)

/-- The exponent `e` with `10 ^ e ≤ x < 10 ^ (e + 1)`, searched downwards from a bound. -/
def leadingPower (i : Interval) : Nat → Int → Int
  | 0, e => e
  | fuel + 1, e =>
    let (num, den) := tenPower e
    if unitDenominator * num ≤ i.mid * den then e else leadingPower i fuel (e - 1)

/-- An upper bound on the decimal exponent of a positive finite number. -/
def powerBound (x : Binary64) : Int :=
  let (m, q) := x.magnitude
  (((m.log2 : Int) + q - 1074 + 1) * 30103).fdiv 100000 + 1

/-- The first of the grids with one digit, two digits and so on that has a point reading back. -/
def firstGrid (i : Interval) (lead : Int) : Nat → Nat → Nat × Int
  | 0, n => (i.mid, lead - n)
  | fuel + 1, n =>
    match gridPoint? i (lead - n) with
    | some d => (d, lead - n)
    | none => firstGrid i lead fuel (n + 1)

/-- Removes trailing zeros, each of which raises the exponent by one. -/
def trim : Nat → Nat × Int → Nat × Int
  | 0, de => de
  | fuel + 1, (d, e) => if d % 10 = 0 ∧ d ≠ 0 then trim fuel (d / 10, e + 1) else (d, e)

/-- The shortest digits `d` and exponent `e` with `d · 10 ^ e` reading back as the positive finite
number.  Seventeen digits always do. -/
def shortest (x : Binary64) : Nat × Int :=
  let i := x.interval
  let lead := leadingPower i 3 (powerBound x)
  trim 17 (firstGrid i lead 17 0)

/-! ### Written form -/

/-- The decisions of a written form. -/
structure Layout where
  /-- Numbers of at least `10 ^ lowest` are written without an exponent. -/
  lowest : Int
  /-- Numbers of at least `10 ^ highest` are written with an exponent. -/
  highest : Int
  /-- The sign written before an exponent that is not negative. -/
  plus : String
  /-- What follows a whole number written without an exponent. -/
  wholeMark : String

/-- Numbers from `0.00001` up to below `1e+16` are written without an exponent, whole ones with
`.0`; an exponent carries its sign. -/
def standard : Layout := ⟨-5, 16, "+", ".0"⟩

/-- A run of zeros. -/
def zeros (n : Nat) : String := String.ofList (List.replicate n '0')

/-- Writes the digits with a point after the first `k`; `k` may lie outside the digits. -/
def positional (l : Layout) (digits : String) (k : Int) : String :=
  if k ≤ 0 then "0." ++ zeros k.natAbs ++ digits
  else if (digits.length : Int) ≤ k then
    digits ++ zeros (k - digits.length).toNat ++ l.wholeMark
  else
    String.ofList (digits.toList.take k.toNat) ++ "." ++ String.ofList (digits.toList.drop k.toNat)

/-- Writes the digits with a point after the first one and an exponent. -/
def exponential (l : Layout) (digits : String) (e : Int) : String :=
  let head := String.ofList (digits.toList.take 1)
  let tail := String.ofList (digits.toList.drop 1)
  let sign := if e < 0 then "-" else l.plus
  head ++ (if tail.isEmpty then "" else "." ++ tail) ++ "e" ++ sign ++ toString e.natAbs

/-- The written form of a finite number. -/
def textWith (l : Layout) (x : Binary64) : String :=
  let sign := if x.isNegative then "-" else ""
  if x.magnitudeBits = 0 then sign ++ "0" ++ l.wholeMark
  else
    let (d, e) := x.shortest
    let digits := toString d
    let lead := e + digits.length - 1
    if l.lowest ≤ lead ∧ lead < l.highest then sign ++ positional l digits (lead + 1)
    else sign ++ exponential l digits lead

/-- The written form of a finite number in the standard layout. -/
def text (x : Binary64) : String := textWith standard x

end LockFleet.Binary64
