/-!
# Octets

Payloads travel as lists of octets.  This file relates them to text and to hexadecimal digits.

* `Bytes.ofText`, `Bytes.text?`: the UTF-8 form of a text, and the text of octets that are one;
* `Bytes.hex`, `Bytes.ofHex?`: two lower-case hexadecimal digits per octet.
-/

namespace LockFleet

/-- A sequence of octets. -/
abbrev Bytes := List UInt8

namespace Bytes

/-- The UTF-8 form of a text. -/
def ofText (s : String) : Bytes := s.toUTF8.data.toList

/-- The text whose UTF-8 form the octets are, if there is one. -/
def text? (bs : Bytes) : Option String := String.fromUTF8? ⟨bs.toArray⟩

/-- The octet of an ASCII character. -/
def ascii (c : Char) : UInt8 := c.toNat.toUInt8

/-! ### Hexadecimal digits -/

/-- The lower-case hexadecimal digit of a number below sixteen. -/
def hexDigit (n : Nat) : Char :=
  if n < 10 then Char.ofNat (48 + n) else Char.ofNat (87 + n)

/-- The value of a hexadecimal digit of either case. -/
def hexValue? (c : Char) : Option Nat :=
  if '0' ≤ c ∧ c ≤ '9' then some (c.toNat - 48)
  else if 'a' ≤ c ∧ c ≤ 'f' then some (c.toNat - 87)
  else if 'A' ≤ c ∧ c ≤ 'F' then some (c.toNat - 55)
  else none

/-- The octets as hexadecimal digits, the high half of each octet first. -/
def hex (bs : Bytes) : String :=
  String.ofList (bs.flatMap fun b => [hexDigit (b.toNat / 16), hexDigit (b.toNat % 16)])

/-- Reads pairs of hexadecimal digits. -/
def ofHexDigits? : List Char → Option Bytes
  | [] => some []
  | a :: b :: rest => do
    let high ← hexValue? a
    let low ← hexValue? b
    let bs ← ofHexDigits? rest
    return (high * 16 + low).toUInt8 :: bs
  | [_] => none

/-- The octets spelled by a text of hexadecimal digits. -/
def ofHex? (s : String) : Option Bytes := ofHexDigits? s.toList

/-- The number as exactly `width` hexadecimal digits, higher ones cut off. -/
def hexNumber (width n : Nat) : String :=
  String.ofList ((List.range width).reverse.map fun i => hexDigit (n / Nat.pow 16 i % 16))

end Bytes

end LockFleet
