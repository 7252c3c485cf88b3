import LockFleet.Text.Hidden
import LockFleet.Text.Bytes

/-!
# Quoted text in messages

A text quoted in a message stands between quotation marks.  Quotation marks, reverse solidi and the
usual control characters are escaped, and a character without a visible form is written by its
number, as in `\u{7f}`.

* `Text.escapeChar`, `Text.quoted`.
-/

namespace LockFleet.Text

/-- The shortest lower-case hexadecimal digits of a number. -/
def hexText (n : Nat) : List Char := Nat.toDigits 16 n

/-- How a character stands in a quoted text. -/
def escapeChar (c : Char) : List Char :=
  if c = '\x00' then ['\\', '0']
  else if c = '\t' then ['\\', 't']
  else if c = '\n' then ['\\', 'n']
  else if c = '\r' then ['\\', 'r']
  else if c = '\\' ∨ c = '"' then ['\\', c]
  else if isHidden c then ['\\', 'u', '\x7b'] ++ hexText c.toNat ++ ['\x7d']
  else [c]

/-- A text between quotation marks, escaped. -/
def quoted (s : String) : String :=
  String.ofList ('"' :: s.toList.flatMap escapeChar ++ ['"'])

end LockFleet.Text
