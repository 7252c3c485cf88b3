import LockFleet.Calendar.Civil
import LockFleet.Calendar.Moment
import LockFleet.Text.Blank

/-!
# The text of moments

A moment is written as date, `T`, time and `Z`, with as few groups of three decimals as are needed.
A leap second is written as second 60, and a year outside 0 to 9999 has a sign.

Reading is more lenient: blanks may precede a number or a separator, numbers may have one digit, a
year with a sign may have any number of digits, and the time zone may be any offset.

* `Moment.stamp`: the written form;
* `StampFault`, `StampFault.message`: why a text is refused;
* `Moment.ofStamp`: reads a text.
-/

namespace LockFleet

/-! ### Writing -/

/-- A number with zeros in front up to a width. -/
def padded (width n : Nat) : String :=
  let digits := Nat.toDigits 10 n
  String.ofList (List.replicate (width - digits.length) '0' ++ digits)

/-- A year: four digits, or a sign and at least four digits. -/
def yearText (year : Int) : String :=
  if 0 ≤ year ∧ year ≤ 9999 then padded 4 year.toNat
  else (if year < 0 then "-" else "+") ++ padded 4 year.natAbs

/-- The decimals of a second in the fewest groups of three digits. -/
def decimalsText (nano : Nat) : String :=
  if nano = 0 then ""
  else if nano % 1000000 = 0 then "." ++ padded 3 (nano / 1000000)
  else if nano % 1000 = 0 then "." ++ padded 6 (nano / 1000)
  else "." ++ padded 9 nano

/-- The written form of a moment. -/
def Moment.stamp (m : Moment) : String :=
  let date := Date.ofDayNumber (m.second / 86400)
  let time := (m.second % 86400).toNat
  let leap := m.nano / 1000000000
  yearText date.year ++ "-" ++ padded 2 date.month ++ "-" ++ padded 2 date.day ++ "T" ++
    padded 2 (time / 3600) ++ ":" ++ padded 2 (time / 60 % 60) ++ ":" ++
    padded 2 (time % 60 + leap) ++ decimalsText (m.nano % 1000000000) ++ "Z"

/-! ### Reading -/

/-- The reasons for which the text of a moment is refused. -/
inductive StampFault where
  /-- A number or the whole moment is outside its range. -/
  | outOfRange
  /-- No moment has this local time and offset. -/
  | impossible
  /-- A character does not belong where it stands. -/
  | badCharacter
  /-- The text ends where more is needed. -/
  | tooShort
  /-- More text follows. -/
  | tooLong
  deriving DecidableEq, Repr

/-- The wording of a refusal. -/
def StampFault.message : StampFault → String
  | .outOfRange => "input is out of range"
  | .impossible => "no possible date and time matching input"
  | .badCharacter => "input contains invalid characters"
  | .tooShort => "premature end of input"
  | .tooLong => "trailing input"

namespace Stamp

/-- Reads something off the front of a text. -/
abbrev Reader (α : Type) := StateT (List Char) (Except StampFault) α

/-- Passes over blanks. -/
def blanks : Reader Unit := modify Text.dropBlank

def decimalValue (digits : List Char) : Nat :=
  digits.foldl (fun n c => n * 10 + (c.toNat - 48)) 0

/-- Reads at least one digit and at most `most` of them. -/
def digitsUpTo (most : Nat) : Reader (List Char) := fun cs =>
  match cs with
  | [] => .error .tooShort
  | c :: _ =>
    if c.isDigit then
      let digits := (cs.take most).takeWhile Char.isDigit
      .ok (digits, cs.drop digits.length)
    else .error .badCharacter

/-- Reads a number of one or two digits, after blanks, between two bounds. -/
def shortNumber (low high : Nat) : Reader Nat := do
  blanks
  let n := decimalValue (← digitsUpTo 2)
  if low ≤ n ∧ n ≤ high then return n else throw .outOfRange

/-- Reads a year: up to four digits, or a sign and any number of digits. -/
def year : Reader Int := do
  blanks
  let cs ← get
  let (sign, most) : Int × Nat :=
    match cs.head? with
    | some '-' => (-1, cs.length)
    | some '+' => (1, cs.length)
    | _ => (0, 4)
  if sign ≠ 0 then set cs.tail
  let magnitude : Int := decimalValue (← digitsUpTo most)
  let value := if sign = -1 then -magnitude else magnitude
  if Int32.minValue.toInt ≤ value ∧ value ≤ Int32.maxValue.toInt then return value
  else throw .outOfRange

/-- Reads a separator after blanks. -/
def separator (mark : Char) : Reader Unit := do
  blanks
  match ← get with
  | [] => throw .tooShort
  | c :: rest => if c = mark then set rest else throw .badCharacter

/-- Reads the letter or blank between date and time. -/
def middle : Reader Unit := do
  match ← get with
  | [] => throw .tooShort
  | c :: rest => if c = 'T' ∨ c = 't' ∨ c = ' ' then set rest else throw .badCharacter

/-- Reads the decimals of a second, if a point follows; digits beyond the ninth do not count. -/
def decimals : Reader Nat := do
  match ← get with
  | '.' :: rest =>
    set rest
    let digits ← digitsUpTo 9
    modify fun cs => cs.dropWhile Char.isDigit
    return decimalValue digits * Nat.pow 10 (9 - digits.length)
  | _ => return 0

/-- Reads exactly two digits; the first one is at most five if `sixty` is set. -/
def twoDigits (sixty : Bool) : Reader Nat := do
  match ← get with
  | [] => throw .tooShort
  | [c] => if c.toNat < 128 then throw .tooShort else throw .badCharacter
  | c :: d :: rest =>
    if c.isDigit ∧ d.isDigit then
      if sixty ∧ '5' < c then throw .outOfRange
      set rest
      return decimalValue [c, d]
    else throw .badCharacter

/-- Whether a text begins with a word, whatever the case of its letters. -/
def beginsWith (w : List Char) (cs : List Char) : Bool :=
  (cs.take w.length).map Char.toUpper = w

/-- Reads a time zone as the minutes by which its clocks are ahead. -/
def offset : Reader Int := do
  blanks
  let cs ← get
  if beginsWith ['U', 'T', 'C'] cs then
    set (cs.drop 3)
    return 0
  match cs with
  | [] => throw .tooShort
  | c :: rest =>
    if c = 'Z' ∨ c = 'z' then
      set rest
      return 0
    else if c = '+' ∨ c = '-' ∨ c = '\u2212' then
      set rest
      let hours ← twoDigits false
      modify fun cs => cs.dropWhile fun d => d = ':' || Text.isBlank d
      let minutes ← twoDigits true
      let ahead : Int := hours * 60 + minutes
      return if c = '+' then ahead else -ahead
    else throw .badCharacter

/-- The local date and time of a text and its offset in minutes. -/
structure Parts where
  date : Date
  hour : Nat
  minute : Nat
  second : Nat
  nano : Nat
  ahead : Int
  deriving DecidableEq, Repr

/-- Reads date, time and offset. -/
def parts : Reader Parts := do
  let y ← year
  separator '-'
  let month ← shortNumber 1 12
  separator '-'
  let day ← shortNumber 1 31
  middle
  let hour ← shortNumber 0 23
  separator ':'
  let minute ← shortNumber 0 59
  separator ':'
  let second ← shortNumber 0 60
  let nano ← decimals
  let ahead ← offset
  return ⟨⟨y, month, day⟩, hour, minute, second, nano, ahead⟩

/-- Whether a date is one of those that moments reach. -/
def reachable (d : Date) : Bool := d.isValid ∧ -262143 ≤ d.year ∧ d.year ≤ 262142

/-- The moment of a local date and time with an offset. -/
def Parts.moment (p : Parts) : Except StampFault Moment := do
  unless reachable p.date do throw .outOfRange
  unless p.ahead.natAbs < 24 * 60 do throw .outOfRange
  let (second, leap) : Nat × Nat := if p.second = 60 then (59, 1000000000) else (p.second, 0)
  let civil : Int := p.date.dayNumber * 86400 + p.hour * 3600 + p.minute * 60 + second
  match Moment.at? (civil - p.ahead * 60) (p.nano + leap) with
  | some m => return m
  | none => throw .impossible

end Stamp

/-- Reads the text of a moment. -/
def Moment.ofStamp (s : String) : Except StampFault Moment := do
  let (p, rest) ← Stamp.parts s.toList
  unless (Text.dropBlank rest).isEmpty do throw .tooLong
  p.moment

end LockFleet
