import LockFleet.Binary64.Decimal
import LockFleet.Json.Fault
import LockFleet.Json.Printer

/-!
# Scanning JSON

The lexical layer works on octets and answers with what it read and the octets after it.  Text is
put together from its octets and escapes first and is checked to be UTF-8 when it is complete.  A
part that nobody asks for is skipped: there only its outline is checked, not its text encoding, the
size of its numbers or how deep it is nested.

* `Json.Reader`: a function from octets to a result and the rest;
* `Json.scanText`, `Json.scanNumber`: the two tokens with an inner structure;
* `Json.skipValue`: passes over one value of any depth.
-/

namespace LockFleet.Json

/-- Reads something off the front of the octets. -/
abbrev Reader (α : Type) := StateT Bytes (Except Fault) α

/-- Refuses the text. -/
def refuse {α : Type} (f : Fault) : Reader α := throw f

/-! ### Blanks and words -/

/-- Whether an octet is white space between tokens. -/
def isSpace (b : UInt8) : Bool := b = 0x20 ∨ b = 0x0A ∨ b = 0x0D ∨ b = 0x09

/-- The first octet after white space, which stays in place. -/
def peek : Reader (Option UInt8) := fun input =>
  let rest := input.dropWhile isSpace
  .ok (rest.head?, rest)

/-- The next octet, which stays in place. -/
def peekHere : Reader (Option UInt8) := fun input => .ok (input.head?, input)

/-- Passes over one octet. -/
def advance : Reader Unit := fun input => .ok ((), input.tail)

/-- Reads the octets of a word. -/
def word : Bytes → Reader Unit
  | [] => pure ()
  | b :: bs => fun input =>
    match input with
    | [] => .error .endsEarly
    | c :: rest => if b = c then word bs rest else .error .notJson

/-! ### Text -/

/-- The value of four hexadecimal digits. -/
def hexFour? (a b c d : UInt8) : Option Nat := do
  let digit := fun (x : UInt8) => Bytes.hexValue? (Char.ofNat x.toNat)
  return (((← digit a) * 16 + (← digit b)) * 16 + (← digit c)) * 16 + (← digit d)

/-- Reads the four digits of an escaped code unit. -/
def codeUnit : Reader Nat := fun input =>
  match input with
  | a :: b :: c :: d :: rest =>
    match hexFour? a b c d with
    | some n => .ok (n, rest)
    | none => .error .notJson
  | _ => .error .endsEarly

/-- Whether a code unit is the first half of a pair. -/
def isLeading (n : Nat) : Bool := 0xD800 ≤ n ∧ n ≤ 0xDBFF

/-- Whether a code unit is the second half of a pair. -/
def isTrailing (n : Nat) : Bool := 0xDC00 ≤ n ∧ n ≤ 0xDFFF

/-- Reads the code units after `\u`: one, or the two halves of a pair. -/
def escapedChar : Reader Char := do
  let n ← codeUnit
  if isTrailing n then refuse .notJson
  else if isLeading n then
    word [backslash, Bytes.ascii 'u']
    let m ← codeUnit
    if isTrailing m then return Char.ofNat ((n - 0xD800) * 1024 + (m - 0xDC00) + 0x10000)
    else refuse .notJson
  else return Char.ofNat n

/-- The octet that a one-letter escape stands for. -/
def letterEscape? (b : UInt8) : Option UInt8 :=
  if b = quote ∨ b = backslash ∨ b = 0x2F then some b
  else if b = Bytes.ascii 'b' then some 0x08
  else if b = Bytes.ascii 'f' then some 0x0C
  else if b = Bytes.ascii 'n' then some 0x0A
  else if b = Bytes.ascii 'r' then some 0x0D
  else if b = Bytes.ascii 't' then some 0x09
  else none

/-- Reads what follows a reverse solidus, as the octets it stands for. -/
def escapeSequence : Reader Bytes := fun input =>
  match input with
  | [] => .error .endsEarly
  | b :: rest =>
    match letterEscape? b with
    | some octet => .ok ([octet], rest)
    | none =>
      if b = Bytes.ascii 'u' then
        (escapedChar rest).map fun r => (String.utf8EncodeChar r.1, r.2)
      else .error .notJson

/-- Reads the octets of a text up to its closing quotation mark.  The fuel bounds the number of
octets and escapes. -/
def textOctets : Nat → Bytes → Bytes → Except Fault (Bytes × Bytes)
  | 0, _, _ => .error .endsEarly
  | _ + 1, _, [] => .error .endsEarly
  | fuel + 1, acc, b :: rest =>
    if b = quote then .ok (acc.reverse, rest)
    else if b = backslash then
      match escapeSequence rest with
      | .ok (octets, rest') => textOctets fuel (octets.reverse ++ acc) rest'
      | .error f => .error f
    else if b < 0x20 then .error .notJson
    else textOctets fuel (b :: acc) rest

/-- Reads the rest of a text after its opening quotation mark. -/
def scanText : Reader String := fun input =>
  match textOctets (input.length + 1) [] input with
  | .error f => .error f
  | .ok (octets, rest) =>
    match Bytes.text? octets with
    | some s => .ok (s, rest)
    | none => .error .notJson

/-! ### Numbers -/

/-- Whether an octet is a decimal digit. -/
def isDigit (b : UInt8) : Bool := 0x30 ≤ b ∧ b ≤ 0x39

def digitValue (b : UInt8) : Nat := b.toNat - 0x30

/-- One more than the largest whole number that a significand may reach. -/
def significandBound : Nat := UInt64.size

/-- Appends digits to a significand while it fits 64 bits; answers with the digits left over. -/
def appendDigits : Nat → Bytes → Nat × Bytes
  | n, [] => (n, [])
  | n, b :: bs =>
    let next := n * 10 + digitValue b
    if next < significandBound then appendDigits next bs else (n, b :: bs)

/-- Reads the longest run of digits. -/
def digits : Reader Bytes := fun input =>
  .ok (input.takeWhile isDigit, input.dropWhile isDigit)

/-- Reads the digits of a number's whole part: a zero alone, or digits that begin with another
one. -/
def wholeDigits : Reader Bytes := fun input =>
  match input with
  | [] => .error .endsEarly
  | b :: rest =>
    if b = 0x30 then
      match rest with
      | c :: _ => if isDigit c then .error .notJson else .ok ([b], rest)
      | [] => .ok ([b], rest)
    else if isDigit b then .ok (input.takeWhile isDigit, input.dropWhile isDigit)
    else .error .notJson

/-- Reads at least one digit. -/
def someDigits : Reader Bytes := fun input =>
  match input with
  | [] => .error .endsEarly
  | b :: _ =>
    if isDigit b then .ok (input.takeWhile isDigit, input.dropWhile isDigit) else .error .notJson

/-- Whether an octet begins an exponent. -/
def isExponentMark (b : UInt8) : Bool := b = Bytes.ascii 'e' ∨ b = Bytes.ascii 'E'

/-- Reads an exponent after its mark. -/
def exponent : Reader Int := do
  let sign ← peekHere
  if sign = some (Bytes.ascii '+') ∨ sign = some (Bytes.ascii '-') then advance
  let ds ← someDigits
  let n : Nat := ds.foldl (fun n b => n * 10 + digitValue b) 0
  return if sign = some (Bytes.ascii '-') then -(n : Int) else n

/-- The number of a numeral with a fraction or exponent, or of more than 64 bits. -/
def floatOf (negative : Bool) (significand : Nat) (exponent : Int) : Reader Number :=
  match Binary64.scaled? negative significand exponent with
  | some x => return .float x
  | none => refuse .notJson

/-- The number of a numeral without fraction and exponent whose magnitude fits 64 bits.  A negative
one below the range of signed 64 bits is a float, as is minus zero. -/
def wholeNumber (negative : Bool) (n : Nat) : Number :=
  if negative then
    if n = 0 ∨ Nat.pow 2 63 < n then .float (Binary64.ofMagnitude true (Binary64.roundNat n))
    else .whole (-(n : Int))
  else .whole n

/-- Reads a number after its sign.  Digits that make the significand exceed 64 bits are dropped,
those of the whole part still counting for the magnitude. -/
def scanNumber (negative : Bool) : Reader Number := do
  let (n, surplus) := appendDigits 0 (← wholeDigits)
  let next ← peekHere
  if next = some (Bytes.ascii '.') then
    advance
    let fraction ← someDigits
    let (m, unused) := appendDigits n fraction
    let shift : Int := surplus.length - (fraction.length - unused.length : Nat)
    let next ← peekHere
    if next.any isExponentMark then
      advance
      floatOf negative m (shift + (← exponent))
    else floatOf negative m shift
  else if next.any isExponentMark then
    advance
    floatOf negative n (surplus.length + (← exponent))
  else if surplus.isEmpty then return wholeNumber negative n
  else floatOf negative n surplus.length

/-! ### Passing over a value -/

/-- Passes over the rest of a text after its opening quotation mark. -/
def skipText : Nat → Bytes → Except Fault Bytes
  | 0, _ => .error .endsEarly
  | _ + 1, [] => .error .endsEarly
  | fuel + 1, b :: rest =>
    if b = quote then .ok rest
    else if b = backslash then
      match rest with
      | [] => .error .endsEarly
      | c :: after =>
        if (letterEscape? c).isSome then skipText fuel after
        else if c = Bytes.ascii 'u' then
          match codeUnit after with
          | .ok (_, after') => skipText fuel after'
          | .error f => .error f
        else .error .notJson
    else if b < 0x20 then .error .notJson
    else skipText fuel rest

/-- Passes over at least one digit; a number that ends early is not told from one that is wrong. -/
def skipDigits : Bytes → Except Fault Bytes
  | [] => .error .notJson
  | b :: rest => if isDigit b then .ok (rest.dropWhile isDigit) else .error .notJson

/-- Passes over an exponent, if there is one. -/
def skipExponent : Bytes → Except Fault Bytes
  | [] => .ok []
  | b :: rest =>
    if isExponentMark b then
      match rest with
      | s :: after =>
        if s = Bytes.ascii '+' ∨ s = Bytes.ascii '-' then skipDigits after else skipDigits rest
      | [] => .error .notJson
    else .ok (b :: rest)

/-- Passes over a number after its sign. -/
def skipNumber : Bytes → Except Fault Bytes
  | [] => .error .notJson
  | b :: rest =>
    let fraction := fun (after : Bytes) =>
      match after with
      | p :: more => if p = Bytes.ascii '.' then skipDigits more >>= skipExponent else skipExponent after
      | [] => .ok []
    if b = 0x30 then
      match rest with
      | c :: _ => if isDigit c then .error .notJson else fraction rest
      | [] => .ok []
    else if isDigit b then fraction (rest.dropWhile isDigit)
    else .error .notJson

/-- Passes over the octets of a word. -/
def skipWord (w : String) (input : Bytes) : Except Fault Bytes :=
  (word (Bytes.ofText w) input).map (·.2)

/-- What is being skipped: lists and objects that are still open, the innermost first. -/
inductive Open where
  | list
  | object
  deriving DecidableEq, Repr

/-- Where a skip stands. -/
inductive SkipState where
  /-- A value follows. -/
  | value
  /-- The first item or member, or the end, of the innermost list or object follows. -/
  | first
  /-- A comma or the end of the innermost list or object follows. -/
  | after
  /-- The key of a member follows. -/
  | key
  deriving DecidableEq, Repr

/-- Passes over values until every open list and object is closed. -/
def skipOpen : Nat → SkipState → List Open → Bytes → Except Fault Bytes
  | 0, _, _, _ => .error .endsEarly
  | fuel + 1, state, stack, input =>
    let rest := input.dropWhile isSpace
    match state, stack, rest with
    | .value, _, [] => .error .endsEarly
    | .value, _, b :: more =>
      let close := fun (r : Except Fault Bytes) => r >>= fun rest' => skipOpen fuel .after stack rest'
      if b = quote then close (skipText (more.length + 1) more)
      else if b = Bytes.ascii '-' then close (skipNumber more)
      else if isDigit b then close (skipNumber rest)
      else if b = Bytes.ascii 'n' then close (skipWord "null" rest)
      else if b = Bytes.ascii 't' then close (skipWord "true" rest)
      else if b = Bytes.ascii 'f' then close (skipWord "false" rest)
      else if b = openList then skipOpen fuel .first (.list :: stack) more
      else if b = openObject then skipOpen fuel .first (.object :: stack) more
      else .error .notJson
    | .after, [], _ => .ok input
    | .first, [], _ => .ok input
    | .key, [], _ => .ok input
    | _, _ :: _, [] => .error .endsEarly
    | .first, .list :: outer, b :: more =>
      if b = closeList then skipOpen fuel .after outer more else skipOpen fuel .value stack rest
    | .first, .object :: outer, b :: more =>
      if b = closeObject then skipOpen fuel .after outer more else skipOpen fuel .key stack rest
    | .after, .list :: outer, b :: more =>
      if b = comma then skipOpen fuel .value stack more
      else if b = closeList then skipOpen fuel .after outer more
      else .error .notJson
    | .after, .object :: outer, b :: more =>
      if b = comma then skipOpen fuel .key stack more
      else if b = closeObject then skipOpen fuel .after outer more
      else .error .notJson
    | .key, _ :: _, b :: more =>
      if b = quote then
        skipText (more.length + 1) more >>= fun after =>
          match after.dropWhile isSpace with
          | [] => .error .endsEarly
          | c :: value => if c = colon then skipOpen fuel .value stack value else .error .notJson
      else .error .notJson

/-- Passes over one value of any depth. -/
def skipValue : Reader Unit := fun input =>
  (skipOpen (4 * input.length + 4) .value [] input).map fun rest => ((), rest)

end LockFleet.Json
