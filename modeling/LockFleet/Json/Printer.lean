import LockFleet.Binary64.Shortest
import LockFleet.Json.Value
import LockFleet.Text.Bytes

/-!
# Writing JSON

Values are written without blanks.  Text is written octet by octet: the quotation mark, the
reverse solidus and the control octets are escaped, every other octet stands for itself, so text
outside ASCII is not escaped.

* `Json.escapeOctet`, `Json.writeText`: the escaped form of text;
* `Json.Value.write`: the written form of a value;
* `Json.writeMembers`: an object from members that are already written.
-/

namespace LockFleet.Json

/-! ### Punctuation -/

/-- The octet of a quotation mark. -/
def quote : UInt8 := 0x22

/-- The octet of a reverse solidus. -/
def backslash : UInt8 := 0x5C

/-- The octet of a comma. -/
def comma : UInt8 := 0x2C

/-- The octet of a colon. -/
def colon : UInt8 := 0x3A

/-- The octet that opens a list. -/
def openList : UInt8 := 0x5B

/-- The octet that closes a list. -/
def closeList : UInt8 := 0x5D

/-- The octet that opens an object. -/
def openObject : UInt8 := 0x7B

/-- The octet that closes an object. -/
def closeObject : UInt8 := 0x7D

/-! ### Text -/

/-- The control octets with a letter for an escape, and that letter. -/
def shortEscape? (b : UInt8) : Option Char :=
  if b = 0x08 then some 'b'
  else if b = 0x09 then some 't'
  else if b = 0x0A then some 'n'
  else if b = 0x0C then some 'f'
  else if b = 0x0D then some 'r'
  else none

/-- The escaped form of one octet of a text. -/
def escapeOctet (b : UInt8) : Bytes :=
  if b = quote ∨ b = backslash then [backslash, b]
  else if b < 0x20 then
    match shortEscape? b with
    | some c => [backslash, Bytes.ascii c]
    | none =>
      [backslash, Bytes.ascii 'u', Bytes.ascii '0', Bytes.ascii '0',
        Bytes.ascii (Bytes.hexDigit (b.toNat / 16)), Bytes.ascii (Bytes.hexDigit (b.toNat % 16))]
  else [b]

/-- A text between quotation marks. -/
def writeText (s : String) : Bytes :=
  quote :: (Bytes.ofText s).flatMap escapeOctet ++ [quote]

/-! ### Values -/

/-- The written form of a number. -/
def Number.write : Number → Bytes
  | .whole n => Bytes.ofText (toString n)
  | .float x => Bytes.ofText x.text

/-- Written items with commas between them. -/
def separated : List Bytes → Bytes
  | [] => []
  | [item] => item
  | item :: rest => item ++ comma :: separated rest

/-- One member of an object. -/
def writeMember (key : String) (written : Bytes) : Bytes := writeText key ++ colon :: written

/-- An object of written members, in the order given. -/
def writeMembers (members : List (String × Bytes)) : Bytes :=
  openObject :: separated (members.map fun m => writeMember m.1 m.2) ++ [closeObject]

/-- A list of written items. -/
def writeItems (items : List Bytes) : Bytes := openList :: separated items ++ [closeList]

mutual

/-- The written form of a value. -/
def Value.write : Value → Bytes
  | .null => Bytes.ofText "null"
  | .flag b => Bytes.ofText (if b then "true" else "false")
  | .number n => n.write
  | .text s => writeText s
  | .list items => writeItems (writeAll items)
  | .object entries => writeMembers (writeEntries entries)

/-- The written forms of the items of a list. -/
def writeAll : List Value → List Bytes
  | [] => []
  | v :: rest => v.write :: writeAll rest

/-- The members of an object with their values written. -/
def writeEntries : List (String × Value) → List (String × Bytes)
  | [] => []
  | (key, v) :: rest => (key, v.write) :: writeEntries rest

end

/-- The written form of octets that are UTF-8, as a text. -/
def shown (written : Bytes) : String := (Bytes.text? written).getD ""

/-- The written form of a value as a text. -/
def Value.written (v : Value) : String := shown v.write

end LockFleet.Json
