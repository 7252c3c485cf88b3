import LockFleet.Json.Scanner

/-!
# Reading typed JSON

A reader is told how many more levels of lists and objects may be opened, and says what it found
when a value has another type than expected.

* `Json.integer`, `Json.float`, `Json.flag`, `Json.text`, `Json.choice`, `Json.optional`: single
  values;
* `Json.value`, `Json.object`: free-form parts;
* `Json.record`: an object with known fields, or the list of their values; other members are
  skipped;
* `Json.parse`: a whole text.
-/

namespace LockFleet.Json

/-- The number of levels that a text may open. -/
def levelLimit : Nat := 127

/-- A reader that is told how many more levels may be opened. -/
abbrev Leveled (α : Type) := Nat → Reader α

/-- Reads the inside of a list or object, one level deeper. -/
def nested {α : Type} (inside : Leveled α) : Leveled α
  | 0 => refuse .notJson
  | levels + 1 => inside levels

/-- The first octet of a value after white space. -/
def peekValue : Reader UInt8 := do
  match ← peek with
  | some b => return b
  | none => refuse .endsEarly

/-- What a number is called when another type was expected. -/
def Number.found : Number → Found
  | .whole n => .whole n
  | .float x => .float x

/-- Refuses the value that begins here because of its type, after reading as much of it as names
it. -/
def mismatch {α : Type} (expected : String) : Reader α := do
  let b ← peekValue
  if b = Bytes.ascii 'n' then
    word (Bytes.ofText "null")
    refuse (.wrongType .null expected)
  else if b = Bytes.ascii 't' then
    word (Bytes.ofText "true")
    refuse (.wrongType (.flag true) expected)
  else if b = Bytes.ascii 'f' then
    word (Bytes.ofText "false")
    refuse (.wrongType (.flag false) expected)
  else if b = Bytes.ascii '-' then
    advance
    refuse (.wrongType (← scanNumber true).found expected)
  else if isDigit b then refuse (.wrongType (← scanNumber false).found expected)
  else if b = quote then
    advance
    refuse (.wrongType (.text (← scanText)) expected)
  else if b = openList then refuse (.wrongType .list expected)
  else if b = openObject then refuse (.wrongType .object expected)
  else refuse .notJson

/-! ### Single values -/

def numberOf {α : Type} (expected : String) (convert : Number → Reader α) : Reader α := do
  let b ← peekValue
  if b = Bytes.ascii '-' then
    advance
    convert (← scanNumber true)
  else if isDigit b then convert (← scanNumber false)
  else mismatch expected

/-- Reads a whole number between two bounds. -/
def integer (expected : String) (low high : Int) : Reader Int :=
  numberOf expected fun
    | .whole n => if low ≤ n ∧ n ≤ high then return n else refuse (.wrongValue n expected)
    | .float x => refuse (.wrongType (.float x) expected)

/-- Reads a signed number of 64 bits. -/
def int64 : Leveled Int64 := fun _ =>
  return Int64.ofInt (← integer "i64" Int64.minValue.toInt Int64.maxValue.toInt)

/-- Reads a signed number of 32 bits. -/
def int32 : Leveled Int32 := fun _ =>
  return Int32.ofInt (← integer "i32" Int32.minValue.toInt Int32.maxValue.toInt)

/-- Reads an unsigned number of 32 bits. -/
def uint32 : Leveled UInt32 := fun _ =>
  return UInt32.ofNat (← integer "u32" 0 (UInt32.size - 1)).toNat

/-- Reads a double-precision number; a whole number is rounded to one. -/
def float : Leveled Binary64 := fun _ =>
  numberOf "f64" fun
    | .whole n => return Binary64.ofInt n
    | .float x => return x

/-- Reads a flag. -/
def flag : Leveled Bool := fun _ => do
  let b ← peekValue
  if b = Bytes.ascii 't' then
    word (Bytes.ofText "true")
    return true
  else if b = Bytes.ascii 'f' then
    word (Bytes.ofText "false")
    return false
  else mismatch "a boolean"

/-- Reads a text where `expected` is asked for. -/
def textAs (expected : String) : Reader String := do
  let b ← peekValue
  if b = quote then
    advance
    scanText
  else mismatch expected

/-- Reads a text. -/
def text : Leveled String := fun _ => textAs "a string"

/-- Reads null, or a value. -/
def optional {α : Type} (read : Leveled α) : Leveled (Option α) := fun levels => do
  if (← peek) = some (Bytes.ascii 'n') then
    word (Bytes.ofText "null")
    return none
  else return some (← read levels)

/-! ### Lists and objects -/

/-- Reads the colon after a key. -/
def readColon : Reader Unit := do
  match ← peek with
  | some b => if b = colon then advance else refuse .notJson
  | none => refuse .endsEarly

/-- Whether another item follows in a list; passes over the comma before it. -/
def anotherItem (first : Bool) : Reader Bool := do
  match ← peek with
  | none => refuse .endsEarly
  | some b =>
    if b = closeList then return false
    else if first then return true
    else if b = comma then
      advance
      match ← peek with
      | none => refuse .endsEarly
      | some c => if c = closeList then refuse .notJson else return true
    else refuse .notJson

/-- The key of the next member of an object, if there is one. -/
def nextKey (first : Bool) : Reader (Option String) := do
  match ← peek with
  | none => refuse .endsEarly
  | some b =>
    if b = closeObject then return none
    else if first then
      if b = quote then
        advance
        return some (← scanText)
      else refuse .notJson
    else if b = comma then
      advance
      match ← peek with
      | none => refuse .endsEarly
      | some c =>
        if c = quote then
          advance
          return some (← scanText)
        else refuse .notJson
    else refuse .notJson

/-- Reads the end of a list or object. -/
def closing (close : UInt8) : Reader Unit := do
  match ← peek with
  | some b => if b = close then advance else refuse .notJson
  | none => refuse .endsEarly

/-- Reads items up to the end of their list.  The fuel bounds their number. -/
def itemsUntilEnd {α : Type} (read : Reader α) : Nat → Bool → List α → Reader (List α)
  | 0, _, _ => refuse .endsEarly
  | fuel + 1, first, acc => do
    if ← anotherItem first then itemsUntilEnd read fuel false ((← read) :: acc)
    else
      closing closeList
      return acc.reverse

/-- Reads members up to the end of their object.  The fuel bounds their number. -/
def membersUntilEnd {α : Type} (read : Reader α) :
    Nat → Bool → List (String × α) → Reader (List (String × α))
  | 0, _, _ => refuse .endsEarly
  | fuel + 1, first, acc => do
    match ← nextKey first with
    | some key =>
      readColon
      membersUntilEnd read fuel false ((key, ← read) :: acc)
    | none =>
      closing closeObject
      return acc.reverse

/-- A bound on the items or members that the rest of the text can hold. -/
def remaining : Reader Nat := fun input => .ok (input.length + 1, input)

/-- Reads the items of a list after its bracket. -/
def itemsOf {α : Type} (read : Reader α) : Reader (List α) := do
  itemsUntilEnd read (← remaining) true []

/-- Reads the members of an object after its bracket. -/
def membersOf {α : Type} (read : Reader α) : Reader (List (String × α)) := do
  membersUntilEnd read (← remaining) true []

/-- Reads a number of a free-form part. -/
def freeNumber (negative : Bool) : Reader Value := do
  match ← scanNumber negative with
  | .whole n => return .number (.whole n)
  | .float x => return Value.ofFloat x

/-- Reads any value, given the reader of the values inside it if they may be nested. -/
def valueWith (inside : Option (Reader Value)) : Reader Value := do
  let b ← peekValue
  if b = Bytes.ascii 'n' then
    word (Bytes.ofText "null")
    return .null
  else if b = Bytes.ascii 't' then
    word (Bytes.ofText "true")
    return .flag true
  else if b = Bytes.ascii 'f' then
    word (Bytes.ofText "false")
    return .flag false
  else if b = Bytes.ascii '-' then
    advance
    freeNumber true
  else if isDigit b then freeNumber false
  else if b = quote then
    advance
    return .text (← scanText)
  else
    match inside with
    | none => refuse .notJson
    | some read =>
      if b = openList then
        advance
        return .list (← itemsOf read)
      else if b = openObject then
        advance
        return .object (sortEntries (← membersOf read))
      else refuse .notJson

/-- Reads any value. -/
def value : Leveled Value
  | 0 => valueWith none
  | levels + 1 => valueWith (some (value levels))

/-- Reads an object of free-form members. -/
def object : Leveled Object := fun levels => do
  let b ← peekValue
  if b = openObject then
    nested (fun deeper => do
      advance
      return Object.ofEntries (← membersOf (value deeper))) levels
  else mismatch "a map"

/-! ### Names -/

/-- The meaning of a name among those allowed. -/
def choose {α : Type} (choices : List (String × α)) (name : String) : Reader α :=
  match findEntry? name choices with
  | some a => return a
  | none => refuse (.unknownName name (choices.map (·.1)))

/-- Reads one of several names: a text, or an object whose only member has the name for its key
and null for its value. -/
def choice {α : Type} (choices : List (String × α)) : Leveled α := fun levels => do
  let b ← peekValue
  if b = quote then
    advance
    choose choices (← scanText)
  else if b = openObject then
    nested (fun _ => do
      advance
      let a ← choose choices (← textAs "variant identifier")
      readColon
      if (← peekValue) = Bytes.ascii 'n' then word (Bytes.ofText "null") else mismatch "unit"
      closing closeObject
      return a) levels
  else refuse .notJson

/-! ### Records -/

/-- What a field stands for that is not given. -/
inductive Absence (α : Type) where
  /-- The field has to be given. -/
  | required
  /-- The field may be left out of an object, but not of a list. -/
  | omitted (v : α)
  /-- The field may be left out of an object and at the end of a list. -/
  | otherwise (v : α)

/-- A field of a record. -/
structure Field (α : Type) where
  name : String
  read : Leveled α
  absent : Absence α

/-- The fields of a record in their order. -/
inductive Fields : List Type → Type 1 where
  | nil : Fields []
  | cons {α : Type} {ts : List Type} (field : Field α) (rest : Fields ts) : Fields (α :: ts)

/-- The values of all fields. -/
def Values : List Type → Type
  | [] => Unit
  | α :: ts => α × Values ts

/-- The values of the fields read so far. -/
def Row : List Type → Type
  | [] => Unit
  | α :: ts => Option α × Row ts

namespace Fields

/-- No field read yet. -/
def emptyRow : {ts : List Type} → Fields ts → Row ts
  | _, .nil => ()
  | _, .cons _ rest => (none, rest.emptyRow)

/-- The number of fields. -/
def size : {ts : List Type} → Fields ts → Nat
  | _, .nil => 0
  | _, .cons _ rest => rest.size + 1

/-- Reads the value of a key into the row; a key of no field is passed over. -/
def readMember (key : String) (levels : Nat) : {ts : List Type} → Fields ts → Row ts →
    Reader (Row ts)
  | _, .nil, () => do
    readColon
    skipValue
    return ()
  | _, .cons field rest, (held, row) =>
    if field.name = key then do
      if held.isSome then refuse (.duplicate key)
      readColon
      return (some (← field.read levels), row)
    else do return (held, ← readMember key levels rest row)

/-- The values of all fields, those absent from an object taking what they stand for. -/
def complete : {ts : List Type} → Fields ts → Row ts → Except Fault (Values ts)
  | _, .nil, () => .ok ()
  | _, .cons field rest, (held, row) => do
    let v ← match held, field.absent with
      | some v, _ => pure v
      | none, .otherwise v => pure v
      | none, .omitted v => pure v
      | none, .required => throw (.missing field.name)
    return (v, ← rest.complete row)

/-- Reads members up to the end of the object.  The fuel bounds their number. -/
def readMembers {ts : List Type} (fields : Fields ts) (levels : Nat) :
    Nat → Bool → Row ts → Reader (Row ts)
  | 0, _, _ => refuse .endsEarly
  | fuel + 1, first, row => do
    match ← nextKey first with
    | some key => readMembers fields levels fuel false (← fields.readMember key levels row)
    | none => return row

/-- Reads the values of the fields from the items of a list.  `index` counts the fields before. -/
def readItems (record : String) (total : Nat) (levels : Nat) : {ts : List Type} → Fields ts →
    Nat → Reader (Values ts)
  | _, .nil, _ => return ()
  | _, .cons field rest, index => do
    let v ←
      if ← anotherItem (index = 0) then field.read levels
      else
        match field.absent with
        | .otherwise v => pure v
        | _ => refuse (.tooShort index record total)
    return (v, ← readItems record total levels rest (index + 1))

end Fields

/-- Reads a record: an object of its fields in any order, or the list of their values. -/
def record {ts : List Type} {α : Type} (name : String) (fields : Fields ts) (build : Values ts → α) :
    Leveled α := fun levels => do
  let b ← peekValue
  if b = openObject then
    nested (fun deeper => do
      advance
      let row ← fields.readMembers deeper (← remaining) true fields.emptyRow
      match fields.complete row with
      | .ok values =>
        closing closeObject
        return build values
      | .error f => refuse f) levels
  else if b = openList then
    nested (fun deeper => do
      advance
      let values ← fields.readItems name fields.size deeper 0
      closing closeList
      return build values) levels
  else mismatch ("struct " ++ name)

/-! ### Whole texts -/

/-- Reads a text that holds one value and nothing else but white space. -/
def parse {α : Type} (read : Leveled α) (input : Bytes) : Except Fault α := do
  let (a, rest) ← read levelLimit input
  if (rest.dropWhile isSpace).isEmpty then return a else throw .notJson

end LockFleet.Json
