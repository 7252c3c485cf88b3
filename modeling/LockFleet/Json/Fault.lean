import LockFleet.Binary64.Shortest
import LockFleet.Text.Quoted

/-!
# What can be wrong with a JSON text

A text is read from left to right and the first problem decides.  A problem belongs to one of three
kinds: the text ends early, it is not JSON, or it is JSON of the wrong type, value or member.  Only
a problem of the last kind has a wording.

* `Json.Fault`: the causes;
* `Json.Fault.kind`: which of the three kinds a cause belongs to;
* `Json.Fault.message`: the wording.
-/

namespace LockFleet.Json

/-- What stands where another type was expected. -/
inductive Found where
  | null
  | flag (b : Bool)
  | whole (n : Int)
  | float (x : Binary64)
  | text (s : String)
  | list
  | object
  deriving DecidableEq, Repr

/-- The reasons for which a JSON text is refused. -/
inductive Fault where
  /-- The text ends where more is needed. -/
  | endsEarly
  /-- The text is not JSON, or holds a number or text that cannot be represented. -/
  | notJson
  /-- A value has the wrong type. -/
  | wrongType (found : Found) (expected : String)
  /-- A whole number is out of range. -/
  | wrongValue (n : Int) (expected : String)
  /-- A name is none of those allowed. -/
  | unknownName (name : String) (allowed : List String)
  /-- A member is absent. -/
  | missing (field : String)
  /-- A member occurs twice. -/
  | duplicate (field : String)
  /-- A list that stands for a record ends after `count` items. -/
  | tooShort (count : Nat) (record : String) (fields : Nat)
  /-- The key of a member is not a text. -/
  | keyNotText
  /-- A text has the right type and a wrong content. -/
  | rejected (reason : String)
  deriving DecidableEq, Repr

/-- The three kinds of problem. -/
inductive Fault.Kind where
  | early
  | syntactic
  | data
  deriving DecidableEq, Repr

/-- The kind of a problem. -/
def Fault.kind : Fault → Fault.Kind
  | .endsEarly => .early
  | .notJson => .syntactic
  | .keyNotText => .syntactic
  | _ => .data

/-- How a value of the wrong type is named. -/
def Found.describe : Found → String
  | .null => "null"
  | .flag b => "boolean `" ++ (if b then "true" else "false") ++ "`"
  | .whole n => "integer `" ++ toString n ++ "`"
  | .float x => "floating point `" ++ x.text ++ "`"
  | .text s => "string " ++ Text.quoted s
  | .list => "sequence"
  | .object => "map"

/-- A name between grave accents. -/
def accented (name : String) : String := "`" ++ name ++ "`"

/-- The list of names a text may hold. -/
def oneOf : List String → String
  | [] => "there are no variants"
  | [a] => "expected " ++ accented a
  | [a, b] => "expected " ++ accented a ++ " or " ++ accented b
  | names => "expected one of " ++ ", ".intercalate (names.map accented)

/-- The wording of a problem; one that is not about data has a general one. -/
def Fault.message : Fault → String
  | .endsEarly => "unexpected end of input"
  | .notJson => "not JSON"
  | .keyNotText => "key must be a string"
  | .wrongType found expected => "invalid type: " ++ found.describe ++ ", expected " ++ expected
  | .wrongValue n expected => "invalid value: integer `" ++ toString n ++ "`, expected " ++ expected
  | .unknownName name allowed => "unknown variant " ++ accented name ++ ", " ++ oneOf allowed
  | .missing field => "missing field " ++ accented field
  | .duplicate field => "duplicate field " ++ accented field
  | .tooShort count record fields =>
    "invalid length " ++ toString count ++ ", expected struct " ++ record ++ " with " ++
      toString fields ++ " elements"
  | .rejected reason => reason

end LockFleet.Json
