import LockFleet.Json.Reader

/-!
# Fields and members

The fields of the records in messages are of two sorts: those that have to be given and those that
may be left out.  A record is written from its members, in the order of its fields or in order of
their keys.

* `Json.given`, `Json.leftOut`: the two sorts of field;
* `Json.member`, `Json.memberIf`: the members they are written as;
* `Json.inOrder`, `Json.sorted`: the two ways to write members.
-/

namespace LockFleet.Json

/-- Members in the order given. -/
def inOrder (members : List (String × Value)) : Bytes := writeMembers (writeEntries members)

/-- Members in order of their keys. -/
def sorted (members : List (String × Value)) : Bytes := (Object.ofEntries members).toValue.write

/-- A member that is present. -/
def member (key : String) (v : Value) : List (String × Value) := [(key, v)]

/-- A member that is left out when there is no value. -/
def memberIf {α : Type} (key : String) (toValue : α → Value) : Option α → List (String × Value)
  | none => []
  | some a => [(key, toValue a)]

/-- A field that may be left out, which then has no value. -/
def leftOut {α : Type} (name : String) (read : Leveled α) : Field (Option α) :=
  ⟨name, optional read, .otherwise none⟩

/-- A field that has to be given. -/
def given {α : Type} (name : String) (read : Leveled α) : Field α := ⟨name, read, .required⟩

/-- A signed number of 64 bits as a value. -/
def ofInt64 (n : Int64) : Value := .int n.toInt

/-- A signed number of 32 bits as a value. -/
def ofInt32 (n : Int32) : Value := .int n.toInt

/-- An unsigned number of 32 bits as a value. -/
def ofUInt32 (n : UInt32) : Value := .nat n.toNat

end LockFleet.Json
