import LockFleet.Text.Quoted

/-!
# Descriptions of values

The parts of a running system describe themselves in one line: a record by its name and its fields,
some of which may be left out.

* `Description.record`, `Description.openRecord`: records with all and with some of their fields;
* `Description.flag`, `Description.optional`, `Description.pair`: the values in them.
-/

namespace LockFleet

namespace Description

/-- A record of a name and described fields. -/
def record (name : String) (fields : List (String × String)) : String :=
  name ++ " \x7b " ++ ", ".intercalate (fields.map fun f => f.1 ++ ": " ++ f.2) ++ " \x7d"

/-- A record of which some fields are not described. -/
def openRecord (name : String) (fields : List (String × String)) : String :=
  name ++ " \x7b " ++ String.join (fields.map fun f => f.1 ++ ": " ++ f.2 ++ ", ") ++ ".. \x7d"

def flag (b : Bool) : String := if b then "true" else "false"

/-- A value that may be absent. -/
def optional {α : Type} (describe : α → String) : Option α → String
  | none => "None"
  | some a => "Some(" ++ describe a ++ ")"

/-- Two texts. -/
def pair (p : String × String) : String := "(" ++ Text.quoted p.1 ++ ", " ++ Text.quoted p.2 ++ ")"

end Description

end LockFleet
