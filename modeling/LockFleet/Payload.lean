import LockFleet.Failure
import LockFleet.Json.Printer

/-!
# Payloads

What is published is octets, a text, or a JSON value that is written when it is sent.

* `Payload`, `Payload.bytes`;
* `MapKey`, `Payload.ofMap`: the payload of a map, whose keys have to become names of members.
-/

namespace LockFleet

/-- Something to publish. -/
inductive Payload where
  | octets (bs : Bytes)
  | text (s : String)
  | json (v : Json.Value)

/-- The octets that are sent. -/
def Payload.bytes : Payload → Bytes
  | octets bs => bs
  | text s => Bytes.ofText s
  | json v => v.write

/-! ### Maps -/

/-- The keys that a map can have. -/
inductive MapKey where
  | text (s : String)
  | whole (n : Int)
  | list (keys : List Json.Value)

/-- The name of the member that a key becomes.  Whole numbers are written out; a list has no name. -/
def MapKey.name? : MapKey → Option String
  | text s => some s
  | whole n => some (toString n)
  | list _ => none

def Payload.members (entries : List (MapKey × Json.Value)) :
    Except TransportError (List (String × Json.Value)) :=
  entries.mapM fun e =>
    match e.1.name? with
    | some name => .ok (name, e.2)
    | none => .error (.encode .keyNotText)

/-- The payload of a map, which is an object. -/
def Payload.ofMap (entries : List (MapKey × Json.Value)) : Except TransportError Payload := do
  return .json (Json.Object.ofEntries (← Payload.members entries)).toValue

end LockFleet
