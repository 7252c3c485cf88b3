import LockFleet.Report.Schema
import LockFleet.Topic

/-!
# Decoding reports

The topic of a report names the device and the kind, and the kind selects the record that the body
has to be.

* `DecodeError`, `DecodeError.message`: what can be wrong with a report;
* `Message.decode`: the report of a topic and a body.
-/

namespace LockFleet

/-- What can be wrong with a report. -/
inductive DecodeError where
  /-- The topic names no device. -/
  | topic (topic : String)
  /-- The last level of the topic is no kind of report. -/
  | unknownKind (last : String)
  | body (kind : ReportKind) (fault : Json.Fault)
  deriving DecidableEq, Repr

/-- The wording of an error. -/
def DecodeError.message : DecodeError → String
  | topic t => "malformed topic: " ++ t
  | unknownKind last => "unknown message kind: " ++ last
  | body kind fault => "invalid " ++ kind.name ++ " payload: " ++ fault.message

def Report.decode (kind : ReportKind) (body : Bytes) : Except DecodeError Report :=
  (Json.parse (Report.read kind) body).mapError (DecodeError.body kind)

/-- Decodes the report that arrives on a topic. -/
def Message.decode (topic : String) (body : Bytes) : Except DecodeError Message :=
  match Topic.Address.ofTopic? topic with
  | none => .error (.topic topic)
  | some address =>
    match ReportKind.ofName? address.last with
    | none => .error (.unknownKind address.last)
    | some kind => (Report.decode kind body).map fun report => ⟨address.device, report⟩

end LockFleet
