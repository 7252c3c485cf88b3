import LockFleet.Binary64.Basic
import LockFleet.Json.Value
import LockFleet.Status

/-!
# Reports

A device reports its telemetry in heartbeats, its whole status in snapshots, what happens to it in
events, and the outcome of commands in acknowledgements.

* `ReportKind`: the four kinds and the last level of the topics they arrive on;
* `Heartbeat`, `StatusReport`, `EventReport`, `Ack`, `Report`: their bodies;
* `EventKind`: the events that have a meaning here;
* `Message`: a report and the device that sent it.
-/

namespace LockFleet

inductive ReportKind where
  | heartbeat
  | status
  | event
  | ack
  deriving DecidableEq, Repr

namespace ReportKind

/-- The name, which is the last level of the topics of the kind. -/
def name : ReportKind → String
  | heartbeat => "heartbeat"
  | status => "status"
  | event => "event"
  | ack => "ack"

/-- The kinds in the order in which they are subscribed to. -/
def all : List ReportKind := [heartbeat, status, event, ack]

def ofName? (name : String) : Option ReportKind := all.find? fun k => k.name = name

theorem ofName?_name (k : ReportKind) : ofName? k.name = some k := by
  cases k <;> decide

end ReportKind

/-- What a device can measure; a device sends what its hardware has. -/
structure Metrics where
  signal : Option Int32
  battery : Option Int32
  temperature : Option Binary64
  humidity : Option Binary64
  firmware : Option String
  deriving DecidableEq, Repr

/-- No measurement. -/
def Metrics.none : Metrics := ⟨.none, .none, .none, .none, .none⟩

instance : Inhabited Metrics := ⟨Metrics.none⟩

/-- Periodic telemetry.  Timestamps are seconds of the device's clock. -/
structure Heartbeat where
  timestamp : Int64
  metrics : Metrics
  deriving DecidableEq, Repr

/-- The status of a device as it sees itself. -/
structure StatusReport where
  timestamp : Int64
  reachability : Reachability
  lock : LockState
  availability : Availability
  freeSlots : UInt32
  deriving DecidableEq, Repr

/-- Something that happened, with arguments of any form. -/
structure EventReport where
  timestamp : Int64
  event : String
  data : Option Json.Object

/-- The outcome of a command. -/
structure Ack where
  command : String
  success : Bool
  message : String
  timestamp : Int64
  deriving DecidableEq, Repr

/-- The body of a report. -/
inductive Report where
  | heartbeat (body : Heartbeat)
  | status (body : StatusReport)
  | event (body : EventReport)
  | ack (body : Ack)

namespace Report

/-- The kind of a body. -/
def kind : Report → ReportKind
  | heartbeat _ => .heartbeat
  | status _ => .status
  | event _ => .event
  | ack _ => .ack

/-- The timestamp of a body. -/
def timestamp : Report → Int64
  | heartbeat b => b.timestamp
  | status b => b.timestamp
  | event b => b.timestamp
  | ack b => b.timestamp

end Report

/-- A report and the device that sent it. -/
structure Message where
  device : String
  report : Report

/-! ### Events -/

/-- The events that have a meaning here. -/
inductive EventKind where
  | unlocked
  | locked
  | error
  | alarm
  /-- Any other event, by its name. -/
  | other (name : String)
  deriving DecidableEq, Repr

def EventKind.ofName (name : String) : EventKind :=
  if name = "unlocked" ∨ name = "unlock" then .unlocked
  else if name = "locked" ∨ name = "lock" then .locked
  else if name = "error" then .error
  else if name = "alarm" then .alarm
  else .other name

namespace EventReport

def kind (e : EventReport) : EventKind := EventKind.ofName e.event

/-- The message for people that an event carries: its argument `message`, if that is a text. -/
def message (e : EventReport) : Option String := do
  let data ← e.data
  let v ← data.find? "message"
  v.text?

end EventReport

end LockFleet
