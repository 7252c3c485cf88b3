import LockFleet.Json.Record
import LockFleet.Report.Basic

/-!
# The JSON form of reports

Each body is a record.  It is written with its fields in the order of the record and without the
measurements that are absent; the same members can also be written in order of their keys.

* `Heartbeat.read`, `StatusReport.read`, `EventReport.read`, `Ack.read`: the readers;
* `Report.members`: the members of a body.
-/

namespace LockFleet

open Json (member memberIf leftOut given)

/-- The timestamp of a report, zero if it is left out. -/
def timestampField : Json.Field Int64 := ⟨"timestamp", Json.int64, .otherwise 0⟩

/-! ### Heartbeats -/

def Heartbeat.read : Json.Leveled Heartbeat :=
  Json.record "Heartbeat"
    (.cons timestampField <| .cons (leftOut "signal" Json.int32) <|
      .cons (leftOut "battery" Json.int32) <| .cons (leftOut "temperature" Json.float) <|
      .cons (leftOut "humidity" Json.float) <| .cons (leftOut "firmware_version" Json.text) .nil)
    fun (timestamp, signal, battery, temperature, humidity, firmware, _) =>
      ⟨timestamp, ⟨signal, battery, temperature, humidity, firmware⟩⟩

def Heartbeat.members (h : Heartbeat) : List (String × Json.Value) :=
  member "timestamp" (Json.ofInt64 h.timestamp) ++
    memberIf "signal" Json.ofInt32 h.metrics.signal ++
    memberIf "battery" Json.ofInt32 h.metrics.battery ++
    memberIf "temperature" Json.Value.ofFloat h.metrics.temperature ++
    memberIf "humidity" Json.Value.ofFloat h.metrics.humidity ++
    memberIf "firmware_version" Json.Value.text h.metrics.firmware

/-! ### Status snapshots -/

/-- Reads a status snapshot. -/
def StatusReport.read : Json.Leveled StatusReport :=
  Json.record "StatusReport"
    (.cons timestampField <| .cons (given "online_status" Reachability.read) <|
      .cons (given "lock_status" LockState.read) <| .cons (given "status" Availability.read) <|
      .cons (given "available_slots" Json.uint32) .nil)
    fun (timestamp, reachability, lock, availability, freeSlots, _) =>
      ⟨timestamp, reachability, lock, availability, freeSlots⟩

/-- The members of a status snapshot. -/
def StatusReport.members (s : StatusReport) : List (String × Json.Value) :=
  [("timestamp", Json.ofInt64 s.timestamp), ("online_status", .text s.reachability.name),
    ("lock_status", .text s.lock.name), ("status", .text s.availability.name),
    ("available_slots", Json.ofUInt32 s.freeSlots)]

/-! ### Events -/

def EventReport.read : Json.Leveled EventReport :=
  Json.record "EventReport"
    (.cons timestampField <| .cons (given "type" Json.text) <|
      .cons (leftOut "data" Json.object) .nil)
    fun (timestamp, event, data, _) => ⟨timestamp, event, data⟩

def EventReport.members (e : EventReport) : List (String × Json.Value) :=
  member "timestamp" (Json.ofInt64 e.timestamp) ++ member "type" (.text e.event) ++
    memberIf "data" Json.Object.toValue e.data

/-! ### Acknowledgements -/

/-- Reads an acknowledgement. -/
def Ack.read : Json.Leveled Ack :=
  Json.record "CommandAck"
    (.cons (given "command_id" Json.text) <| .cons (given "success" Json.flag) <|
      .cons ⟨"message", Json.text, .otherwise ""⟩ <| .cons timestampField .nil)
    fun (command, success, message, timestamp, _) => ⟨command, success, message, timestamp⟩

/-- The members of an acknowledgement. -/
def Ack.members (a : Ack) : List (String × Json.Value) :=
  [("command_id", .text a.command), ("success", .flag a.success), ("message", .text a.message),
    ("timestamp", Json.ofInt64 a.timestamp)]

/-! ### All kinds -/

namespace Report

/-- The members of a body. -/
def members : Report → List (String × Json.Value)
  | heartbeat b => b.members
  | status b => b.members
  | event b => b.members
  | ack b => b.members

/-- Reads the body of a kind. -/
def read : ReportKind → Json.Leveled Report
  | .heartbeat => fun levels => return .heartbeat (← Heartbeat.read levels)
  | .status => fun levels => return .status (← StatusReport.read levels)
  | .event => fun levels => return .event (← EventReport.read levels)
  | .ack => fun levels => return .ack (← Ack.read levels)

end Report

end LockFleet
