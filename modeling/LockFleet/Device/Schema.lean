import LockFleet.Calendar.Stamp
import LockFleet.Device.Basic
import LockFleet.Device.History
import LockFleet.Json.Record

/-!
# The JSON form of devices and history

Devices and entries are records whose absent values are written as null.

* `Moment.read`: a moment by its text;
* `Device.read`, `Device.encode`; `Entry.read`, `Entry.members`.
-/

namespace LockFleet

open Json (given)

def Moment.read : Json.Leveled Moment := fun _ => do
  let s ← Json.textAs "an RFC 3339 formatted date and time string"
  match Moment.ofStamp s with
  | .ok m => return m
  | .error f => Json.refuse (.rejected f.message)

def Moment.toValue (m : Moment) : Json.Value := .text m.stamp

def Json.orNull {α : Type} (toValue : α → Value) (a : Option α) : Value :=
  Value.ofOption (a.map toValue)

/-- A field that may be left out of an object but not of a list. -/
def Json.maybe {α : Type} (name : String) (read : Leveled α) : Field (Option α) :=
  ⟨name, optional read, .omitted none⟩

open Json (maybe orNull)

/-! ### Devices -/

/-- Reads measurements. -/
def Metrics.read : Json.Leveled Metrics :=
  Json.record "Telemetry"
    (.cons (maybe "signal" Json.int32) <| .cons (maybe "battery" Json.int32) <|
      .cons (maybe "temperature" Json.float) <| .cons (maybe "humidity" Json.float) <|
      .cons (maybe "firmware_version" Json.text) .nil)
    fun (signal, battery, temperature, humidity, firmware, _) =>
      ⟨signal, battery, temperature, humidity, firmware⟩

/-- The members of measurements. -/
def Metrics.members (m : Metrics) : List (String × Json.Value) :=
  [("signal", orNull Json.ofInt32 m.signal), ("battery", orNull Json.ofInt32 m.battery),
    ("temperature", orNull Json.Value.ofFloat m.temperature),
    ("humidity", orNull Json.Value.ofFloat m.humidity),
    ("firmware_version", orNull Json.Value.text m.firmware)]

def Device.read : Json.Leveled Device :=
  Json.record "Device"
    (.cons (given "id" Json.int64) <| .cons (given "device_no" Json.text) <|
      .cons (given "online_status" Reachability.read) <|
      .cons (given "lock_status" LockState.read) <| .cons (given "status" Availability.read) <|
      .cons (given "available_slots" Json.uint32) <| .cons (given "telemetry" Metrics.read) <|
      .cons (maybe "last_heartbeat_at" Moment.read) <|
      .cons (maybe "last_online_at" Moment.read) <|
      .cons (maybe "last_offline_at" Moment.read) .nil)
    fun (id, number, reachability, lock, availability, freeSlots, metrics, lastHeartbeat,
        lastOnline, lastOffline, _) =>
      ⟨id, number, reachability, lock, availability, freeSlots, metrics, lastHeartbeat,
        lastOnline, lastOffline⟩

/-- The written form of a device. -/
def Device.encode (d : Device) : Bytes :=
  Json.writeMembers
    [("id", (Json.ofInt64 d.id).write), ("device_no", Json.writeText d.number),
      ("online_status", Json.writeText d.reachability.name),
      ("lock_status", Json.writeText d.lock.name),
      ("status", Json.writeText d.availability.name),
      ("available_slots", (Json.ofUInt32 d.freeSlots).write),
      ("telemetry", Json.inOrder d.metrics.members),
      ("last_heartbeat_at", (orNull Moment.toValue d.lastHeartbeat).write),
      ("last_online_at", (orNull Moment.toValue d.lastOnline).write),
      ("last_offline_at", (orNull Moment.toValue d.lastOffline).write)]

/-! ### History -/

/-- Reads the type of an entry. -/
def EntryKind.read : Json.Leveled EntryKind := fun levels =>
  return EntryKind.ofName (← Json.text levels)

def Entry.read : Json.Leveled Entry :=
  Json.record "DeviceLog"
    (.cons (given "device_id" Json.int64) <| .cons (given "type" EntryKind.read) <|
      .cons (maybe "content" Json.text) <| .cons (maybe "actor" Json.text) <|
      .cons (given "created_at" Moment.read) .nil)
    fun (device, kind, content, actor, time, _) => ⟨device, kind, content, actor, time⟩

def Entry.members (e : Entry) : List (String × Json.Value) :=
  [("device_id", Json.ofInt64 e.device), ("type", .text e.kind.name),
    ("content", orNull Json.Value.text e.content), ("actor", orNull Json.Value.text e.actor),
    ("created_at", e.time.toValue)]

end LockFleet
