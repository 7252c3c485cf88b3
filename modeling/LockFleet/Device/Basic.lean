import LockFleet.Calendar.Moment
import LockFleet.Report.Basic

/-!
# Devices

A device is stored under a key and is known to the outside by its number.  Updates set some of its
fields and leave the others as they are.

* `Device`, `Device.fresh`, `Device.isOnline`;
* `Update`, `Device.apply`: partial writes;
* `Update.ofHeartbeat`, `Update.ofStatus`: the updates that reports carry.
-/

namespace LockFleet

/-- A device that can be locked and rented. -/
structure Device where
  /-- The key in the store. -/
  id : Int64
  /-- The name in topics. -/
  number : String
  reachability : Reachability
  lock : LockState
  availability : Availability
  freeSlots : UInt32
  metrics : Metrics
  lastHeartbeat : Option Moment
  lastOnline : Option Moment
  lastOffline : Option Moment
  deriving DecidableEq, Repr

namespace Device

/-- A device of which nothing is known: offline, locked and idle. -/
def fresh (id : Int64) (number : String) : Device :=
  ⟨id, number, .offline, .locked, .idle, 0, .none, none, none, none⟩

/-- Whether the device can be reached. -/
def isOnline (d : Device) : Bool := d.reachability = .online

/-- Whether the device has sent no heartbeat at or after a moment. -/
def isSilentSince (d : Device) (cutoff : Moment) : Bool :=
  match d.lastHeartbeat with
  | none => true
  | some seen => seen < cutoff

end Device

/-! ### Updates -/

/-- The fields that are to be set. -/
structure Update where
  reachability : Option Reachability
  lock : Option LockState
  availability : Option Availability
  freeSlots : Option UInt32
  metrics : Metrics
  lastHeartbeat : Option Moment
  lastOnline : Option Moment
  lastOffline : Option Moment
  deriving DecidableEq, Repr

/-- The update that sets nothing. -/
def Update.none : Update := ⟨.none, .none, .none, .none, .none, .none, .none, .none⟩

instance : Inhabited Update := ⟨Update.none⟩

/-- The measurements, those that are missing taken from earlier ones. -/
def Metrics.orElse (new old : Metrics) : Metrics where
  signal := new.signal <|> old.signal
  battery := new.battery <|> old.battery
  temperature := new.temperature <|> old.temperature
  humidity := new.humidity <|> old.humidity
  firmware := new.firmware <|> old.firmware

/-- The device with the fields of an update set. -/
def Device.apply (d : Device) (u : Update) : Device where
  id := d.id
  number := d.number
  reachability := u.reachability.getD d.reachability
  lock := u.lock.getD d.lock
  availability := u.availability.getD d.availability
  freeSlots := u.freeSlots.getD d.freeSlots
  metrics := u.metrics.orElse d.metrics
  lastHeartbeat := u.lastHeartbeat <|> d.lastHeartbeat
  lastOnline := u.lastOnline <|> d.lastOnline
  lastOffline := u.lastOffline <|> d.lastOffline

namespace Update

/-- The telemetry of a heartbeat; what it does not measure is left alone. -/
def ofHeartbeat (h : Heartbeat) : Update := { Update.none with metrics := h.metrics }

/-- Every field of a status snapshot. -/
def ofStatus (s : StatusReport) : Update :=
  { Update.none with
    reachability := some s.reachability
    lock := some s.lock
    availability := some s.availability
    freeSlots := some s.freeSlots }

/-- Whether the update sets nothing. -/
def isEmpty (u : Update) : Bool := u = Update.none

end Update

end LockFleet
