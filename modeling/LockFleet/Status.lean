import LockFleet.Json.Reader

/-!
# Status values

What a device is known to be: reachable or not, locked or not, and free for rental or not.  Each
value has a name, which is how it stands in reports and in the store.

* `Reachability`, `LockState`, `Availability`, each with `name`, `choices` and `read`.
-/

namespace LockFleet

/-- Whether a device can be reached. -/
inductive Reachability where
  | offline
  | online
  deriving DecidableEq, Repr, Inhabited

namespace Reachability

/-- The name in messages. -/
def name : Reachability → String
  | offline => "offline"
  | online => "online"

/-- The names that can be read. -/
def choices : List (String × Reachability) := [offline, online].map fun r => (r.name, r)

/-- Reads a name. -/
def read : Json.Leveled Reachability := Json.choice choices

end Reachability

/-- The state of the physical lock. -/
inductive LockState where
  | locked
  | unlocked
  deriving DecidableEq, Repr, Inhabited

namespace LockState

/-- The name in messages. -/
def name : LockState → String
  | locked => "locked"
  | unlocked => "unlocked"

/-- The names that can be read. -/
def choices : List (String × LockState) := [locked, unlocked].map fun l => (l.name, l)

/-- Reads a name. -/
def read : Json.Leveled LockState := Json.choice choices

end LockState

/-- Whether a device can be rented. -/
inductive Availability where
  /-- Free for rental. -/
  | idle
  /-- Rented. -/
  | inUse
  /-- Reported an error or alarm. -/
  | fault
  /-- Taken out of service. -/
  | maintenance
  deriving DecidableEq, Repr, Inhabited

namespace Availability

/-- The name in messages. -/
def name : Availability → String
  | idle => "idle"
  | inUse => "in_use"
  | fault => "fault"
  | maintenance => "maintenance"

/-- The names that can be read. -/
def choices : List (String × Availability) :=
  [idle, inUse, fault, maintenance].map fun a => (a.name, a)

/-- Reads a name. -/
def read : Json.Leveled Availability := Json.choice choices

end Availability

end LockFleet
