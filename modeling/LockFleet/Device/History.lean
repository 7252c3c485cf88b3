import LockFleet.Calendar.Moment
import LockFleet.Report.Basic

/-!
# History

What happens to a device is recorded in entries that are never changed.  The type of an entry is
stored by name; a name that is none of the fixed ones is the name of an event.

* `EntryKind`, `EntryKind.name`, `EntryKind.ofName`: types and their stored names;
* `EntryKind.ofEvent`: the type of the entry that an event leaves;
* `Entry`, `Entry.bySystem`.
-/

namespace LockFleet

/-- The types of entry. -/
inductive EntryKind where
  | online
  | offline
  | unlock
  | lock
  | error
  /-- Any other event, by its name. -/
  | event (name : String)
  deriving DecidableEq, Repr

namespace EntryKind

/-- The stored name. -/
def name : EntryKind → String
  | online => "online"
  | offline => "offline"
  | unlock => "unlock"
  | lock => "lock"
  | error => "error"
  | event name => name

/-- The type of a stored name. -/
def ofName (name : String) : EntryKind :=
  if name = "online" then online
  else if name = "offline" then offline
  else if name = "unlock" then unlock
  else if name = "lock" then lock
  else if name = "error" then error
  else event name

/-- The type of the entry that an event leaves. -/
def ofEvent : EventKind → EntryKind
  | .unlocked => unlock
  | .locked => lock
  | .error => error
  | .alarm => error
  | .other name => event name

end EntryKind

/-- An entry of the history. -/
structure Entry where
  /-- The key of the device. -/
  device : Int64
  kind : EntryKind
  content : Option String
  /-- Who caused the entry. -/
  actor : Option String
  time : Moment
  deriving DecidableEq, Repr

/-- The actor of the entries that are written without anyone asking for them. -/
def systemActor : String := "system"

/-- An entry without a person behind it. -/
def Entry.bySystem (device : Int64) (kind : EntryKind) (content : Option String) (now : Moment) :
    Entry :=
  ⟨device, kind, content, some systemActor, now⟩

end LockFleet
