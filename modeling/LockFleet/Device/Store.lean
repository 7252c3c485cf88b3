import LockFleet.Device.Basic
import LockFleet.Device.History
import LockFleet.Failure
import LockFleet.Table

/-!
# The device store

The store keeps the devices under their keys and the history of all of them, oldest entry first.
Going online and going offline are conditional writes: the check and the write are one step, which
answers whether it changed the device.

* `Store`, `Store.device?`, `Store.find?`, `Store.insert`, `Store.entriesOf`;
* `Store.modify` and the writes made of it;
* `Store.stale`: the online devices that are silent since a moment, in order of their keys;
* `StoreRequest`, `Store.serve`: the requests that programs make of a store.
-/

namespace LockFleet

/-- Devices and their history. -/
structure Store where
  devices : Table Int64 Device
  /-- All entries, oldest first. -/
  history : List Entry
  /-- Every device is stored under its own key. -/
  keyed : ∀ id d, devices.find? id = some d → d.id = id

namespace Store

/-- The store without devices. -/
def empty : Store := ⟨Table.empty, [], fun _ _ h => by simp at h⟩

instance : Inhabited Store := ⟨empty⟩

/-! ### Looking up -/

/-- The device of a key. -/
def device? (s : Store) (id : Int64) : Option Device := s.devices.find? id

def find? (s : Store) (number : String) : Option Device :=
  s.devices.values.find? fun d => d.number = number

/-- The history of one device. -/
def entriesOf (s : Store) (id : Int64) : List Entry := s.history.filter fun e => e.device = id

/-- Orders devices by their keys. -/
def byKey (ds : List Device) : List Device := ds.mergeSort fun a b => a.id ≤ b.id

/-- Whether a device is online and silent since a moment. -/
def isStale (before : Moment) (d : Device) : Bool := d.isOnline && d.isSilentSince before

/-- The online devices without a heartbeat at or after a moment. -/
def stale (s : Store) (before : Moment) : List Device :=
  byKey (s.devices.values.filter (isStale before))

/-! ### Writing -/

/-- Adds a device, or replaces the one of the same key. -/
def insert (s : Store) (d : Device) : Store where
  devices := s.devices.insert d.id d
  history := s.history
  keyed := fun id e h => by
    by_cases hid : id = d.id
    · subst hid
      rw [Table.find?_insert_self] at h
      cases h
      rfl
    · rw [Table.find?_insert_of_ne _ _ hid] at h
      exact s.keyed id e h

/-- Appends an entry to the history. -/
def record (s : Store) (e : Entry) : Store := { s with history := s.history ++ [e] }

/-- A change of a device that keeps its key. -/
structure Change where
  apply : Device → Device
  id_apply : ∀ d, (apply d).id = d.id

/-- The store with one device changed. -/
def change (s : Store) (id : Int64) (c : Change) : Store where
  devices := s.devices.modify id c.apply
  history := s.history
  keyed := fun k e h => by
    by_cases hk : k = id
    · subst hk
      rw [Table.find?_modify_self] at h
      obtain ⟨d, hd, rfl⟩ := Option.map_eq_some_iff.1 h
      rw [c.id_apply, s.keyed k d hd]
    · rw [Table.find?_modify_of_ne _ _ hk] at h
      exact s.keyed k e h

/-- Changes the device of a key, or fails if there is none. -/
def modify (s : Store) (id : Int64) (c : Change) : Except StoreError Store :=
  if s.devices.contains id then .ok (s.change id c) else .error (.notFound id)

/-- Changes the device of a key if it passes a test, and answers whether it did. -/
def modifyIf (s : Store) (id : Int64) (test : Device → Bool) (c : Change) :
    Except StoreError (Bool × Store) :=
  match s.device? id with
  | none => .error (.notFound id)
  | some d => .ok (if test d then (true, s.change id c) else (false, s))

/-- Sets the fields of an update. -/
def applyUpdate (u : Update) : Change := ⟨fun d => d.apply u, fun _ => rfl⟩

def setLock (l : LockState) : Change := ⟨fun d => { d with lock := l }, fun _ => rfl⟩

def setAvailability (a : Availability) : Change :=
  ⟨fun d => { d with availability := a }, fun _ => rfl⟩

/-- Goes online at a moment. -/
def goOnline (time : Moment) : Change :=
  ⟨fun d => { d with reachability := .online, lastOnline := some time }, fun _ => rfl⟩

/-- Goes offline at a moment. -/
def goOffline (time : Moment) : Change :=
  ⟨fun d => { d with reachability := .offline, lastOffline := some time }, fun _ => rfl⟩

/-- Takes a device online unless it is. -/
def markOnline (s : Store) (id : Int64) (time : Moment) : Except StoreError (Bool × Store) :=
  s.modifyIf id (fun d => !d.isOnline) (goOnline time)

/-- Whether a device is to go offline: it is online and, if a cutoff is given, silent since. -/
def mayGoOffline (cutoff : Option Moment) (d : Device) : Bool :=
  d.isOnline &&
    match cutoff with
    | none => true
    | some c => d.isSilentSince c

/-- Takes a device offline if it is online and, if a cutoff is given, silent since. -/
def markOffline (s : Store) (id : Int64) (time : Moment) (cutoff : Option Moment) :
    Except StoreError (Bool × Store) :=
  s.modifyIf id (mayGoOffline cutoff) (goOffline time)

end Store

/-! ### Requests -/

/-- What a program can ask of a store. -/
inductive StoreRequest where
  | find (number : String)
  | update (id : Int64) (u : Update)
  | record (e : Entry)
  | setLock (id : Int64) (l : LockState)
  | setAvailability (id : Int64) (a : Availability)
  | markOnline (id : Int64) (time : Moment)
  | markOffline (id : Int64) (time : Moment) (cutoff : Option Moment)
  | stale (before : Moment)
  deriving DecidableEq, Repr

def StoreRequest.Answer : StoreRequest → Type
  | find _ => Option Device
  | update _ _ => Unit
  | record _ => Unit
  | setLock _ _ => Unit
  | setAvailability _ _ => Unit
  | markOnline _ _ => Bool
  | markOffline _ _ _ => Bool
  | stale _ => List Device

/-- The key of the device that a request is about, where it is given by its key. -/
def StoreRequest.device? : StoreRequest → Option Int64
  | find _ => none
  | update id _ => some id
  | record e => some e.device
  | setLock id _ => some id
  | setAvailability id _ => some id
  | markOnline id _ => some id
  | markOffline id _ _ => some id
  | stale _ => none

namespace Store

/-- A write with its answer, or the failure that leaves the store as it was. -/
def settled {α : Type} (s : Store) : Except StoreError (α × Store) → Except StoreError α × Store
  | .ok (a, s') => (.ok a, s')
  | .error e => (.error e, s)

def serve (s : Store) : (q : StoreRequest) → Except StoreError q.Answer × Store
  | .find number => (.ok (s.find? number), s)
  | .update id u => s.settled ((s.modify id (applyUpdate u)).map ((), ·))
  | .record e => (.ok (), s.record e)
  | .setLock id l => s.settled ((s.modify id (setLock l)).map ((), ·))
  | .setAvailability id a => s.settled ((s.modify id (setAvailability a)).map ((), ·))
  | .markOnline id time => s.settled (s.markOnline id time)
  | .markOffline id time cutoff => s.settled (s.markOffline id time cutoff)
  | .stale before => (.ok (s.stale before), s)

end Store

end LockFleet
