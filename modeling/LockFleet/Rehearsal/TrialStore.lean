import LockFleet.Device.Store

/-!
# A store that can be disturbed

A rehearsal puts a store behind faults: a method can be made to fail or to take time, a number can be
made to name a device that is not stored, and devices can be made to send a heartbeat right after a
query found them silent.

* `StoreMethod`, `StoreRequest.method`: the methods, by name;
* `TrialStore`, `TrialStore.delay?`, `TrialStore.serve`.
-/

namespace LockFleet

inductive StoreMethod where
  | find
  | update
  | record
  | setLock
  | setAvailability
  | markOnline
  | markOffline
  | stale
  deriving DecidableEq, Repr

namespace StoreMethod

def name : StoreMethod → String
  | find => "get_by_device_no"
  | update => "update_fields"
  | record => "create_log"
  | setLock => "update_lock_status"
  | setAvailability => "update_status"
  | markOnline => "mark_online"
  | markOffline => "mark_offline"
  | stale => "stale_online_devices"

def all : List StoreMethod :=
  [find, update, record, setLock, setAvailability, markOnline, markOffline, stale]

def ofName? (name : String) : Option StoreMethod := all.find? fun m => m.name = name

end StoreMethod

/-- The method that a request calls. -/
def StoreRequest.method : StoreRequest → StoreMethod
  | find _ => .find
  | update _ _ => .update
  | record _ => .record
  | setLock _ _ => .setLock
  | setAvailability _ _ => .setAvailability
  | markOnline _ _ => .markOnline
  | markOffline _ _ _ => .markOffline
  | stale _ => .stale

/-- A failure to inject. -/
structure StoreFault where
  method : StoreMethod
  /-- Only requests about this device fail. -/
  device : Option Int64
  /-- How many more requests fail; without a number, all of them. -/
  times : Option Nat
  deriving DecidableEq, Repr

namespace StoreFault

/-- Whether a request fails. -/
def hits (f : StoreFault) (q : StoreRequest) : Bool :=
  f.method = q.method && f.times ≠ some 0 &&
    match f.device with
    | none => true
    | some id => q.device? = some id

/-- The failure after it has hit a request. -/
def spent (f : StoreFault) : StoreFault := { f with times := f.times.map (· - 1) }

/-- The failures after the first one that hits a request has hit it, if there is one. -/
def spendFirst (q : StoreRequest) : List StoreFault → Option (List StoreFault)
  | [] => none
  | f :: fs => if f.hits q then some (f.spent :: fs) else (spendFirst q fs).map (f :: ·)

end StoreFault

/-- A store behind faults. -/
structure TrialStore where
  store : Store
  faults : List StoreFault
  delays : List (StoreMethod × Span)
  /-- Numbers that name a device which is not stored, with its key. -/
  ghosts : List (String × Int64)
  /-- Whether devices send a heartbeat right after they were found silent. -/
  revive : Bool

namespace TrialStore

/-- A store without faults. -/
def ofStore (s : Store) : TrialStore := ⟨s, [], [], [], false⟩

/-- The time that a request takes before it is served. -/
def delay? (t : TrialStore) (q : StoreRequest) : Option Span :=
  (t.delays.find? fun d => d.1 = q.method).map (·.2)

/-- The devices with a heartbeat at a moment. -/
def reviveAll (now : Moment) (s : Store) (ds : List Device) : Store :=
  ds.foldl (fun s d =>
    s.change d.id (Store.applyUpdate { Update.none with lastHeartbeat := some now })) s

/-- What the disturbed store answers to a request that does not fail. -/
def answer (t : TrialStore) (now : Moment) :
    (q : StoreRequest) → Except StoreError q.Answer × TrialStore
  | .find number =>
    match t.ghosts.find? fun g => g.1 = number with
    | some g => (.ok (some (Device.fresh g.2 number)), t)
    | none => (.ok (t.store.find? number), t)
  | .stale before =>
    let ds := t.store.stale before
    (.ok ds, if t.revive then { t with store := reviveAll now t.store ds } else t)
  | q =>
    let (r, s) := t.store.serve q
    (r, { t with store := s })

def serve (t : TrialStore) (now : Moment) (q : StoreRequest) :
    Except StoreError q.Answer × TrialStore :=
  match StoreFault.spendFirst q t.faults with
  | some faults => (.error (.backend (q.method.name ++ " rejected")), { t with faults })
  | none => t.answer now q

/-- Removes failures, delays and revival. -/
def calm (t : TrialStore) : TrialStore := { t with faults := [], delays := [], revive := false }

end TrialStore

end LockFleet
