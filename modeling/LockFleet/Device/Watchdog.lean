import LockFleet.Device.Reconciler
import LockFleet.Text.Description

/-!
# The watchdog

The watchdog looks for devices that are online and have been silent for too long, and takes them
offline one after another.  Each of them is checked again when it is taken offline.

* `WatchdogTiming`;
* `Watchdog.cutoff`: the moment since which silence is too long;
* `Watchdog.check`: the program of one scan.
-/

namespace LockFleet

/-- The times a watchdog works with. -/
structure WatchdogTiming where
  /-- The time between two scans. -/
  checkInterval : Span
  /-- The silence after which a device counts as offline. -/
  offlineAfter : Span
  deriving DecidableEq, Repr

/-- One minute and three minutes. -/
def WatchdogTiming.standard : WatchdogTiming := ⟨Span.ofSeconds 60, Span.ofSeconds 180⟩

/-- The timing as a text. -/
def WatchdogTiming.describe (t : WatchdogTiming) : String :=
  Description.record "WatchdogConfig"
    [("check_interval", t.checkInterval.text), ("offline_after", t.offlineAfter.text)]

namespace Watchdog

/-- The moment since which silence is too long. -/
def cutoff (now : Moment) (offlineAfter : Span) : Moment := now.before offlineAfter

/-- Takes devices offline one after another and counts how many it took.  A device for which that
fails is passed over. -/
def takeAll (c : Moment) : List Device → Reconcile Nat
  | [] => pure 0
  | d :: ds => do
    let r ← (Reconciler.takeOffline d.number (some c)).run
    let n ← takeAll c ds
    match r with
    | .ok true => return n + 1
    | _ => return n

/-- One scan.  Answers with the number of devices taken offline. -/
def check (offlineAfter : Span) : Handling Nat := do
  let time ← Reconciler.now
  let c := cutoff time offlineAfter
  let devices ← Reconciler.stale c
  ExceptT.lift (takeAll c devices)

end Watchdog

end LockFleet
