import LockFleet.Command.Desk
import LockFleet.Device.Watchdog
import LockFleet.Router.Dispatch
import LockFleet.Router.Listening

/-!
# The hub

The hub starts and stops all parts together: the desk, the routing of reports, the sweep of the desk
and, if asked for, the watchdog.  A start that fails takes its subscriptions back, so that nothing
is requested again on a reconnect.

* `HubSettings`, `HubSettings.describe`;
* `Hub.listen`: the subscriptions of a start;
* `Hub.describe`.
-/

namespace LockFleet

/-- The times that the parts of a hub work with. -/
structure HubSettings where
  desk : DeskTiming
  router : RouterTiming
  /-- The watchdog, if there is to be one. -/
  watchdog : Option WatchdogTiming
  deriving DecidableEq, Repr

/-- The settings that hold when nothing else is said. -/
def HubSettings.standard : HubSettings := ⟨DeskTiming.standard, RouterTiming.standard, none⟩

/-- The settings of a hub to be started, as a text. -/
def HubSettings.describe (s : HubSettings) : String :=
  Description.openRecord "DeviceHubBuilder"
    [("correlator", s.desk.describe), ("router", s.router.describe),
      ("watchdog", Description.optional WatchdogTiming.describe s.watchdog)]

/-- A router as a text. -/
def RouterTiming.describeRouter {H : Type} (t : RouterTiming) (b : Broker H) : String :=
  Description.openRecord "TopicRouter" [("broker", b.describe), ("config", t.describe)]

/-- The part that takes reports in, as a text. -/
def Desk.describeReconciler (d : Desk) : String :=
  Description.openRecord "DeviceReconciler" [("correlator", d.describe)]

/-- A watchdog as a text. -/
def WatchdogTiming.describeWatchdog (t : WatchdogTiming) (d : Desk) : String :=
  Description.record "LivenessWatchdog"
    [("reconciler", d.describeReconciler), ("config", t.describe)]

namespace Hub

variable {H : Type}

/-- Subscribes to all reports; if one subscription fails, all of them are taken back. -/
def listen (quality : Quality) (handler : H) : Registry.Operation H Requested := do
  match ← Listening.start quality handler with
  | .ok _ => return .ok ()
  | .error e =>
    let _ ← Listening.stop
    return .error e

/-- A hub as a text. -/
def describe (b : Broker H) (d : Desk) (t : RouterTiming) : String :=
  Description.openRecord "DeviceHub"
    [("broker", b.describe), ("correlator", d.describe), ("router", t.describeRouter b)]

end Hub

end LockFleet
