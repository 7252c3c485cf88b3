import LockFleet.Broker.Registry
import LockFleet.Report.Basic

/-!
# Listening to reports

Routing begins with subscriptions to the reports of every device, one filter for each kind, and ends
with their removal.

* `Listening.patterns`: the filters;
* `Listening.start`, `Listening.stop`: the operations.
-/

namespace LockFleet.Listening

/-- The filters for the reports of every device. -/
def patterns : List String := ReportKind.all.map fun k => Topic.everyDevice k.name

/-- Registers one handler for all reports and subscribes to them; answers with the first failure,
after which the filters stay registered. -/
def start {H : Type} (quality : Quality) (handler : H) : Registry.Operation H Requested :=
  Registry.subscribeAll quality (patterns.map fun p => (p, handler))

/-- Removes the subscriptions; answers with the first failure. -/
def stop {H : Type} : Registry.Operation H Requested := Registry.unsubscribe patterns

end LockFleet.Listening
