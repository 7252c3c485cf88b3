import LockFleet.Rehearsal.World

/-!
# Schedules

The tasks of a world take turns in the order in which they became ready.  A poll runs one task until
it ends or has to wait; then the tasks that it enabled queue up.  The clock stands still while any
task is ready and moves from alarm to alarm otherwise.

* `World.poll`: one turn;
* `World.settle`: turns until no task is ready;
* `World.advanceTo`: moves the clock.
-/

namespace LockFleet.Rehearsal

/-- The work of a chore. -/
def Chore.begin : Chore → Paused Unit
  | .sweep => Paused.start (.done ())
  | .scan offlineAfter =>
    Paused.start ((Activity.ofReconcile (Watchdog.check offlineAfter).run).bind fun _ => .done ())

/-- The alarms that a task waits for. -/
def Task.alarms : Task → List Alarm
  | .activity p => p.alarm.toList
  | .send _ s => s.alarm?.toList
  | .guarded _ _ _ => []
  | .dispatch (.running _ alarm handler) => alarm :: handler.alarm.toList
  | .dispatch _ => []
  | .periodic _ _ (.idle _ alarm) => [alarm]
  | .periodic _ _ (.busy _ s) => s.alarm.toList
  | .periodic _ _ _ => []

namespace World

/-! ### One turn -/

/-- Notes the end of a task. -/
def finish (w : World) (r : Running) (e : TaskEnd) : World :=
  { w with
    tasks := w.tasks.filter fun t => t.number ≠ r.number
    ends := w.ends.insert r.number e
    broker := if r.permit then w.broker.release else w.broker
    done := match r.label with
      | some label => w.done ++ [(label, e)]
      | none => w.done }

/-- Notes the new state of a task. -/
def keep (w : World) (r : Running) (task : Task) : World :=
  { w with tasks := w.tasks.map fun t => if t.number = r.number then { r with task } else t }

def pollActivity (w : World) (r : Running) (p : Paused Outcome) : World :=
  match advance r.number p.program p.alarm w with
  | (.paused p, w) => w.keep r (.activity p)
  | (.finished o, w) => w.finish r (.finished o)
  | (.brokenOff reason, w) => w.finish r (.brokenOff reason)

/-- Starts the job of a message. -/
def spawnJob (w : World) (q : PublishRequest) : World :=
  (w.spawnActivity (Activity.publishJob q) none).2

def pollSend (w : World) (r : Running) (c : SendCall) (s : SendStage) : World :=
  match w.desk with
  | none => w.finish r .aborted
  | some desk =>
    let sent := s.poll c w.sendView desk
    let w := { w with desk := some sent.desk }
    let w := match sent.job with
      | some q => w.spawnJob q
      | none => w
    match sent.stage with
    | .ended result => w.finish r (.finished (.sent result))
    | stage => w.keep r (.send c stage)

/-- Polls a publish that can be abandoned. -/
def pollGuarded (w : World) (r : Running) (token : Token) (q : PublishRequest) (g : Guarded) :
    World :=
  let (g, start) := g.poll q.topic (w.view.isCancelled token) w.jobEnd? w.nextTask
  let w := if start then w.spawnJob q else w
  match g with
  | .ended result => w.finish r (.finished (.published result))
  | g => w.keep r (.guarded token q g)

/-- What takes a report in. -/
def takeIn (w : World) (backend : Backend) (m : Message) : Activity (Except HandlerError Unit) :=
  match backend with
  | .stub => w.stub.run m
  | .reconciler => Activity.ofReconcile (Reconciler.handle m).run

/-- Polls what takes a report in.  Breaking off counts as a failure. -/
def stepHandler (task : Nat) : Dispatch.Step (Paused (Except HandlerError Unit)) World :=
  fun p w =>
    match advance task p.program p.alarm w with
    | (.paused p, w) => (.inl p, w)
    | (.finished result, w) => (.inr result, w)
    | (.brokenOff reason, w) => (.inr (.error (.store (.backend reason))), w)

/-- Notes where a dispatch stands. -/
def keepDispatch (w : World) (r : Running)
    (d : Dispatch (Paused (Except HandlerError Unit))) : World :=
  match d with
  | .ended outcome => w.finish r (.finished (.routed outcome))
  | d => w.keep r (.dispatch d)

/-- Polls a dispatch.  Without a router nothing begins; what has begun goes on. -/
def pollDispatch (w : World) (r : Running) (d : Dispatch (Paused (Except HandlerError Unit))) :
    World :=
  let step := stepHandler r.number
  match d, w.router with
  | .fresh _ _, none => w.finish r (.finished .silent)
  | .fresh topic payload, some router =>
    let start := fun m => Paused.start (w.takeIn router.backend m)
    let (d, w) := Dispatch.begin w.view router.timing router.token start step topic payload w
    w.keepDispatch r d
  | .running token alarm handler, _ =>
    let (d, w) := Dispatch.proceed w.view step token alarm handler w
    w.keepDispatch r d
  | .ended outcome, _ => w.finish r (.finished (.routed outcome))

/-- Sweeps the desk. -/
def sweep (w : World) : Nat × World :=
  match w.desk with
  | none => (0, w)
  | some d =>
    let (removed, d) := d.sweep w.now
    (removed, { w with desk := some d })

/-- Polls the work of a chore. -/
def stepChore (task : Nat) (chore : Chore) (p : Paused Unit) (w : World) :
    Option (Paused Unit) × World :=
  match chore with
  | .sweep => (none, w.sweep.2)
  | .scan _ =>
    match advance task p.program p.alarm w with
    | (.paused p, w) => (some p, w)
    | (.finished _, w) => (none, w)
    | (.brokenOff _, w) => (none, w)

/-- The last words of a periodic task whose period cannot be kept. -/
def badPeriod : String := "period cannot be kept"

/-- Polls a periodic task. -/
def pollPeriodic (w : World) (r : Running) (token : Token) (chore : Chore)
    (p : Periodic (Paused Unit)) : World :=
  match p.poll w.view token chore.begin (stepChore r.number chore) w with
  | (.ended, w) => w.finish r (.finished .silent)
  | (.brokenOff, w) => w.finish r (.brokenOff badPeriod)
  | (p, w) => w.keep r (.periodic token chore p)

def pollTask (w : World) (r : Running) : World :=
  match r.task with
  | .activity p => w.pollActivity r p
  | .send c s => w.pollSend r c s
  | .guarded token q g => w.pollGuarded r token q g
  | .dispatch d => w.pollDispatch r d
  | .periodic token chore p => w.pollPeriodic r token chore p

/-- Gives the turn to a task, if it has not ended. -/
def poll (w : World) (n : Nat) : World :=
  let w := { w with stamp := w.stamp + 1 }
  match w.tasks.find? fun r => r.number = n with
  | some r => w.pollTask r
  | none => w

/-! ### Readiness -/

/-- Whether a task gets any further. -/
def isReady (w : World) (r : Running) : Bool :=
  match r.task with
  | .activity p => w.canAdvance r.number p
  | .send c s =>
    match w.desk with
    | some d => s.isReady c w.sendView d
    | none => true
  | .guarded token _ g => g.isReady (w.view.isCancelled token) w.jobEnd?
  | .dispatch d => d.isReady w.view (w.canAdvance r.number)
  | .periodic token _ p => p.isReady w.view token (w.canAdvance r.number)

/-- Queues the tasks that have become ready. -/
def wake (w : World) : World :=
  let woken := w.tasks.filter fun r => !(r.number ∈ w.ready) && w.isReady r
  { w with ready := w.ready ++ woken.map (·.number) }

/-- A bound on the turns that are taken while the clock stands still. -/
def turnLimit : Nat := 1000000

/-- Gives turns until no task is ready. -/
def settleWithin : Nat → World → World
  | 0, w => w
  | fuel + 1, w =>
    match w.ready with
    | [] => w
    | n :: rest => settleWithin fuel (({ w with ready := rest }).poll n).wake

/-- Gives turns until no task is ready. -/
def settle (w : World) : World := settleWithin turnLimit w.wake

/-! ### The clock -/

/-- The alarms that are set, with the tasks that wait for them. -/
def alarms (w : World) : List (Alarm × Nat) :=
  w.tasks.flatMap fun r => (Task.alarms r.task).map fun a => (a, r.number)

/-- The next time after the present and up to a time at which an alarm goes off. -/
def nextDue (w : World) (target : Nat) : Option Nat :=
  ((w.alarms.map (·.1.due)).filter fun t => w.now < t && t ≤ target).min?

/-- Queues the tasks whose alarms go off at the present, in the order of the alarms. -/
def ring (w : World) : World :=
  let due := (w.alarms.filter fun a => a.1.due = w.now).mergeSort fun a b => a.1.goesBefore b.1
  { w with ready := w.ready ++ (due.map (·.2)).eraseDups }

/-- Moves the clock to a time, stopping at each alarm. -/
def advanceTo (target : Nat) (w : World) : World :=
  match w.nextDue target with
  | none => { w with now := max w.now target }
  | some t =>
    if h : w.now < t ∧ t ≤ target then
      let settled := ({ w with now := t }).ring.settle
      advanceTo target { settled with now := t }
    else { w with now := max w.now target }
termination_by target - w.now
decreasing_by exact Nat.sub_lt_sub_left (Nat.lt_of_lt_of_le h.1 h.2) h.1

end World

end LockFleet.Rehearsal
