import LockFleet.Broker.RecordingLink
import LockFleet.Broker.Registry
import LockFleet.Command.Send
import LockFleet.Periodic
import LockFleet.Rehearsal.Effect

/-!
# The world of a rehearsal

The world holds the parts of the system, the tasks that run on them and the clock.  Serving a request
of an activity is one step of the world.

* `timer`: how long waits take;
* `Task`, `Running`: what can run;
* `World`, with `World.spawn`, `World.freshToken`, `World.deliver`;
* `World.perform`: serves a request, or says that it has to wait;
* `World.advance`: runs an activity until it ends or has to wait.
-/

namespace LockFleet.Rehearsal

/-! ### The timer -/

/-- The milliseconds of thirty years. -/
def thirtyYears : Nat := 30 * 365 * 86400 * 1000

/-- In a rehearsal no wait takes longer than thirty years. -/
def timer : Timer := Timer.upTo thirtyYears

/-! ### Tasks -/

/-- An activity that waits, with the alarm of the wait it stands at. -/
structure Paused (α : Type) where
  program : Activity α
  alarm : Option Alarm

/-- An activity before its first poll. -/
def Paused.start {α : Type} (p : Activity α) : Paused α := ⟨p, none⟩

/-- The work of a periodic task. -/
inductive Chore where
  /-- Sweeps the desk. -/
  | sweep
  /-- Looks for silent devices. -/
  | scan (offlineAfter : Span)
  deriving DecidableEq, Repr

/-- What can run. -/
inductive Task where
  | activity (p : Paused Outcome)
  | send (c : SendCall) (s : SendStage)
  /-- Publishes a message unless its token is cancelled first. -/
  | guarded (token : Token) (q : PublishRequest) (g : Guarded)
  | dispatch (d : Dispatch (Paused (Except HandlerError Unit)))
  | periodic (token : Token) (chore : Chore) (p : Periodic (Paused Unit))

/-- A task that has not ended. -/
structure Running where
  number : Nat
  /-- The name under which its end is reported. -/
  label : Option String
  /-- Whether it holds a permit of the connection. -/
  permit : Bool
  task : Task

/-! ### The world -/

/-- A gate that lets a number of tasks pass, first come, first served. -/
structure Gate where
  permits : Nat
  queue : List Nat
  deriving DecidableEq, Repr

/-- What takes reports in. -/
inductive Backend where
  | stub
  | reconciler
  deriving DecidableEq, Repr

/-- The router of a world. -/
structure Router where
  timing : RouterClock
  /-- The token above every dispatch. -/
  token : Token
  backend : Backend

/-- The hub of a world. -/
structure Hub where
  token : Token
  /-- The periodic tasks that it started and has not waited for. -/
  tasks : List Nat
  deriving Repr

/-- The parts of a system, the tasks that run on them, and the clock. -/
structure World where
  now : Nat
  /-- The number of polls so far. -/
  stamp : Nat
  start : Moment
  cancelled : List Nat
  nextToken : Nat
  tokens : Table String Token
  broker : Broker Handler
  link : RecordingLink
  desk : Option Desk
  store : TrialStore
  router : Option Router
  hub : Option Hub
  stub : Stub
  simulation : Option Simulation
  gate : Gate
  /-- The tasks that have not ended, in order of their numbers. -/
  tasks : List Running
  /-- The numbers of the tasks to poll, in order. -/
  ready : List Nat
  ends : Table Nat TaskEnd
  /-- The number of the next task.  Numbers go on from one rehearsal to the next. -/
  nextTask : Nat
  calls : List CallNote
  /-- The ends of labelled tasks that have not been reported. -/
  done : List (String × TaskEnd)

namespace World

/-- The time on the wall: somewhat after the start, later at each poll. -/
def wall (w : World) : Moment := w.start.shift (Span.nanosPerMilli + w.stamp)

/-- What a task sees. -/
def view (w : World) : View := ⟨w.now, w.stamp, w.cancelled, w.wall⟩

def jobEnd? (w : World) (n : Nat) : Option JobEnd :=
  match w.ends.find? n with
  | some (.finished (.published r)) => some (.finished r)
  | some (.finished _) => some (.brokenOff "not a job")
  | some (.brokenOff reason) => some (.brokenOff reason)
  | some .aborted => some (.brokenOff "aborted")
  | none => none

/-- The identifiers that are drawn at a poll.  Polls have different numbers and draw different
identifiers. -/
def draws (w : World) (n : Nat) : String := Identifier.ofNumber (w.stamp + n)

/-- What a sender sees. -/
def sendView (w : World) : SendView := ⟨w.view, w.jobEnd?, w.nextTask, w.draws⟩

/-- Starts a task. -/
def spawn (w : World) (task : Task) (label : Option String) (permit : Bool) : Nat × World :=
  (w.nextTask, { w with
    tasks := w.tasks ++ [⟨w.nextTask, label, permit, task⟩]
    ready := w.ready ++ [w.nextTask]
    nextTask := w.nextTask + 1 })

/-- Starts an activity. -/
def spawnActivity (w : World) (p : Activity Outcome) (label : Option String) : Nat × World :=
  w.spawn (.activity (Paused.start p)) label false

/-- A token under no other. -/
def freshToken (w : World) : Token × World :=
  (Token.root w.nextToken, { w with nextToken := w.nextToken + 1 })

/-- A token under another. -/
def childToken (w : World) (t : Token) : Token × World :=
  (t.child w.nextToken, { w with nextToken := w.nextToken + 1 })

def cancel (w : World) (t : Token) : World := { w with cancelled := t.cancel w.cancelled }

/-! ### Messages -/

def handlerTask (topic : String) (payload : Bytes) : Handler → Task
  | .recorder name mode => .activity (Paused.start (mode.run name topic payload))
  | .router => .dispatch (.fresh topic payload)

/-- Starts the handlers of a message. -/
def startHandlers (topic : String) (payload : Bytes) : List Handler → World → List Nat × World
  | [], w => ([], w)
  | h :: hs, w =>
    let (n, w) := w.spawn (handlerTask topic payload h) none true
    let (ns, w) := startHandlers topic payload hs w
    (n :: ns, w)

/-- Delivers a message; answers with the tasks that handle it. -/
def deliver (w : World) (topic : String) (payload : Bytes) : List Nat × World :=
  let (handlers, broker) := w.broker.accept topic
  startHandlers topic payload handlers { w with broker }

/-! ### Requests -/

/-- What becomes of a request. -/
inductive Performed (e : Effect) where
  | answered (a : e.Answer) (w : World)
  | waiting (alarm : Option Alarm) (w : World)
  | brokenOff (reason : String) (w : World)

/-- Hands an acknowledgement to the desk, if there is one. -/
def handleAck (w : World) (a : Ack) : Bool × World :=
  match w.desk with
  | none => (false, w)
  | some d =>
    let (taken, d) := d.handleAck a
    (taken, { w with desk := some d })

/-- The last words of a job that publishes a command to no device while somebody is to answer. -/
def noDevice : String := "called \x60Option::unwrap()\x60 on a \x60None\x60 value"

/-- The device that a command was published to answers, if one is to; none if there is no such
device. -/
def answerCommand (w : World) (m : Outgoing) : Option World :=
  match w.simulation with
  | none => some w
  | some s =>
    match Json.parse Envelope.read m.payload with
    | .error _ => some w
    | .ok e =>
      match Topic.Address.ofTopic? m.topic with
      | none => none
      | some address =>
        if s.only.all (· = address.device) then
          if s.direct then some (w.handleAck (s.ack e)).2
          else some (w.spawnActivity (s.run address.device e) none).2
        else some w

/-- Publishes a message. -/
def publish (w : World) (q : PublishRequest) : Performed (.publish q) :=
  let m := q.outgoing w.broker.settings.quality
  let (r, link) := Link.publish w.link m
  let w := { w with link }
  match r with
  | .error e => .answered (Except.error e : Requested) w
  | .ok _ =>
    match answerCommand w m with
    | some w => .answered (Except.ok () : Requested) w
    | none => .brokenOff noDevice w

/-- Passes the gate or queues in front of it. -/
def pass (w : World) (task : Nat) : Performed .pass :=
  let g := w.gate
  if task ∈ g.queue then
    if task ∈ g.queue.take g.permits then
      .answered () { w with gate := ⟨g.permits - 1, g.queue.filter (· ≠ task)⟩ }
    else .waiting none w
  else if g.queue.length < g.permits then .answered () { w with gate := ⟨g.permits - 1, g.queue⟩ }
  else .waiting none { w with gate := ⟨g.permits, g.queue ++ [task]⟩ }

/-- The ends of tasks, if all of them have ended. -/
def endsOf (w : World) : List Nat → Option (List TaskEnd)
  | [] => some []
  | n :: ns => do
    let e ← w.ends.find? n
    let es ← w.endsOf ns
    return e :: es

/-- Serves a request of a task that stands at an alarm. -/
def perform (w : World) (task : Nat) (alarm : Option Alarm) : (e : Effect) → Performed e
  | .wait s =>
    let a := alarm.getD (w.view.alarm timer s)
    if w.view.isDue a then .answered () w else .waiting (some a) w
  | .storeDelay q => .answered (w.store.delay? q) w
  | .store q =>
    let (r, store) := w.store.serve w.wall q
    .answered r { w with store }
  | .clock => .answered w.wall w
  | .ack a =>
    let (taken, w) := w.handleAck a
    .answered taken w
  | .draw => .answered (w.draws 0) w
  | .note c => .answered () { w with calls := w.calls ++ [c] }
  | .pass => w.pass task
  | .linkDelay => .answered (Link.publishDelay w.link) w
  | .publish q => w.publish q
  | .deliver topic payload =>
    let (tasks, w) := w.deliver topic payload
    .answered tasks w
  | .join tasks =>
    match w.endsOf tasks with
    | some es => .answered es w
    | none => .waiting none w
  | .breakOff reason => .brokenOff reason w

/-! ### Activities -/

/-- How far an activity got. -/
inductive Progress (α : Type) where
  | paused (p : Paused α)
  | finished (a : α)
  | brokenOff (reason : String)

/-- Runs an activity of a task until it ends or has to wait. -/
def advance {α : Type} (task : Nat) : Activity α → Option Alarm → World → Progress α × World
  | .done a, _, w => (.finished a, w)
  | .call e next, alarm, w =>
    match w.perform task alarm e with
    | .answered a w => advance task (next a) none w
    | .waiting alarm w => (.paused ⟨.call e next, alarm⟩, w)
    | .brokenOff reason w => (.brokenOff reason, w)

/-- Whether an activity gets any further. -/
def canAdvance {α : Type} (w : World) (task : Nat) (p : Paused α) : Bool :=
  match p.program with
  | .done _ => true
  | .call (.wait _) _ =>
    match p.alarm with
    | some a => w.view.isDue a
    | none => true
  | .call .pass _ =>
    !(task ∈ w.gate.queue) || task ∈ w.gate.queue.take w.gate.permits
  | .call (.join tasks) _ => (w.endsOf tasks).isSome
  | .call _ _ => true

end World

end LockFleet.Rehearsal
