import LockFleet.Broker.Publishing
import LockFleet.Command.Desk
import LockFleet.Device.Watchdog
import LockFleet.Rehearsal.TrialStore
import LockFleet.Router.Dispatch

/-!
# Activities

The tasks of a rehearsal are programs of requests to its world.  Some requests have to wait: for
time to pass, for a gate to open, or for other tasks to end.

* `Outcome`, `TaskEnd`: the results of tasks;
* `CallNote`: what handlers write down;
* `Effect`: the requests;
* `Activity`: programs of them, among them the program that takes a report in, the job that
  publishes, and the handlers of a rehearsal.
-/

namespace LockFleet.Rehearsal

/-! ### Results -/

/-- The result of a task. -/
inductive Outcome where
  /-- A task of which nothing is reported. -/
  | silent
  | published (r : Requested)
  | sent (r : Except CommandError Reply)
  /-- The identifier of a command that nobody waits for. -/
  | sentOff (r : Except CommandError String)
  | routed (o : RouteOutcome)
  /-- How many handlers finished and how many broke off. -/
  | delivered (finished brokenOff : Nat)
  | handled (r : Except HandlerError Unit)
  | wentOffline (r : Except HandlerError Bool)
  | checked (r : Except HandlerError Nat)
  /-- A periodic task has ended, in good order or because it broke off. -/
  | loopEnded (inOrder : Bool)
  deriving Repr

inductive TaskEnd where
  | finished (o : Outcome)
  | brokenOff (reason : String)
  /-- Its owner gave it up. -/
  | aborted
  deriving Repr

/-- Whether a task ran to its end. -/
def TaskEnd.isFinished : TaskEnd → Bool
  | finished _ => true
  | brokenOff _ => false
  | aborted => false

/-- What handlers write down. -/
inductive CallNote where
  | received (handler topic : String) (payload : Bytes)
  /-- A handler has passed the gate. -/
  | passed (handler topic : String)
  | decoded (m : Message)
  /-- A handler has overcome its stall. -/
  | stalled (device : String)

/-! ### Requests -/

/-- What an activity can ask for. -/
inductive Effect where
  | wait (s : Span)
  /-- The time that a request to the store takes. -/
  | storeDelay (q : StoreRequest)
  | store (q : StoreRequest)
  | clock
  | ack (a : Ack)
  /-- An identifier for a command that nobody waits for. -/
  | draw
  | note (c : CallNote)
  /-- Passes the gate when it is open. -/
  | pass
  /-- The time that publishing takes. -/
  | linkDelay
  | publish (q : PublishRequest)
  /-- Delivers a message and answers with the tasks that handle it. -/
  | deliver (topic : String) (payload : Bytes)
  /-- Waits for tasks to end. -/
  | join (tasks : List Nat)
  | breakOff (reason : String)

/-- The type of the answer to a request. -/
def Effect.Answer : Effect → Type
  | wait _ => Unit
  | storeDelay _ => Option Span
  | store q => Except StoreError q.Answer
  | clock => Moment
  | ack _ => Bool
  | draw => String
  | note _ => Unit
  | pass => Unit
  | linkDelay => Option Span
  | publish _ => Requested
  | deliver _ _ => List Nat
  | join _ => List TaskEnd
  | breakOff _ => Empty

/-- A program of requests to the world. -/
abbrev Activity (α : Type) := Program Effect Effect.Answer α

namespace Activity

/-! ### Single requests -/

def wait (s : Span) : Activity Unit := Program.ask (Effect.wait s)

/-- Waits, if there is something to wait for. -/
def waitFor : Option Span → Activity Unit
  | none => pure ()
  | some s => wait s

/-- Makes a request to the store after the time that it takes. -/
def store (q : StoreRequest) : Activity (Except StoreError q.Answer) := do
  let delay : Option Span ← Program.ask (Effect.storeDelay q)
  waitFor delay
  Program.ask (Effect.store q)

/-- Writes something down. -/
def note (c : CallNote) : Activity Unit := Program.ask (Effect.note c)

/-- Delivers a message and waits until it has been handled. -/
def deliverAndWait (topic : String) (payload : Bytes) : Activity Unit := do
  let tasks : List Nat ← Program.ask (Effect.deliver topic payload)
  let _ : List TaskEnd ← Program.ask (Effect.join tasks)
  return ()

/-- Does something several times. -/
def repeatedly : Nat → Activity Unit → Activity Unit
  | 0, _ => pure ()
  | n + 1, a => do
    a
    repeatedly n a

/-! ### Programs -/

/-- The request that stands for one of a program that takes reports in. -/
def ofReconcileRequest : (q : ReconcileRequest) → Activity q.Answer
  | .store q => store q
  | .clock => Program.ask Effect.clock
  | .ack a => Program.ask (Effect.ack a)

/-- A program that takes reports in, as an activity. -/
def ofReconcile {α : Type} (p : Reconcile α) : Activity α := p.expand ofReconcileRequest

/-- The job that publishes a message. -/
def publish (q : PublishRequest) : Activity Requested := do
  let delay : Option Span ← Program.ask Effect.linkDelay
  waitFor delay
  Program.ask (Effect.publish q)

/-- The job that publishes a message, as a task. -/
def publishJob (q : PublishRequest) : Activity Outcome := do
  return .published (← publish q)

/-- Publishes a command that nobody waits for. -/
def sendOff (device : String) (kind : CommandKind) (arguments : Arguments) : Activity Outcome := do
  let id : String ← Program.ask Effect.draw
  let now : Moment ← Program.ask Effect.clock
  let e : Envelope := ⟨id, kind, arguments, Int64.ofInt now.second⟩
  match ← publish ⟨kind.topic device, false, e.encode⟩ with
  | .ok _ => return .sentOff (.ok id)
  | .error e => return .sentOff (.error (.transport e))

/-- Waits for the handlers of messages and counts how they end. -/
def awaitHandlers (tasks : List Nat) : Activity Outcome := do
  let ends : List TaskEnd ← Program.ask (Effect.join tasks)
  let finished := ends.countP TaskEnd.isFinished
  return .delivered finished (ends.length - finished)

/-- Waits for a periodic task to end. -/
def awaitLoop (task : Nat) : Activity Outcome := do
  let ends : List TaskEnd ← Program.ask (Effect.join [task])
  return .loopEnded (ends.all TaskEnd.isFinished)

end Activity

/-! ### Handlers of a rehearsal -/

/-- What a recording handler does after it has written a message down. -/
inductive RecorderMode where
  | plain
  /-- Waits at the gate. -/
  | block
  | breakOff
  deriving DecidableEq, Repr

/-- The handlers that can be registered. -/
inductive Handler where
  | recorder (name : String) (mode : RecorderMode)
  /-- The router of the rehearsal. -/
  | router
  deriving DecidableEq, Repr

/-- The program of a recording handler. -/
def RecorderMode.run (mode : RecorderMode) (name topic : String) (payload : Bytes) :
    Activity Outcome := do
  Activity.note (.received name topic payload)
  match mode with
  | plain => return .silent
  | block =>
    let _ : Unit ← Program.ask Effect.pass
    Activity.note (.passed name topic)
    return .silent
  | breakOff => do
    let e : Empty ← Program.ask (Effect.breakOff "handler")
    nomatch e

/-- What a stub does in place of taking reports in. -/
structure Stub where
  fail : Option HandlerError
  stall : Option Span
  deriving Repr

/-- A stub that does nothing but write reports down. -/
def Stub.standard : Stub := ⟨none, none⟩

/-- The program of a stub. -/
def Stub.run (s : Stub) (m : Message) : Activity (Except HandlerError Unit) := do
  Activity.note (.decoded m)
  match s.stall with
  | none => pure ()
  | some span =>
    Activity.wait span
    Activity.note (.stalled m.device)
  match s.fail with
  | none => return .ok ()
  | some e => return .error e

/-! ### Devices that answer -/

/-- How devices answer the commands of a rehearsal. -/
structure Simulation where
  success : Bool
  message : String
  /-- Whether the outcome of locking and unlocking is reported as an event first. -/
  event : Bool
  /-- The only device that answers. -/
  only : Option String
  delay : Option Span
  /-- How many acknowledgements are sent. -/
  copies : Nat
  /-- Whether the acknowledgement is handed over at once, without a message. -/
  direct : Bool
  /-- The identifier to acknowledge in place of the command's own. -/
  command : Option String
  deriving DecidableEq, Repr

namespace Simulation

/-- The acknowledgement of a command. -/
def ack (s : Simulation) (e : Envelope) : Ack := ⟨s.command.getD e.id, s.success, s.message, 1⟩

/-- The event that follows a command. -/
def event? (s : Simulation) (e : Envelope) : Option EventReport :=
  if s.event then
    match e.kind with
    | .unlock => some ⟨1, "unlocked", none⟩
    | .lock => some ⟨1, "locked", none⟩
    | _ => none
  else none

/-- The program of a device that answers by messages. -/
def run (s : Simulation) (device : String) (e : Envelope) : Activity Outcome := do
  Activity.waitFor s.delay
  match s.event? e with
  | none => pure ()
  | some r =>
    Activity.deliverAndWait (Topic.report device ReportKind.event.name) (Json.inOrder r.members)
  Activity.repeatedly s.copies
    (Activity.deliverAndWait (Topic.report device ReportKind.ack.name)
      (Json.inOrder (s.ack e).members))
  return .silent

end Simulation

end LockFleet.Rehearsal
