import LockFleet.Broker.Publishing
import LockFleet.Clock
import LockFleet.Command.Desk

/-!
# Sending a command and waiting

A sender makes an entry at the desk, has the envelope published, and waits for the acknowledgement.
At each poll it looks first whether its token is cancelled, then whether there is news in its
channel, then whether its time is over.  However it ends, its entry goes with it.

* `SendCall`: what is sent;
* `SendStage`, `SendStage.poll`: the life of a sender;
* `SendStage.abandon`: what happens when a sender is given up by its owner.
-/

namespace LockFleet

/-- A command to send and to wait for. -/
structure SendCall where
  token : Token
  device : String
  kind : CommandKind
  arguments : Arguments

/-- The publishing of an envelope. -/
def SendCall.publishing (c : SendCall) (id : String) (timestamp : Int64) : PublishRequest :=
  ⟨c.kind.topic c.device, false, (Envelope.mk id c.kind c.arguments timestamp).encode⟩

/-- Where a sender stands. -/
inductive SendStage where
  | fresh
  | publishing (r : Registration) (g : Guarded)
  | waiting (r : Registration) (alarm : Alarm)
  | ended (result : Except CommandError Reply)
  deriving Repr

/-- What the poll of a sender leads to. -/
structure Sent where
  stage : SendStage
  desk : Desk
  /-- A message for which a job is to be started. -/
  job : Option PublishRequest

/-- What a sender sees: the surroundings, the jobs that have ended, the number that a new job would
get, and the identifiers that it would draw, one after another. -/
structure SendView where
  view : View
  jobs : Nat → Option JobEnd
  nextJob : Nat
  draws : Nat → String

/-- The milliseconds of a timeout as they are reported: at most what 64 bits hold. -/
def reportedMillis (s : Span) : Nat := min s.millis (UInt64.size - 1)

namespace SendStage

/-- Ends with a result; the entry is removed. -/
def finish (d : Desk) (r : Registration) (result : Except CommandError Reply) : Sent :=
  ⟨ended result, d.close r, none⟩

/-- Waits for the acknowledgement. -/
def await (c : SendCall) (v : View) (d : Desk) (r : Registration) (alarm : Alarm) : Sent :=
  if v.isCancelled c.token then finish d r (.error (.cancelled r.id))
  else
    match d.receive r with
    | .acknowledged a => finish d r (.ok (Reply.ofAck a))
    | .dropped => finish d r (.error (.expired r.id))
    | .waiting =>
      if v.isDue alarm then
        finish d r (.error (.timeout r.id (reportedMillis d.timing.ackTimeout)))
      else ⟨waiting r alarm, d, none⟩

/-- Goes on after the publishing was polled. -/
def afterPublishing (c : SendCall) (v : View) (d : Desk) (r : Registration) (g : Guarded)
    (job : Option PublishRequest) : Sent :=
  match g with
  | .ended (.ok _) => await c v d r (v.alarm d.timing.timer d.timing.ackTimeout)
  | .ended (.error .cancelled) => finish d r (.error (.cancelled r.id))
  | .ended (.error e) => finish d r (.error (.transport e))
  | g => ⟨publishing r g, d, job⟩

/-- The seconds of the wall clock. -/
def timestamp (v : View) : Int64 := Int64.ofInt v.wall.second

/-- Polls the publishing. -/
def publish (c : SendCall) (s : SendView) (d : Desk) (r : Registration) (g : Guarded) : Sent :=
  let topic := c.kind.topic c.device
  let (g, start) := g.poll topic (s.view.isCancelled c.token) s.jobs s.nextJob
  afterPublishing c s.view d r g
    (if start then some (c.publishing r.id (timestamp s.view)) else none)

def poll (c : SendCall) (s : SendView) (d : Desk) : SendStage → Sent
  | fresh =>
    let (r, d) := d.register s.view.now c.device c.kind s.draws
    publish c s d r .fresh
  | publishing r g => publish c s d r g
  | waiting r alarm => await c s.view d r alarm
  | ended result => ⟨ended result, d, none⟩

/-- The desk after a sender has been given up. -/
def abandon (d : Desk) : SendStage → Desk
  | fresh => d
  | publishing r _ => d.close r
  | waiting r _ => d.close r
  | ended _ => d

/-- Whether polling the sender gets it any further. -/
def isReady (c : SendCall) (s : SendView) (d : Desk) : SendStage → Bool
  | fresh => true
  | publishing _ g => g.isReady (s.view.isCancelled c.token) s.jobs
  | waiting r alarm =>
    s.view.isCancelled c.token || d.receive r ≠ .waiting || s.view.isDue alarm
  | ended _ => false

/-- The alarm that a sender waits for. -/
def alarm? : SendStage → Option Alarm
  | waiting _ alarm => some alarm
  | _ => none

end SendStage

end LockFleet
