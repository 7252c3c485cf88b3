import LockFleet.Broker.Link
import LockFleet.Text.Quoted

/-!
# Publishing that can be abandoned

A message is published by a job of its own, and the caller waits for the job or for the cancellation
of a token.  An abandoned job goes on and its outcome is lost.

* `PublishRequest`: what a job publishes;
* `JobEnd`: how a job ends;
* `Guarded`, `Guarded.poll`: the caller's side.
-/

namespace LockFleet

/-- What is to be published, with the quality that the connection is set to. -/
structure PublishRequest where
  topic : String
  retain : Bool
  payload : Bytes
  deriving DecidableEq, Repr

/-- The message of a request. -/
def PublishRequest.outgoing (q : PublishRequest) (quality : Quality) : Outgoing :=
  ⟨q.topic, quality, q.retain, q.payload⟩

inductive JobEnd where
  | finished (r : Requested)
  /-- The job broke off. -/
  | brokenOff (reason : String)
  deriving Repr

/-- The report of a job that broke off: its number and its last words. -/
def breakReport (job : Nat) (reason : String) : String :=
  s!"task {job} panicked with message {Text.quoted reason}"

/-- What the caller of a job that publishes on a topic learns.  A job that broke off counts as a
failure to publish. -/
def JobEnd.requested (topic : String) (job : Nat) : JobEnd → Requested
  | finished r => r
  | brokenOff reason => .error (.publish topic (breakReport job reason))

/-- Where the caller of a job stands. -/
inductive Guarded where
  | fresh
  | running (job : Nat)
  | ended (r : Requested)
  deriving Repr

namespace Guarded

/-- Polls the caller.  Cancellation is looked at first.  Answers whether a job is to be started,
which then has the number `next`. -/
def poll (topic : String) (cancelled : Bool) (jobs : Nat → Option JobEnd) (next : Nat) :
    Guarded → Guarded × Bool
  | fresh => if cancelled then (ended (.error .cancelled), false) else (running next, true)
  | running job =>
    if cancelled then (ended (.error .cancelled), false)
    else
      match jobs job with
      | some e => (ended (e.requested topic job), false)
      | none => (running job, false)
  | ended r => (ended r, false)

/-- Whether polling the caller gets it any further. -/
def isReady (cancelled : Bool) (jobs : Nat → Option JobEnd) : Guarded → Bool
  | fresh => true
  | running job => cancelled || (jobs job).isSome
  | ended _ => false

end Guarded

end LockFleet
