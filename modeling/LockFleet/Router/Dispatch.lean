import LockFleet.Clock
import LockFleet.Report.Decode
import LockFleet.Failure
import LockFleet.Text.Description

/-!
# Dispatching reports

A report that arrives is decoded and given to a handler, which has a limited time and is abandoned
when routing stops.  At each poll the token is looked at first, then the handler goes on, then the
time is looked at: a result that is there at the last moment counts.

* `RouterTiming`, `RouterClock`;
* `RouteOutcome`: what becomes of a report;
* `Dispatch`, `Dispatch.poll`: the life of a dispatch, whatever its handler.
-/

namespace LockFleet

/-- The time a handler has. -/
structure RouterTiming where
  dispatchTimeout : Span
  deriving DecidableEq, Repr

/-- Five seconds. -/
def RouterTiming.standard : RouterTiming := ⟨Span.ofSeconds 5⟩

/-- The timing as a text. -/
def RouterTiming.describe (t : RouterTiming) : String :=
  Description.record "RouterConfig" [("dispatch_timeout", t.dispatchTimeout.text)]

/-- The time a handler has, and the timer that measures it. -/
structure RouterClock extends RouterTiming where
  timer : Timer

/-- The standard time, kept. -/
def RouterClock.standard : RouterClock := ⟨RouterTiming.standard, Timer.precise⟩

/-- What becomes of a report. -/
inductive RouteOutcome where
  /-- The handler took it. -/
  | dispatched
  /-- It cannot be decoded. -/
  | dropped
  /-- The handler failed. -/
  | failed
  /-- The handler took too long. -/
  | timedOut
  /-- Routing stopped. -/
  | cancelled
  deriving DecidableEq, Repr

namespace RouteOutcome

def name : RouteOutcome → String
  | dispatched => "Dispatched"
  | dropped => "Dropped"
  | failed => "Failed"
  | timedOut => "TimedOut"
  | cancelled => "Cancelled"

/-- The outcome of a handler's result. -/
def ofResult : Except HandlerError Unit → RouteOutcome
  | .ok _ => dispatched
  | .error _ => failed

end RouteOutcome

/-- Where a dispatch stands; `σ` is the state of its handler. -/
inductive Dispatch (σ : Type) where
  | fresh (topic : String) (payload : Bytes)
  | running (token : Token) (alarm : Alarm) (handler : σ)
  | ended (outcome : RouteOutcome)
  deriving Repr

namespace Dispatch

variable {σ W : Type}

/-- What the poll of a handler leads to: a new state or a result, and the changed surroundings. -/
abbrev Step (σ W : Type) := σ → W → (σ ⊕ Except HandlerError Unit) × W

/-- Polls a handler that runs. -/
def proceed (v : View) (step : Step σ W) (token : Token) (alarm : Alarm) (handler : σ) (w : W) :
    Dispatch σ × W :=
  if v.isCancelled token then (ended .cancelled, w)
  else
    match step handler w with
    | (.inr result, w) => (ended (RouteOutcome.ofResult result), w)
    | (.inl handler, w) =>
      if v.isDue alarm then (ended .timedOut, w) else (running token alarm handler, w)

/-- Begins a dispatch under the token that is current. -/
def begin (v : View) (timing : RouterClock) (current : Token) (start : Message → σ)
    (step : Step σ W) (topic : String) (payload : Bytes) (w : W) : Dispatch σ × W :=
  match Message.decode topic payload with
  | .error _ => (ended .dropped, w)
  | .ok m => proceed v step current (v.alarm timing.timer timing.dispatchTimeout) (start m) w

/-- Polls a dispatch. -/
def poll (v : View) (timing : RouterClock) (current : Token) (start : Message → σ)
    (step : Step σ W) : Dispatch σ → W → Dispatch σ × W
  | fresh topic payload, w => begin v timing current start step topic payload w
  | running token alarm handler, w => proceed v step token alarm handler w
  | ended outcome, w => (ended outcome, w)

/-- Whether polling the dispatch gets it any further. -/
def isReady (v : View) (handlerReady : σ → Bool) : Dispatch σ → Bool
  | fresh _ _ => true
  | running token alarm handler =>
    v.isCancelled token || handlerReady handler || v.isDue alarm
  | ended _ => false

end Dispatch

end LockFleet
