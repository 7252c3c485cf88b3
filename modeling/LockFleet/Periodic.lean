import LockFleet.Clock

/-!
# Periodic tasks

A periodic task does its work each time its period has passed, first one period after its start,
until its token is cancelled.  A period of no time cannot be kept, nor one that cannot be added to
the clock: the task breaks off at its start.

* `Ticker`: when the work is due next;
* `Periodic`, `Periodic.poll`: the life of a periodic task, whatever its work.
-/

namespace LockFleet

/-! ### Tickers -/

/-- When work is due next. -/
structure Ticker where
  /-- The next time, in nanoseconds of the clock. -/
  next : Nat
  period : Span
  deriving DecidableEq, Repr

namespace Ticker

/-- The ticker that starts now, if its period can be kept. -/
def start? (now : Nat) (period : Span) : Option Ticker :=
  if period.nanos = 0 ∨ ¬ Alarm.fitsClock period then none
  else some ⟨now * Span.nanosPerMilli + period.nanos, period⟩

/-- The alarm of the next tick. -/
def alarm (t : Ticker) (stamp : Nat) : Alarm :=
  ⟨(t.next + (Span.nanosPerMilli - 1)) / Span.nanosPerMilli, stamp⟩

/-- By how much a tick may be late without moving the ones after it. -/
def tolerance : Nat := 5 * Span.nanosPerMilli

/-- The ticker after a tick: the next one is a period later, counted from this one's time, or from
now if this one is late. -/
def advance (t : Ticker) (now : Nat) : Ticker :=
  let time := now * Span.nanosPerMilli
  if t.next + tolerance < time then { t with next := time + t.period.nanos }
  else { t with next := t.next + t.period.nanos }

end Ticker

/-! ### The life of a periodic task -/

/-- Where a periodic task stands; `σ` is the state of its work. -/
inductive Periodic (σ : Type) where
  | fresh (period : Span)
  | idle (t : Ticker) (alarm : Alarm)
  | busy (t : Ticker) (work : σ)
  | ended
  /-- The period could not be kept. -/
  | brokenOff
  deriving Repr

namespace Periodic

variable {σ W : Type}

/-- Waits for the next tick. -/
def rest (v : View) (t : Ticker) : Periodic σ := idle t (t.alarm v.stamp)

/-- Goes on working; when the work is done, waits for the next tick. -/
def work (v : View) (step : σ → W → Option σ × W) (t : Ticker) (s : σ) (w : W) : Periodic σ × W :=
  match step s w with
  | (some s, w) => (busy t s, w)
  | (none, w) => (rest v t, w)

/-- Polls a periodic task.  Cancellation is looked at between two pieces of work. -/
def poll (v : View) (token : Token) (begin : σ) (step : σ → W → Option σ × W) :
    Periodic σ → W → Periodic σ × W
  | fresh period, w =>
    match Ticker.start? v.now period with
    | none => (brokenOff, w)
    | some t => if v.isCancelled token then (ended, w) else (rest v t, w)
  | idle t alarm, w =>
    if v.isCancelled token then (ended, w)
    else if v.isDue alarm then work v step (t.advance v.now) begin w
    else (idle t alarm, w)
  | busy t s, w => work v step t s w
  | ended, w => (ended, w)
  | brokenOff, w => (brokenOff, w)

/-- Whether polling the task gets it any further. -/
def isReady (v : View) (token : Token) (workReady : σ → Bool) : Periodic σ → Bool
  | fresh _ => true
  | idle _ alarm => v.isCancelled token || v.isDue alarm
  | busy _ s => workReady s
  | ended => false
  | brokenOff => false

end Periodic

end LockFleet
