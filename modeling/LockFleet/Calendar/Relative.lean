import LockFleet.Calendar.Moment

/-!
# Moments seen from a start

In an observation, moments are told relative to its start: one that was given as so many seconds
before the start is named that way, and one that was stamped since the start is just now.

* `Reference`, `Reference.ago`: the start, what was given relative to it, and the present;
* `Seen`, `Reference.view`.
-/

namespace LockFleet

/-- What moments are told relative to. -/
structure Reference where
  start : Moment
  /-- The numbers of seconds before the start that were given. -/
  given : List Int
  /-- The present. -/
  now : Moment

/-- How a moment is told. -/
inductive Seen where
  /-- So many seconds before the start; after it if negative. -/
  | ago (seconds : Int)
  /-- Since the start. -/
  | now
  /-- Anything else. -/
  | fixed (m : Moment)
  deriving DecidableEq, Repr

namespace Reference

/-- The moment so many seconds before the start. -/
def ago (r : Reference) (seconds : Int) : Moment := r.start.shift (-(seconds * 1000000000))

/-- How a moment is told. -/
def view (r : Reference) (m : Moment) : Seen :=
  match r.given.find? fun n => r.ago n = m with
  | some n => .ago n
  | none => if ¬ m < r.start ∧ ¬ r.now < m then .now else .fixed m

end Reference

end LockFleet
