import LockFleet.Span

/-!
# Moments

A moment is an instant of the wall clock in Coordinated Universal Time: the second since the start
of 1970 and the nanoseconds within it.  A leap second is written as nanoseconds beyond the last
second of its minute.  Moments reach from the year -262143 to the year 262142.

* `Moment`, `Moment.earliest`, `Moment.latest`;
* the order of moments: by second, then by nanosecond;
* `Moment.shift`: the moment some nanoseconds away, within the range;
* `Moment.before`: the moment a span earlier.
-/

namespace LockFleet

/-- An instant of the wall clock. -/
structure Moment where
  second : Int
  nano : Nat
  nano_lt : nano < 2000000000
  lower : -8334601228800 ≤ second
  upper : second ≤ 8210266876799
  deriving DecidableEq, Repr

namespace Moment

/-- The start of the year -262143. -/
def earliest : Moment := ⟨-8334601228800, 0, by decide, by decide, by decide⟩

/-- The last nanosecond of the year 262142. -/
def latest : Moment := ⟨8210266876799, 999999999, by decide, by decide, by decide⟩

/-- The start of 1970. -/
def epoch : Moment := ⟨0, 0, by decide, by decide, by decide⟩

instance : Inhabited Moment := ⟨epoch⟩

/-- The moment of a second and its nanoseconds, if it is within the range. -/
def at? (second : Int) (nano : Nat) : Option Moment :=
  if h : nano < 2000000000 ∧ -8334601228800 ≤ second ∧ second ≤ 8210266876799 then
    some ⟨second, nano, h.1, h.2.1, h.2.2⟩
  else none

/-- One moment is earlier than another. -/
instance : LT Moment := ⟨fun a b => a.second < b.second ∨ (a.second = b.second ∧ a.nano < b.nano)⟩

instance (a b : Moment) : Decidable (a < b) :=
  inferInstanceAs (Decidable (a.second < b.second ∨ (a.second = b.second ∧ a.nano < b.nano)))

theorem lt_def {a b : Moment} :
    a < b ↔ a.second < b.second ∨ (a.second = b.second ∧ a.nano < b.nano) := Iff.rfl

/-- The nanoseconds since the start of 1970. -/
def total (m : Moment) : Int := m.second * 1000000000 + m.nano

/-- The moment so many nanoseconds after the start of 1970, or the nearest one within the range. -/
def ofTotal (nanos : Int) : Moment :=
  match at? (nanos / 1000000000) (nanos % 1000000000).toNat with
  | some m => m
  | none => if nanos < 0 then earliest else latest

/-- The moment so many nanoseconds later. -/
def shift (m : Moment) (nanos : Int) : Moment := ofTotal (m.total + nanos)

/-- The moment a span earlier, or the earliest moment. -/
def before (m : Moment) (s : Span) : Moment := m.shift (-(s.nanos : Int))

end Moment

end LockFleet
