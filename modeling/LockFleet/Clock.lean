import LockFleet.Calendar.Moment

/-!
# Clock, alarms and cancellation

Waiting is measured by a clock of whole milliseconds.  When a wait is over is up to the timer, which
is not described here beyond two laws; one that keeps a span ends a wait at the first millisecond at
which the span has passed.  A wait can also end because a token is cancelled: tokens form a tree,
and cancelling one cancels all below it.

* `Timer`, `Timer.Keeps`: when waits are over;
* `Alarm`, `Alarm.after`, `Alarm.isDue`;
* `Token`, `Token.child`, `Token.isCancelled`;
* `View`: what a task sees when it is polled.
-/

namespace LockFleet

/-! ### Timers -/

/-- What measures waits.  A wait is not over before it begins, and over at the latest when its span
has passed. -/
structure Timer where
  /-- The millisecond at which a wait of a span is over that begins at a time. -/
  due : Nat → Span → Nat
  le_due : ∀ now s, now ≤ due now s
  due_le : ∀ now s, due now s ≤ now + s.millisUp

namespace Timer

/-- No wait of the span that begins up to a time is over before the span has passed. -/
def Keeps (t : Timer) (s : Span) (present : Nat) : Prop :=
  ∀ now ≤ present, now + s.millisUp ≤ t.due now s

/-- The timer that keeps every span. -/
def precise : Timer where
  due now s := now + s.millisUp
  le_due _ _ := Nat.le_add_right _ _
  due_le _ _ := Nat.le_refl _

/-- The timer that keeps the spans of at most a number of milliseconds; a longer wait is over after
these. -/
def upTo (longest : Nat) : Timer where
  due now s := now + min s.millisUp longest
  le_due _ _ := Nat.le_add_right _ _
  due_le _ _ := Nat.add_le_add_left (Nat.min_le_left _ _) _

theorem Keeps.due_eq {t : Timer} {s : Span} {present now : Nat} (h : t.Keeps s present)
    (hnow : now ≤ present) : t.due now s = now + s.millisUp :=
  Nat.le_antisymm (t.due_le now s) (h now hnow)

/-- A wait of a span that is kept is over at the first millisecond at which the span has passed. -/
theorem Keeps.due_le_iff {t : Timer} {s : Span} {present now : Nat} (h : t.Keeps s present)
    (hnow : now ≤ present) (m : Nat) : t.due now s ≤ m ↔
      now * Span.nanosPerMilli + s.nanos ≤ m * Span.nanosPerMilli := by
  rw [h.due_eq hnow]
  simp only [Span.millisUp, Span.nanosPerMilli]
  omega

end Timer

/-! ### Alarms -/

/-- The end of a wait. -/
structure Alarm where
  /-- The millisecond at which the wait ends. -/
  due : Nat
  /-- Alarms that are due together go off in order of their stamps. -/
  stamp : Nat
  deriving DecidableEq, Repr

namespace Alarm

/-- Whether a span can be added to the clock. -/
def fitsClock (s : Span) : Bool := s.seconds < Nat.pow 2 63

/-- The alarm at the end of a span. -/
def after (timer : Timer) (now stamp : Nat) (s : Span) : Alarm := ⟨timer.due now s, stamp⟩

/-- Whether the wait is over. -/
def isDue (now : Nat) (a : Alarm) : Bool := a.due ≤ now

/-- Whether an alarm goes off before another. -/
def goesBefore (a b : Alarm) : Bool := a.due < b.due || (a.due = b.due && a.stamp ≤ b.stamp)

end Alarm

/-! ### Tokens -/

/-- A token of cancellation: its own number and those of the tokens above it. -/
structure Token where
  path : List Nat
  deriving DecidableEq, Repr, Inhabited

namespace Token

/-- A token under no other. -/
def root (n : Nat) : Token := ⟨[n]⟩

/-- A token under another. -/
def child (t : Token) (n : Nat) : Token := ⟨n :: t.path⟩

/-- Whether the token or one above it has been cancelled. -/
def isCancelled (cancelled : List Nat) (t : Token) : Bool := t.path.any fun n => n ∈ cancelled

/-- The cancelled numbers after the token has been cancelled as well. -/
def cancel (cancelled : List Nat) (t : Token) : List Nat :=
  match t.path with
  | [] => cancelled
  | n :: _ => n :: cancelled

theorem mem_cancel (t : Token) {cancelled : List Nat} {n : Nat} (hn : n ∈ cancelled) :
    n ∈ t.cancel cancelled := by
  rw [cancel]
  split
  · exact hn
  · exact List.mem_cons_of_mem _ hn

/-- A token stays cancelled while more tokens are cancelled. -/
theorem isCancelled_of_subset {t : Token} {cancelled cancelled' : List Nat}
    (h : ∀ n ∈ cancelled, n ∈ cancelled') (ht : t.isCancelled cancelled = true) :
    t.isCancelled cancelled' = true := by
  rw [isCancelled, List.any_eq_true] at ht ⊢
  obtain ⟨n, hn, hmem⟩ := ht
  exact ⟨n, hn, decide_eq_true (h n (of_decide_eq_true hmem))⟩

/-- Cancelling a token cancels those with its number in their paths. -/
theorem isCancelled_cancel {t token : Token} {n : Nat} (ht : t.path.head? = some n)
    (cancelled : List Nat) : token.isCancelled (t.cancel cancelled) = true ↔
      n ∈ token.path ∨ token.isCancelled cancelled = true := by
  have hcancel : t.cancel cancelled = n :: cancelled := by
    obtain ⟨path⟩ := t
    cases path with
    | nil => cases ht
    | cons m rest =>
      obtain rfl : m = n := Option.some.inj ht
      rfl
  rw [hcancel, isCancelled, isCancelled, List.any_eq_true, List.any_eq_true]
  constructor
  · rintro ⟨k, hk, hmem⟩
    rcases List.mem_cons.1 (of_decide_eq_true hmem) with rfl | hmem
    · exact Or.inl hk
    · exact Or.inr ⟨k, hk, decide_eq_true hmem⟩
  · rintro (hn | ⟨k, hk, hmem⟩)
    · exact ⟨n, hn, decide_eq_true List.mem_cons_self⟩
    · exact ⟨k, hk, decide_eq_true (List.mem_cons_of_mem _ (of_decide_eq_true hmem))⟩

end Token

/-! ### Views -/

/-- What a task sees of its surroundings when it is polled. -/
structure View where
  /-- The clock, in milliseconds. -/
  now : Nat
  /-- The number of this poll. -/
  stamp : Nat
  /-- The numbers of cancelled tokens. -/
  cancelled : List Nat
  /-- The time on the wall. -/
  wall : Moment
  deriving Repr

namespace View

/-- The alarm at the end of a span from now on. -/
def alarm (v : View) (timer : Timer) (s : Span) : Alarm := Alarm.after timer v.now v.stamp s

def isDue (v : View) (a : Alarm) : Bool := a.isDue v.now

def isCancelled (v : View) (t : Token) : Bool := t.isCancelled v.cancelled

end View

end LockFleet
