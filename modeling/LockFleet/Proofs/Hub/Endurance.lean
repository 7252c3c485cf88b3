import LockFleet.Proofs.Hub.Starting
import LockFleet.Proofs.Rhythm
import LockFleet.Proofs.Router.Routing

/-!
# How long the periodic tasks of a hub last

A periodic task of a hub goes on until its token is cancelled, if its period can be kept: it waits
for less than a period at a time, and if it is polled in time and its work is done at once, it works
once for each period that has passed.  A period of no time cannot be kept, nor one that is too long
for the clock.  With such a period a task breaks off at its first poll and never works at all; the
settings do not refuse it, and so a hub may be started whose desk is never swept.  In the same way
nothing refuses settings for more handlers than a connection can be set up for.

* `Service.begins`, `Service.counts` — the polls that begin the work of a periodic task or start it;
* `Service.routine_step`, `Service.now_step` — what an event does to a periodic task and to the clock;
* `Service.Steady`, `Service.OnTime` — what a run keeps of a task whose period can be kept;
* `Service.Endures`, `Service.BreaksOff` — a task that goes on until it is cancelled, and one that
  never works;
* `Service.settings_fare` — which of the two becomes of the periodic tasks of a hub.
-/

namespace LockFleet

/-! ### Polls of dispatches -/

namespace Dispatch

variable {σ W : Type} {v : View} {timing : RouterClock} {current : Token} {start : Message → σ}
  {turn : Step σ W} {d : Dispatch σ} {w : W}

/-- What dispatches work on is changed by their handlers only. -/
theorem world_of_poll {P : W → Prop} (hw : P w) (hturn : ∀ handler, P (turn handler w).2) :
    P (d.poll v timing current start turn w).2 := by
  have hproceed : ∀ token alarm handler, P (proceed v turn token alarm handler w).2 := by
    intro token alarm handler
    rw [proceed_world]
    split
    · exact hw
    · exact hturn handler
  cases d with
  | fresh topic payload =>
    rw [poll, begin]
    split
    · exact hw
    · exact hproceed _ _ _
  | running token alarm handler => exact hproceed token alarm handler
  | ended outcome => exact hw

end Dispatch

/-- A connection is opened for as many handlers as there can be. -/
theorem Broker.isSome_open? {H : Type} (settings : Settings) :
    (Broker.open? settings : Option (Broker H)).isSome = true ↔
      settings.maxInFlight ≤ Broker.maxPermits := by
  have hcapacity : settings.capacity ≤ Broker.maxPermits ↔
      settings.maxInFlight ≤ Broker.maxPermits :=
    Nat.max_le.trans ⟨And.right, fun h => ⟨by decide, h⟩⟩
  rw [Broker.open?, ← hcapacity]
  split
  · next h => exact ⟨fun _ => h, fun _ => rfl⟩
  · next h => exact ⟨nofun, fun hle => absurd hle h⟩

namespace Hub

variable {H S : Type}

/-- Where a periodic task of a hub stands. -/
abbrev Stage := Periodic (Reconcile (Except HandlerError Unit))

namespace Service

variable {L : Type} {s : Equipment H S} {x x₀ : Service H L S} {n : Nat} {token : Token}
  {chore : Rehearsal.Chore} {period : Span} {p : Stage} {wall : Moment} {k : Nat} {heeds : Bool}

/-- The clock of the hub. -/
def now (s : Equipment H S) (x : Service H L S) : Nat := (x.working.exchange s).now

/-- Whether a token has been cancelled. -/
def isCancelled (s : Equipment H S) (x : Service H L S) (t : Token) : Bool :=
  t.isCancelled (x.working.exchange s).cancelled

/-! ### Polls of periodic tasks -/

/-- What a periodic task sees at a poll; it may look at its ticker without looking at its token. -/
def seen (s : Equipment H S) (x : Service H L S) (wall : Moment) (heeds : Bool) : View :=
  let v := (x.working.exchange s).view wall
  if heeds then v else { v with cancelled := [] }

/-- What the poll of a periodic task leads to. -/
def polled (s : Equipment H S) (x : Service H L S) (wall : Moment) (k : Nat) (heeds : Bool)
    (token : Token) (chore : Rehearsal.Chore) (p : Stage) : Stage × Bench S :=
  p.poll (x.seen s wall heeds) token (Bench.beginChore chore) (Bench.turnChore s wall k chore)
    x.working.bench

theorem now_seen (s : Equipment H S) (x : Service H L S) (wall : Moment) (heeds : Bool) :
    (x.seen s wall heeds).now = x.now s := by
  rw [seen]
  cases heeds <;> rfl

theorem isCancelled_seen (h : x.isCancelled s token = false) :
    (x.seen s wall heeds).isCancelled token = false := by
  rw [seen]
  cases heeds with
  | true => exact h
  | false => exact List.any_eq_false.2 fun m _ => by simp

/-- The event is a poll of a periodic task, and one of a kind. -/
def pollIs (kind : View → Token → Stage → Bool) (s : Equipment H S) (n : Nat)
    (x : Service H L S) : Event H L S → Bool
  | .tend m wall _ heeds => m = n &&
      x.routines[n]?.any fun r => kind (x.seen s wall heeds) r.token r.stage
  | _ => false

/-- The event begins the work of a periodic task. -/
def begins (s : Equipment H S) (n : Nat) : Service H L S → Event H L S → Bool :=
  pollIs Periodic.begins s n

/-- The event starts a periodic task or begins its work. -/
def counts (s : Equipment H S) (n : Nat) : Service H L S → Event H L S → Bool :=
  pollIs Periodic.counts s n

variable {kind : View → Token → Stage → Bool}

theorem pollIs_tend (hr : x.routines[n]? = some ⟨token, chore, p⟩) :
    pollIs kind s n x (.tend n wall k heeds) = kind (x.seen s wall heeds) token p := by
  rw [pollIs, hr, decide_eq_true rfl]
  rfl

/-- A poll of a kind is a poll of a task that is there. -/
theorem exists_of_pollIs {e : Event H L S} (h : pollIs kind s n x e = true) :
    ∃ wall k heeds r, e = .tend n wall k heeds ∧ x.routines[n]? = some r ∧
      kind (x.seen s wall heeds) r.token r.stage = true := by
  cases e with
  | tend m wall k heeds =>
    rw [pollIs, Bool.and_eq_true, Option.any_eq_true] at h
    obtain ⟨hm, r, hr, hkind⟩ := h
    obtain rfl := of_decide_eq_true hm
    exact ⟨wall, k, heeds, r, rfl, hr, hkind⟩
  | _ => cases h

theorem pollIs_of_ne {e : Event H L S} (he : ∀ wall k heeds, e ≠ .tend n wall k heeds) :
    pollIs kind s n x e = false := by
  refine Bool.eq_false_iff.2 fun h => ?_
  obtain ⟨wall, k, heeds, -, rfl, -⟩ := exists_of_pollIs h
  exact he wall k heeds rfl

variable [Link L] [DecidableEq H]

/-- A poll of a periodic task that is there. -/
theorem step_tend (hr : x.routines[n]? = some ⟨token, chore, p⟩) (s : Equipment H S) (wall : Moment)
    (k : Nat) (heeds : Bool) :
    (x.step s (.tend n wall k heeds)).routines[n]? =
        some ⟨token, chore, (x.polled s wall k heeds token chore p).1⟩ ∧
      (x.step s (.tend n wall k heeds)).working.bench =
        (x.polled s wall k heeds token chore p).2 := by
  rw [step, hr]
  exact ⟨List.getElem?_set_self (List.getElem?_eq_some_iff.1 hr).1, rfl⟩

/-- **All that an event can do to a periodic task**: it is a poll of the task, or the task stays as
it is. -/
theorem routine_step (hr : x.routines[n]? = some ⟨token, chore, p⟩) (s : Equipment H S)
    (e : Event H L S) :
    (∃ wall k heeds, e = .tend n wall k heeds ∧ (x.step s e).routines[n]? =
        some ⟨token, chore, (x.polled s wall k heeds token chore p).1⟩) ∨
      ((∀ wall k heeds, e ≠ .tend n wall k heeds) ∧
        (x.step s e).routines[n]? = some ⟨token, chore, p⟩) := by
  cases e with
  | tend m wall k heeds =>
    by_cases hm : m = n
    · subst hm
      exact Or.inl ⟨wall, k, heeds, rfl, (step_tend hr s wall k heeds).1⟩
    · refine Or.inr ⟨fun wall' k' heeds' heq => ?_, ?_⟩
      · cases heq
        exact hm rfl
      · rw [step]
        split
        · exact (List.getElem?_set_ne hm).trans hr
        · exact hr
  | shutDown =>
    refine Or.inr ⟨by rintro wall k heeds ⟨⟩, ?_⟩
    rw [(spares_shutDown s x).routines]
    exact hr
  | proceed =>
    refine Or.inr ⟨by rintro wall k heeds ⟨⟩, ?_⟩
    show x.proceed.routines[n]? = _
    rw [x.proceeds.spares.routines]
    exact hr
  | _ => exact Or.inr ⟨by rintro wall k heeds ⟨⟩, hr⟩

/-! ### The clock and the tokens -/

omit [DecidableEq H] in
theorem Proceeds.instant {y : Service H L S} (h : Proceeds x y) :
    x.working.bench.Instant y.working.bench := by
  cases h with
  | stops hk hr => exact Bench.instant_snoc rfl (by simp)
  | _ => exact Bench.instant_of_past rfl

/-- **No event takes time**, but the passing of time. -/
theorem instant_step (s : Equipment H S) (x : Service H L S) (e : Event H L S) :
    x.working.bench.Instant (x.step s e).working.bench ∨ ∃ millis, e = .desk (.pass millis) := by
  cases e with
  | desk e =>
    by_cases hpass : ∃ millis, e = .pass millis
    · obtain ⟨millis, rfl⟩ := hpass
      exact Or.inr ⟨millis, rfl⟩
    · exact Or.inl (Bench.instant_snoc rfl fun millis heq => hpass ⟨millis, heq⟩)
  | shutDown =>
    left
    rw [step]
    split
    · exact Bench.instant_snoc rfl (by simp)
    · exact x.working.bench.instant_refl
  | proceed => exact Or.inl x.proceeds.instant
  | attend m wall k =>
    left
    rw [step, Working.step]
    split
    · exact Dispatch.world_of_poll x.working.bench.instant_refl fun handler =>
        Bench.instant_turn s wall k handler _
    · exact x.working.bench.instant_refl
  | tend m wall k heeds =>
    left
    rw [step]
    split
    · next r _ => exact instant_tend s x m wall k heeds r
    · exact x.working.bench.instant_refl
  | _ => exact Or.inl (Bench.instant_of_past rfl)

/-- The clock goes on by what passes. -/
theorem now_step (s : Equipment H S) (x : Service H L S) (e : Event H L S) :
    (x.step s e).now s = x.now s ∨
      ∃ millis, e = .desk (.pass millis) ∧ (x.step s e).now s = x.now s + millis := by
  rcases x.instant_step s e with ⟨more, hmore, hpass⟩ | ⟨millis, rfl⟩
  · left
    rw [now, Working.exchange, hmore, Exchange.now_append hpass]
    rfl
  · refine Or.inr ⟨millis, rfl, ?_⟩
    show (Exchange.play s.desk (x.working.bench.past ++ [.pass millis])).now = _
    rw [Exchange.play_snoc]
    rfl

/-- A token that has been cancelled stays so. -/
theorem isCancelled_step (h : x.isCancelled s token = true) (e : Event H L S) :
    (x.step s e).isCancelled s token = true := by
  rcases x.instant_step s e with ⟨more, hmore, -⟩ | ⟨millis, rfl⟩
  · rw [isCancelled, Working.exchange, hmore]
    exact Exchange.isCancelled_append h more
  · exact Exchange.isCancelled_append h [.pass millis]

/-! ### Tasks that go on -/

/-- How a periodic task stands whose token has not been cancelled. -/
inductive Stands (s : Equipment H S) (x₀ : Service H L S) (n : Nat) (period : Span)
    (es : List (Event H L S)) : Stage → Prop where
  /-- It has not been polled yet. -/
  | fresh : Stands s x₀ n period es (.fresh period)
  /-- Its work is in progress. -/
  | works (t : Ticker) (work : Reconcile (Except HandlerError Unit)) :
    Stands s x₀ n period es (.busy t work)
  /-- It waits, and it was started or its work was begun less than a period ago. -/
  | waits (t : Ticker) (alarm : Alarm) {pre : List (Event H L S)} {e : Event H L S}
    (occurs : Run.Occurs es pre e) (counts : counts s n (play s x₀ pre) e = true)
    (recent : (play s x₀ es).now s * Span.nanosPerMilli <
      (play s x₀ pre).now s * Span.nanosPerMilli + period.nanos) :
    Stands s x₀ n period es (.idle t alarm)
  /-- Its work begins at its next poll. -/
  | isDue (t : Ticker) (alarm : Alarm)
    (begins : ∀ wall k heeds, begins s n (play s x₀ es) (.tend n wall k heeds) = true) :
    Stands s x₀ n period es (.idle t alarm)

/-- What holds of a periodic task whose period can be kept, at every point of a run. -/
structure Steady (s : Equipment H S) (x₀ : Service H L S) (n : Nat) (token : Token) (period : Span)
    (es : List (Event H L S)) (p : Stage) : Prop where
  /-- Its next tick is at most a period away from the last poll that counts. -/
  paced : ∃ since, p.Paced period since ∧ (p = .fresh period ∨ ∃ pre e, Run.Occurs es pre e ∧
    counts s n (play s x₀ pre) e = true ∧ (play s x₀ pre).now s = since)
  cancelled : p = .ended → (play s x₀ es).isCancelled s token = true

namespace Steady

variable {es : List (Event H L S)}

/-- A periodic task that is not polled stays steady. -/
theorem rests (h : Steady s x₀ n token period es p) (e : Event H L S) :
    Steady s x₀ n token period (es ++ [e]) p where
  paced := by
    obtain ⟨since, hpaced, hsince⟩ := h.paced
    refine ⟨since, hpaced, hsince.imp_right ?_⟩
    rintro ⟨pre, e', hoccurs, hrest⟩
    exact ⟨pre, e', Run.occurs_snoc.2 (Or.inl hoccurs), hrest⟩
  cancelled hended := by
    rw [play_snoc]
    exact isCancelled_step (h.cancelled hended) e

/-- **A poll keeps a periodic task steady.** -/
theorem polled (h : Steady s x₀ n token period es p) (hperiod : period.CanRepeat)
    (hr : (play s x₀ es).routines[n]? = some ⟨token, chore, p⟩) (wall : Moment) (k : Nat)
    (heeds : Bool) : Steady s x₀ n token period (es ++ [.tend n wall k heeds])
      ((play s x₀ es).polled s wall k heeds token chore p).1 where
  paced := by
    obtain ⟨since, hpaced, hsince⟩ := h.paced
    have hnext : ((play s x₀ es).polled s wall k heeds token chore p).1.Paced period _ :=
      hpaced.poll hperiod ((play s x₀ es).seen s wall heeds) token _ _ _
    rw [Periodic.last] at hnext
    -- a poll that counts is the last one from now on; after any other poll the last one stays
    cases hcounts : p.counts ((play s x₀ es).seen s wall heeds) token with
    | true =>
      rw [hcounts, if_pos rfl, now_seen] at hnext
      refine ⟨_, hnext, Or.inr ⟨es, _, Run.occurs_snoc.2 (Or.inr ⟨rfl, rfl⟩), ?_, rfl⟩⟩
      exact (pollIs_tend hr).trans hcounts
    | false =>
      rw [hcounts, if_neg Bool.false_ne_true] at hnext
      rcases hsince with rfl | ⟨pre, e, hoccurs, hpast⟩
      · cases hcounts
      · exact ⟨since, hnext, Or.inr ⟨pre, e, Run.occurs_snoc.2 (Or.inl hoccurs), hpast⟩⟩
  cancelled hended := by
    rw [play_snoc]
    -- had the token not been cancelled, the poll would not have ended the task
    by_contra hon
    have hbefore : (play s x₀ es).isCancelled s token = false :=
      Bool.eq_false_iff.2 fun hoff => hon (isCancelled_step hoff _)
    refine Periodic.poll_ne_ended (isCancelled_seen hbefore) (fun heq => ?_) hended
    rw [h.cancelled heq] at hbefore
    cases hbefore

/-- A steady task whose token has not been cancelled goes on. -/
theorem stands (h : Steady s x₀ n token period es p)
    (hr : (play s x₀ es).routines[n]? = some ⟨token, chore, p⟩)
    (hon : (play s x₀ es).isCancelled s token = false) : Stands s x₀ n period es p := by
  obtain ⟨since, hpaced, hsince⟩ := h.paced
  cases p with
  | fresh period' =>
    obtain rfl : period' = period := hpaced
    exact .fresh
  | busy t work => exact .works t work
  | ended =>
    rw [h.cancelled rfl] at hon
    cases hon
  | brokenOff => exact hpaced.elim
  | idle t alarm =>
    cases hdue : alarm.isDue ((play s x₀ es).now s) with
    | true =>
      refine .isDue t alarm fun wall k heeds => ?_
      rw [begins, pollIs_tend hr, Periodic.begins, isCancelled_seen hon, View.isDue, now_seen, hdue]
      rfl
    | false =>
      have hrecent := hpaced.waits hdue
      rcases hsince with heq | ⟨pre, e, hoccurs, hcounts, rfl⟩
      · cases heq
      · exact .waits t alarm hoccurs hcounts hrecent

end Steady

/-- **A periodic task whose period can be kept stays steady.** -/
theorem steady_play (hstart : x₀.routines[n]? = some ⟨token, chore, .fresh period⟩)
    (hperiod : period.CanRepeat) (s : Equipment H S) (es : List (Event H L S)) :
    ∃ p, (play s x₀ es).routines[n]? = some ⟨token, chore, p⟩ ∧
      Steady s x₀ n token period es p := by
  induction es using List.reverseRecOn with
  | nil => exact ⟨.fresh period, hstart, ⟨0, rfl, Or.inl rfl⟩, nofun⟩
  | append_singleton es e ih =>
    obtain ⟨p, hr, hp⟩ := ih
    rw [play_snoc]
    rcases routine_step hr s e with ⟨wall, k, heeds, rfl, hnext⟩ | ⟨-, hnext⟩
    · exact ⟨_, hnext, hp.polled hperiod hr wall k heeds⟩
    · exact ⟨p, hnext, hp.rests e⟩

/-! ### Tasks that are on time -/

/-- Time passes only as far as a periodic task lets it, and the work of the task is done at once when
it begins. -/
def isOnTime (s : Equipment H S) (n : Nat) (x : Service H L S) : Event H L S → Bool
  | .desk (.pass millis) =>
    x.routines[n]?.all fun r => r.stage.letsPass (x.seen s .epoch true) r.token millis
  | .tend m wall k heeds => m ≠ n || x.routines[n]?.all fun r =>
      !r.stage.begins (x.seen s wall heeds) r.token ||
        (Bench.turnChore s wall k r.chore (Bench.beginChore r.chore) x.working.bench).1.isNone
  | _ => true

/-- In a run a periodic task is on time. -/
def OnTime (s : Equipment H S) (n : Nat) (x : Service H L S) (es : List (Event H L S)) : Prop :=
  Run.Along (step s) (fun x e => isOnTime s n x e = true) x es

instance (s : Equipment H S) (n : Nat) (x : Service H L S) (es : List (Event H L S)) :
    Decidable (OnTime s n x es) :=
  inferInstanceAs (Decidable (Run.Along (step s) (fun x e => isOnTime s n x e = true) x es))

/-- **On time a periodic task keeps the beat.** -/
theorem onBeat_step {start ticks : Nat} (h : p.OnBeat period start ticks (x.now s))
    (hr : x.routines[n]? = some ⟨token, chore, p⟩) (hperiod : period.CanRepeat) {e : Event H L S}
    (he : isOnTime s n x e = true) : ∃ p', (x.step s e).routines[n]? = some ⟨token, chore, p'⟩ ∧
      p'.OnBeat period start (ticks + (begins s n x e).toNat) ((x.step s e).now s) := by
  rcases routine_step hr s e with ⟨wall, k, heeds, rfl, hnext⟩ | ⟨hother, hnext⟩
  · have hnow : (x.step s (.tend n wall k heeds)).now s = (x.seen s wall heeds).now := by
      rcases x.now_step s (.tend n wall k heeds) with hstays | ⟨millis, heq, -⟩
      · exact hstays.trans (now_seen s x wall heeds).symm
      · cases heq
    refine ⟨_, hnext, ?_⟩
    rw [begins, pollIs_tend hr, hnow]
    rw [← now_seen s x wall heeds] at h
    refine h.poll hperiod token fun hbegins => ?_
    rw [isOnTime, hr, decide_eq_false (fun hne => hne rfl), Bool.false_or, Option.all_some, hbegins,
      Bool.not_true, Bool.false_or] at he
    exact Option.isNone_iff_eq_none.1 he
  · refine ⟨p, hnext, ?_⟩
    rw [begins, pollIs_of_ne hother]
    rcases x.now_step s e with hstays | ⟨millis, rfl, hpasses⟩
    · rw [hstays]
      exact h
    · rw [hpasses]
      rw [← now_seen s x .epoch true] at h ⊢
      rw [isOnTime, hr] at he
      exact h.pass he

theorem onBeat_play (hstart : x₀.routines[n]? = some ⟨token, chore, .fresh period⟩)
    (hperiod : period.CanRepeat) {es : List (Event H L S)} (hes : OnTime s n x₀ es) :
    ∃ p, (play s x₀ es).routines[n]? = some ⟨token, chore, p⟩ ∧
      p.OnBeat period (x₀.now s) (Run.count (step s) (begins s n) x₀ es)
        ((play s x₀ es).now s) := by
  refine Run.Along.invariant (P := fun es y => ∃ p, y.routines[n]? = some ⟨token, chore, p⟩ ∧
    p.OnBeat period (x₀.now s) (Run.count (step s) (begins s n) x₀ es) (y.now s)) hes
    ⟨.fresh period, hstart, rfl, rfl, rfl⟩ ?_
  rintro es e - ⟨p, hr, hp⟩ he
  rw [Run.count_snoc]
  exact onBeat_step hp hr hperiod he

/-! ### Tasks that break off -/

/-- A periodic task whose period cannot be kept has not been polled, or it has broken off. -/
theorem brokenOff_play (hstart : x₀.routines[n]? = some ⟨token, chore, .fresh period⟩)
    (hperiod : ¬ period.CanRepeat) (s : Equipment H S) (es : List (Event H L S)) :
    ∃ p, (play s x₀ es).routines[n]? = some ⟨token, chore, p⟩ ∧
      (p = .fresh period ∨ p = .brokenOff) := by
  induction es using List.reverseRecOn with
  | nil => exact ⟨_, hstart, Or.inl rfl⟩
  | append_singleton es e ih =>
    obtain ⟨p, hr, hp⟩ := ih
    rw [play_snoc]
    rcases routine_step hr s e with ⟨wall, k, heeds, -, hnext⟩ | ⟨-, hnext⟩
    · refine ⟨_, hnext, Or.inr ?_⟩
      exact congrArg Prod.fst (Periodic.poll_of_not_canRepeat hperiod hp)
    · exact ⟨p, hnext, hp⟩

/-! ### The periodic tasks of a hub -/

/-- A periodic task that goes on until its token is cancelled. -/
structure Endures (s : Equipment H S) (x₀ : Service H L S) (n : Nat) (token : Token)
    (chore : Rehearsal.Chore) (period : Span) : Prop where
  /-- As long as its token has not been cancelled it neither ends nor breaks off, and it does not
  wait for a whole period. -/
  stands : ∀ es, (play s x₀ es).isCancelled s token = false →
    ∃ p, (play s x₀ es).routines[n]? = some ⟨token, chore, p⟩ ∧ Stands s x₀ n period es p
  /-- When its work begins, it does its chore. -/
  works : ∀ es e, begins s n (play s x₀ es) e = true → ∃ wall k,
    (play s x₀ (es ++ [e])).working.bench =
      (Bench.turnChore s wall k chore (Bench.beginChore chore) (play s x₀ es).working.bench).2
  /-- On time its work has begun once for each period that has passed since the start. -/
  onBeat : ∀ es, OnTime s n x₀ es → ∀ t alarm,
    (play s x₀ es).routines[n]? = some ⟨token, chore, .idle t alarm⟩ →
    alarm.isDue ((play s x₀ es).now s) = false →
      Run.count (step s) (begins s n) x₀ es =
        ((play s x₀ es).now s - x₀.now s) * Span.nanosPerMilli / period.nanos

/-- A periodic task that never does its work. -/
structure BreaksOff (s : Equipment H S) (x₀ : Service H L S) (n : Nat) (token : Token)
    (chore : Rehearsal.Chore) : Prop where
  /-- After its first poll it has broken off, whether or not its token has been cancelled. -/
  broken : ∀ es wall k heeds, (play s x₀ (es ++ [.tend n wall k heeds])).routines[n]? =
    some ⟨token, chore, .brokenOff⟩
  /-- Its work never begins. -/
  idle : ∀ es, Run.count (step s) (begins s n) x₀ es = 0

/-- What becomes of a periodic task of a hub: this is decided by its period. -/
structure Fares (s : Equipment H S) (x₀ : Service H L S) (n : Nat) (token : Token)
    (chore : Rehearsal.Chore) (period : Span) : Prop where
  starts : x₀.routines[n]? = some ⟨token, chore, .fresh period⟩
  endures : period.CanRepeat → Endures s x₀ n token chore period
  breaksOff : ¬ period.CanRepeat → BreaksOff s x₀ n token chore

theorem endures (hstart : x₀.routines[n]? = some ⟨token, chore, .fresh period⟩)
    (hperiod : period.CanRepeat) (s : Equipment H S) : Endures s x₀ n token chore period where
  stands es hon := by
    obtain ⟨p, hr, hp⟩ := steady_play hstart hperiod s es
    exact ⟨p, hr, hp.stands hr hon⟩
  works es e he := by
    obtain ⟨p, hr, -⟩ := steady_play hstart hperiod s es
    obtain ⟨wall, k, heeds, r, rfl, hr', hbegins⟩ := exists_of_pollIs he
    obtain rfl := Option.some.inj (hr.symm.trans hr')
    refine ⟨wall, k, ?_⟩
    rw [play_snoc, (step_tend hr s wall k heeds).2]
    exact Periodic.poll_of_begins hbegins
  onBeat es hes t alarm hr hdue := by
    obtain ⟨p, hr', hp⟩ := onBeat_play hstart hperiod hes
    cases hr.symm.trans hr'
    exact hp.ticks_eq hdue

theorem breaksOff (hstart : x₀.routines[n]? = some ⟨token, chore, .fresh period⟩)
    (hperiod : ¬ period.CanRepeat) (s : Equipment H S) : BreaksOff s x₀ n token chore where
  broken es wall k heeds := by
    obtain ⟨p, hr, hp⟩ := brokenOff_play hstart hperiod s es
    rw [play_snoc, (step_tend hr s wall k heeds).1, polled, Periodic.poll_of_not_canRepeat hperiod hp]
  idle es := by
    induction es using List.reverseRecOn with
    | nil => rfl
    | append_singleton es e ih =>
      have hidle : begins s n (play s x₀ es) e = false := by
        obtain ⟨p, hr, hp⟩ := brokenOff_play hstart hperiod s es
        refine Bool.eq_false_iff.2 fun he => ?_
        obtain ⟨wall, k, heeds, r, -, hr', hbegins⟩ := exists_of_pollIs he
        obtain rfl := Option.some.inj (hr.symm.trans hr')
        rcases hp with rfl | rfl <;> cases hbegins
      rw [Run.count_snoc, ih, Nat.zero_add]
      exact congrArg Bool.toNat hidle

theorem fares (hstart : x₀.routines[n]? = some ⟨token, chore, .fresh period⟩)
    (s : Equipment H S) : Fares s x₀ n token chore period :=
  ⟨hstart, fun hperiod => endures hstart hperiod s, fun hperiod => breaksOff hstart hperiod s⟩

/-- A hub with the usual settings and a watchdog. -/
def usual : Service String RecordingLink Store :=
  (start Working.equipment (some .standard) 0 watched RecordingLink.empty ⟨[], Store.empty⟩).2

/-- Two minutes, in which both periodic tasks are polled at each of their ticks. -/
def twoMinutes : List (Event String RecordingLink Store) :=
  [.tend 0 .epoch 0 true, .tend 1 .epoch 0 true, .desk (.pass 60000), .tend 1 .epoch 1 false,
    .tend 0 .epoch 0 true, .desk (.pass 60000), .tend 0 .epoch 0 false, .tend 1 .epoch 1 true]

/-- What a hub works with whose desk has this interval between its sweeps. -/
def sweptEvery (interval : Span) : Equipment String Store :=
  { Working.equipment with desk := { DeskClock.standard with cleanupInterval := interval } }

/-- A hub with such a desk, and the first poll of its sweep. -/
def firstPoll (interval : Span) : Service String RecordingLink Store :=
  play (sweptEvery interval)
    (start (sweptEvery interval) none 0 watched RecordingLink.empty ⟨[], Store.empty⟩).2
    [.tend 0 .epoch 0 true]

end Service

end Hub

end LockFleet
