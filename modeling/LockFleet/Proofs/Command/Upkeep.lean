import LockFleet.Proofs.Command.Sweeping
import LockFleet.Proofs.Rhythm

/-!
# An exchange that is swept

A sweeper is a periodic task at an exchange: at each of its ticks it sweeps the desk.  While it runs,
no entry gets much older than twice the timeout, whatever becomes of the sender.

* `Upkeep`, `Upkeep.Event`, `Upkeep.step`, `Upkeep.play` — an exchange with its sweeper;
* `Upkeep.IsSettled`, `Upkeep.PunctualAt` — the sweeper has nothing to do, and time passes only then;
* `Upkeep.Swept` — how old entries were when they were last looked at;
* `Upkeep.age_bounded` — how old they are whenever the sweeper has nothing to do.
-/

namespace LockFleet

/-! ### The entries of an exchange -/

/-- An entry was there before, or it has been made just now. -/
theorem Exchange.Happens.pending_cases {x y : Exchange} {e : Exchange.Event} (h : x.Happens e y)
    {id : String} {p : Pending} (hp : y.desk.pending.find? id = some p) :
    x.desk.pending.find? id = some p ∨ p.createdAt = x.now := by
  have hregister : ∀ {c : SendCall} {draws : Nat → String} {r : Registration} {d : Desk},
      x.desk.register x.now c.device c.kind draws = (r, d) → d.pending.find? id = some p →
      x.desk.pending.find? id = some p ∨ p.createdAt = x.now := by
    intro c draws r d hreg hd
    obtain ⟨-, -, hpending, -⟩ := Desk.of_register hreg
    rw [hpending] at hd
    by_cases hid : id = r.id
    · rw [hid, Table.find?_insert_self] at hd
      cases hd
      exact Or.inr rfl
    · exact Or.inl ((Table.find?_insert_of_ne _ _ hid).symm.trans hd)
  have hclose : ∀ {d : Desk} {r : Registration}, y.desk = d.close r →
      d.pending.find? id = some p := by
    intro d r hdesk
    rw [hdesk] at hp
    exact ((Table.find?_keep_eq_some_iff _ _ id p).1 hp).1
  cases h with
  | quiet desk => exact Or.inl (desk ▸ hp)
  | enters _ _ desk => exact hregister desk hp
  | turnedAway _ _ _ entry desk => exact hregister entry (hclose desk)
  | stays _ _ _ desk => exact Or.inl (desk ▸ hp)
  | returns _ _ _ _ desk => exact Or.inl (hclose desk)
  | isGivenUp _ desk => exact Or.inl (hclose desk)
  | isForgotten _ desk => exact Or.inl (desk ▸ hp)
  | acknowledged desk =>
    rw [desk, Desk.pending_handleAck] at hp
    exact Or.inl hp
  | swept desk =>
    rw [desk] at hp
    exact Or.inl (Desk.find?_sweep.1 hp).1

/-! ### Sweepers -/

/-- What has happened at an exchange, and its sweeper. -/
structure Upkeep where
  past : List Exchange.Event
  sweeper : Periodic Unit

namespace Upkeep

/-- What can happen. -/
inductive Event where
  | exchange (e : Exchange.Event)
  /-- The sweeper is polled. -/
  | tend (wall : Moment)

def exchange (timing : DeskClock) (x : Upkeep) : Exchange := Exchange.play timing x.past

/-- The work of the sweeper is done at once. -/
def turn (_ : Unit) (past : List Exchange.Event) : Option Unit × List Exchange.Event :=
  (none, past ++ [.sweep])

/-- The sweeper is started at an exchange with a past. -/
def start (timing : DeskClock) (past : List Exchange.Event) : Upkeep :=
  ⟨past, .fresh timing.cleanupInterval⟩

/-- Polls the sweeper. -/
def tend (timing : DeskClock) (token : Token) (x : Upkeep) (wall : Moment) : Upkeep :=
  let (sweeper, past) := x.sweeper.poll ((x.exchange timing).view wall) token () turn x.past
  ⟨past, sweeper⟩

def step (timing : DeskClock) (token : Token) (x : Upkeep) : Event → Upkeep
  | .exchange e => { x with past := x.past ++ [e] }
  | .tend wall => x.tend timing token wall

/-- The exchange and its sweeper after a list of events. -/
def play (timing : DeskClock) (token : Token) (past : List Exchange.Event) (es : List Event) :
    Upkeep :=
  Run.after (step timing token) (start timing past) es

/-- The sweeper has nothing to do. -/
def IsSettled (timing : DeskClock) (token : Token) (x : Upkeep) : Prop :=
  ∀ wall, x.sweeper.isReady ((x.exchange timing).view wall) token (fun _ => true) = false

/-- Time passes only when the sweeper has nothing to do. -/
def PunctualAt (timing : DeskClock) (token : Token) (x : Upkeep) : Event → Prop
  | .exchange (.pass _) => x.IsSettled timing token
  | _ => True

variable {timing : DeskClock} {token : Token} {past : List Exchange.Event} {es : List Event}
  {x : Upkeep} {e : Exchange.Event} {wall : Moment} {first since : Nat}

/-! ### Ages -/

/-- The sweeper keeps its period, and no entry that was made from a time on was older than twice the
timeout when the sweeper last looked. -/
structure Swept (timing : DeskClock) (first : Nat) (since : Nat) (x : Upkeep) : Prop where
  paced : x.sweeper.Paced timing.cleanupInterval since
  isOn : x.sweeper ≠ .ended
  unstarted : ∀ period, x.sweeper = .fresh period → since = (x.exchange timing).now
  first_le : first ≤ since
  since_le : since ≤ (x.exchange timing).now
  young : ∀ id p, (x.exchange timing).desk.pending.find? id = some p → first ≤ p.createdAt →
    (since - p.createdAt) * Span.nanosPerMilli ≤ 2 * timing.ackTimeout.nanos

/-- What happens at the exchange makes no old entries. -/
theorem Swept.append (h : x.Swept timing first since) (hpass : x.PunctualAt timing token (.exchange e)) :
    Swept timing first since { x with past := x.past ++ [e] } := by
  have hstep := Exchange.happens timing x.past e
  have hnow : (x.exchange timing).now ≤ (Exchange.play timing (x.past ++ [e])).now := by
    rw [Exchange.play_snoc]
    exact Exchange.now_le_step _ e
  refine ⟨h.paced, h.isOn, fun period hfresh => ?_, h.first_le, Nat.le_trans h.since_le hnow, ?_⟩
  · have hsame := h.unstarted period hfresh
    show since = (Exchange.play timing (x.past ++ [e])).now
    rw [Exchange.play_snoc]
    rcases Exchange.now_step (x.exchange timing) e with hstays | ⟨millis, rfl, -⟩
    · exact hsame.trans hstays.symm
    · have hready := hpass .epoch
      rw [show x.sweeper = .fresh period from hfresh] at hready
      cases hready
  · intro id p hp hfirst
    rcases hstep.pending_cases hp with hold | hnew
    · exact h.young id p hold hfirst
    · have hsince := h.since_le
      have hcreated : p.createdAt = (x.exchange timing).now := hnew
      rw [Nat.sub_eq_zero_of_le (by omega), Nat.zero_mul]
      exact Nat.zero_le _

/-- After a sweep no entry is older than twice the timeout. -/
theorem young_sweep {id : String} {p : Pending}
    (hp : (Exchange.play timing (past ++ [.sweep])).desk.pending.find? id = some p) :
    ((Exchange.play timing past).now - p.createdAt) * Span.nanosPerMilli ≤
      2 * timing.ackTimeout.nanos := by
  rw [Exchange.play_snoc] at hp
  have hage := ((Desk.sweepsExactly _ _).kept id p).1 hp
  rw [Desk.maxAge, (Exchange.clocked timing past).timing_eq] at hage
  exact Nat.le_trans hage.2 (Nat.min_le_left _ _)

/-- The entries are young when the sweeper has been polled: it has swept, or it has had nothing to
do. -/
theorem Swept.young_tend (h : x.Swept timing first since) (wall : Moment) {id : String} {p : Pending}
    (hp : ((x.tend timing token wall).exchange timing).desk.pending.find? id = some p)
    (hfirst : first ≤ p.createdAt) :
    (x.sweeper.last ((x.exchange timing).view wall) token since - p.createdAt) *
      Span.nanosPerMilli ≤ 2 * timing.ackTimeout.nanos := by
  let v := (x.exchange timing).view wall
  change (Exchange.play timing (x.sweeper.poll v token () turn x.past).2).desk.pending.find? id =
    some p at hp
  rcases x.sweeper.poll_world v token () turn x.past with ⟨hsame, hbegins⟩ | ⟨s, hswept⟩
  · rw [hsame] at hp
    have hyoung := h.young id p hp hfirst
    by_cases hfresh : ∃ period, x.sweeper = .fresh period
    · -- the start of the sweeper counts, and it is the present
      obtain ⟨period, hfresh⟩ := hfresh
      have hpresent : x.sweeper.last v token since = since := by
        rw [hfresh]
        exact (h.unstarted period hfresh).symm
      rw [hpresent]
      exact hyoung
    · rw [Periodic.last_of_not_begins hbegins fun period hp => hfresh ⟨period, hp⟩]
      exact hyoung
  · rw [hswept] at hp
    have hage : (v.now - p.createdAt) * Span.nanosPerMilli ≤ 2 * timing.ackTimeout.nanos :=
      young_sweep hp
    have hlast : x.sweeper.last v token since ≤ v.now := Periodic.last_le h.since_le
    exact Nat.le_trans (Nat.mul_le_mul_right _ (Nat.sub_le_sub_right hlast _)) hage

/-- **A poll of the sweeper keeps the entries young.** -/
theorem Swept.tend (h : x.Swept timing first since) (hperiod : timing.cleanupInterval.CanRepeat)
    (hcancelled : token.isCancelled (x.exchange timing).cancelled = false) (wall : Moment) :
    ∃ since', (x.tend timing token wall).Swept timing first since' := by
  let v := (x.exchange timing).view wall
  refine ⟨x.sweeper.last v token since, ?_, ?_, fun period hfresh => ?_, ?_, ?_, ?_⟩
  · exact h.paced.poll hperiod v token () turn x.past
  · exact Periodic.poll_ne_ended hcancelled h.isOn
  · exact absurd hfresh Periodic.poll_ne_fresh
  · exact Nat.le_trans h.first_le (Periodic.le_last h.since_le)
  · have hlast : x.sweeper.last v token since ≤ v.now := Periodic.last_le h.since_le
    show _ ≤ (Exchange.play timing (x.sweeper.poll v token () turn x.past).2).now
    rcases x.sweeper.poll_world v token () turn x.past with ⟨hsame, -⟩ | ⟨s, hswept⟩
    · rw [hsame]
      exact hlast
    · rw [hswept, turn, Exchange.play_snoc]
      exact hlast
  · exact fun id p hp hfirst => h.young_tend wall hp hfirst

/-! ### Runs -/

theorem play_snoc (es : List Event) (e : Event) :
    play timing token past (es ++ [e]) = (play timing token past es).step timing token e :=
  Run.after_snoc es e

theorem swept_start (timing : DeskClock) (past : List Exchange.Event) :
    (start timing past).Swept timing (Exchange.play timing past).now
      (Exchange.play timing past).now where
  paced := rfl
  isOn := nofun
  unstarted _ _ := rfl
  first_le := Nat.le_refl _
  since_le := Nat.le_refl _
  young id p _ hfirst := by
    rw [Nat.sub_eq_zero_of_le hfirst, Nat.zero_mul]
    exact Nat.zero_le _

/-- What has happened at the exchange is not undone. -/
theorem past_step (timing : DeskClock) (token : Token) (x : Upkeep) (e : Event) :
    ∃ more, (x.step timing token e).past = x.past ++ more := by
  cases e with
  | exchange e => exact ⟨[e], rfl⟩
  | tend wall =>
    rcases x.sweeper.poll_world ((x.exchange timing).view wall) token () turn x.past with
      ⟨hsame, -⟩ | ⟨s, hswept⟩
    · exact ⟨[], hsame.trans (List.append_nil _).symm⟩
    · exact ⟨[.sweep], hswept⟩

/-- A token that is not cancelled after a step was not before. -/
theorem not_cancelled_before {e : Event}
    (h : token.isCancelled ((x.step timing token e).exchange timing).cancelled = false) :
    token.isCancelled (x.exchange timing).cancelled = false := by
  obtain ⟨more, hmore⟩ := past_step timing token x e
  by_contra hcancelled
  have hstays := Exchange.isCancelled_append (Bool.not_eq_false _ ▸ hcancelled) more
  rw [exchange, hmore, hstays] at h
  cases h

/-- **What is kept by every step**: the entries that were made while the sweeper was at work are not
left alone for too long. -/
theorem swept_play (hperiod : timing.cleanupInterval.CanRepeat)
    (hes : Run.Along (step timing token) (PunctualAt timing token) (start timing past) es)
    (hcancelled : token.isCancelled
      ((play timing token past es).exchange timing).cancelled = false) :
    ∃ since, (play timing token past es).Swept timing (Exchange.play timing past).now since := by
  induction es using List.reverseRecOn with
  | nil => exact ⟨_, swept_start timing past⟩
  | append_singleton es e ih =>
    obtain ⟨hbefore, hpunctual⟩ := (Run.along_snoc es e).1 hes
    rw [play_snoc] at hcancelled ⊢
    have hearlier := not_cancelled_before hcancelled
    obtain ⟨since, hswept⟩ := ih hbefore hearlier
    cases e with
    | exchange e => exact ⟨since, hswept.append hpunctual⟩
    | tend wall => exact hswept.tend hperiod hearlier wall

/-- A sweeper that has nothing to do has looked less than a period ago. -/
theorem Swept.recent (h : x.Swept timing first since) (hsettled : x.IsSettled timing token) :
    (x.exchange timing).now * Span.nanosPerMilli <
      since * Span.nanosPerMilli + timing.cleanupInterval.nanos := by
  have hready := hsettled .epoch
  have hpaced := h.paced
  have hon := h.isOn
  revert hready hpaced hon
  cases x.sweeper with
  | fresh period => exact nofun
  | busy t s => exact nofun
  | ended => exact fun _ _ hon => absurd rfl hon
  | brokenOff => exact fun _ hpaced => hpaced.elim
  | idle t alarm =>
    intro hready hpaced _
    exact hpaced.waits (Bool.or_eq_false_iff.1 hready).2

/-- **No entry outlives the sweep.**  Whatever happens at an exchange whose sweeper is not cancelled:
whenever the sweeper has nothing to do, the entries that were made since its start are not older than
twice the timeout and one period. -/
theorem age_bounded (hperiod : timing.cleanupInterval.CanRepeat)
    (hes : Run.Along (step timing token) (PunctualAt timing token) (start timing past) es)
    (hcancelled : token.isCancelled
      ((play timing token past es).exchange timing).cancelled = false)
    (hsettled : (play timing token past es).IsSettled timing token) :
    ∀ id p, ((play timing token past es).exchange timing).desk.pending.find? id = some p →
      (Exchange.play timing past).now ≤ p.createdAt →
      (((play timing token past es).exchange timing).now - p.createdAt) * Span.nanosPerMilli ≤
        2 * timing.ackTimeout.nanos + timing.cleanupInterval.nanos := by
  intro id p hp hfirst
  obtain ⟨since, hswept⟩ := swept_play hperiod hes hcancelled
  have hyoung := hswept.young id p hp hfirst
  have hrecent := hswept.recent hsettled
  rw [Nat.sub_mul] at hyoung ⊢
  omega

/-- Twenty milliseconds to wait, thirty between two sweeps. -/
def brisk : DeskClock := ⟨⟨Span.ofMillis 20, Span.ofMillis 30⟩, Timer.precise⟩

/-- An envelope that is never published; the sweep comes too early for its entry. -/
def stuckPublishing : List Event :=
  [.tend .epoch, .exchange (.pass 5), .exchange (.begin ⟨⟨[1]⟩, "lock-1", .unlock, .empty⟩),
    .exchange (.poll 0 (fun _ => "a") .epoch), .exchange (.pass 25), .tend .epoch,
    .exchange (.pass 29)]

theorem age_bounded_stuckPublishing :
    brisk.cleanupInterval.CanRepeat ∧
      Run.Along (step brisk ⟨[2]⟩) (PunctualAt brisk ⟨[2]⟩) (start brisk [.pass 4])
        stuckPublishing ∧
      Token.isCancelled ((play brisk ⟨[2]⟩ [.pass 4] stuckPublishing).exchange brisk).cancelled
        ⟨[2]⟩ = false ∧
      (play brisk ⟨[2]⟩ [.pass 4] stuckPublishing).IsSettled brisk ⟨[2]⟩ ∧
      ∃ p, ((play brisk ⟨[2]⟩ [.pass 4] stuckPublishing).exchange brisk).desk.pending.find? "a" =
          some p ∧
        (((play brisk ⟨[2]⟩ [.pass 4] stuckPublishing).exchange brisk).now - p.createdAt) *
          Span.nanosPerMilli ≤ 2 * brisk.ackTimeout.nanos + brisk.cleanupInterval.nanos := by
  have hperiod : brisk.cleanupInterval.CanRepeat := by decide
  have hpunctual : Run.Along (step brisk ⟨[2]⟩) (PunctualAt brisk ⟨[2]⟩) (start brisk [.pass 4])
      stuckPublishing :=
    ⟨trivial, fun _ => rfl, trivial, trivial, fun _ => rfl, trivial, fun _ => rfl, trivial⟩
  have hcancelled : Token.isCancelled
      ((play brisk ⟨[2]⟩ [.pass 4] stuckPublishing).exchange brisk).cancelled ⟨[2]⟩ = false := rfl
  have hsettled : (play brisk ⟨[2]⟩ [.pass 4] stuckPublishing).IsSettled brisk ⟨[2]⟩ := fun _ => rfl
  have hentry : ((play brisk ⟨[2]⟩ [.pass 4] stuckPublishing).exchange brisk).desk.pending.find?
      "a" = some ⟨"lock-1", .unlock, 9, 0⟩ := rfl
  exact ⟨hperiod, hpunctual, hcancelled, hsettled, _, hentry,
    age_bounded hperiod hpunctual hcancelled hsettled "a" _ hentry (by decide)⟩

end Upkeep

end LockFleet
