import LockFleet.Proofs.Command.Identity
import LockFleet.Proofs.Command.Outcome

/-!
# What a sweep takes

A sweep takes the entries that are older than twice the timeout, and no others.  A sender whose
envelope is published within the timeout is answered, or gives up, before its entry is as old as
that, so a sweep only ever meets those that were slow to publish.

* `Desk.maxAge`, `Desk.SweepsExactly` — what one sweep does to any table;
* `Exchange.EnteredAt`, `Exchange.ResumedAt` — when a sender made its entry, and when it learned
  that its envelope is published;
* `Exchange.dated` — the age of every entry, by the run;
* `Exchange.ResolvedAt`, `Exchange.ConcludedAt` — no sweep comes after the end of an unresolved wait;
* `Exchange.SparesHealthy`, `Exchange.sweep_exact_and_sparing`.
-/

namespace LockFleet

/-! ### Twice a span -/

namespace Span

/-- The double saturates. -/
theorem nanos_double (s : Span) : s.double.nanos = min (2 * s.nanos) longest.nanos := by
  simp only [double, ofNanos]
  split
  · next h => exact (Nat.min_eq_left (Nat.le_sub_one_of_lt h)).symm
  · next h => exact (Nat.min_eq_right (Nat.le_trans (Nat.sub_le _ _) (Nat.not_lt.1 h))).symm

end Span

/-! ### One sweep -/

namespace Desk

variable {d : Desk} {now : Nat} {p : Pending}

/-- The age in nanoseconds up to which an entry is kept: twice the timeout, at most the longest
span. -/
def maxAge (d : Desk) : Nat := min (2 * d.timing.ackTimeout.nanos) Span.longest.nanos

theorem isExpired_iff :
    d.isExpired now p = true ↔ d.maxAge < (now - p.createdAt) * Span.nanosPerMilli := by
  rw [isExpired, decide_eq_true_iff, Span.nanos_double]
  rfl

/-- What a sweep does. -/
structure SweepsExactly (d : Desk) (now : Nat) : Prop where
  /-- An entry stays if it is not too old. -/
  kept : ∀ id p, (d.sweep now).2.pending.find? id = some p ↔
    d.pending.find? id = some p ∧ (now - p.createdAt) * Span.nanosPerMilli ≤ d.maxAge
  /-- The entries that stay keep their order. -/
  ordered : (d.sweep now).2.pending.entries.Sublist d.pending.entries
  /-- The answer is the number of entries that are too old. -/
  counted : (d.sweep now).1 = (d.pending.entries.filter fun e =>
    decide (d.maxAge < (now - e.2.createdAt) * Span.nanosPerMilli)).length
  /-- Nothing else changes. -/
  others : (d.sweep now).2 = { d with pending := (d.sweep now).2.pending }
  /-- Another sweep at the same time takes nothing. -/
  again : (d.sweep now).2.sweep now = (0, (d.sweep now).2)

theorem sweep_twice (d : Desk) (now : Nat) :
    (d.sweep now).2.sweep now = (0, (d.sweep now).2) := by
  have hkept : ((d.sweep now).2.pending.keep fun _ p => !(d.sweep now).2.isExpired now p) =
      (d.sweep now).2.pending := by
    rw [Table.keep, Table.mk.injEq]
    exact List.filter_eq_self.2 fun e he => (List.mem_filter.1 he).2
  rw [sweep, hkept, Nat.sub_self]

theorem length_expired (d : Desk) (now : Nat) : (d.sweep now).1 =
    (d.pending.entries.filter fun e => d.isExpired now e.2).length := by
  have hall := List.length_eq_length_filter_add (l := d.pending.entries)
    fun e => d.isExpired now e.2
  show d.pending.entries.length -
    (d.pending.entries.filter fun e => !d.isExpired now e.2).length = _
  omega

theorem sweepsExactly (d : Desk) (now : Nat) : d.SweepsExactly now where
  kept id p := by rw [find?_sweep, ← Bool.not_eq_true, isExpired_iff, Nat.not_lt]
  ordered := List.filter_sublist
  counted := by
    rw [length_expired]
    refine congrArg List.length (List.filter_congr fun e _ => ?_)
    rw [Bool.eq_iff_iff, isExpired_iff, decide_eq_true_iff]
  others := rfl
  again := d.sweep_twice now

end Desk

namespace Exchange

variable {timing : DeskClock} {es es' pre : List Event} {x y : Exchange} {e : Event} {i a n t u : Nat}
  {r : Registration} {alarm : Alarm} {draws : Nat → String} {wall : Moment}

/-! ### The clock of a run -/

theorem now_le_step (x : Exchange) (e : Event) : x.now ≤ (x.step e).now := by
  rcases now_step x e with h | ⟨millis, -, h⟩ <;> omega

theorem now_le_of_isPrefix (hpre : pre <+: es) : (play timing pre).now ≤ (play timing es).now := by
  obtain ⟨post, rfl⟩ := hpre
  induction post using List.reverseRecOn with
  | nil => exact Nat.le_of_eq (by rw [List.append_nil])
  | append_singleton post e ih =>
    rw [← List.append_assoc, play_snoc]
    exact Nat.le_trans ih (now_le_step _ e)

/-! ### When a sender comes, and when its envelope is out -/

/-- A sender was polled at a time, and the exchange was of a kind then. -/
def PolledAt (timing : DeskClock) (kind : Exchange → Prop) (es : List Event) (i t : Nat) : Prop :=
  ∃ pre draws wall, Run.Occurs es pre (.poll i draws wall) ∧ kind (play timing pre) ∧
    (play timing pre).now = t

/-- A sender made its entry at a time: that of its first poll. -/
def EnteredAt (timing : DeskClock) (es : List Event) (i a : Nat) : Prop :=
  PolledAt timing (fun x => x.stage? i = some .fresh) es i a

/-- The envelope of a sender has been published, and the sender has not heard of it. -/
def Resumes (i : Nat) (x : Exchange) : Prop :=
  ∃ c r n k, x.call? i = some c ∧ x.stage? i = some (.publishing r (.running n)) ∧
    x.jobEnd? n = some k ∧ k.requested (c.kind.topic c.device) n = .ok ()

/-- A sender heard at a time that its envelope has been published. -/
def ResumedAt (timing : DeskClock) (es : List Event) (i u : Nat) : Prop :=
  PolledAt timing (Resumes i) es i u

/-- A sweep took the entry of a sender at a time. -/
def SweptAt (timing : DeskClock) (es : List Event) (i n : Nat) : Prop :=
  ∃ pre r, Run.Occurs es pre .sweep ∧ (play timing pre).registration? i = some r ∧
    (play timing pre).desk.hasEntry r = true ∧
    (play timing (pre ++ [.sweep])).desk.hasEntry r = false ∧ (play timing pre).now = n

section Polls

variable {kind : Exchange → Prop}

theorem polledAt_snoc : PolledAt timing kind (es ++ [e]) i t ↔ PolledAt timing kind es i t ∨
    ((∃ draws wall, e = .poll i draws wall) ∧ kind (play timing es) ∧
      (play timing es).now = t) := by
  constructor
  · rintro ⟨pre, draws, wall, ho, hkind, ht⟩
    rcases Run.occurs_snoc.1 ho with ho | ⟨rfl, he⟩
    · exact Or.inl ⟨pre, draws, wall, ho, hkind, ht⟩
    · exact Or.inr ⟨⟨draws, wall, he.symm⟩, hkind, ht⟩
  · rintro (⟨pre, draws, wall, ho, hkind, ht⟩ | ⟨⟨draws, wall, rfl⟩, hkind, ht⟩)
    · exact ⟨pre, draws, wall, Run.occurs_snoc.2 (Or.inl ho), hkind, ht⟩
    · exact ⟨es, draws, wall, Run.occurs_snoc.2 (Or.inr ⟨rfl, rfl⟩), hkind, ht⟩

theorem PolledAt.polled (h : PolledAt timing kind es i t)
    (hkind : ∀ x, kind x → ∃ s, x.stage? i = some s) : Polled timing es i := by
  obtain ⟨pre, draws, wall, ho, hx, -⟩ := h
  obtain ⟨s, hs⟩ := hkind _ hx
  exact ⟨pre, draws, wall, s, ho, hs⟩

/-- A poll of a run has happened before a point of the run, or happens then or later. -/
theorem PolledAt.before_or_later (h : PolledAt timing kind es i t) (hpre : pre <+: es) :
    PolledAt timing kind pre i t ∨ ((play timing pre).now ≤ t ∧
      ∃ later, pre <+: later ∧ kind (play timing later)) := by
  obtain ⟨later, draws, wall, ho, hkind, rfl⟩ := h
  rcases ho.within_or_after hpre with hin | hafter
  · exact Or.inl ⟨later, draws, wall, hin, hkind, rfl⟩
  · exact Or.inr ⟨now_le_of_isPrefix hafter, later, hafter, hkind⟩

end Polls

theorem EnteredAt.polled (h : EnteredAt timing es i a) : Polled timing es i :=
  PolledAt.polled h fun _ hx => ⟨_, hx⟩

theorem ResumedAt.polled (h : ResumedAt timing es i u) : Polled timing es i :=
  PolledAt.polled h fun _ ⟨_, _, _, _, _, hx, _⟩ => ⟨_, hx⟩

/-- A sender that has been polled made its entry before. -/
theorem EnteredAt.before (h : EnteredAt timing es i a) (hpre : pre <+: es)
    (hpolled : Polled timing pre i) : EnteredAt timing pre i a := by
  rcases PolledAt.before_or_later h hpre with hin | ⟨-, later, hlater, hfresh⟩
  · exact hin
  · exact absurd (hpolled.of_isPrefix hlater) ((tracked timing later i).fresh hfresh)

/-! ### What the polls of a sender lead to -/

/-- A sender that publishes after a step did so before, or made its entry at the step. -/
theorem publishing_since
    (hs : (play timing (es ++ [e])).stage? i = some (.publishing r (.running n))) :
    (play timing es).stage? i = some (.publishing r (.running n)) ∨
      (play timing es).stage? i = some .fresh := by
  have hstep := happens timing es e
  rcases hstep.publishing_cases hs with hx | ⟨-, q, hq⟩
  · exact Or.inl hx
  · right
    have hr : (play timing (es ++ [e])).registration? i = some r := by
      rw [registration?, hs]
      rfl
    rcases hstep.registration?_cases hr with hx | ⟨hx, -⟩
    · -- a sender that holds a registration has published its one envelope
      obtain ⟨c, timestamp, -, hone⟩ := (filed timing es).one i r hx
      have hapart := (filed timing (es ++ [e])).apart
      rw [hq, List.map_append] at hapart
      have hmem := List.mem_map_of_mem (f := Prod.fst) ((hone _).2 rfl)
      exact absurd rfl ((List.nodup_append.1 hapart).2.2 i hmem i (List.mem_singleton_self i))
    · exact hx

/-- A sender that hears of the end of its publishing does not go on publishing. -/
theorem Happens.not_publishing (h : x.Happens (.poll i draws wall) y) (hx : x.Resumes i)
    (g : Guarded) : y.stage? i ≠ some (.publishing r g) := by
  obtain ⟨c, r', n, k, -, hs, hjob, -⟩ := hx
  intro hy
  cases h with
  | quiet _ _ _ idle =>
    obtain ⟨result, hr⟩ := idle _ hs
    cases hr
  | enters _ stage => cases hs.symm.trans stage
  | turnedAway _ stage => cases hs.symm.trans stage
  | stays _ stage _ _ stage' goesOn =>
    cases hs.symm.trans stage
    rcases goesOn with ⟨-, m, hm, hnone⟩ | ⟨alarm, -, -, -, rfl⟩
    · cases hm
      cases hjob.symm.trans hnone
    · cases stage'.symm.trans hy
  | returns _ _ _ _ _ stage' => cases stage'.symm.trans hy

/-- A sender that waits after a step waited before, or has just heard that its envelope is out. -/
theorem waiting_since (hs : (play timing (es ++ [e])).stage? i = some (.waiting r alarm)) :
    (play timing es).stage? i = some (.waiting r alarm) ∨
      ((∃ draws wall, e = .poll i draws wall) ∧ (play timing es).Resumes i ∧
        alarm.due = timing.deadline (play timing es).now) := by
  have hstep := happens timing es e
  obtain ⟨c, s, draws, wall, hc, hx, hw, hor⟩ := hstep.waiting_cases hs
  rcases hw with rfl | ⟨n, k, _, rfl, hjob, hok, rfl⟩
  · exact Or.inl hx
  · right
    have hturn : e.IsTurnOf i := by
      by_contra hother
      rcases hstep.of_other hother with hsame | ⟨hnone, -⟩
      · cases hx.symm.trans (hsame.symm.trans hs)
      · cases hnone.symm.trans hc
    have hpoll : ∃ draws wall, e = .poll i draws wall := by
      rcases hor with hwaiting | ⟨j, draws, wall, rfl⟩
      · cases hwaiting
      · cases hturn
        exact ⟨draws, wall, rfl⟩
    refine ⟨hpoll, ⟨c, r, n, k, hc, hx, hjob, hok⟩, ?_⟩
    rw [(clocked timing es).timing_eq]
    rfl

/-! ### Ages -/

/-- Entries and alarms tell when their senders came and when their envelopes were out. -/
structure Dated (timing : DeskClock) (es : List Event) (x : Exchange) : Prop where
  entered : ∀ i r, x.registration? i = some r → ∃ a, EnteredAt timing es i a
  entry : ∀ i r a, x.registration? i = some r → EnteredAt timing es i a →
    ∀ id p, x.desk.pending.find? id = some p → p.channel = r.channel → p.createdAt = a
  publishing : ∀ i r n, x.stage? i = some (.publishing r (.running n)) →
    ∀ u, ¬ ResumedAt timing es i u
  waiting : ∀ i r alarm, x.stage? i = some (.waiting r alarm) → (∃ u, ResumedAt timing es i u) ∧
    ∀ u, ResumedAt timing es i u → alarm.due = timing.deadline u

namespace Dated

/-- A sender in progress after a step has made its entry, before or just now. -/
theorem entered_step (h : Dated timing es (play timing es))
    (hr : (play timing (es ++ [e])).registration? i = some r) :
    ∃ a, EnteredAt timing (es ++ [e]) i a := by
  rcases (happens timing es e).registration?_cases hr with hx | ⟨hx, draws, wall, rfl⟩
  · obtain ⟨a, ha⟩ := h.entered i r hx
    exact ⟨a, polledAt_snoc.2 (Or.inl ha)⟩
  · exact ⟨_, polledAt_snoc.2 (Or.inr ⟨⟨draws, wall, rfl⟩, hx, rfl⟩)⟩

theorem entry_step (h : Dated timing es (play timing es))
    (hr : (play timing (es ++ [e])).registration? i = some r)
    (ha : EnteredAt timing (es ++ [e]) i a) {id : String} {p : Pending}
    (hp : (play timing (es ++ [e])).desk.pending.find? id = some p)
    (hchannel : p.channel = r.channel) : p.createdAt = a := by
  have hstep := happens timing es e
  obtain ⟨hnumbered, haddressed⟩ := addressed timing es
  rcases hstep.registration?_cases hr with hx | ⟨hx, -⟩
  · have hold : EnteredAt timing es i a := by
      rcases polledAt_snoc.1 ha with ha | ⟨-, hfresh, -⟩
      · exact ha
      · exact absurd ((tracked timing es i).held r hx) ((tracked timing es i).fresh hfresh)
    rcases hstep.becomes.pending id p hp with hp | ⟨hnew, -⟩
    · exact h.entry i r a hx hold id p hp hchannel
    · have hlt := (haddressed i r hx).numbered
      omega
  · have hnow : (play timing es).now = a := by
      rcases polledAt_snoc.1 ha with ha | ⟨-, -, hnow⟩
      · exact absurd (EnteredAt.polled ha) ((tracked timing es i).fresh hx)
      · exact hnow
    obtain ⟨c, draws, timestamp, -, hreg, -⟩ := hstep.entered hx hr
    obtain ⟨hnext, -, hpending, -⟩ := Desk.of_register hreg
    rw [hpending] at hp
    by_cases hid : id = r.id
    · rw [hid, Table.find?_insert_self] at hp
      cases hp
      exact hnow
    · rw [Table.find?_insert_of_ne _ _ hid] at hp
      have hlt := hnumbered.pending id p hp
      omega

theorem publishing_step (h : Dated timing es (play timing es))
    (hs : (play timing (es ++ [e])).stage? i = some (.publishing r (.running n))) :
    ¬ ResumedAt timing (es ++ [e]) i u := by
  intro hu
  rcases polledAt_snoc.1 hu with hu | ⟨⟨draws, wall, rfl⟩, hresumes, -⟩
  · rcases publishing_since hs with hx | hx
    · exact h.publishing i r n hx u hu
    · exact absurd (ResumedAt.polled hu) ((tracked timing es i).fresh hx)
  · exact (happens timing es _).not_publishing hresumes _ hs

theorem waiting_step (h : Dated timing es (play timing es))
    (hs : (play timing (es ++ [e])).stage? i = some (.waiting r alarm)) :
    (∃ u, ResumedAt timing (es ++ [e]) i u) ∧
      ∀ u, ResumedAt timing (es ++ [e]) i u → alarm.due = timing.deadline u := by
  rcases waiting_since hs with hx | ⟨hpoll, hresumes, hdue⟩
  · obtain ⟨⟨u, hu⟩, hall⟩ := h.waiting i r alarm hx
    refine ⟨⟨u, polledAt_snoc.2 (Or.inl hu)⟩, fun u' hu' => ?_⟩
    rcases polledAt_snoc.1 hu' with hu' | ⟨-, ⟨_, _, _, _, _, hpublishing, _⟩, -⟩
    · exact hall u' hu'
    · cases hx.symm.trans hpublishing
  · refine ⟨⟨_, polledAt_snoc.2 (Or.inr ⟨hpoll, hresumes, rfl⟩)⟩, fun u hu => ?_⟩
    rcases polledAt_snoc.1 hu with hu | ⟨-, -, rfl⟩
    · obtain ⟨_, _, _, _, _, hpublishing, _⟩ := hresumes
      exact absurd hu (h.publishing _ _ _ hpublishing u)
    · exact hdue

end Dated

/-- Entries and alarms are dated in every run. -/
theorem dated (timing : DeskClock) (es : List Event) : Dated timing es (play timing es) := by
  induction es using List.reverseRecOn with
  | nil =>
    refine ⟨fun i r hr => ?_, fun i r a hr => ?_, fun i r n hs => ?_, fun i r alarm hs => ?_⟩
    · cases hr
    · cases hr
    · cases hs
    · cases hs
  | append_singleton es e ih =>
    exact ⟨fun i r hr => ih.entered_step hr, fun i r a hr ha id p hp => ih.entry_step hr ha hp,
      fun i r n hs u => ih.publishing_step hs, fun i r alarm hs => ih.waiting_step hs⟩

/-! ### The entries that sweeps take -/

/-- The entry that a sweep takes is too old. -/
theorem SweptAt.older (h : SweptAt timing es i n) (ha : EnteredAt timing es i a) :
    min (2 * timing.ackTimeout.nanos) Span.longest.nanos < (n - a) * Span.nanosPerMilli := by
  obtain ⟨pre, r, ho, hr, hbefore, hafter, rfl⟩ := h
  have hpre : pre <+: es := (List.prefix_append pre _).trans ho.isPrefix
  have hentered := ha.before hpre ((tracked timing pre i).held r hr)
  obtain ⟨p, hp, hchannel⟩ := Desk.hasEntry_iff.1 hbefore
  have hcreated := (dated timing pre).entry i r a hr hentered r.id p hp hchannel
  have hexpired : (play timing pre).desk.isExpired (play timing pre).now p = true := by
    by_contra hyoung
    have hkept : (play timing (pre ++ [.sweep])).desk.hasEntry r = true := by
      rw [play_snoc]
      exact Desk.hasEntry_iff.2 ⟨p, Desk.find?_sweep.2 ⟨hp, Bool.not_eq_true _ ▸ hyoung⟩, hchannel⟩
    rw [hkept] at hafter
    cases hafter
  rw [Desk.isExpired_iff, Desk.maxAge, (clocked timing pre).timing_eq, hcreated] at hexpired
  exact hexpired

theorem SweptAt.le_now (h : SweptAt timing es i n) : n ≤ (play timing es).now := by
  obtain ⟨pre, r, ho, -, -, -, rfl⟩ := h
  exact now_le_of_isPrefix ((List.prefix_append pre _).trans ho.isPrefix)

/-- A sweep that comes before the end of the wait takes the entry only of a sender that was slow to
publish, and only when it is older than twice the timeout. -/
theorem SweptAt.slow (h : SweptAt timing es i n) (ha : EnteredAt timing es i a)
    (hwhole : Span.nanosPerMilli ∣ timing.ackTimeout.nanos)
    (hclock : n * Span.nanosPerMilli ≤ Span.longest.nanos)
    (hwait : n ≤ u + timing.ackTimeout.millisUp) :
    timing.ackTimeout.nanos < (u - a) * Span.nanosPerMilli ∧
      2 * timing.ackTimeout.nanos < (n - a) * Span.nanosPerMilli := by
  have hold := h.older ha
  have hmillis := Span.millisUp_whole hwhole
  -- nothing is older than the longest span
  have hage : 2 * timing.ackTimeout.nanos < (n - a) * Span.nanosPerMilli := by
    simp only [Span.nanosPerMilli] at hold hclock ⊢
    omega
  refine ⟨?_, hage⟩
  simp only [Span.nanosPerMilli] at hage hmillis ⊢
  omega

/-- A sender in progress whose entry a sweep took was in progress at that sweep. -/
theorem sweptAt_of_sweptIn (hes : Run.Along step FreshAt (start timing) es)
    (hr : (play timing es).registration? i = some r) (h : SweptIn timing es r) :
    ∃ n, SweptAt timing es i n := by
  obtain ⟨pre, ho, hbefore, hafter⟩ := h
  obtain ⟨a, first, draws, wall, hfirst, hfresh, -⟩ := (dated timing es).entered i r hr
  rcases ho.trichotomy hfirst with hsooner | ⟨-, heq⟩ | hlater
  · -- the channel of the sender is a new one at its first poll
    have hpolled : Polled timing (first ++ [.poll i draws wall]) i :=
      ⟨first, draws, wall, _, Run.occurs_snoc.2 (Or.inr ⟨rfl, rfl⟩), hfresh⟩
    obtain ⟨post, hpost⟩ := hfirst.isPrefix
    have hnew := registration?_before hpolled (hpost.symm ▸ hr)
    obtain ⟨c, draws', timestamp, -, hreg, -⟩ := (happens timing first _).entered hfresh hnew
    have hchannel := (Desk.of_register hreg).1
    have hstart := hes.of_isPrefix ((List.prefix_append first _).trans hfirst.isPrefix)
    have hlt := (booked hstart).swept_numbered r ⟨pre, hsooner, hbefore, hafter⟩
    omega
  · cases heq
  · obtain ⟨post, hpost⟩ := (List.prefix_append pre [.sweep]).trans ho.isPrefix
    have hheld : (play timing pre).registration? i = some r :=
      registration?_before ⟨first, draws, wall, _, hlater, hfresh⟩ (hpost.symm ▸ hr)
    exact ⟨_, pre, r, ho, hheld, hbefore, hafter, rfl⟩

/-- A sender that ends after it has waited waits under an alarm until then. -/
theorem EndsWith.waitsUnder {result : Except CommandError Reply}
    (h : EndsWith timing es i draws wall result) (hresult : IsAwaited result) :
    ∃ c s r alarm, (play timing es).call? i = some c ∧ (play timing es).stage? i = some s ∧
      s.registration? = some r ∧
      s.WaitsUnder c ((play timing es).sendView draws wall) (play timing es).desk r alarm := by
  rcases h.ends_cases with ⟨_, _, _, _, _, rfl⟩ | ⟨c, s, r, hc, hs, hr, -⟩
  · exact hresult.elim
  · have hend := h.2
    have hstep : (play timing es).step (.poll i draws wall) =
        (play timing es).pollStage i draws wall c s := by rw [step, hs, hc]
    rw [play_snoc, hstep] at hend
    have hpoll : (s.poll c ((play timing es).sendView draws wall) (play timing es).desk).stage =
        .ended result :=
      Option.some.inj ((stage?_setStage_self hc _).symm.trans hend)
    obtain ⟨alarm, hw⟩ :=
      SendStage.waitsUnder_of_ended hr (staffed timing es i s hs) hpoll hresult
    exact ⟨c, s, r, alarm, hc, hs, hr, hw⟩

/-! ### Waits that are resolved in time -/

/-- A sweep does not come after the end of the wait of a sender that has not been polled since. -/
def ResolvedAt (x : Exchange) : Event → Prop
  | .sweep => ∀ i r alarm, x.stage? i = some (.waiting r alarm) → x.now ≤ alarm.due
  | _ => True

/-- The same where a wait takes the timeout from the end of the publishing, whether the sender has
heard of that or not. -/
def ConcludedAt (x : Exchange) : Event → Prop
  | .sweep => ∀ i r t, x.registration? i = some r → PublishedAt x i t →
      x.now ≤ t + x.desk.timing.ackTimeout.millisUp
  | _ => True

/-- An envelope that is published after a step was so before, or it is published now. -/
theorem PublishedAt.step_cases (h : PublishedAt (x.step e) i t) {c : SendCall}
    (hc : x.call? i = some c) : PublishedAt x i t ∨ t = x.now := by
  obtain ⟨m, j', c', k, hj', hown, hc', hout, hok⟩ := h
  cases (call?_step hc e).symm.trans hc'
  rcases Nat.lt_or_ge m x.jobs.length with hlt | hge
  · obtain ⟨j, hj⟩ : ∃ j, x.jobs[m]? = some j := ⟨_, List.getElem?_eq_getElem hlt⟩
    obtain ⟨j'', hj'', hown', hsame | ⟨-, k', -, hnew⟩⟩ := jobs_step hj e
    · cases hj'.symm.trans hj''
      exact Or.inl ⟨m, j, c, k, hj, hown'.symm.trans hown, hc, hsame.symm.trans hout, hok⟩
    · cases hj'.symm.trans hj''
      cases hnew.symm.trans hout
      exact Or.inr rfl
  · cases (jobs_step_new hge hj').symm.trans hout

theorem PublishedAt.before_or_later (h : PublishedAt (play timing es) i t) (hpre : pre <+: es)
    {c : SendCall} (hc : (play timing pre).call? i = some c) :
    PublishedAt (play timing pre) i t ∨ (play timing pre).now ≤ t := by
  obtain ⟨post, rfl⟩ := hpre
  suffices hpost : (play timing (pre ++ post)).call? i = some c ∧
      (PublishedAt (play timing (pre ++ post)) i t →
        PublishedAt (play timing pre) i t ∨ (play timing pre).now ≤ t) from hpost.2 h
  clear h
  induction post using List.reverseRecOn with
  | nil =>
    rw [List.append_nil]
    exact ⟨hc, Or.inl⟩
  | append_singleton post e ih =>
    rw [← List.append_assoc, play_snoc]
    refine ⟨call?_step ih.1 e, fun h => ?_⟩
    rcases h.step_cases ih.1 with hpost | rfl
    · exact ih.2 hpost
    · exact Or.inr (now_le_of_isPrefix (List.prefix_append pre post))

/-- A sweep that takes an entry comes before the end of the wait, counted from the poll at which the
sender heard that its envelope is out. -/
theorem ResumedAt.outlasts (hu : ResumedAt timing es' i u) (hle : es <+: es')
    (h : SweptAt timing es i n) (hes : Run.Along step ResolvedAt (start timing) es) :
    n ≤ u + timing.ackTimeout.millisUp := by
  obtain ⟨pre, r, ho, hr, -, -, rfl⟩ := h
  have hpre : pre <+: es' := ((List.prefix_append pre _).trans ho.isPrefix).trans hle
  have hresolved := ((Run.along_snoc pre _).1 (hes.of_isPrefix ho.isPrefix)).2
  rcases PolledAt.before_or_later hu hpre with hin | ⟨hlater, -⟩
  · obtain ⟨s, hs, hsr⟩ := registration?_eq_some_iff.1 hr
    cases s with
    | fresh => cases hsr
    | ended result => cases hsr
    | publishing r' g =>
      obtain ⟨m, rfl⟩ := staffed timing pre i _ hs r' g rfl
      exact absurd hin ((dated timing pre).publishing i r' m hs u)
    | waiting r' alarm =>
      have hdue := ((dated timing pre).waiting i r' alarm hs).2 u hin
      have hnow : (play timing pre).now ≤ alarm.due := hresolved i r' alarm hs
      rw [hdue] at hnow
      exact Nat.le_trans hnow (timing.timer.due_le u _)
  · omega

/-- The same, counted from the end of the publishing. -/
theorem PublishedAt.outlasts (ht : PublishedAt (play timing es') i t) (hle : es <+: es')
    (h : SweptAt timing es i n) (hes : Run.Along Exchange.step ConcludedAt (start timing) es) :
    n ≤ t + timing.ackTimeout.millisUp := by
  obtain ⟨pre, r, ho, hr, -, -, rfl⟩ := h
  have hpre : pre <+: es' := ((List.prefix_append pre _).trans ho.isPrefix).trans hle
  have hconcluded := ((Run.along_snoc pre _).1 (hes.of_isPrefix ho.isPrefix)).2
  obtain ⟨s, hs, -⟩ := registration?_eq_some_iff.1 hr
  obtain ⟨c, hc⟩ := call?_of_stage? hs
  rcases ht.before_or_later hpre hc with hin | hlater
  · have hnow : (play timing pre).now ≤ t + (play timing pre).desk.timing.ackTimeout.millisUp :=
      hconcluded i r t hr hin
    rwa [(clocked timing pre).timing_eq] at hnow
  · omega

/-! ### Healthy senders -/

/-- Sweeps spare the senders whose envelopes are published in time.  A sender is given by its number,
the end of its publishing by a time. -/
structure SparesHealthy (timing : DeskClock) (es : List Event)
    (completes : List Event → Nat → Nat → Prop) : Prop where
  /-- No sweep takes the entry of a sender whose publishing ends within the timeout. -/
  spared : ∀ i a u, EnteredAt timing es i a → completes es i u →
    (u - a) * Span.nanosPerMilli ≤ timing.ackTimeout.nanos → ∀ n, ¬ SweptAt timing es i n
  /-- A sender expires only if its publishing took longer, and its entry was older than twice the
  timeout when it was swept, provided that senders in progress are told apart. -/
  expired : Run.Along step FreshAt (start timing) es → ∀ i draws wall id,
    EndsWith timing es i draws wall (.error (.expired id)) →
    ∃ a u n, EnteredAt timing es i a ∧ completes (es ++ [.poll i draws wall]) i u ∧
      SweptAt timing es i n ∧ timing.ackTimeout.nanos < (u - a) * Span.nanosPerMilli ∧
      2 * timing.ackTimeout.nanos < (n - a) * Span.nanosPerMilli

/-- Sweeps that take entries only before the ends of the waits spare the healthy. -/
theorem sparesHealthy {completes : List Event → Nat → Nat → Prop}
    (hwhole : Span.nanosPerMilli ∣ timing.ackTimeout.nanos)
    (hclock : (play timing es).now * Span.nanosPerMilli ≤ Span.longest.nanos)
    (houtlasts : ∀ es' i u n, es <+: es' → completes es' i u → SweptAt timing es i n →
      n ≤ u + timing.ackTimeout.millisUp)
    (hcompletes : ∀ i draws wall result, EndsWith timing es i draws wall result →
      IsAwaited result → ∃ u, completes (es ++ [.poll i draws wall]) i u) :
    SparesHealthy timing es completes := by
  have hspan : ∀ i n, SweptAt timing es i n → n * Span.nanosPerMilli ≤ Span.longest.nanos := by
    intro i n hn
    exact Nat.le_trans (Nat.mul_le_mul_right _ hn.le_now) hclock
  refine ⟨fun i a u ha hu hle n hn => ?_, fun hes i draws wall id hends => ?_⟩
  · have hslow := hn.slow ha hwhole (hspan i n hn) (houtlasts es i u n (List.prefix_refl es) hu hn)
    exact absurd hslow.1 (Nat.not_lt.2 hle)
  · obtain ⟨r, hr, -, -, hswept⟩ := hends.expired hes
    obtain ⟨n, hn⟩ := sweptAt_of_sweptIn hes hr hswept
    obtain ⟨a, ha⟩ := (dated timing es).entered i r hr
    obtain ⟨u, hu⟩ := hcompletes i draws wall _ hends trivial
    have hslow := hn.slow ha hwhole (hspan i n hn)
      (houtlasts _ i u n (List.prefix_append es _) hu hn)
    exact ⟨a, u, n, ha, hu, hn, hslow.1, hslow.2⟩

/-- A sender that has waited has heard of the end of its publishing, at its last poll at the
latest. -/
theorem EndsWith.resumed {result : Except CommandError Reply}
    (h : EndsWith timing es i draws wall result) (hresult : IsAwaited result) :
    ∃ u, ResumedAt timing (es ++ [.poll i draws wall]) i u := by
  obtain ⟨c, s, r, alarm, hc, hs, -, hw⟩ := h.waitsUnder hresult
  rcases hw with rfl | ⟨m, k, _, rfl, hjob, hok, -⟩
  · obtain ⟨⟨u, hu⟩, -⟩ := (dated timing es).waiting i r alarm hs
    exact ⟨u, polledAt_snoc.2 (Or.inl hu)⟩
  · exact ⟨_, polledAt_snoc.2 (Or.inr ⟨⟨draws, wall, rfl⟩, ⟨c, r, m, k, hc, hs, hjob, hok⟩, rfl⟩)⟩

/-- **A sweep is exact, and it spares the healthy.**  At every desk and at any time it takes the
entries that are older than twice the timeout.  In a run in which waits are resolved before a sweep
can meet them, these are entries of senders whose publishing took too long, whether it ends when the
sender hears of it or when the job ends.  The timeout is one of whole milliseconds, and no clock
shows more than the longest span. -/
theorem sweep_exact_and_sparing : (∀ d now, Desk.SweepsExactly d now) ∧
    ∀ timing es, Span.nanosPerMilli ∣ timing.ackTimeout.nanos →
      (play timing es).now * Span.nanosPerMilli ≤ Span.longest.nanos →
      (Run.Along step ResolvedAt (start timing) es →
        SparesHealthy timing es (ResumedAt timing)) ∧
      (Run.Along step ConcludedAt (start timing) es →
        SparesHealthy timing es fun es' i t => PublishedAt (play timing es') i t) := by
  refine ⟨Desk.sweepsExactly, fun timing es hwhole hclock => ⟨fun hes => ?_, fun hes => ?_⟩⟩
  · refine sparesHealthy hwhole hclock (fun es' i u n hle hu hn => hu.outlasts hle hn hes) ?_
    exact fun i draws wall result h hresult => h.resumed hresult
  · refine sparesHealthy hwhole hclock (fun es' i t n hle ht hn => ht.outlasts hle hn hes) ?_
    intro i draws wall result h hresult
    obtain ⟨c, s, r, alarm, hc, hs, -, hw⟩ := h.waitsUnder hresult
    obtain ⟨t, seen, ht, -⟩ := (clocked timing es).waitsUnder hc hs hw
    exact ⟨t, ht.of_isPrefix (List.prefix_append es _)⟩

/-- The envelope of a sender is published after more than twice the timeout, and a sweep has come. -/
def sweptBeforePublished : List Event :=
  [.begin ⟨⟨[1]⟩, "lock-1", .unlock, .empty⟩, .poll 0 (fun _ => "a") .epoch, .pass 60001, .sweep,
    .jobEnds 0 (.finished (.ok ()))]

theorem sweep_exact_and_sparing_sweptBeforePublished :
    EndsWith .standard sweptBeforePublished 0 (fun _ => "b") .epoch (.error (.expired "a")) ∧
      (∀ d now, Desk.SweepsExactly d now) ∧
      SparesHealthy .standard sweptBeforePublished (ResumedAt .standard) ∧
      SparesHealthy .standard sweptBeforePublished
        fun es' i t => PublishedAt (play .standard es') i t := by
  have hresolved : Run.Along step ResolvedAt (start .standard) sweptBeforePublished := by
    refine ⟨trivial, trivial, trivial, fun i r alarm hs => ?_, trivial, trivial⟩
    match i with
    | 0 | _ + 1 => cases hs
  have hconcluded : Run.Along step ConcludedAt (start .standard) sweptBeforePublished := by
    refine ⟨trivial, trivial, trivial, fun i r t _ ht => ?_, trivial, trivial⟩
    obtain ⟨m, j, c, k, hj, -, -, hout, -⟩ := ht
    match m with
    | 0 =>
      cases hj
      cases hout
    | _ + 1 => cases hj
  have hends : EndsWith .standard sweptBeforePublished 0 (fun _ => "b") .epoch
      (.error (.expired "a")) :=
    ⟨⟨_, rfl, fun q hq => by cases hq⟩, rfl⟩
  have hspares := sweep_exact_and_sparing.2 .standard sweptBeforePublished (by decide) (by decide)
  exact ⟨hends, sweep_exact_and_sparing.1, hspares.1 hresolved, hspares.2 hconcluded⟩

end Exchange

end LockFleet
