import LockFleet.Periodic

/-!
# The rhythm of periodic tasks

The next tick of a periodic task is never further away than one period from the last poll that
started the task or began its work.  A task that is polled at each of its ticks in time, and whose
work is done at once, keeps the beat of its start.

* `Span.CanRepeat` — the periods that can be kept;
* `Periodic.begins` — the polls that begin the work;
* `Periodic.Paced`, `Paced.poll` — how far away the next tick is, whatever the work and the delays;
* `Periodic.OnBeat`, `OnBeat.poll`, `OnBeat.pass` — a task that keeps the beat, and its ticks so far.
-/

namespace LockFleet

/-- Work can be done again each time the span has passed. -/
def Span.CanRepeat (s : Span) : Prop := s.nanos ≠ 0 ∧ Alarm.fitsClock s = true

instance (s : Span) : Decidable s.CanRepeat :=
  inferInstanceAs (Decidable (s.nanos ≠ 0 ∧ Alarm.fitsClock s = true))

/-! ### Tickers -/

namespace Ticker

variable {t : Ticker} {period : Span} {now stamp : Nat}

theorem start?_of_canRepeat (h : period.CanRepeat) (now : Nat) :
    start? now period = some ⟨now * Span.nanosPerMilli + period.nanos, period⟩ := by
  have hkept : ¬ (period.nanos = 0 ∨ ¬ Alarm.fitsClock period) := by
    rintro (hzero | hlong)
    · exact h.1 hzero
    · exact hlong h.2
  rw [start?, if_neg hkept]

theorem start?_of_not_canRepeat (h : ¬ period.CanRepeat) (now : Nat) :
    start? now period = none := by
  rw [start?, if_pos]
  by_cases hzero : period.nanos = 0
  · exact Or.inl hzero
  · exact Or.inr fun hfits => h ⟨hzero, hfits⟩

/-- The alarm of a tick goes off in the first millisecond in which the tick is due. -/
theorem isDue_alarm : (t.alarm stamp).isDue now = true ↔ t.next ≤ now * Span.nanosPerMilli := by
  rw [Alarm.isDue, decide_eq_true_iff]
  simp only [alarm, Span.nanosPerMilli]
  omega

theorem le_due_alarm : now ≤ (t.alarm stamp).due ↔
    now * Span.nanosPerMilli < t.next + Span.nanosPerMilli := by
  simp only [alarm, Span.nanosPerMilli]
  omega

@[simp] theorem period_advance : (t.advance now).period = t.period := by
  simp only [advance]
  split <;> rfl

theorem next_advance_le (h : t.next ≤ now * Span.nanosPerMilli) :
    (t.advance now).next ≤ now * Span.nanosPerMilli + t.period.nanos := by
  simp only [advance]
  split
  · exact Nat.le_refl _
  · exact Nat.add_le_add_right h _

/-- A tick that is not late leaves the beat as it is. -/
theorem next_advance (h : now * Span.nanosPerMilli ≤ t.next + tolerance) :
    (t.advance now).next = t.next + t.period.nanos := by
  simp only [advance, if_neg (Nat.not_lt.2 h)]

/-- The next tick is at most a period away from a time. -/
structure Within (period : Span) (since : Nat) (t : Ticker) : Prop where
  period_eq : t.period = period
  next_le : t.next ≤ since * Span.nanosPerMilli + period.nanos

end Ticker

namespace Periodic

variable {σ W : Type} {v : View} {token : Token} {p : Periodic σ} {period : Span} {t : Ticker}
  {alarm : Alarm} {since : Nat}

/-! ### The next tick -/

/-- Whether a poll begins the work. -/
def begins (v : View) (token : Token) : Periodic σ → Bool
  | idle _ alarm => !v.isCancelled token && v.isDue alarm
  | _ => false

/-- Whether the period counts from a poll: the poll starts the task or begins its work. -/
def counts (v : View) (token : Token) : Periodic σ → Bool
  | fresh _ => true
  | p => p.begins v token

/-- The time from which the period counts after a poll. -/
def last (v : View) (token : Token) (since : Nat) (p : Periodic σ) : Nat :=
  if p.counts v token then v.now else since

theorem last_idle : (idle t alarm : Periodic σ).last v token since =
    if !v.isCancelled token && v.isDue alarm then v.now else since :=
  rfl

theorem last_of_not_begins (h : p.begins v token = false) (hp : ∀ period, p ≠ fresh period) :
    p.last v token since = since := by
  cases p with
  | fresh period => exact absurd rfl (hp period)
  | _ => exact if_neg (Bool.eq_false_iff.1 h)

theorem last_le (h : since ≤ v.now) : p.last v token since ≤ v.now := by
  rw [last]
  split
  · exact Nat.le_refl _
  · exact h

theorem le_last (h : since ≤ v.now) : since ≤ p.last v token since := by
  rw [last]
  split
  · exact h
  · exact Nat.le_refl _

/-- The task keeps a period, and its next tick is at most that far away from a time. -/
def Paced (period : Span) (since : Nat) : Periodic σ → Prop
  | fresh period' => period' = period
  | idle t alarm => t.Within period since ∧ alarm = t.alarm alarm.stamp
  | busy t _ => t.Within period since
  | ended => True
  | brokenOff => False

theorem paced_work (h : t.Within period since) (v : View) (turn : σ → W → Option σ × W) (s : σ)
    (w : W) : (work v turn t s w).1.Paced period since := by
  rw [work]
  split
  · exact h
  · exact ⟨h, rfl⟩

/-- **The next tick stays within reach**, however late the polls are and however long the work
takes. -/
theorem Paced.poll (h : p.Paced period since) (hperiod : period.CanRepeat) (v : View) (token : Token)
    (begin : σ) (turn : σ → W → Option σ × W) (w : W) :
    (p.poll v token begin turn w).1.Paced period (p.last v token since) := by
  cases p with
  | fresh period' =>
    obtain rfl : period' = period := h
    rw [Periodic.poll, Ticker.start?_of_canRepeat hperiod]
    dsimp only
    split
    · exact True.intro
    · exact ⟨⟨rfl, Nat.le_refl _⟩, rfl⟩
  | idle t alarm =>
    obtain ⟨ht, halarm⟩ := h
    rw [Periodic.poll, last_idle]
    cases hcancelled : v.isCancelled token with
    | true => exact True.intro
    | false =>
      cases hdue : v.isDue alarm with
      | false => exact ⟨ht, halarm⟩
      | true =>
        have hnext : t.next ≤ v.now * Span.nanosPerMilli := by
          rw [View.isDue, halarm] at hdue
          exact Ticker.isDue_alarm.1 hdue
        refine paced_work ⟨?_, ?_⟩ v turn begin w
        · rw [Ticker.period_advance, ht.period_eq]
        · rw [← ht.period_eq]
          exact Ticker.next_advance_le hnext
  | busy t s => exact paced_work h v turn s w
  | ended => exact True.intro
  | brokenOff => exact h

/-- A task that waits for its next tick has not waited for a whole period. -/
theorem Paced.waits (h : (idle t alarm : Periodic σ).Paced period since) {now : Nat}
    (hdue : alarm.isDue now = false) :
    now * Span.nanosPerMilli < since * Span.nanosPerMilli + period.nanos := by
  obtain ⟨ht, halarm⟩ := h
  have hnext : ¬ t.next ≤ now * Span.nanosPerMilli := by
    intro hle
    rw [halarm, Ticker.isDue_alarm.2 hle] at hdue
    cases hdue
  have hwithin := ht.next_le
  omega

section Poll

variable {begin : σ} {turn : σ → W → Option σ × W} {w : W}

/-- What becomes of the surroundings when the work begins. -/
theorem poll_of_begins (h : p.begins v token = true) :
    (p.poll v token begin turn w).2 = (turn begin w).2 := by
  cases p with
  | idle t alarm =>
    rw [begins, Bool.and_eq_true, Bool.not_eq_true'] at h
    rw [poll, h.1, if_neg Bool.false_ne_true, h.2, if_pos rfl, work]
    split <;> next hturn => rw [hturn]
  | _ => cases h

theorem poll_ne_fresh : (p.poll v token begin turn w).1 ≠ fresh period := by
  have hwork : ∀ t s, (work v turn t s w).1 ≠ fresh period := by
    intro t s
    rw [work]
    split <;> exact nofun
  cases p with
  | fresh period =>
    rw [poll]
    split
    · exact nofun
    · split <;> exact nofun
  | idle t alarm =>
    rw [poll]
    split
    · exact nofun
    · split
      · exact hwork _ _
      · exact nofun
  | busy t s => exact hwork t s
  | ended => exact nofun
  | brokenOff => exact nofun

/-- A task whose period cannot be kept breaks off at its first poll. -/
theorem poll_of_not_canRepeat (hperiod : ¬ period.CanRepeat)
    (hp : p = fresh period ∨ p = brokenOff) :
    p.poll v token begin turn w = (brokenOff, w) := by
  rcases hp with rfl | rfl
  · rw [poll, Ticker.start?_of_not_canRepeat hperiod]
  · rfl

/-- A task whose token is not cancelled does not end. -/
theorem poll_ne_ended (hcancelled : v.isCancelled token = false) (hp : p ≠ ended) :
    (p.poll v token begin turn w).1 ≠ ended := by
  have hwork : ∀ t s, (work v turn t s w).1 ≠ ended := by
    intro t s
    rw [work]
    split <;> exact nofun
  cases p with
  | fresh period =>
    rw [poll, hcancelled]
    split <;> exact nofun
  | idle t alarm =>
    rw [poll, hcancelled, if_neg Bool.false_ne_true]
    split
    · exact hwork _ _
    · exact nofun
  | busy t s => exact hwork t s
  | ended => exact absurd rfl hp
  | brokenOff => exact nofun

/-- What a task works on is left alone by a poll, or changed by one turn of its work. -/
theorem poll_world (v : View) (token : Token) (begin : σ) (turn : σ → W → Option σ × W) (w : W) :
    ((p.poll v token begin turn w).2 = w ∧ p.begins v token = false) ∨
      ∃ s, (p.poll v token begin turn w).2 = (turn s w).2 := by
  have hwork : ∀ t s, (work v turn t s w).2 = (turn s w).2 := by
    intro t s
    rw [work]
    split <;> next h => rw [h]
  cases p with
  | fresh period =>
    left
    rw [poll]
    split
    · exact ⟨rfl, rfl⟩
    · split <;> exact ⟨rfl, rfl⟩
  | idle t alarm =>
    rw [poll, begins]
    cases hcancelled : v.isCancelled token with
    | true => exact Or.inl ⟨rfl, rfl⟩
    | false =>
      cases hdue : v.isDue alarm with
      | true => exact Or.inr ⟨begin, hwork _ _⟩
      | false => exact Or.inl ⟨rfl, rfl⟩
  | busy t s => exact Or.inr ⟨s, hwork t s⟩
  | ended => exact Or.inl ⟨rfl, rfl⟩
  | brokenOff => exact Or.inl ⟨rfl, rfl⟩

end Poll

/-! ### The beat -/

/-- The task keeps the beat of its start: after so many ticks it has not waited for the next one
longer than until its alarm. -/
def OnBeat (period : Span) (start ticks now : Nat) : Periodic σ → Prop
  | fresh period' => period' = period ∧ ticks = 0 ∧ now = start
  | idle t alarm => t.period = period ∧ alarm = t.alarm alarm.stamp ∧
    t.next = start * Span.nanosPerMilli + (ticks + 1) * period.nanos ∧
    start * Span.nanosPerMilli + ticks * period.nanos ≤ now * Span.nanosPerMilli ∧ now ≤ alarm.due
  | busy _ _ => False
  | ended => True
  | brokenOff => False

/-- Whether time may go on for so long: there is nothing to do for the task, and its alarm is not
passed over. -/
def letsPass (v : View) (token : Token) (millis : Nat) : Periodic σ → Bool
  | fresh _ => false
  | idle _ alarm => !v.isCancelled token && !v.isDue alarm && v.now + millis ≤ alarm.due
  | _ => true

variable {start ticks : Nat}

/-- The beat begins with the start. -/
theorem onBeat_start (period : Span) (v : View) :
    (rest v ⟨v.now * Span.nanosPerMilli + period.nanos, period⟩ : Periodic σ).OnBeat period v.now 0
      v.now := by
  refine ⟨rfl, rfl, ?_, ?_, Ticker.le_due_alarm.2 ?_⟩
  · rw [Nat.zero_add, Nat.one_mul]
  · exact Nat.le_of_eq (by rw [Nat.zero_mul, Nat.add_zero])
  · simp only [Span.nanosPerMilli]
    omega

/-- A tick in its first millisecond is followed by the next one on the beat. -/
theorem onBeat_advance (hperiod : t.period = period)
    (hnext : t.next = start * Span.nanosPerMilli + (ticks + 1) * period.nanos)
    (hdue : t.next ≤ v.now * Span.nanosPerMilli)
    (hnow : v.now * Span.nanosPerMilli < t.next + Span.nanosPerMilli) :
    (rest v (t.advance v.now) : Periodic σ).OnBeat period start (ticks + 1) v.now := by
  have hadvance : (t.advance v.now).next = t.next + period.nanos := by
    rw [← hperiod]
    refine Ticker.next_advance ?_
    simp only [Ticker.tolerance, Span.nanosPerMilli] at hnow ⊢
    omega
  have hbeat : (ticks + 1 + 1) * period.nanos = (ticks + 1) * period.nanos + period.nanos :=
    Nat.succ_mul _ _
  refine ⟨?_, rfl, ?_, ?_, Ticker.le_due_alarm.2 ?_⟩
  · rw [Ticker.period_advance, hperiod]
  · rw [hadvance, hnext]
    exact (Nat.add_assoc _ _ _).trans (congrArg _ hbeat.symm)
  · exact hnext ▸ hdue
  · rw [hadvance]
    omega

/-- Work that is done at once leaves the task waiting. -/
theorem work_of_done {turn : σ → W → Option σ × W} {s : σ} {w : W} (h : (turn s w).1 = none) :
    (work v turn t s w).1 = rest v t := by
  rw [work]
  split
  · next s' u hs =>
    rw [hs] at h
    cases h
  · rfl

/-- **A poll in time keeps the beat**, if the work is done at once. -/
theorem OnBeat.poll (h : p.OnBeat period start ticks v.now) (hperiod : period.CanRepeat)
    (token : Token) {begin : σ} {turn : σ → W → Option σ × W} {w : W}
    (hturn : p.begins v token = true → (turn begin w).1 = none) :
    (p.poll v token begin turn w).1.OnBeat period start (ticks + (p.begins v token).toNat)
      v.now := by
  cases p with
  | fresh period' =>
    obtain ⟨rfl, rfl, rfl⟩ := h
    rw [Periodic.poll, Ticker.start?_of_canRepeat hperiod]
    dsimp only
    split
    · exact True.intro
    · exact onBeat_start period' v
  | idle t alarm =>
    obtain ⟨ht, halarm, hnext, hticks, hnow⟩ := h
    rw [Periodic.poll]
    rw [begins] at hturn ⊢
    cases hcancelled : v.isCancelled token with
    | true => exact True.intro
    | false =>
      cases hdue : v.isDue alarm with
      | false => exact ⟨ht, halarm, hnext, hticks, hnow⟩
      | true =>
        rw [hcancelled, hdue] at hturn
        rw [View.isDue, halarm, Ticker.isDue_alarm] at hdue
        rw [halarm, Ticker.le_due_alarm] at hnow
        have hrests := onBeat_advance (σ := σ) ht hnext hdue hnow
        rw [← work_of_done (hturn rfl)] at hrests
        exact hrests
  | busy t s => exact h.elim
  | ended => exact True.intro
  | brokenOff => exact h

/-- The beat is kept while time goes on until the next tick. -/
theorem OnBeat.pass (h : p.OnBeat period start ticks v.now) {millis : Nat}
    (hpass : p.letsPass v token millis = true) : p.OnBeat period start ticks (v.now + millis) := by
  cases p with
  | fresh period' => cases hpass
  | idle t alarm =>
    obtain ⟨ht, halarm, hnext, hticks, -⟩ := h
    rw [letsPass, Bool.and_eq_true] at hpass
    exact ⟨ht, halarm, hnext, Nat.le_trans hticks (Nat.mul_le_mul_right _ (Nat.le_add_right _ _)),
      of_decide_eq_true hpass.2⟩
  | busy t s => exact h.elim
  | ended => exact True.intro
  | brokenOff => exact h

/-- **On the beat every tick counts**: a task that waits has had one tick for each period since its
start. -/
theorem OnBeat.ticks_eq {now : Nat} (h : (idle t alarm : Periodic σ).OnBeat period start ticks now)
    (hdue : alarm.isDue now = false) :
    ticks = (now - start) * Span.nanosPerMilli / period.nanos := by
  obtain ⟨-, halarm, hnext, hticks, -⟩ := h
  have hlt : ¬ t.next ≤ now * Span.nanosPerMilli := by
    intro hle
    rw [halarm, Ticker.isDue_alarm.2 hle] at hdue
    cases hdue
  rw [hnext] at hlt
  rw [Nat.sub_mul]
  refine (Nat.div_eq_of_lt_le ?_ ?_).symm
  · omega
  · omega

end Periodic

end LockFleet
