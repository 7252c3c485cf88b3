import LockFleet.Proofs.Command.Exchange

/-!
# Senders in progress

A sender is in progress from its first poll until it ends or is given up.  All that time it holds
one registration, and the one envelope that it has published carries the identifier of that
registration.

* `Exchange.happens` — what an event does to the exchange of a run;
* `Exchange.Polled`, `Exchange.InProgress` — which senders are in progress, by the run alone;
* `Exchange.inProgress_iff` — those are the senders that hold a registration;
* `Exchange.registration?_constant` — a sender never changes its registration;
* `Exchange.filed` — what a sender in progress has published.
-/

namespace LockFleet.Exchange

variable {timing : DeskClock} {es : List Event} {x y : Exchange} {e : Event} {i j : Nat}
  {r r' : Registration}

theorem play_snoc (es : List Event) (e : Event) :
    play timing (es ++ [e]) = (play timing es).step e :=
  Run.after_snoc es e

theorem registration?_of_quiet
    (h : y.stage? j = x.stage? j ∨ (x.call? j = none ∧ y.stage? j = some .fresh)) :
    y.registration? j = x.registration? j := by
  rcases h with h | ⟨hx, hy⟩
  · exact registration?_congr h
  · rw [registration?, registration?, stage?_of_call? hx, hy]
    rfl

/-- A step keeps senders that publish through jobs. -/
theorem Staffed.step (hx : x.Staffed) (h : x.Happens e y) : y.Staffed := by
  have hother : ∀ i s, ¬ e.IsTurnOf i → y.stage? i = some s → s.HasJob := by
    intro i s hi hs
    rcases h.of_other hi with hsame | ⟨-, hnew⟩
    · exact hx i s (hsame.symm.trans hs)
    · rw [hnew] at hs
      cases hs
      intro r g hg
      cases hg
  intro i s hs
  by_cases hi : e.IsTurnOf i
  · cases h with
    | quiet _ stages =>
      rcases stages i with hsame | ⟨-, hnew⟩
      · exact hx i s (hsame.symm.trans hs)
      · rw [hnew] at hs
        cases hs
        intro r g hg
        cases hg
    | enters _ _ _ stage' =>
      cases hi
      rw [stage'] at hs
      cases hs
      intro r g hg
      cases hg
      exact ⟨_, rfl⟩
    | turnedAway _ _ _ _ _ stage' =>
      cases hi
      rw [stage'] at hs
      cases hs
      intro r g hg
      cases hg
    | stays _ stage _ _ stage' goesOn =>
      cases hi
      rw [stage'] at hs
      cases hs
      rcases goesOn with ⟨rfl, -⟩ | ⟨alarm, -, -, -, rfl⟩
      · exact hx i _ stage
      · intro r g hg
        cases hg
    | returns _ _ _ _ _ stage' =>
      cases hi
      rw [stage'] at hs
      cases hs
      intro r g hg
      cases hg
    | isGivenUp _ _ stage' =>
      cases hi
      rw [stage'] at hs
      cases hs
    | isForgotten _ _ stage' =>
      cases hi
      rw [stage'] at hs
      cases hs
    | acknowledged => exact hi.elim
    | swept => exact hi.elim
  · exact hother i s hi hs

/-- Every sender that publishes does so through a job, in every run. -/
theorem staffed (timing : DeskClock) (es : List Event) : (play timing es).Staffed := by
  induction es using List.reverseRecOn with
  | nil =>
    intro i s hs
    cases hs
  | append_singleton es e ih =>
    rw [play_snoc]
    exact ih.step (happens_step ih e)

/-- What an event does to the exchange of a run. -/
theorem happens (timing : DeskClock) (es : List Event) (e : Event) :
    Happens (play timing es) e (play timing (es ++ [e])) := by
  rw [play_snoc]
  exact happens_step (staffed timing es) e

/-- What a sender sends never changes. -/
theorem call?_step {c : SendCall} (h : x.call? i = some c) (e : Event) :
    (x.step e).call? i = some c := by
  cases e with
  | begin c' =>
    obtain ⟨r, hr, rfl⟩ := Option.map_eq_some_iff.1 h
    have hi : i < x.senders.length := (List.getElem?_eq_some_iff.1 hr).1
    show (x.senders ++ [_])[i]?.map Sender.call = some r.call
    rw [List.getElem?_append_left hi, hr]
    rfl
  | poll j draws wall =>
    rw [step]
    split
    · exact (call?_setStage _).trans h
    · exact h
  | giveUp j =>
    rw [step]
    split
    · exact (call?_setStage _).trans h
    · exact h
  | acknowledge a => exact h
  | cancel t => exact h
  | jobEnds n e => exact h
  | sweep => exact h
  | pass millis => exact h

/-! ### Who is in progress -/

/-- A sender that was there has been polled. -/
def Polled (timing : DeskClock) (es : List Event) (i : Nat) : Prop :=
  ∃ pre draws wall s, Run.Occurs es pre (.poll i draws wall) ∧ (play timing pre).stage? i = some s

/-- The sender has been polled, and has neither ended nor been given up. -/
def InProgress (timing : DeskClock) (es : List Event) (i : Nat) : Prop :=
  Polled timing es i ∧ ∃ s, (play timing es).stage? i = some s ∧ ∀ result, s ≠ .ended result

theorem not_polled_nil : ¬ Polled timing [] i :=
  fun ⟨_, _, _, _, h, _⟩ => Run.not_occurs_nil h

theorem polled_snoc : Polled timing (es ++ [e]) i ↔ Polled timing es i ∨
    ∃ draws wall s, e = .poll i draws wall ∧ (play timing es).stage? i = some s := by
  constructor
  · rintro ⟨pre, draws, wall, s, ho, hs⟩
    rcases Run.occurs_snoc.1 ho with ho | ⟨rfl, he⟩
    · exact Or.inl ⟨pre, draws, wall, s, ho, hs⟩
    · exact Or.inr ⟨draws, wall, s, he.symm, hs⟩
  · rintro (⟨pre, draws, wall, s, ho, hs⟩ | ⟨draws, wall, s, rfl, hs⟩)
    · exact ⟨pre, draws, wall, s, Run.occurs_snoc.2 (Or.inl ho), hs⟩
    · exact ⟨es, draws, wall, s, Run.occurs_snoc.2 (Or.inr ⟨rfl, rfl⟩), hs⟩

theorem Polled.of_isPrefix {pre : List Event} (h : Polled timing pre i) (hpre : pre <+: es) :
    Polled timing es i := by
  obtain ⟨p, draws, wall, s, ho, hs⟩ := h
  exact ⟨p, draws, wall, s, ho.of_isPrefix hpre, hs⟩

/-- A sender is fresh after a step only if it was fresh and not polled, or has just been made. -/
theorem Happens.fresh_cases (h : x.Happens e y) (hy : y.stage? i = some .fresh) :
    (x.stage? i = some .fresh ∧ ∀ draws wall, e ≠ .poll i draws wall) ∨ x.call? i = none := by
  by_cases hi : e.IsTurnOf i
  · cases h with
    | quiet _ stages _ idle =>
      rcases stages i with hsame | ⟨hnew, -⟩
      · refine Or.inl ⟨hsame.symm.trans hy, ?_⟩
        rintro draws wall rfl
        obtain ⟨result, hr⟩ := idle .fresh (hsame.symm.trans hy)
        cases hr
      · exact Or.inr hnew
    | enters _ _ _ stage' =>
      cases hi
      rw [stage'] at hy
      cases hy
    | turnedAway _ _ _ _ _ stage' =>
      cases hi
      rw [stage'] at hy
      cases hy
    | stays _ _ held _ stage' goesOn =>
      cases hi
      rw [stage'] at hy
      cases hy
      rcases goesOn with ⟨rfl, -⟩ | ⟨alarm, -, -, -, hw⟩
      · cases held
      · cases hw
    | returns _ _ _ _ _ stage' =>
      cases hi
      rw [stage'] at hy
      cases hy
    | isGivenUp _ _ stage' =>
      cases hi
      rw [stage'] at hy
      cases hy
    | isForgotten _ _ stage' =>
      cases hi
      rw [stage'] at hy
      cases hy
    | acknowledged => exact hi.elim
    | swept => exact hi.elim
  · rcases h.of_other hi with hsame | ⟨hnew, -⟩
    · exact Or.inl ⟨hsame.symm.trans hy, fun draws wall he => hi (by rw [he]; rfl)⟩
    · exact Or.inr hnew

/-- A sender holds after a step what it held before, or was fresh and has been polled. -/
theorem Happens.registration?_cases (h : x.Happens e y) (hy : y.registration? i = some r) :
    x.registration? i = some r ∨
      (x.stage? i = some .fresh ∧ ∃ draws wall, e = .poll i draws wall) := by
  by_cases hi : e.IsTurnOf i
  · cases h with
    | quiet _ stages => exact Or.inl ((registration?_of_quiet (stages i)).symm.trans hy)
    | enters _ stage =>
      cases hi
      exact Or.inr ⟨stage, _, _, rfl⟩
    | turnedAway _ stage =>
      cases hi
      exact Or.inr ⟨stage, _, _, rfl⟩
    | stays _ stage held _ stage' goesOn =>
      cases hi
      rw [registration?, stage'] at hy
      rw [registration?, stage]
      rcases goesOn with ⟨rfl, -⟩ | ⟨alarm, -, -, -, rfl⟩
      · exact Or.inl hy
      · exact Or.inl (held.trans hy)
    | returns _ _ _ _ _ stage' =>
      cases hi
      rw [registration?, stage'] at hy
      cases hy
    | isGivenUp _ _ stage' =>
      cases hi
      rw [registration?, stage'] at hy
      cases hy
    | isForgotten _ _ stage' =>
      cases hi
      rw [registration?, stage'] at hy
      cases hy
    | acknowledged => exact hi.elim
    | swept => exact hi.elim
  · exact Or.inl ((registration?_of_quiet (h.of_other hi)).symm.trans hy)

/-- Whether a sender has been polled can be read off its stage. -/
structure Tracked (timing : DeskClock) (es : List Event) (x : Exchange) (i : Nat) : Prop where
  fresh : x.stage? i = some .fresh → ¬ Polled timing es i
  unknown : x.call? i = none → ¬ Polled timing es i
  held : ∀ r, x.registration? i = some r → Polled timing es i

theorem tracked (timing : DeskClock) (es : List Event) (i : Nat) :
    Tracked timing es (play timing es) i := by
  induction es using List.reverseRecOn with
  | nil =>
    refine ⟨fun _ => not_polled_nil, fun _ => not_polled_nil, fun r hr => ?_⟩
    cases hr
  | append_singleton es e ih =>
    have hstep := happens timing es e
    refine ⟨fun hf hp => ?_, fun hu hp => ?_, fun r hr => ?_⟩
    · rcases hstep.fresh_cases hf with ⟨hx, hne⟩ | hx
      · rcases polled_snoc.1 hp with hp | ⟨draws, wall, s, he, -⟩
        · exact ih.fresh hx hp
        · exact hne draws wall he
      · rcases polled_snoc.1 hp with hp | ⟨draws, wall, s, -, hs⟩
        · exact ih.unknown hx hp
        · rw [stage?_of_call? hx] at hs
          cases hs
    · have hx : (play timing es).call? i = none := by
        cases hc : (play timing es).call? i with
        | none => rfl
        | some c =>
          rw [play_snoc, call?_step hc] at hu
          cases hu
      rcases polled_snoc.1 hp with hp | ⟨draws, wall, s, -, hs⟩
      · exact ih.unknown hx hp
      · rw [stage?_of_call? hx] at hs
        cases hs
    · rw [polled_snoc]
      rcases hstep.registration?_cases hr with hx | ⟨hx, draws, wall, he⟩
      · exact Or.inl (ih.held r hx)
      · exact Or.inr ⟨draws, wall, _, he, hx⟩

/-- **The senders in progress are those that hold a registration.** -/
theorem inProgress_iff :
    InProgress timing es i ↔ ∃ r, (play timing es).registration? i = some r := by
  have h := tracked timing es i
  constructor
  · rintro ⟨hp, s, hs, hne⟩
    rw [registration?, hs]
    cases s with
    | fresh => exact absurd hp (h.fresh hs)
    | publishing r g => exact ⟨r, rfl⟩
    | waiting r alarm => exact ⟨r, rfl⟩
    | ended result => exact absurd rfl (hne result)
  · rintro ⟨r, hr⟩
    refine ⟨h.held r hr, ?_⟩
    obtain ⟨s, hs, hsr⟩ := registration?_eq_some_iff.1 hr
    refine ⟨s, hs, ?_⟩
    rintro result rfl
    cases hsr

/-- A sender that has been polled keeps its registration as long as it is in progress. -/
theorem registration?_before {pre post : List Event} (hp : Polled timing pre i)
    (hr : (play timing (pre ++ post)).registration? i = some r) :
    (play timing pre).registration? i = some r := by
  induction post using List.reverseRecOn with
  | nil => rwa [List.append_nil] at hr
  | append_singleton post e ih =>
    rw [← List.append_assoc] at hr
    rcases (happens timing (pre ++ post) e).registration?_cases hr with hx | ⟨hx, -⟩
    · exact ih hx
    · exact absurd (hp.of_isPrefix (List.prefix_append pre post))
        ((tracked timing (pre ++ post) i).fresh hx)

/-- A sender never changes its registration. -/
theorem registration?_constant {pre : List Event} (hpre : pre <+: es)
    (hb : (play timing pre).registration? i = some r)
    (ha : (play timing es).registration? i = some r') : r = r' := by
  obtain ⟨post, rfl⟩ := hpre
  have h := registration?_before ((tracked timing pre i).held r hb) ha
  exact Option.some.inj (hb.symm.trans h)

/-! ### What a sender publishes -/

/-- What the senders have given to jobs to publish. -/
structure Filed (x : Exchange) : Prop where
  /-- A sender in progress has published one envelope, with its identifier. -/
  one : ∀ i r, x.registration? i = some r → ∃ c timestamp, x.call? i = some c ∧
    ∀ q, (i, q) ∈ x.posted ↔ q = c.publishing r.id timestamp
  /-- A sender that has not been polled has published nothing. -/
  fresh : ∀ i q, x.stage? i = some .fresh → (i, q) ∉ x.posted
  unknown : ∀ i q, x.call? i = none → (i, q) ∉ x.posted
  apart : (x.posted.map Prod.fst).Nodup

theorem length_posted (x : Exchange) : x.posted.length = x.jobs.length := List.length_map _

theorem posted_getElem? {n : Nat} {j : PublishJob} (h : x.jobs[n]? = some j) :
    x.posted[n]? = some (j.owner, j.request) := by
  rw [posted, List.getElem?_map, h]
  rfl

/-- A sender is the owner of one job at most. -/
theorem Filed.job_unique (h : Filed x) {n m : Nat} {j k : PublishJob} (hj : x.jobs[n]? = some j)
    (hk : x.jobs[m]? = some k) (howner : k.owner = j.owner) : m = n := by
  have hfst : ∀ {n : Nat} {j : PublishJob}, x.jobs[n]? = some j →
      (x.posted.map Prod.fst)[n]? = some j.owner := by
    intro n j hj
    rw [List.getElem?_map, posted_getElem? hj]
    rfl
  refine (List.getElem?_inj (List.getElem?_eq_some_iff.1 (hfst hk)).1 h.apart).1 ?_
  rw [hfst hk, hfst hj, howner]

/-- A step that publishes nothing keeps what has been published. -/
theorem Filed.of_same (h : Filed x) (hstep : x.Happens e y)
    (hcall : ∀ i c, x.call? i = some c → y.call? i = some c) (hp : y.posted = x.posted)
    (hnew : ∀ i r, y.registration? i = some r → x.registration? i = some r) : Filed y where
  one i r hr := by
    obtain ⟨c, timestamp, hc, hq⟩ := h.one i r (hnew i r hr)
    rw [hp]
    exact ⟨c, timestamp, hcall i c hc, hq⟩
  fresh i q hf := by
    rw [hp]
    rcases hstep.fresh_cases hf with ⟨hx, -⟩ | hx
    · exact h.fresh i q hx
    · exact h.unknown i q hx
  unknown i q hu := by
    rw [hp]
    refine h.unknown i q ?_
    cases hc : x.call? i with
    | none => rfl
    | some c =>
      rw [hcall i c hc] at hu
      cases hu
  apart := by
    rw [hp]
    exact h.apart

/-- A sender that makes its entry publishes its envelope. -/
theorem Filed.enter {c : SendCall} {timestamp : Int64} (h : Filed x) (hstep : x.Happens e y)
    (hcall : ∀ i c, x.call? i = some c → y.call? i = some c) (hc : x.call? i = some c)
    (hs : x.stage? i = some .fresh) (hr : y.registration? i = some r)
    (hold : ∀ j, j ≠ i → y.registration? j = x.registration? j)
    (hp : y.posted = x.posted ++ [(i, c.publishing r.id timestamp)]) : Filed y := by
  have hmem : ∀ j q, j ≠ i → ((j, q) ∈ y.posted ↔ (j, q) ∈ x.posted) := by
    intro j q hj
    rw [hp, List.mem_append, List.mem_singleton]
    exact or_iff_left fun heq => hj (congrArg Prod.fst heq)
  have hrs : ∃ s, y.stage? i = some s ∧ s.registration? = some r := registration?_eq_some_iff.1 hr
  refine ⟨?_, ?_, ?_, ?_⟩
  · intro j r' hj
    by_cases hji : j = i
    · subst hji
      cases hr.symm.trans hj
      refine ⟨c, timestamp, hcall _ c hc, fun q => ?_⟩
      rw [hp, List.mem_append, List.mem_singleton, Prod.mk.injEq]
      exact ⟨fun hq => hq.elim (fun hq => absurd hq (h.fresh _ q hs)) And.right,
        fun hq => Or.inr ⟨rfl, hq⟩⟩
    · rw [hold j hji] at hj
      obtain ⟨c', timestamp', hc', hq⟩ := h.one j r' hj
      exact ⟨c', timestamp', hcall j c' hc', fun q => (hmem j q hji).trans (hq q)⟩
  · intro j q hf
    have hji : j ≠ i := by
      rintro rfl
      obtain ⟨s, hys, hsr⟩ := hrs
      cases hys.symm.trans hf
      cases hsr
    rw [hmem j q hji]
    rcases hstep.fresh_cases hf with ⟨hx, -⟩ | hx
    · exact h.fresh j q hx
    · exact h.unknown j q hx
  · intro j q hu
    cases hj : x.call? j with
    | some c' =>
      rw [hcall j c' hj] at hu
      cases hu
    | none =>
      have hji : j ≠ i := by
        rintro rfl
        cases hj.symm.trans hc
      rw [hmem j q hji]
      exact h.unknown j q hj
  · rw [hp, List.map_append, List.map_singleton, List.nodup_append]
    refine ⟨h.apart, List.pairwise_singleton _ _, fun j hj k hk hjk => ?_⟩
    obtain ⟨⟨j, q⟩, hq, rfl⟩ := List.mem_map.1 hj
    rw [List.mem_singleton.1 hk] at hjk
    cases hjk
    exact h.fresh _ q hs hq

theorem Filed.step (h : Filed x) (hstep : x.Happens e y)
    (hcall : ∀ i c, x.call? i = some c → y.call? i = some c) : Filed y := by
  have hsame : y.posted = x.posted → (∀ i draws wall, e = .poll i draws wall →
      x.stage? i = some .fresh → y.registration? i = none) → Filed y := by
    intro hp hgone
    refine h.of_same hstep hcall hp fun i r hr => ?_
    rcases hstep.registration?_cases hr with hx | ⟨hx, draws, wall, he⟩
    · exact hx
    · rw [hgone i draws wall he hx] at hr
      cases hr
  cases hstep with
  | quiet _ _ posted idle =>
    refine hsame posted fun i draws wall he hf => ?_
    subst he
    obtain ⟨result, hr⟩ := idle .fresh hf
    cases hr
  | enters call stage desk stage' others posted =>
    refine h.enter (.enters call stage desk stage' others posted) hcall call stage ?_
      (fun j hj => registration?_congr (others j hj)) posted
    rw [registration?, stage']
    rfl
  | turnedAway _ _ _ _ _ stage' _ posted =>
    refine hsame posted fun i draws wall he _ => ?_
    cases he
    rw [registration?, stage']
    rfl
  | stays _ stage held _ _ _ _ posted =>
    refine hsame posted fun i draws wall he hf => ?_
    cases he
    cases stage.symm.trans hf
    cases held
  | returns _ stage held _ _ _ _ posted =>
    refine hsame posted fun i draws wall he hf => ?_
    cases he
    cases stage.symm.trans hf
    cases held
  | isGivenUp _ _ _ _ posted => exact hsame posted fun _ _ _ he => by cases he
  | isForgotten _ _ _ _ posted => exact hsame posted fun _ _ _ he => by cases he
  | acknowledged _ _ posted => exact hsame posted fun _ _ _ he => by cases he
  | swept _ _ posted => exact hsame posted fun _ _ _ he => by cases he

/-- **A sender in progress has published one envelope, with the identifier that it holds.** -/
theorem filed (timing : DeskClock) (es : List Event) : Filed (play timing es) := by
  induction es using List.reverseRecOn with
  | nil =>
    refine ⟨fun i r hr => ?_, fun i q _ => List.not_mem_nil, fun i q _ => List.not_mem_nil,
      List.nodup_nil⟩
    cases hr
  | append_singleton es e ih =>
    refine ih.step (happens timing es e) fun i c hc => ?_
    rw [play_snoc]
    exact call?_step hc e

end LockFleet.Exchange
