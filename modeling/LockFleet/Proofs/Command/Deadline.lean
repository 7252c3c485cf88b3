import LockFleet.Proofs.Command.Lifecycle

/-!
# When a sender gives up waiting

A sender waits from the poll at which it sees its envelope published until the alarm that it sets
then.  Where nothing is left undone before time passes, that poll happens at the very millisecond at
which the publishing ends.

* `Exchange.PublishedAt` — when the envelope of a sender was published;
* `Exchange.PromptAt` — time passes only while there is nothing to do;
* `Exchange.clocked` — the alarm of a sender, by the time at which its envelope was published.
-/

namespace LockFleet.Exchange

variable {timing : DeskClock} {es : List Event} {x y : Exchange} {e : Event} {i n t : Nat}
  {r : Registration} {alarm : Alarm}

/-- The envelope of a sender was published at a time. -/
def PublishedAt (x : Exchange) (i t : Nat) : Prop :=
  ∃ (n : Nat) (j : PublishJob) (c : SendCall) (k : JobEnd), x.jobs[n]? = some j ∧ j.owner = i ∧
    x.call? i = some c ∧ j.outcome = some (k, t) ∧
      k.requested (c.kind.topic c.device) n = .ok ()

/-- Time passes only while every sender in progress has something to wait for, and not beyond its
alarm. -/
def PromptAt (x : Exchange) : Event → Prop
  | .pass millis => ∀ i c s r, x.call? i = some c → x.stage? i = some s →
      s.registration? = some r →
      (∀ draws wall, s.isReady c (x.sendView draws wall) x.desk = false) ∧
        ∀ alarm, s.alarm? = some alarm → x.now + millis ≤ alarm.due
  | _ => True

/-- A run in which time passes only while there is nothing to do. -/
def Prompt (timing : DeskClock) (es : List Event) : Prop :=
  Run.Along step PromptAt (start timing) es

/-! ### Jobs and the clock -/

/-- A job stays, and ends once. -/
theorem jobs_step {j : PublishJob} (h : x.jobs[n]? = some j) (e : Event) :
    ∃ j', (x.step e).jobs[n]? = some j' ∧ j'.owner = j.owner ∧
      (j'.outcome = j.outcome ∨ (j.outcome = none ∧
        ∃ k, e = .jobEnds n k ∧ j'.outcome = some (k, x.now))) := by
  cases e with
  | begin c => exact ⟨j, h, rfl, Or.inl rfl⟩
  | acknowledge a => exact ⟨j, h, rfl, Or.inl rfl⟩
  | cancel t => exact ⟨j, h, rfl, Or.inl rfl⟩
  | sweep => exact ⟨j, h, rfl, Or.inl rfl⟩
  | pass millis => exact ⟨j, h, rfl, Or.inl rfl⟩
  | giveUp i =>
    refine ⟨j, ?_, rfl, Or.inl rfl⟩
    rw [step]
    split
    · exact h
    · exact h
  | poll i draws wall =>
    refine ⟨j, ?_, rfl, Or.inl rfl⟩
    rw [step]
    split
    · exact (List.getElem?_append_left (List.getElem?_eq_some_iff.1 h).1).trans h
    · exact h
  | jobEnds m k =>
    have hm : (x.step (.jobEnds m k)).jobs[n]? = some (if m = n then
        { j with outcome := j.outcome <|> some (k, x.now) } else j) := by
      show (x.jobs.modify m _)[n]? = _
      rw [List.getElem?_modify, h]
      split <;> rfl
    refine ⟨_, hm, ?_⟩
    split
    · next hmn =>
      subst hmn
      refine ⟨rfl, ?_⟩
      cases ho : j.outcome with
      | none => exact Or.inr ⟨rfl, k, rfl, rfl⟩
      | some p => exact Or.inl rfl
    · exact ⟨rfl, Or.inl rfl⟩

/-- A job that was not there has not ended. -/
theorem jobs_step_new (h : x.jobs.length ≤ n) {j : PublishJob} {e : Event}
    (hj : (x.step e).jobs[n]? = some j) : j.outcome = none := by
  have hnone : x.jobs[n]? = none := List.getElem?_eq_none h
  cases e with
  | begin c => cases hnone.symm.trans hj
  | acknowledge a => cases hnone.symm.trans hj
  | cancel t => cases hnone.symm.trans hj
  | sweep => cases hnone.symm.trans hj
  | pass millis => cases hnone.symm.trans hj
  | giveUp i =>
    rw [step] at hj
    split at hj
    · cases hnone.symm.trans hj
    · cases hnone.symm.trans hj
  | poll i draws wall =>
    rw [step] at hj
    split at hj
    · have hmem := List.mem_of_getElem? ((List.getElem?_append_right h).symm.trans hj)
      obtain ⟨q, -, rfl⟩ := List.mem_map.1 hmem
      rfl
    · cases hnone.symm.trans hj
  | jobEnds m k =>
    have hj' : (x.jobs.modify m _)[n]? = some j := hj
    rw [List.getElem?_modify, hnone] at hj'
    cases hj'

theorem now_step (x : Exchange) (e : Event) :
    (x.step e).now = x.now ∨ ∃ millis, e = .pass millis ∧ (x.step e).now = x.now + millis := by
  cases e with
  | pass millis => exact Or.inr ⟨millis, rfl, rfl⟩
  | begin c => exact Or.inl rfl
  | acknowledge a => exact Or.inl rfl
  | cancel t => exact Or.inl rfl
  | sweep => exact Or.inl rfl
  | jobEnds m k => exact Or.inl rfl
  | giveUp i =>
    left
    rw [step]
    split <;> rfl
  | poll i draws wall =>
    left
    rw [step]
    split <;> rfl

/-- The clock stands still while no time passes. -/
theorem now_append {more : List Event} (h : ∀ millis, .pass millis ∉ more) :
    (play timing (es ++ more)).now = (play timing es).now := by
  induction more using List.reverseRecOn with
  | nil => rw [List.append_nil]
  | append_singleton more e ih =>
    rw [← List.append_assoc, play_snoc]
    rcases now_step (play timing (es ++ more)) e with hstays | ⟨millis, rfl, -⟩
    · exact hstays.trans (ih fun millis hmem => h millis (List.mem_append_left _ hmem))
    · exact absurd (List.mem_append_right more (List.mem_singleton_self _)) (h millis)

theorem PublishedAt.step (h : PublishedAt x i t) (e : Event) : PublishedAt (x.step e) i t := by
  obtain ⟨n, j, c, k, hj, hown, hc, hout, hok⟩ := h
  obtain ⟨j', hj', hown', hout' | ⟨hnone, -⟩⟩ := jobs_step hj e
  · exact ⟨n, j', c, k, hj', hown'.trans hown, call?_step hc e, hout'.trans hout, hok⟩
  · cases hnone.symm.trans hout

/-! ### The alarm of a sender -/

/-- Jobs and alarms agree with the clock. -/
structure Clocked (timing : DeskClock) (es : List Event) (x : Exchange) : Prop where
  timing_eq : x.desk.timing = timing
  running : ∀ i r n, x.stage? i = some (.publishing r (.running n)) → ∃ j, x.jobs[n]? = some j ∧
    j.owner = i ∧ ∀ k t, j.outcome = some (k, t) → t ≤ x.now ∧ (Prompt timing es → t = x.now)
  waiting : ∀ i r alarm, x.stage? i = some (.waiting r alarm) → ∃ t seen, PublishedAt x i t ∧
    t ≤ seen ∧ alarm.due = timing.deadline seen ∧
    (Prompt timing es → seen = t ∧ x.now ≤ alarm.due)

/-- The alarm that a sender waits for at a poll, whether it sets it now or has set it before. -/
theorem Clocked.waitsUnder (h : Clocked timing es x) {c : SendCall} {s : SendStage}
    {draws : Nat → String} {wall : Moment} (hc : x.call? i = some c) (hs : x.stage? i = some s)
    (hw : s.WaitsUnder c (x.sendView draws wall) x.desk r alarm) :
    ∃ t seen, PublishedAt x i t ∧ t ≤ seen ∧ alarm.due = timing.deadline seen ∧
      (Prompt timing es → seen = t ∧ x.now ≤ alarm.due) := by
  rcases hw with rfl | ⟨n, k, u, rfl, hjob, hok, rfl⟩
  · exact h.waiting i r alarm hs
  · obtain ⟨j, hj, hown, hout⟩ := h.running i r n hs
    obtain ⟨j', hj', hk⟩ := Option.bind_eq_some_iff.1 hjob
    cases hj.symm.trans hj'
    obtain ⟨⟨k', t⟩, ho, rfl⟩ := Option.map_eq_some_iff.1 hk
    obtain ⟨hle, hprompt⟩ := hout k' t ho
    have hdue : x.desk.timing.deadline x.now = timing.deadline x.now := by rw [h.timing_eq]
    refine ⟨t, x.now, ⟨n, j, c, k', hj, hown, hc, ho, hok⟩, hle, hdue, fun hp => ?_⟩
    exact ⟨(hprompt hp).symm, x.desk.timing.timer.le_due _ _⟩

theorem Happens.timing_eq (h : x.Happens e y) : y.desk.timing = x.desk.timing := by
  cases h with
  | quiet desk => rw [desk]
  | enters _ _ desk => exact congrArg (fun q => q.2.timing) desk.symm
  | turnedAway _ _ _ entry desk =>
    rw [desk]
    exact congrArg (fun q => q.2.timing) entry.symm
  | stays _ _ _ desk => rw [desk]
  | returns _ _ _ _ desk =>
    rw [desk]
    rfl
  | isGivenUp _ desk =>
    rw [desk]
    rfl
  | isForgotten _ desk => rw [desk]
  | acknowledged desk => rw [desk, Desk.timing_handleAck]
  | swept desk =>
    rw [desk]
    rfl

/-- A sender publishes after a step through the job that it had, or through a new one. -/
theorem Happens.publishing_cases (h : x.Happens e y)
    (hy : y.stage? i = some (.publishing r (.running n))) :
    x.stage? i = some (.publishing r (.running n)) ∨
      (n = x.jobs.length ∧ ∃ q, y.posted = x.posted ++ [(i, q)]) := by
  by_cases hi : e.IsTurnOf i
  · cases h with
    | quiet _ stages =>
      rcases stages i with hsame | ⟨-, hnew⟩
      · exact Or.inl (hsame.symm.trans hy)
      · cases hnew.symm.trans hy
    | enters _ _ _ stage' _ posted =>
      cases hi
      cases stage'.symm.trans hy
      exact Or.inr ⟨rfl, _, posted⟩
    | turnedAway _ _ _ _ _ stage' =>
      cases hi
      cases stage'.symm.trans hy
    | stays _ stage _ _ stage' goesOn =>
      cases hi
      rcases goesOn with ⟨rfl, -⟩ | ⟨alarm, -, -, -, rfl⟩
      · exact Or.inl (stage.trans (stage'.symm.trans hy))
      · cases stage'.symm.trans hy
    | returns _ _ _ _ _ stage' =>
      cases hi
      cases stage'.symm.trans hy
    | isGivenUp _ _ stage' =>
      cases hi
      cases stage'.symm.trans hy
    | isForgotten _ _ stage' =>
      cases hi
      cases stage'.symm.trans hy
    | acknowledged => exact hi.elim
    | swept => exact hi.elim
  · rcases h.of_other hi with hsame | ⟨-, hnew⟩
    · exact Or.inl (hsame.symm.trans hy)
    · cases hnew.symm.trans hy

/-- A sender waits after a step under the alarm that it had, or under one that it has just set. -/
theorem Happens.waiting_cases (h : x.Happens e y) (hy : y.stage? i = some (.waiting r alarm)) :
    ∃ c s draws wall, x.call? i = some c ∧ x.stage? i = some s ∧
      s.WaitsUnder c (x.sendView draws wall) x.desk r alarm ∧
      (s = .waiting r alarm ∨ ∃ j draws wall, e = .poll j draws wall) := by
  have hold : x.stage? i = some (.waiting r alarm) → ∃ c s draws wall, x.call? i = some c ∧
      x.stage? i = some s ∧ s.WaitsUnder c (x.sendView draws wall) x.desk r alarm ∧
      (s = .waiting r alarm ∨ ∃ j draws wall, e = .poll j draws wall) := by
    intro hx
    obtain ⟨c, hc⟩ := call?_of_stage? hx
    exact ⟨c, _, fun _ => "", .epoch, hc, hx, Or.inl rfl, Or.inl rfl⟩
  by_cases hi : e.IsTurnOf i
  · cases h with
    | quiet _ stages =>
      rcases stages i with hsame | ⟨-, hnew⟩
      · exact hold (hsame.symm.trans hy)
      · cases hnew.symm.trans hy
    | enters _ _ _ stage' =>
      cases hi
      cases stage'.symm.trans hy
    | turnedAway _ _ _ _ _ stage' =>
      cases hi
      cases stage'.symm.trans hy
    | @stays j draws wall _ c s s' r' call stage held _ stage' goesOn =>
      cases hi
      rcases goesOn with ⟨rfl, -⟩ | ⟨alarm', hw, -, -, rfl⟩
      · exact hold (stage.trans (stage'.symm.trans hy))
      · cases stage'.symm.trans hy
        exact ⟨c, s, draws, wall, call, stage, hw, Or.inr ⟨_, _, _, rfl⟩⟩
    | returns _ _ _ _ _ stage' =>
      cases hi
      cases stage'.symm.trans hy
    | isGivenUp _ _ stage' =>
      cases hi
      cases stage'.symm.trans hy
    | isForgotten _ _ stage' =>
      cases hi
      cases stage'.symm.trans hy
    | acknowledged => exact hi.elim
    | swept => exact hi.elim
  · rcases h.of_other hi with hsame | ⟨-, hnew⟩
    · exact hold (hsame.symm.trans hy)
    · cases hnew.symm.trans hy

/-- The job of a sender has the number under which it was posted. -/
theorem job_of_posted {q : PublishRequest} (hq : y.posted = x.posted ++ [(i, q)]) :
    ∃ j, y.jobs[x.jobs.length]? = some j ∧ j.owner = i := by
  have hlt : x.jobs.length < y.jobs.length := by
    rw [← y.length_posted, hq, List.length_append, x.length_posted]
    exact Nat.lt_succ_self _
  obtain ⟨j, hj⟩ : ∃ j, y.jobs[x.jobs.length]? = some j := ⟨_, List.getElem?_eq_getElem hlt⟩
  have hposted := posted_getElem? hj
  rw [hq, ← x.length_posted, List.getElem?_concat_length] at hposted
  exact ⟨j, hj, (congrArg Prod.fst (Option.some.inj hposted)).symm⟩

/-- A job that has ended keeps time from passing. -/
theorem PromptAt.not_pass {millis : Nat} (hp : PromptAt x (.pass millis))
    (hx : x.stage? i = some (.publishing r (.running n))) {j : PublishJob} {k : JobEnd}
    (hj : x.jobs[n]? = some j) (hk : j.outcome = some (k, t)) : False := by
  obtain ⟨c, hc⟩ := call?_of_stage? hx
  have hready : (_ || (x.jobEnd? n).isSome) = false := (hp i c _ r hc hx rfl).1 (fun _ => "") .epoch
  have hended : x.jobEnd? n = some k := by
    rw [jobEnd?, hj]
    show j.outcome.map Prod.fst = some k
    rw [hk]
    rfl
  rw [hended, Option.isSome_some, Bool.or_true] at hready
  cases hready

/-- A job that runs for a sender has ended at the present at the latest, and keeps the time
there. -/
theorem Clocked.running_step (h : Clocked timing es (play timing es)) (e : Event)
    (hx : (play timing es).stage? i = some (.publishing r (.running n))) :
    ∃ j, ((play timing es).step e).jobs[n]? = some j ∧ j.owner = i ∧
      ∀ k t, j.outcome = some (k, t) → t ≤ ((play timing es).step e).now ∧
        (Prompt timing (es ++ [e]) → t = ((play timing es).step e).now) := by
  obtain ⟨j, hj, hown, hout⟩ := h.running i r n hx
  obtain ⟨j', hj', hown', hsame | ⟨-, k, rfl, hnew⟩⟩ := jobs_step hj e
  · refine ⟨j', hj', hown'.trans hown, fun k t hk => ?_⟩
    have hold := hsame.symm.trans hk
    obtain ⟨hle, hprompt⟩ := hout k t hold
    rcases now_step (play timing es) e with hnow | ⟨millis, rfl, hnow⟩
    · rw [hnow]
      exact ⟨hle, fun hp => hprompt ((Run.along_snoc es e).1 hp).1⟩
    · refine ⟨by omega, fun hp => ?_⟩
      exact (((Run.along_snoc es _).1 hp).2.not_pass hx hj hold).elim
  · refine ⟨j', hj', hown'.trans hown, fun k' t hk => ?_⟩
    cases hnew.symm.trans hk
    exact ⟨Nat.le_refl _, fun _ => rfl⟩

/-- An alarm under which a sender waits before and after a step stays right. -/
theorem Clocked.waiting_step (h : Clocked timing es (play timing es))
    (hs : (play timing (es ++ [e])).stage? i = some (.waiting r alarm)) :
    ∃ t seen, PublishedAt ((play timing es).step e) i t ∧ t ≤ seen ∧
      alarm.due = timing.deadline seen ∧ (Prompt timing (es ++ [e]) →
        seen = t ∧ ((play timing es).step e).now ≤ alarm.due) := by
  obtain ⟨c, s, draws, wall, hc, hx, hw, hor⟩ := (happens timing es e).waiting_cases hs
  obtain ⟨t, seen, hpub, hle, hdue, hprompt⟩ := h.waitsUnder hc hx hw
  refine ⟨t, seen, hpub.step e, hle, hdue, fun hp => ?_⟩
  obtain ⟨hpes, hpe⟩ := (Run.along_snoc es e).1 hp
  obtain ⟨hseen, hnow⟩ := hprompt hpes
  refine ⟨hseen, ?_⟩
  rcases now_step (play timing es) e with hsame | ⟨millis, rfl, hpass⟩
  · rw [hsame]
    exact hnow
  · rcases hor with rfl | ⟨j, draws, wall, he⟩
    · rw [hpass]
      exact (hpe i c _ r hc hx rfl).2 alarm rfl
    · cases he

/-- Jobs and alarms agree with the clock in every run. -/
theorem clocked (timing : DeskClock) (es : List Event) : Clocked timing es (play timing es) := by
  induction es using List.reverseRecOn with
  | nil =>
    refine ⟨rfl, fun i r n hs => ?_, fun i r alarm hs => ?_⟩
    · cases hs
    · cases hs
  | append_singleton es e ih =>
    have hstep := happens timing es e
    have hplay : play timing (es ++ [e]) = (play timing es).step e := play_snoc es e
    refine ⟨hstep.timing_eq.trans ih.timing_eq, fun i r n hs => ?_, fun i r alarm hs => ?_⟩
    · rcases hstep.publishing_cases hs with hx | ⟨rfl, q, hq⟩
      · rw [hplay]
        exact ih.running_step e hx
      · obtain ⟨j, hj, hown⟩ := job_of_posted hq
        refine ⟨j, hj, hown, fun k t hk => ?_⟩
        rw [hplay] at hj
        cases (jobs_step_new (Nat.le_refl _) hj).symm.trans hk
    · rw [hplay]
      exact ih.waiting_step hs

end LockFleet.Exchange
