import LockFleet.Proofs.Command.Polling
import LockFleet.Proofs.Run

/-!
# Exchanges of commands and acknowledgements

An exchange is a desk with any number of senders, the jobs that publish for them, and the clock.
What happens next is not decided here: senders are polled in any order or not at all, jobs end when
and how they like, and acknowledgements, cancellations and sweeps come at any time.

* `Exchange.Event`, `Exchange.step` — what can happen, and what comes of it; a poll is one step;
* `Exchange.play` — the exchange after a list of events, from an empty desk on;
* `Exchange.FreshAt` — a drawn identifier differs from those of the senders in progress.
-/

namespace LockFleet

/-- A job that publishes for a sender. -/
structure PublishJob where
  /-- The number of the sender. -/
  owner : Nat
  request : PublishRequest
  /-- How it ended, and when. -/
  outcome : Option (JobEnd × Nat)

/-- A sender.  One that has been given up has no stage. -/
structure Sender where
  call : SendCall
  stage : Option SendStage

/-- A desk, its senders and the jobs that publish for them, each under its number, and the clock. -/
structure Exchange where
  desk : Desk
  senders : List Sender
  jobs : List PublishJob
  now : Nat
  cancelled : List Nat
  /-- The number of polls so far. -/
  polls : Nat

namespace Exchange

/-! ### Events -/

/-- What can happen at an exchange. -/
inductive Event where
  /-- A sender is made; it has not been polled. -/
  | begin (c : SendCall)
  /-- A sender is polled; it draws these identifiers, should it draw any. -/
  | poll (sender : Nat) (draws : Nat → String) (wall : Moment)
  /-- A sender is given up by its owner. -/
  | giveUp (sender : Nat)
  | acknowledge (a : Ack)
  | cancel (t : Token)
  /-- The job of a number ends, if it has not ended. -/
  | jobEnds (job : Nat) (e : JobEnd)
  | sweep
  /-- Time passes. -/
  | pass (millis : Nat)

/-- The exchange where nothing has happened. -/
def start (timing : DeskClock) : Exchange := ⟨Desk.empty timing, [], [], 0, [], 0⟩

/-- The stage of a sender that has not been given up. -/
def stage? (x : Exchange) (i : Nat) : Option SendStage := x.senders[i]?.bind Sender.stage

def call? (x : Exchange) (i : Nat) : Option SendCall := x.senders[i]?.map Sender.call

/-- What a sender in progress holds. -/
def registration? (x : Exchange) (i : Nat) : Option Registration :=
  (x.stage? i).bind SendStage.registration?

/-- The surroundings of a poll. -/
def view (x : Exchange) (wall : Moment) : View := ⟨x.now, x.polls, x.cancelled, wall⟩

/-- How a job has ended. -/
def jobEnd? (x : Exchange) (n : Nat) : Option JobEnd :=
  x.jobs[n]?.bind fun j => j.outcome.map Prod.fst

/-- What a sender sees at a poll. -/
def sendView (x : Exchange) (draws : Nat → String) (wall : Moment) : SendView :=
  ⟨x.view wall, x.jobEnd?, x.jobs.length, draws⟩

/-- What has been given to jobs to publish, and by which sender. -/
def posted (x : Exchange) : List (Nat × PublishRequest) := x.jobs.map fun j => (j.owner, j.request)

/-- Puts a sender into a stage, or gives it up. -/
def setStage (x : Exchange) (i : Nat) (s : Option SendStage) : Exchange :=
  { x with senders := x.senders.modify i fun r => { r with stage := s } }

def pollStage (x : Exchange) (i : Nat) (draws : Nat → String) (wall : Moment) (c : SendCall)
    (s : SendStage) : Exchange :=
  let sent := s.poll c (x.sendView draws wall) x.desk
  { x.setStage i (some sent.stage) with
    desk := sent.desk
    jobs := x.jobs ++ sent.job.toList.map (⟨i, ·, none⟩)
    polls := x.polls + 1 }

def endJob (x : Exchange) (n : Nat) (e : JobEnd) : Exchange :=
  { x with
    jobs := x.jobs.modify n fun j => { j with outcome := j.outcome <|> some (e, x.now) } }

/-- What comes of an event.  Senders that are not there are not polled. -/
def step (x : Exchange) : Event → Exchange
  | .begin c => { x with senders := x.senders ++ [⟨c, some .fresh⟩] }
  | .poll i draws wall =>
    match x.call? i, x.stage? i with
    | some c, some s => x.pollStage i draws wall c s
    | _, _ => x
  | .giveUp i =>
    match x.stage? i with
    | some s => { x.setStage i none with desk := s.abandon x.desk }
    | none => x
  | .acknowledge a => { x with desk := (x.desk.handleAck a).2 }
  | .cancel t => { x with cancelled := t.cancel x.cancelled }
  | .jobEnds n e => x.endJob n e
  | .sweep => { x with desk := (x.desk.sweep x.now).2 }
  | .pass millis => { x with now := x.now + millis }

/-- The exchange after a list of events. -/
def play (timing : DeskClock) (es : List Event) : Exchange := Run.after step (start timing) es

/-- The senders in progress hold none of the identifiers that a new sender draws first. -/
def FreshAt (x : Exchange) : Event → Prop
  | .poll _ draws _ => ∀ i r, x.registration? i = some r → draws 0 ≠ r.id
  | _ => True

/-! ### Looking at senders and jobs -/

section Lookup

variable {x : Exchange} {i j : Nat}

theorem stage?_setStage_self {c : SendCall} (h : x.call? i = some c) (s : Option SendStage) :
    (x.setStage i s).stage? i = s := by
  obtain ⟨r, hr, -⟩ := Option.map_eq_some_iff.1 h
  show (x.senders.modify i _)[i]?.bind Sender.stage = s
  rw [List.getElem?_modify, hr]
  simp

theorem stage?_setStage_of_ne (h : j ≠ i) (s : Option SendStage) :
    (x.setStage i s).stage? j = x.stage? j := by
  show (x.senders.modify i _)[j]?.bind Sender.stage = x.senders[j]?.bind Sender.stage
  rw [List.getElem?_modify]
  simp [Ne.symm h]

theorem call?_setStage (s : Option SendStage) : (x.setStage i s).call? j = x.call? j := by
  show (x.senders.modify i _)[j]?.map Sender.call = x.senders[j]?.map Sender.call
  rw [List.getElem?_modify]
  cases x.senders[j]? with
  | none => rfl
  | some r => by_cases h : i = j <;> simp [h]

theorem call?_of_stage? {s : SendStage} (h : x.stage? i = some s) : ∃ c, x.call? i = some c := by
  obtain ⟨r, hr, -⟩ := Option.bind_eq_some_iff.1 h
  exact ⟨r.call, by rw [call?, hr]; rfl⟩

theorem registration?_eq_some_iff {r : Registration} :
    x.registration? i = some r ↔ ∃ s, x.stage? i = some s ∧ s.registration? = some r :=
  Option.bind_eq_some_iff

theorem registration?_congr {y : Exchange} (h : y.stage? i = x.stage? i) :
    y.registration? i = x.registration? i := by
  rw [registration?, registration?, h]

theorem stage?_of_call? (h : x.call? i = none) : x.stage? i = none := by
  rw [stage?, Option.map_eq_none_iff.1 h]
  rfl

theorem stage?_begin (c : SendCall) (j : Nat) :
    (x.step (.begin c)).stage? j = x.stage? j ∨
      (x.call? j = none ∧ (x.step (.begin c)).stage? j = some .fresh) := by
  show (x.senders ++ [_])[j]?.bind Sender.stage = x.senders[j]?.bind Sender.stage ∨
    (x.senders[j]?.map Sender.call = none ∧ (x.senders ++ [_])[j]?.bind Sender.stage = _)
  rcases Nat.lt_trichotomy j x.senders.length with h | h | h
  · exact Or.inl (by rw [List.getElem?_append_left h])
  · refine Or.inr ⟨by rw [List.getElem?_eq_none (Nat.le_of_eq h.symm)]; rfl, ?_⟩
    rw [h, List.getElem?_concat_length]
    rfl
  · left
    rw [List.getElem?_eq_none (by rw [List.length_append, List.length_singleton]; omega),
      List.getElem?_eq_none (Nat.le_of_lt h)]

theorem posted_endJob (n : Nat) (e : JobEnd) : (x.endJob n e).posted = x.posted := by
  show (x.jobs.modify n _).map _ = x.jobs.map _
  refine List.ext_getElem? fun m => ?_
  rw [List.getElem?_map, List.getElem?_map, List.getElem?_modify]
  cases x.jobs[m]? with
  | none => rfl
  | some j => by_cases h : n = m <;> simp [h]

end Lookup

/-! ### All that a step can do -/

/-- Every sender that publishes does so through a job. -/
def Staffed (x : Exchange) : Prop := ∀ i s, x.stage? i = some s → s.HasJob

/-- There is nothing at the desk that the event could change, and no sender that it could. -/
def Idle (x : Exchange) : Event → Prop
  | .poll i _ _ => ∀ s, x.stage? i = some s → ∃ result, s = .ended result
  | .giveUp i => x.stage? i = none
  | .acknowledge _ => False
  | .sweep => False
  | _ => True

/-- What an event can do to the desk and to the senders. -/
inductive Happens (x : Exchange) : Event → Exchange → Prop where
  /-- Neither the desk nor a sender in progress changes; a sender may be made. -/
  | quiet {e : Event} {y : Exchange} (desk : y.desk = x.desk)
      (stages : ∀ j, y.stage? j = x.stage? j ∨ (x.call? j = none ∧ y.stage? j = some .fresh))
      (posted : y.posted = x.posted) (idle : x.Idle e) : Happens x e y
  /-- A sender makes its entry and has its envelope published. -/
  | enters {i : Nat} {draws : Nat → String} {wall : Moment} {y : Exchange} {c : SendCall}
      {r : Registration} (call : x.call? i = some c) (stage : x.stage? i = some .fresh)
      (desk : x.desk.register x.now c.device c.kind draws = (r, y.desk))
      (stage' : y.stage? i = some (.publishing r (.running x.jobs.length)))
      (others : ∀ j, j ≠ i → y.stage? j = x.stage? j)
      (posted : y.posted = x.posted ++
        [(i, c.publishing r.id (SendStage.timestamp (x.view wall)))]) :
      Happens x (.poll i draws wall) y
  /-- A sender with a cancelled token makes its entry and takes it away again. -/
  | turnedAway {i : Nat} {draws : Nat → String} {wall : Moment} {y : Exchange} {c : SendCall}
      {r : Registration} {d : Desk} (call : x.call? i = some c) (stage : x.stage? i = some .fresh)
      (cancelled : (x.view wall).isCancelled c.token = true)
      (entry : x.desk.register x.now c.device c.kind draws = (r, d)) (desk : y.desk = d.close r)
      (stage' : y.stage? i = some (.ended (.error (.cancelled r.id))))
      (others : ∀ j, j ≠ i → y.stage? j = x.stage? j) (posted : y.posted = x.posted) :
      Happens x (.poll i draws wall) y
  /-- A sender in progress goes on waiting. -/
  | stays {i : Nat} {draws : Nat → String} {wall : Moment} {y : Exchange} {c : SendCall}
      {s s' : SendStage} {r : Registration} (call : x.call? i = some c)
      (stage : x.stage? i = some s) (held : s.registration? = some r) (desk : y.desk = x.desk)
      (stage' : y.stage? i = some s')
      (goesOn : (s' = s ∧ ∃ n, s = .publishing r (.running n) ∧ x.jobEnd? n = none) ∨
        ∃ alarm, SendStage.WaitsUnder c (x.sendView draws wall) x.desk r alarm s ∧
          x.desk.receive r = .waiting ∧ (x.view wall).isDue alarm = false ∧ s' = .waiting r alarm)
      (others : ∀ j, j ≠ i → y.stage? j = x.stage? j) (posted : y.posted = x.posted) :
      Happens x (.poll i draws wall) y
  /-- A sender in progress ends. -/
  | returns {i : Nat} {draws : Nat → String} {wall : Moment} {y : Exchange} {c : SendCall}
      {s : SendStage} {r : Registration} {result : Except CommandError Reply}
      (call : x.call? i = some c) (stage : x.stage? i = some s) (held : s.registration? = some r)
      (ends : s.Ends c (x.sendView draws wall) x.desk r result) (desk : y.desk = x.desk.close r)
      (stage' : y.stage? i = some (.ended result))
      (others : ∀ j, j ≠ i → y.stage? j = x.stage? j) (posted : y.posted = x.posted) :
      Happens x (.poll i draws wall) y
  /-- A sender in progress is given up. -/
  | isGivenUp {i : Nat} {y : Exchange} {r : Registration} (held : x.registration? i = some r)
      (desk : y.desk = x.desk.close r) (stage' : y.stage? i = none)
      (others : ∀ j, j ≠ i → y.stage? j = x.stage? j) (posted : y.posted = x.posted) :
      Happens x (.giveUp i) y
  /-- A sender that has no entry is given up. -/
  | isForgotten {i : Nat} {y : Exchange} (held : x.registration? i = none) (desk : y.desk = x.desk)
      (stage' : y.stage? i = none) (others : ∀ j, j ≠ i → y.stage? j = x.stage? j)
      (posted : y.posted = x.posted) : Happens x (.giveUp i) y
  | acknowledged {a : Ack} {y : Exchange} (desk : y.desk = (x.desk.handleAck a).2)
      (stages : ∀ j, y.stage? j = x.stage? j) (posted : y.posted = x.posted) :
      Happens x (.acknowledge a) y
  | swept {y : Exchange} (desk : y.desk = (x.desk.sweep x.now).2)
      (stages : ∀ j, y.stage? j = x.stage? j) (posted : y.posted = x.posted) : Happens x .sweep y

theorem happens_poll {x : Exchange} (hx : x.Staffed) (i : Nat) (draws : Nat → String)
    (wall : Moment) : Happens x (.poll i draws wall) (x.step (.poll i draws wall)) := by
  cases hs : x.stage? i with
  | none =>
    have hstep : x.step (.poll i draws wall) = x := by
      rw [step, hs]
      cases x.call? i <;> rfl
    rw [hstep]
    exact .quiet rfl (fun j => Or.inl rfl) rfl fun s h => by rw [hs] at h; cases h
  | some s =>
    obtain ⟨c, hc⟩ := call?_of_stage? hs
    have hstep : x.step (.poll i draws wall) = x.pollStage i draws wall c s := by
      rw [step, hs, hc]
    have hself : (x.pollStage i draws wall c s).stage? i =
        some (s.poll c (x.sendView draws wall) x.desk).stage :=
      stage?_setStage_self hc _
    have hothers : ∀ j, j ≠ i → (x.pollStage i draws wall c s).stage? j = x.stage? j :=
      fun j hj => stage?_setStage_of_ne hj _
    have hdesk : (x.pollStage i draws wall c s).desk =
        (s.poll c (x.sendView draws wall) x.desk).desk := rfl
    have hposted : (x.pollStage i draws wall c s).posted = x.posted ++
        (s.poll c (x.sendView draws wall) x.desk).job.toList.map (i, ·) := by
      show (x.jobs ++ _).map _ = _
      rw [List.map_append, List.map_map]
      rfl
    have hunposted : (s.poll c (x.sendView draws wall) x.desk).job = none →
        (x.pollStage i draws wall c s).posted = x.posted := by
      intro hjob
      rw [hposted, hjob]
      exact List.append_nil _
    rw [hstep]
    cases hr : s.registration? with
    | some r =>
      rcases SendStage.poll_cases c (x.sendView draws wall) x.desk hr (hx i s hs) with
        ⟨result, hend, hp⟩ | ⟨n, hst, hjob, hp⟩ | ⟨alarm, hw, hrec, hdue, hp⟩
      · rw [hp] at hself hdesk
        exact .returns hc hs hr hend hdesk hself hothers (hunposted (by rw [hp]; rfl))
      · rw [hp] at hself hdesk
        exact .stays hc hs hr hdesk hself (Or.inl ⟨rfl, n, hst, hjob⟩) hothers
          (hunposted (by rw [hp]))
      · rw [hp] at hself hdesk
        exact .stays hc hs hr hdesk hself (Or.inr ⟨alarm, hw, hrec, hdue, rfl⟩) hothers
          (hunposted (by rw [hp]))
    | none =>
      cases s with
      | publishing r g => simp [SendStage.registration?] at hr
      | waiting r alarm => simp [SendStage.registration?] at hr
      | ended result =>
        have hstages : ∀ j, (x.pollStage i draws wall c (.ended result)).stage? j = x.stage? j := by
          intro j
          by_cases hj : j = i
          · rw [hj, hself, hs]
            rfl
          · exact hothers j hj
        refine .quiet hdesk (fun j => Or.inl (hstages j)) (hunposted rfl) fun s h => ?_
        exact ⟨result, Option.some.inj (h.symm.trans hs)⟩
      | fresh =>
        cases hreg : x.desk.register x.now c.device c.kind draws with
        | mk r d =>
          have hp := SendStage.poll_fresh (s := x.sendView draws wall) hreg
          by_cases hcan : (x.sendView draws wall).view.isCancelled c.token = true
          · rw [if_pos hcan] at hp
            rw [hp] at hself hdesk
            exact .turnedAway hc hs hcan hreg hdesk hself hothers (hunposted (by rw [hp]; rfl))
          · rw [if_neg hcan] at hp
            rw [hp] at hself hdesk hposted
            exact .enters hc hs (hdesk ▸ hreg) hself hothers hposted

/-- **All that a step can do.** -/
theorem happens_step {x : Exchange} (hx : x.Staffed) (e : Event) : Happens x e (x.step e) := by
  cases e with
  | begin c => exact .quiet rfl (stage?_begin c) rfl trivial
  | poll i draws wall => exact happens_poll hx i draws wall
  | acknowledge a => exact .acknowledged rfl (fun j => rfl) rfl
  | cancel t => exact .quiet rfl (fun j => Or.inl rfl) rfl trivial
  | jobEnds n e => exact .quiet rfl (fun j => Or.inl rfl) (posted_endJob n e) trivial
  | sweep => exact .swept rfl (fun j => rfl) rfl
  | pass millis => exact .quiet rfl (fun j => Or.inl rfl) rfl trivial
  | giveUp i =>
    cases hs : x.stage? i with
    | none =>
      have hstep : x.step (.giveUp i) = x := by rw [step, hs]
      rw [hstep]
      exact .quiet rfl (fun j => Or.inl rfl) rfl hs
    | some s =>
      obtain ⟨c, hc⟩ := call?_of_stage? hs
      have hstep : x.step (.giveUp i) = { x.setStage i none with desk := s.abandon x.desk } := by
        rw [step, hs]
      have hself : (x.step (.giveUp i)).stage? i = none := by
        rw [hstep]
        exact stage?_setStage_self hc none
      have hothers : ∀ j, j ≠ i → (x.step (.giveUp i)).stage? j = x.stage? j := fun j hj => by
        rw [hstep]
        exact stage?_setStage_of_ne hj none
      have hdesk : (x.step (.giveUp i)).desk = s.abandon x.desk := by rw [hstep]
      have hposted : (x.step (.giveUp i)).posted = x.posted := by
        rw [hstep]
        rfl
      have hheld : x.registration? i = s.registration? := by
        rw [registration?, hs]
        rfl
      cases s with
      | fresh => exact .isForgotten hheld hdesk hself hothers hposted
      | ended result => exact .isForgotten hheld hdesk hself hothers hposted
      | publishing r g => exact .isGivenUp hheld hdesk hself hothers hposted
      | waiting r alarm => exact .isGivenUp hheld hdesk hself hothers hposted

/-- The event polls the sender or gives it up. -/
def Event.IsTurnOf (i : Nat) : Event → Prop
  | .poll j _ _ => j = i
  | .giveUp j => j = i
  | _ => False

/-- A sender whose turn it is not stays as it is, or has just been made. -/
theorem Happens.of_other {x y : Exchange} {e : Event} {i : Nat} (h : x.Happens e y)
    (hi : ¬ e.IsTurnOf i) :
    y.stage? i = x.stage? i ∨ (x.call? i = none ∧ y.stage? i = some .fresh) := by
  cases h with
  | quiet _ stages => exact stages i
  | enters _ _ _ _ others => exact Or.inl (others i (Ne.symm hi))
  | turnedAway _ _ _ _ _ _ others => exact Or.inl (others i (Ne.symm hi))
  | stays _ _ _ _ _ _ others => exact Or.inl (others i (Ne.symm hi))
  | returns _ _ _ _ _ _ others => exact Or.inl (others i (Ne.symm hi))
  | isGivenUp _ _ _ others => exact Or.inl (others i (Ne.symm hi))
  | isForgotten _ _ _ others => exact Or.inl (others i (Ne.symm hi))
  | acknowledged _ stages => exact Or.inl (stages i)
  | swept _ stages => exact Or.inl (stages i)

end Exchange

end LockFleet
