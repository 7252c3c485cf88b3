import LockFleet.Proofs.Command.Independence

/-!
# Senders and bystanders

What becomes of a sender depends on its own affairs: when it is polled, what its job learns, what is
acknowledged under its identifier, whether its own token is cancelled, the sweeps and the clock.
Whatever happens to others, in whatever order, makes no difference to its result or to the time at
which it ends.

* `Prospect`, `Prospect.step` — a sender as it sees itself, and what its affairs make of it;
* `Exchange.concerns` — the affairs of a sender among all that happens at an exchange;
* `Exchange.prospect_step` — what happens at an exchange is to a sender what its affairs make of it;
* `Exchange.undisturbed` — two runs in which a sender has the same affairs end it alike.
-/

namespace LockFleet

/-! ### A sender as it sees itself -/

/-- What is at the desk for a sender. -/
structure Holding where
  /-- When its entry was made, if its entry is there. -/
  entry : Option Nat
  mail : Option Ack

/-- Where a sender stands, without the numbers of channels, jobs and polls. -/
inductive Outlook where
  /-- It has not been made, or has been given up. -/
  | absent
  | fresh
  | publishing (id : String) (learned : Option Requested) (held : Holding)
  | waiting (id : String) (due : Nat) (held : Holding)
  | ended (result : Except CommandError Reply)

/-- All that the course of a sender depends on. -/
structure Prospect where
  now : Nat
  /-- Whether its token is cancelled. -/
  cancelled : Bool
  outlook : Outlook

/-- An affair of a sender. -/
inductive Concern where
  | made
  /-- It is polled for the first time and draws an identifier. -/
  | enters (id : String)
  | polled
  | givenUp
  /-- An acknowledgement under its identifier. -/
  | acknowledged (a : Ack)
  /-- Its token is cancelled, or one above it. -/
  | cancelled
  /-- Its job ends, and this is what it learns. -/
  | published (r : Requested)
  | swept
  | passed (millis : Nat)

namespace Holding

/-- An acknowledgement is kept if the entry is there and nothing is in the channel. -/
def take (h : Holding) (a : Ack) : Holding :=
  if h.entry.isSome = true ∧ h.mail = none then { h with mail := some a } else h

/-- The entry goes if it is too old. -/
def sweep (timing : DeskClock) (now : Nat) (h : Holding) : Holding :=
  { h with entry := h.entry.filter fun t =>
      !decide (timing.ackTimeout.double.nanos < (now - t) * Span.nanosPerMilli) }

end Holding

namespace Outlook

/-- The result of a sender that has ended. -/
def result? : Outlook → Option (Except CommandError Reply)
  | ended result => some result
  | _ => none

/-- Something happens to what is at the desk. -/
def mapHeld (f : Holding → Holding) : Outlook → Outlook
  | publishing id learned h => publishing id learned (f h)
  | waiting id due h => waiting id due (f h)
  | o => o

/-- The job has ended. -/
def learn (r : Requested) : Outlook → Outlook
  | publishing id _ h => publishing id (some r) h
  | o => o

/-- Whether there is something to do. -/
def ready (now : Nat) (cancelled : Bool) : Outlook → Bool
  | absent => false
  | fresh => true
  | publishing _ learned _ => cancelled || learned.isSome
  | waiting _ due h => cancelled || h.mail.isSome || h.entry.isNone || decide (due ≤ now)
  | ended _ => false

/-- The first poll, at which an entry is made. -/
def enter (now : Nat) (cancelled : Bool) (id : String) : Outlook :=
  if cancelled then ended (.error (.cancelled id)) else publishing id none ⟨some now, none⟩

/-- Waits for the acknowledgement. -/
def await (timing : DeskClock) (now : Nat) (cancelled : Bool) (id : String) (due : Nat)
    (h : Holding) : Outlook :=
  if cancelled then ended (.error (.cancelled id))
  else
    match h.mail with
    | some a => ended (.ok (Reply.ofAck a))
    | none =>
      if h.entry.isNone then ended (.error (.expired id))
      else if due ≤ now then
        ended (.error (.timeout id (reportedMillis timing.ackTimeout)))
      else waiting id due h

/-- Goes on when the job has ended. -/
def publish (timing : DeskClock) (now : Nat) (cancelled : Bool) (id : String)
    (learned : Option Requested) (h : Holding) : Outlook :=
  if cancelled then ended (.error (.cancelled id))
  else
    match learned with
    | none => publishing id none h
    | some (.ok _) => await timing now cancelled id (timing.deadline now) h
    | some (.error .cancelled) => ended (.error (.cancelled id))
    | some (.error t) => ended (.error (.transport t))

/-- A later poll. -/
def poll (timing : DeskClock) (now : Nat) (cancelled : Bool) : Outlook → Outlook
  | publishing id learned h => publish timing now cancelled id learned h
  | waiting id due h => await timing now cancelled id due h
  | o => o

/-- A poll without anything to do changes nothing. -/
theorem poll_of_not_ready {timing : DeskClock} {now : Nat} {cancelled : Bool} {o : Outlook}
    (h : o.ready now cancelled = false) : o.poll timing now cancelled = o := by
  cases o with
  | absent => rfl
  | fresh => rfl
  | ended result => rfl
  | publishing id learned held =>
    cases learned with
    | none =>
      obtain rfl : cancelled = false := by simpa [ready] using h
      rfl
    | some r => simp [ready] at h
  | waiting id due held =>
    simp only [ready, Bool.or_eq_false_iff, decide_eq_false_iff_not] at h
    obtain ⟨⟨⟨rfl, hmail⟩, hentry⟩, hdue⟩ := h
    have hmail : held.mail = none := Option.not_isSome_iff_eq_none.1 (by rw [hmail]; decide)
    simp [poll, await, hmail, hentry, hdue]

end Outlook

namespace Prospect

/-- Nobody is there, and nothing has happened. -/
def start : Prospect := ⟨0, false, .absent⟩

/-- What an affair makes of a sender. -/
def step (timing : DeskClock) (p : Prospect) : Concern → Prospect
  | .made => { p with outlook := .fresh }
  | .enters id => { p with outlook := .enter p.now p.cancelled id }
  | .polled => { p with outlook := p.outlook.poll timing p.now p.cancelled }
  | .givenUp => { p with outlook := .absent }
  | .acknowledged a => { p with outlook := p.outlook.mapHeld (·.take a) }
  | .cancelled => { p with cancelled := true }
  | .published r => { p with outlook := p.outlook.learn r }
  | .swept => { p with outlook := p.outlook.mapHeld (·.sweep timing p.now) }
  | .passed millis => { p with now := p.now + millis }

/-- The result with which an affair ends a sender, and when. -/
def resolution (timing : DeskClock) (p : Prospect) (k : Concern) :
    List (Except CommandError Reply × Nat) :=
  match p.outlook.result?, (p.step timing k).outlook.result? with
  | none, some result => [(result, p.now)]
  | _, _ => []

end Prospect

/-! ### What a sender sees of an exchange -/

/-- What is at the desk under a registration. -/
def Desk.holding (d : Desk) (r : Registration) : Holding :=
  ⟨(d.pending.find? r.id).map Pending.createdAt, (d.channels.find? r.channel).join⟩

/-- A stage as its sender sees it. -/
def SendStage.outlook (topic : String) (jobs : Nat → Option JobEnd) (d : Desk) :
    SendStage → Outlook
  | fresh => .fresh
  | publishing r (.running n) =>
    .publishing r.id ((jobs n).map (·.requested topic n)) (d.holding r)
  | publishing r _ => .publishing r.id none (d.holding r)
  | waiting r alarm => .waiting r.id alarm.due (d.holding r)
  | ended result => .ended result

namespace Exchange

/-- The result of a sender that has ended. -/
def result? (x : Exchange) (i : Nat) : Option (Except CommandError Reply) :=
  match x.stage? i with
  | some (.ended result) => some result
  | _ => none

/-- The result with which a sender ends at a step, and when. -/
def resolution (i : Nat) (x : Exchange) (e : Event) : List (Except CommandError Reply × Nat) :=
  match x.result? i, (x.step e).result? i with
  | none, some result => [(result, x.now)]
  | _, _ => []

/-- Whether a sender has something to do when it is polled. -/
def ready (x : Exchange) (i : Nat) : Bool :=
  match x.call? i, x.stage? i with
  | some c, some s => s.isReady c (x.sendView (fun _ => "") .epoch) x.desk
  | _, _ => false

/-- What an event is to the sender of a number that makes a call: one affair or none.  A poll
without anything to do is none. -/
def concerns (i : Nat) (c : SendCall) (x : Exchange) : Event → List Concern
  | .begin _ => if x.senders.length = i then [.made] else []
  | .poll j draws _ =>
    if j = i ∧ x.ready i = true then
      [if (x.stage? i).any SendStage.isFresh then .enters (draws 0) else .polled]
    else []
  | .giveUp j => if j = i then [.givenUp] else []
  | .acknowledge a =>
    if (x.registration? i).any (·.id = a.command) then [.acknowledged a] else []
  | .cancel t => if t.path.head?.any (· ∈ c.token.path) then [.cancelled] else []
  | .jobEnds n e =>
    match x.stage? i with
    | some (.publishing _ (.running m)) =>
      if m = n ∧ x.jobEnd? n = none then [.published (e.requested (c.kind.topic c.device) n)]
      else []
    | _ => []
  | .sweep => [.swept]
  | .pass millis => [.passed millis]

/-- Where the sender of a number stands, as it sees it. -/
def outlook (i : Nat) (c : SendCall) (x : Exchange) : Outlook :=
  match x.stage? i with
  | some s => s.outlook (c.kind.topic c.device) x.jobEnd? x.desk
  | none => .absent

/-- What the sender of a number sees of an exchange. -/
def prospect (i : Nat) (c : SendCall) (x : Exchange) : Prospect :=
  ⟨x.now, c.token.isCancelled x.cancelled, x.outlook i c⟩

end Exchange

/-! ### Polls -/

/-- The entry under the identifier of a registration, if there is one, is that of its sender. -/
def Desk.Owns (d : Desk) (r : Registration) : Prop :=
  ∀ p, d.pending.find? r.id = some p → p.channel = r.channel

theorem Desk.Owns.receive {d : Desk} {r : Registration} (h : d.Owns r) :
    d.receive r = match (d.holding r).mail with
      | some a => .acknowledged a
      | none => if (d.holding r).entry.isNone then .dropped else .waiting := by
  have hentry : d.hasEntry r = !(d.holding r).entry.isNone := by
    rw [Desk.hasEntry, Desk.holding]
    cases hp : d.pending.find? r.id with
    | none => rfl
    | some p => simp [h p hp]
  rw [Desk.receive, hentry]
  show _ = match (d.channels.find? r.channel).join with
    | some a => _
    | none => _
  cases d.channels.find? r.channel with
  | none => cases (d.holding r).entry <;> rfl
  | some held =>
    cases held with
    | none => cases (d.holding r).entry <;> rfl
    | some a => rfl

namespace SendStage

variable {c : SendCall} {s : SendView} {d : Desk} {r : Registration} {st : SendStage}

theorem outlook_await {v : View} (topic : String) (hd : d.Owns r) (jobs : Nat → Option JobEnd)
    (alarm : Alarm) :
    (await c v d r alarm).stage.outlook topic jobs (await c v d r alarm).desk =
      .await d.timing v.now (v.isCancelled c.token) r.id alarm.due (d.holding r) := by
  rw [await, Outlook.await, hd.receive]
  cases v.isCancelled c.token with
  | true => rfl
  | false =>
    cases (d.holding r).mail with
    | some a => rfl
    | none =>
      cases hentry : (d.holding r).entry with
      | none => rfl
      | some t =>
        by_cases hdue : alarm.due ≤ v.now
        · simp [hdue, View.isDue, Alarm.isDue, finish, outlook]
        · simp [hdue, View.isDue, Alarm.isDue, outlook]

/-- What a later poll makes of a sender. -/
theorem outlook_poll (hf : st ≠ fresh) (hj : st.HasJob)
    (hd : ∀ r, st.registration? = some r → d.Owns r) :
    (st.poll c s d).stage.outlook (c.kind.topic c.device) s.jobs (st.poll c s d).desk =
      (st.outlook (c.kind.topic c.device) s.jobs d).poll d.timing s.view.now
        (s.view.isCancelled c.token) := by
  cases st with
  | fresh => exact absurd rfl hf
  | ended result => rfl
  | waiting r alarm => exact outlook_await _ (hd r rfl) s.jobs alarm
  | publishing r g =>
    obtain ⟨n, rfl⟩ := hj r g rfl
    show (publish c s d r (.running n)).stage.outlook _ _
      (publish c s d r (.running n)).desk = Outlook.publish _ _ _ _ _ _
    rw [publish, Guarded.poll]
    unfold Outlook.publish
    have hawait := outlook_await (c := c) (v := s.view) (c.kind.topic c.device)
      (hd r rfl) s.jobs (s.view.alarm d.timing.timer d.timing.ackTimeout)
    have hdue : (s.view.alarm d.timing.timer d.timing.ackTimeout).due =
        d.timing.deadline s.view.now := rfl
    rw [hdue] at hawait
    cases hc : s.view.isCancelled c.token with
    | true => rfl
    | false =>
      rw [hc] at hawait
      cases hjob : s.jobs n with
      | none => simp [afterPublishing, outlook, hjob]
      | some e =>
        cases hq : e.requested (c.kind.topic c.device) n with
        | ok u => simpa [afterPublishing, hq] using hawait
        | error t => cases t <;> simp [afterPublishing, finish, outlook, hq]

/-- A sender is as ready as it seems to itself. -/
theorem isReady_eq (hj : st.HasJob) (hd : ∀ r, st.registration? = some r → d.Owns r) :
    st.isReady c s d = (st.outlook (c.kind.topic c.device) s.jobs d).ready s.view.now
      (s.view.isCancelled c.token) := by
  cases st with
  | fresh => rfl
  | ended result => rfl
  | publishing r g =>
    obtain ⟨n, rfl⟩ := hj r g rfl
    show (_ || (s.jobs n).isSome) = (_ || ((s.jobs n).map _).isSome)
    rw [Option.isSome_map]
  | waiting r alarm =>
    show (_ || decide (d.receive r ≠ .waiting) || s.view.isDue alarm) =
      (_ || (d.holding r).mail.isSome || (d.holding r).entry.isNone || decide (alarm.due ≤ _))
    rw [(hd r rfl).receive]
    cases (d.holding r).mail with
    | some a => simp [View.isDue, Alarm.isDue]
    | none => cases (d.holding r).entry <;> simp [View.isDue, Alarm.isDue]

end SendStage

namespace Exchange

variable {timing : DeskClock} {es es' : List Event} {x : Exchange} {e : Event} {i j : Nat}
  {c : SendCall} {r : Registration}

/-! ### What others do -/

/-- Jobs that have just been started have not ended. -/
theorem jobEnd?_pollStage (x : Exchange) (i : Nat) (draws : Nat → String) (wall : Moment)
    (c : SendCall) (s : SendStage) : (x.pollStage i draws wall c s).jobEnd? = x.jobEnd? := by
  funext n
  show (x.jobs ++ _)[n]?.bind _ = x.jobs[n]?.bind _
  rw [List.getElem?_append]
  split
  · rfl
  · next hn =>
    rw [List.getElem?_eq_none (Nat.le_of_not_lt hn)]
    cases hj : (List.map _ _)[n - x.jobs.length]? with
    | none => rfl
    | some j =>
      obtain ⟨q, -, rfl⟩ := List.mem_map.1 (List.mem_of_getElem? hj)
      rfl

/-- Which jobs have ended changes when one of them ends. -/
theorem jobEnd?_step (x : Exchange) (hne : ∀ n k, e ≠ .jobEnds n k) :
    (x.step e).jobEnd? = x.jobEnd? := by
  cases e with
  | jobEnds n k => exact absurd rfl (hne n k)
  | poll j draws wall =>
    rw [step]
    split
    · exact x.jobEnd?_pollStage j draws wall _ _
    · rfl
  | giveUp j =>
    rw [step]
    split <;> rfl
  | _ => rfl

theorem jobEnd?_endJob_of_ne {n m : Nat} (h : n ≠ m) (k : JobEnd) :
    (x.endJob n k).jobEnd? m = x.jobEnd? m := by
  show (x.jobs.modify n _)[m]?.bind _ = x.jobs[m]?.bind _
  rw [List.getElem?_modify]
  simp [h]

theorem jobEnd?_endJob_of_ended {n : Nat} (h : x.jobEnd? n ≠ none) (k : JobEnd) :
    (x.endJob n k).jobEnd? n = x.jobEnd? n := by
  show (x.jobs.modify n _)[n]?.bind _ = _
  rw [jobEnd?] at h ⊢
  rw [List.getElem?_modify]
  cases hj : x.jobs[n]? with
  | none => rfl
  | some j =>
    cases ho : j.outcome with
    | none => simp [hj, ho] at h
    | some p => simp [ho]

theorem jobEnd?_endJob {n : Nat} {j : PublishJob} (hj : x.jobs[n]? = some j)
    (h : x.jobEnd? n = none) (k : JobEnd) : (x.endJob n k).jobEnd? n = some k := by
  rw [jobEnd?, hj, Option.bind_some, Option.map_eq_none_iff] at h
  show (x.jobs.modify n _)[n]?.bind _ = _
  rw [List.getElem?_modify, hj]
  simp [h]

/-- What a sender sees when something happens to what is at the desk for it, and nothing to its
stage and its job. -/
theorem outlook_mapHeld {y : Exchange} {f : Holding → Holding} (c : SendCall)
    (hstage : y.stage? i = x.stage? i)
    (hjob : ∀ r n, x.stage? i = some (.publishing r (.running n)) → y.jobEnd? n = x.jobEnd? n)
    (hdesk : ∀ r, x.registration? i = some r → y.desk.holding r = f (x.desk.holding r)) :
    y.outlook i c = (x.outlook i c).mapHeld f := by
  rw [outlook, outlook, hstage]
  cases hs : x.stage? i with
  | none => rfl
  | some s =>
    have hheld : ∀ r, s.registration? = some r → y.desk.holding r = f (x.desk.holding r) :=
      fun r hr => hdesk r (registration?_eq_some_iff.2 ⟨s, hs, hr⟩)
    cases s with
    | fresh => rfl
    | ended result => rfl
    | waiting r alarm => exact congrArg (Outlook.waiting r.id alarm.due) (hheld r rfl)
    | publishing r g =>
      cases g with
      | fresh => exact congrArg (Outlook.publishing r.id none) (hheld r rfl)
      | ended result => exact congrArg (Outlook.publishing r.id none) (hheld r rfl)
      | running n =>
        show Outlook.publishing r.id ((y.jobEnd? n).map _) (y.desk.holding r) = _
        rw [hheld r rfl, hjob r n hs]
        rfl

theorem outlook_congr {y : Exchange} (c : SendCall) (hstage : y.stage? i = x.stage? i)
    (hjob : ∀ r n, x.stage? i = some (.publishing r (.running n)) → y.jobEnd? n = x.jobEnd? n)
    (hdesk : ∀ r, x.registration? i = some r → y.desk.holding r = x.desk.holding r) :
    y.outlook i c = x.outlook i c := by
  rw [outlook_mapHeld (f := id) c hstage hjob hdesk]
  cases x.outlook i c <;> rfl

theorem Booked.owns (h : Booked timing es x) (hr : x.registration? i = some r) : x.desk.Owns r :=
  fun _ hp => h.hasEntry_of_find? hr hp

/-- What others do leaves what is at the desk for a sender as it is. -/
theorem Booked.holding_frame (h : Booked timing es x) (hx : x.Staffed) (hf : x.FreshAt e)
    (hsweep : e ≠ .sweep) (hack : ∀ a, e ≠ .acknowledge a)
    (hstage : (x.step e).stage? i = x.stage? i) (hr : x.registration? i = some r) :
    (x.step e).desk.holding r = x.desk.holding r := by
  have hstep := happens_step hx e
  have hr' := (registration?_congr hstage).trans hr
  rw [Desk.holding, Desk.holding, h.entry_frame hstep hsweep hf hr hr',
    h.channel_frame hstep hack hr hr']

theorem Booked.outlook_frame (h : Booked timing es x) (hx : x.Staffed) (hf : x.FreshAt e)
    (hsweep : e ≠ .sweep) (hack : ∀ a, e ≠ .acknowledge a) (hends : ∀ n k, e ≠ .jobEnds n k)
    (hstage : (x.step e).stage? i = x.stage? i) : (x.step e).outlook i c = x.outlook i c :=
  outlook_congr c hstage (fun _ _ _ => by rw [x.jobEnd?_step hends])
    fun _ hr => h.holding_frame hx hf hsweep hack hstage hr

/-! ### One event -/

/-- Of the acknowledgements, a sender sees those under its identifier. -/
theorem Booked.holding_acknowledge (h : Booked timing es x) (hr : x.registration? i = some r)
    (a : Ack) : (x.step (.acknowledge a)).desk.holding r =
      if r.id = a.command then (x.desk.holding r).take a else x.desk.holding r := by
  have hentry : (x.desk.holding r).entry.isSome = x.desk.hasEntry r := by
    show ((x.desk.pending.find? r.id).map _).isSome = _
    rw [Desk.hasEntry]
    cases hp : x.desk.pending.find? r.id with
    | none => rfl
    | some p => simp [h.owns hr p hp]
  have hmail : (x.desk.holding r).mail = none ↔ x.desk.channels.find? r.channel = some none := by
    obtain ⟨held, hheld⟩ := Option.isSome_iff_exists.1 (h.isOpen i r hr)
    show (x.desk.channels.find? r.channel).join = none ↔ _
    rw [hheld]
    exact (Option.some_inj (b := none)).symm
  have hpending : (x.step (.acknowledge a)).desk.pending = x.desk.pending :=
    x.desk.pending_handleAck a
  have hchannel : (x.step (.acknowledge a)).desk.channels.find? r.channel = _ :=
    h.channel_handleAck hr a
  have hempty : (x.desk.holding r).entry.isSome = true ∧ (x.desk.holding r).mail = none ↔
      x.desk.hasEntry r = true ∧ x.desk.channels.find? r.channel = some none := by
    rw [hentry, hmail]
  rw [Desk.holding, hpending, hchannel, Holding.take]
  by_cases hid : r.id = a.command
  · rw [if_pos hid]
    by_cases hall : x.desk.hasEntry r = true ∧ x.desk.channels.find? r.channel = some none
    · rw [if_pos (hempty.2 hall), if_pos ⟨hid.symm, hall⟩]
      rfl
    · rw [if_neg fun hc => hall (hempty.1 hc), if_neg fun hc => hall hc.2]
      rfl
  · rw [if_neg hid, if_neg fun hc => hid hc.1.symm]
    rfl

/-- A sweep takes the entry of a sender away if it is too old. -/
theorem holding_sweep (x : Exchange) (r : Registration) :
    (x.step .sweep).desk.holding r = (x.desk.holding r).sweep x.desk.timing x.now := by
  show Holding.mk (((x.desk.sweep x.now).2.pending.find? r.id).map _) _ = Holding.mk _ _
  congr 1
  have hfind : (x.desk.sweep x.now).2.pending.find? r.id =
      (x.desk.pending.find? r.id).filter fun p => !x.desk.isExpired x.now p := by
    refine Option.ext fun p => ?_
    rw [Desk.find?_sweep, Option.filter_eq_some_iff, Bool.not_eq_true']
  rw [hfind]
  show _ = ((x.desk.pending.find? r.id).map Pending.createdAt).filter _
  rw [Option.filter_map]
  rfl

/-- What a sender sees after an event at which no time passes and nothing is cancelled. -/
theorem prospect_eq {o : Outlook} (hpass : ∀ millis, e ≠ .pass millis)
    (hcancel : ∀ t, e ≠ .cancel t) (houtlook : (x.step e).outlook i c = o) :
    (x.step e).prospect i c = { x.prospect i c with outlook := o } := by
  have hnow : (x.step e).now = x.now :=
    (now_step x e).resolve_right fun ⟨millis, he, _⟩ => hpass millis he
  have hcancelled : (x.step e).cancelled = x.cancelled := by
    cases e with
    | cancel t => exact absurd rfl (hcancel t)
    | poll j draws wall =>
      rw [step]
      split <;> rfl
    | giveUp j =>
      rw [step]
      split <;> rfl
    | _ => rfl
  rw [prospect, prospect, hnow, hcancelled, houtlook]

/-- The sender is made. -/
theorem outlook_begin (c' : SendCall) : (x.step (.begin c')).outlook i c =
    if x.senders.length = i then .fresh else x.outlook i c := by
  have hsender : (x.step (.begin c')).senders[i]? =
      if x.senders.length = i then some ⟨c', some .fresh⟩ else x.senders[i]? := by
    show (x.senders ++ [_])[i]? = _
    rcases Nat.lt_trichotomy i x.senders.length with hlt | rfl | hlt
    · rw [List.getElem?_append_left hlt, if_neg (Nat.ne_of_gt hlt)]
    · rw [List.getElem?_concat_length, if_pos rfl]
    · rw [if_neg (Nat.ne_of_lt hlt), List.getElem?_eq_none (Nat.le_of_lt hlt)]
      exact List.getElem?_eq_none (by rw [List.length_append, List.length_singleton]; omega)
  by_cases hi : x.senders.length = i
  · rw [if_pos hi] at hsender ⊢
    rw [outlook, stage?, hsender]
    rfl
  · rw [if_neg hi] at hsender ⊢
    rw [outlook, outlook, stage?, stage?, hsender]
    rfl

/-- The sender is given up. -/
theorem outlook_giveUp_self (x : Exchange) : (x.step (.giveUp i)).outlook i c = .absent := by
  have hstage : (x.step (.giveUp i)).stage? i = none := by
    cases hs : x.stage? i with
    | none => rw [step, hs, hs]
    | some s =>
      obtain ⟨c', hc'⟩ := call?_of_stage? hs
      rw [step, hs]
      exact stage?_setStage_self hc' none
  rw [outlook, hstage]

theorem stage?_giveUp_of_ne (x : Exchange) (hj : j ≠ i) :
    (x.step (.giveUp j)).stage? i = x.stage? i := by
  rw [step]
  split
  · exact stage?_setStage_of_ne (Ne.symm hj) none
  · rfl

theorem stage?_poll_of_ne (x : Exchange) (hj : j ≠ i) (draws : Nat → String) (wall : Moment) :
    (x.step (.poll j draws wall)).stage? i = x.stage? i := by
  rw [step]
  split
  · exact stage?_setStage_of_ne (Ne.symm hj) _
  · rfl

/-- The job of the sender ends. -/
theorem outlook_jobEnds (hclock : Clocked timing es x) (n : Nat) (k : JobEnd) :
    (x.step (.jobEnds n k)).outlook i c = match x.stage? i with
      | some (.publishing _ (.running m)) =>
        if m = n ∧ x.jobEnd? n = none then
          (x.outlook i c).learn (k.requested (c.kind.topic c.device) n)
        else x.outlook i c
      | _ => x.outlook i c := by
  have hsame : (∀ r m, x.stage? i = some (.publishing r (.running m)) →
      ¬ (m = n ∧ x.jobEnd? n = none)) → (x.step (.jobEnds n k)).outlook i c = x.outlook i c := by
    refine fun hnot => outlook_congr c rfl (fun r m hs => ?_) fun _ _ => rfl
    by_cases hm : n = m
    · subst hm
      exact jobEnd?_endJob_of_ended (fun hnone => hnot r n hs ⟨rfl, hnone⟩) k
    · exact jobEnd?_endJob_of_ne hm k
  split
  · next r m hs =>
    split
    · next hm =>
      obtain ⟨rfl, hnone⟩ := hm
      obtain ⟨job, hjob, -⟩ := hclock.running i r m hs
      have hs' : (x.step (.jobEnds m k)).stage? i = some (.publishing r (.running m)) := hs
      rw [outlook, outlook, hs, hs']
      show Outlook.publishing r.id (((x.endJob m k).jobEnd? m).map _) _ = _
      rw [jobEnd?_endJob hjob hnone]
      rfl
    · next hm =>
      refine hsame fun r' m' hs' => ?_
      cases hs.symm.trans hs'
      exact hm
  · next hnot => exact hsame fun r m hs => absurd hs (hnot r m)

theorem step_poll {draws : Nat → String} {wall : Moment} {s : SendStage} (hc : x.call? i = some c)
    (hs : x.stage? i = some s) :
    x.step (.poll i draws wall) = x.pollStage i draws wall c s := by
  rw [step, hc, hs]

/-- A sender that is polled for the first time makes its entry. -/
theorem Booked.outlook_enter (h : Booked timing es x) {draws : Nat → String} {wall : Moment}
    (hf : x.FreshAt (.poll i draws wall)) (hc : x.call? i = some c)
    (hs : x.stage? i = some .fresh) : (x.step (.poll i draws wall)).outlook i c =
      .enter x.now (c.token.isCancelled x.cancelled) (draws 0) := by
  have hstage : (x.pollStage i draws wall c .fresh).stage? i = _ := stage?_setStage_self hc _
  cases hreg : x.desk.register x.now c.device c.kind draws with
  | mk r d =>
    have hid : r.id = draws 0 := by
      rw [← Desk.register_id (h.unused hf) x.now c.device c.kind, hreg]
    obtain ⟨-, -, hpending, hchannels⟩ := Desk.of_register hreg
    have hpoll := SendStage.poll_fresh (c := c) (s := x.sendView draws wall) hreg
    have hdesk : (x.pollStage i draws wall c .fresh).desk =
        (SendStage.fresh.poll c (x.sendView draws wall) x.desk).desk := rfl
    have hview : (x.sendView draws wall).view.isCancelled c.token =
        c.token.isCancelled x.cancelled := rfl
    rw [hpoll, hview] at hstage hdesk
    rw [step_poll hc hs, outlook, hstage, jobEnd?_pollStage, Outlook.enter]
    by_cases hcancelled : c.token.isCancelled x.cancelled = true
    · rw [if_pos hcancelled, if_pos hcancelled, ← hid]
      rfl
    · rw [if_neg hcancelled] at hdesk ⊢
      have hjob : x.jobEnd? x.jobs.length = none := by
        rw [jobEnd?, List.getElem?_eq_none (Nat.le_refl _)]
        rfl
      have hholding : d.holding r = ⟨some x.now, none⟩ := by
        rw [Desk.holding, hpending, hchannels, Table.find?_insert_self, Table.find?_insert_self]
        rfl
      rw [if_neg hcancelled, hdesk, ← hid]
      show Outlook.publishing r.id ((x.jobEnd? x.jobs.length).map _) (d.holding r) = _
      rw [hjob, hholding]
      rfl

/-- A sender that has been polled before is polled again. -/
theorem Booked.outlook_poll (h : Booked timing es x) (hx : x.Staffed)
    (htiming : x.desk.timing = timing) {s : SendStage} (draws : Nat → String) (wall : Moment)
    (hc : x.call? i = some c) (hs : x.stage? i = some s) (hfresh : s ≠ .fresh) :
    (x.step (.poll i draws wall)).outlook i c =
      (x.outlook i c).poll timing x.now (c.token.isCancelled x.cancelled) := by
  have hstage : (x.pollStage i draws wall c s).stage? i = _ := stage?_setStage_self hc _
  rw [step_poll hc hs, outlook, hstage, jobEnd?_pollStage, outlook, hs, ← htiming]
  exact SendStage.outlook_poll hfresh (hx i s hs) fun r hr =>
    h.owns (registration?_eq_some_iff.2 ⟨s, hs, hr⟩)

/-- A sender is as ready as it seems to itself. -/
theorem Booked.ready_eq (h : Booked timing es x) (hx : x.Staffed)
    (hcall : ∀ c', x.call? i = some c' → c' = c) : x.ready i =
      (x.prospect i c).outlook.ready (x.prospect i c).now (x.prospect i c).cancelled := by
  show _ = (x.outlook i c).ready x.now (c.token.isCancelled x.cancelled)
  rw [ready, outlook]
  cases hs : x.stage? i with
  | none => cases x.call? i <;> rfl
  | some s =>
    obtain ⟨c', hc⟩ := call?_of_stage? hs
    obtain rfl := hcall c' hc
    rw [hc]
    exact SendStage.isReady_eq (hx i s hs) fun r hr =>
      h.owns (registration?_eq_some_iff.2 ⟨s, hs, hr⟩)

/-- What the polls of a sender are to it. -/
theorem Booked.prospect_poll (h : Booked timing es x) (hx : x.Staffed)
    (hclock : Clocked timing es x) {draws : Nat → String} {wall : Moment}
    (hf : x.FreshAt (.poll i draws wall)) (hcall : ∀ c', x.call? i = some c' → c' = c) :
    (x.step (.poll i draws wall)).prospect i c = Run.after (Prospect.step timing)
      (x.prospect i c) (x.concerns i c (.poll i draws wall)) := by
  have hready := h.ready_eq hx hcall
  rw [concerns]
  cases hs : x.stage? i with
  | none =>
    have hstep : x.step (.poll i draws wall) = x := by
      rw [Exchange.step, hs]
      cases x.call? i <;> rfl
    have hnot : x.ready i = false := by
      rw [ready, hs]
      cases x.call? i <;> rfl
    rw [hstep, hnot, if_neg fun hand => Bool.false_ne_true hand.2]
    rfl
  | some s =>
    obtain ⟨c', hc⟩ := call?_of_stage? hs
    obtain rfl := hcall c' hc
    have hsame : ∀ o, (x.step (.poll i draws wall)).outlook i c' = o →
        (x.step (.poll i draws wall)).prospect i c' = { x.prospect i c' with outlook := o } :=
      fun o ho => prospect_eq (by simp) (by simp) ho
    by_cases hfresh : s = .fresh
    · subst hfresh
      have hyes : x.ready i = true := by
        rw [ready, hc, hs]
        rfl
      rw [if_pos ⟨rfl, hyes⟩]
      exact hsame _ (h.outlook_enter hf hc hs)
    · have hlater : (some s).any SendStage.isFresh = false :=
        Bool.eq_false_iff.2 fun hs => hfresh (SendStage.isFresh_iff.1 hs)
      have hpoll := hsame _ (h.outlook_poll hx hclock.timing_eq draws wall hc hs hfresh)
      cases hnot : x.ready i with
      | true =>
        rw [if_pos ⟨rfl, rfl⟩, hlater]
        exact hpoll
      | false =>
        -- Without anything to do the sender stays as it is, and so does what it sees.
        rw [if_neg fun hand => Bool.false_ne_true hand.2]
        have hstays : (x.outlook i c').poll timing x.now (c'.token.isCancelled x.cancelled) =
            x.outlook i c' := Outlook.poll_of_not_ready (hready.symm.trans hnot)
        rw [hpoll, hstays]
        rfl

/-- **What happens at an exchange is to a sender what its affairs make of it.** -/
theorem Booked.prospect_step (h : Booked timing es x) (hx : x.Staffed)
    (hclock : Clocked timing es x) (hf : x.FreshAt e)
    (hcall : ∀ c', x.call? i = some c' → c' = c) : (x.step e).prospect i c =
      Run.after (Prospect.step timing) (x.prospect i c) (x.concerns i c e) := by
  cases e with
  | begin c' =>
    refine (prospect_eq (by simp) (by simp) (outlook_begin c')).trans ?_
    rw [concerns]
    split <;> rfl
  | sweep =>
    refine (prospect_eq (by simp) (by simp) ?_).trans rfl
    rw [← hclock.timing_eq]
    exact outlook_mapHeld c rfl (fun _ _ _ => rfl) fun r _ => holding_sweep x r
  | pass millis =>
    have houtlook : (x.step (.pass millis)).outlook i c = x.outlook i c :=
      outlook_congr c rfl (fun _ _ _ => rfl) fun _ _ => rfl
    show Prospect.mk _ _ _ = Prospect.mk _ _ _
    rw [houtlook]
    rfl
  | cancel t =>
    have houtlook : (x.step (.cancel t)).outlook i c = x.outlook i c :=
      outlook_congr c rfl (fun _ _ _ => rfl) fun _ _ => rfl
    show Prospect.mk x.now (c.token.isCancelled (t.cancel x.cancelled)) _ = _
    rw [houtlook, concerns]
    cases hhead : t.path.head? with
    | none =>
      have hnothing : t.cancel x.cancelled = x.cancelled := by
        rw [Token.cancel, List.head?_eq_none_iff.1 hhead]
      rw [hnothing]
      rfl
    | some n =>
      rw [Option.any_some]
      by_cases hn : n ∈ c.token.path
      · rw [(Token.isCancelled_cancel hhead _).2 (Or.inl hn), if_pos (decide_eq_true hn)]
        rfl
      · have hsame : c.token.isCancelled (t.cancel x.cancelled) =
            c.token.isCancelled x.cancelled := by
          rw [Bool.eq_iff_iff, Token.isCancelled_cancel hhead]
          exact or_iff_right hn
        rw [hsame, if_neg fun hd => hn (of_decide_eq_true hd)]
        rfl
  | acknowledge a =>
    have hmapped : ∀ f : Holding → Holding, (∀ r, x.registration? i = some r →
        (x.step (.acknowledge a)).desk.holding r = f (x.desk.holding r)) →
        (x.step (.acknowledge a)).prospect i c =
          { x.prospect i c with outlook := (x.outlook i c).mapHeld f } :=
      fun f hdesk => prospect_eq (by simp) (by simp) (outlook_mapHeld c rfl (fun _ _ _ => rfl) hdesk)
    rw [concerns]
    split
    · next hid =>
      refine hmapped (·.take a) fun r hr => ?_
      rw [hr, Option.any_some, decide_eq_true_iff] at hid
      rw [h.holding_acknowledge hr, if_pos hid]
    · next hid =>
      refine prospect_eq (by simp) (by simp) (outlook_congr c rfl (fun _ _ _ => rfl) fun r hr => ?_)
      rw [hr, Option.any_some, decide_eq_true_iff] at hid
      rw [h.holding_acknowledge hr, if_neg hid]
  | jobEnds n k =>
    refine (prospect_eq (by simp) (by simp) (outlook_jobEnds hclock n k)).trans ?_
    rw [concerns]
    split
    · split <;> rfl
    · rfl
  | giveUp j =>
    have hsame : ∀ o, (x.step (.giveUp j)).outlook i c = o →
        (x.step (.giveUp j)).prospect i c = { x.prospect i c with outlook := o } :=
      fun o ho => prospect_eq (by simp) (by simp) ho
    rw [concerns]
    by_cases hj : j = i
    · subst hj
      rw [if_pos rfl]
      exact hsame _ x.outlook_giveUp_self
    · rw [if_neg hj]
      exact hsame _ (h.outlook_frame hx hf (by simp) (by simp) (by simp)
        (x.stage?_giveUp_of_ne hj))
  | poll j draws wall =>
    by_cases hj : j = i
    · subst hj
      exact h.prospect_poll hx hclock hf hcall
    · rw [concerns, if_neg fun hand => hj hand.1]
      exact prospect_eq (by simp) (by simp)
        (h.outlook_frame hx hf (by simp) (by simp) (by simp) (x.stage?_poll_of_ne hj draws wall))

/-! ### Runs -/

/-- The affairs of a sender in a run. -/
def affairs (timing : DeskClock) (i : Nat) (c : SendCall) (es : List Event) : List Concern :=
  Run.gather step (concerns i c) (start timing) es

/-- The result with which a sender ended in a run, and when. -/
def resolved (timing : DeskClock) (i : Nat) (es : List Event) :
    List (Except CommandError Reply × Nat) :=
  Run.gather step (resolution i) (start timing) es

theorem concerns_cases (i : Nat) (c : SendCall) (x : Exchange) (e : Event) :
    x.concerns i c e = [] ∨ ∃ k, x.concerns i c e = [k] := by
  cases e with
  | sweep => exact Or.inr ⟨_, rfl⟩
  | pass millis => exact Or.inr ⟨_, rfl⟩
  | jobEnds n k =>
    rw [concerns]
    split
    · split
      · exact Or.inr ⟨_, rfl⟩
      · exact Or.inl rfl
    · exact Or.inl rfl
  | _ =>
    rw [concerns]
    split
    · exact Or.inr ⟨_, rfl⟩
    · exact Or.inl rfl

theorem result?_eq (x : Exchange) (i : Nat) (c : SendCall) :
    x.result? i = (x.prospect i c).outlook.result? := by
  show _ = (x.outlook i c).result?
  rw [result?, outlook]
  cases x.stage? i with
  | none => rfl
  | some s =>
    cases s with
    | publishing r g => cases g <;> rfl
    | _ => rfl

/-- The result with which a sender ends is the one with which its affairs end it. -/
theorem resolution_eq (hstep : (x.step e).prospect i c =
      Run.after (Prospect.step timing) (x.prospect i c) (x.concerns i c e)) :
    x.resolution i e = Run.gather (Prospect.step timing) (Prospect.resolution timing)
      (x.prospect i c) (x.concerns i c e) := by
  rw [resolution, result?_eq x i c, result?_eq (x.step e) i c, hstep]
  rcases x.concerns_cases i c e with hnil | ⟨k, hk⟩
  · rw [hnil]
    show (match (x.prospect i c).outlook.result?, (x.prospect i c).outlook.result? with
      | none, some result => _
      | _, _ => []) = []
    cases (x.prospect i c).outlook.result? <;> rfl
  · rw [hk]
    exact (List.append_nil _).symm

/-- **The course of a sender in a run is the one that its affairs make.** -/
theorem course (h : Run.Along step FreshAt (start timing) es)
    (hcall : ∀ c', (play timing es).call? i = some c' → c' = c) :
    (play timing es).prospect i c =
        Run.after (Prospect.step timing) .start (affairs timing i c es) ∧
      resolved timing i es = Run.gather (Prospect.step timing) (Prospect.resolution timing) .start
        (affairs timing i c es) := by
  induction es using List.reverseRecOn with
  | nil =>
    refine ⟨?_, rfl⟩
    show Prospect.mk 0 (c.token.isCancelled []) .absent = Prospect.mk 0 false .absent
    have hlive : c.token.isCancelled [] = false :=
      List.any_eq_false.2 fun n _ hn => List.not_mem_nil (of_decide_eq_true hn)
    rw [hlive]
  | append_singleton es e ih =>
    obtain ⟨hes, hf⟩ := (Run.along_snoc es e).1 h
    have hbefore : ∀ c', (play timing es).call? i = some c' → c' = c := by
      refine fun c' hc' => hcall c' ?_
      rw [play_snoc]
      exact call?_step hc' e
    obtain ⟨hprospect, hresolved⟩ := ih hes hbefore
    have hstep := (booked hes).prospect_step (staffed timing es) (clocked timing es) hf hbefore
    have hsnoc : affairs timing i c (es ++ [e]) =
        affairs timing i c es ++ (play timing es).concerns i c e := Run.gather_snoc _ _ _
    constructor
    · rw [play_snoc, hstep, hsnoc, Run.after_append, hprospect]
    · have hlast : resolved timing i (es ++ [e]) =
          resolved timing i es ++ (play timing es).resolution i e := Run.gather_snoc _ _ _
      rw [hlast, hresolved, resolution_eq hstep, hsnoc, Run.gather_append, ← hprospect]

/-- **Two runs in which a sender has the same affairs end it with the same result and at the same
time**, whatever else happens in them and in whatever order.  At the end of both it is ready for a
poll, or at the end of neither. -/
theorem undisturbed (h : Run.Along step FreshAt (start timing) es)
    (h' : Run.Along step FreshAt (start timing) es') (hc : (play timing es).call? i = some c)
    (hc' : (play timing es').call? j = some c)
    (hsame : affairs timing i c es = affairs timing j c es') :
    resolved timing i es = resolved timing j es' ∧
      (play timing es).ready i = (play timing es').ready j := by
  have hone : ∀ c', (play timing es).call? i = some c' → c' = c :=
    fun c' hc' => Option.some.inj (hc'.symm.trans hc)
  have hone' : ∀ c', (play timing es').call? j = some c' → c' = c :=
    fun c'' hc'' => Option.some.inj (hc''.symm.trans hc')
  obtain ⟨hprospect, hresolved⟩ := course h hone
  obtain ⟨hprospect', hresolved'⟩ := course h' hone'
  constructor
  · rw [hresolved, hresolved', hsame]
  · rw [(booked h).ready_eq (staffed timing es) hone,
      (booked h').ready_eq (staffed timing es') hone', hprospect, hprospect', hsame]

/-- Two senders are polled and answered. -/
def inCompany : List Event :=
  [.begin ⟨⟨[1]⟩, "lock-1", .unlock, .empty⟩, .begin ⟨⟨[2]⟩, "lock-2", .lock, .empty⟩,
    .poll 1 (fun _ => "b") .epoch, .poll 0 (fun _ => "a") .epoch, .jobEnds 0 (.finished (.ok ())),
    .jobEnds 1 (.finished (.ok ())), .acknowledge ⟨"b", false, "jammed", 0⟩,
    .poll 1 (fun _ => "") .epoch, .acknowledge ⟨"a", true, "opened", 0⟩, .pass 5,
    .poll 0 (fun _ => "") .epoch]

/-- The second sender comes first and is given up; its token is cancelled, and it is acknowledged
all the same. -/
def alone : List Event :=
  [.begin ⟨⟨[2]⟩, "lock-2", .lock, .empty⟩, .begin ⟨⟨[1]⟩, "lock-1", .unlock, .empty⟩, .giveUp 0,
    .poll 1 (fun _ => "a") .epoch, .cancel ⟨[2]⟩, .jobEnds 0 (.finished (.ok ())),
    .acknowledge ⟨"b", false, "jammed", 0⟩, .acknowledge ⟨"a", true, "opened", 0⟩, .pass 5,
    .acknowledge ⟨"b", false, "jammed", 0⟩, .poll 1 (fun _ => "") .epoch]

theorem inCompany_fresh : Run.Along step FreshAt (start .standard) inCompany := by
  refine ⟨trivial, trivial, fun i r hr => ?_, fun i r hr => ?_, trivial, trivial, trivial,
    fun i r hr => ?_, trivial, trivial, fun i r hr => ?_, trivial⟩
  · match i with
    | 0 | 1 | _ + 2 => cases hr
  · match i with
    | 1 =>
      cases hr
      decide
    | 0 | _ + 2 => cases hr
  · match i with
    | 0 | 1 =>
      cases hr
      decide
    | _ + 2 => cases hr
  · match i with
    | 0 =>
      cases hr
      decide
    | 1 | _ + 2 => cases hr

theorem alone_fresh : Run.Along step FreshAt (start .standard) alone := by
  refine ⟨trivial, trivial, trivial, fun i r hr => ?_, trivial, trivial, trivial, trivial, trivial,
    trivial, fun i r hr => ?_, trivial⟩
  · match i with
    | 0 | 1 | _ + 2 => cases hr
  · match i with
    | 1 =>
      cases hr
      decide
    | 0 | _ + 2 => cases hr

theorem undisturbed_alone :
    (Run.Along step FreshAt (start .standard) inCompany ∧
      Run.Along step FreshAt (start .standard) alone ∧
      affairs .standard 0 ⟨⟨[1]⟩, "lock-1", .unlock, .empty⟩ inCompany =
        affairs .standard 1 ⟨⟨[1]⟩, "lock-1", .unlock, .empty⟩ alone) ∧
    resolved .standard 0 inCompany = [(.ok ⟨"a", true, "opened"⟩, 5)] ∧
      resolved .standard 0 inCompany = resolved .standard 1 alone ∧
      (play .standard inCompany).ready 0 = (play .standard alone).ready 1 :=
  ⟨⟨inCompany_fresh, alone_fresh, rfl⟩, rfl, undisturbed inCompany_fresh alone_fresh rfl rfl rfl⟩

end Exchange

end LockFleet
