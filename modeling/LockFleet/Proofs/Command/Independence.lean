import LockFleet.Proofs.Command.Delivery
import LockFleet.Proofs.Command.Identity

/-!
# Senders on their own

A sender takes no notice of what others are told.  Two exchanges that agree on what a sender holds,
and on all that is not the business of single senders, stay so whatever happens next.

* `Booked.entry_frame`, `Booked.channel_handleAck` — who changes the entry and the channel of a
  sender;
* `SendStage.stage_poll`, `SendStage.poll_fresh_congr` — what a poll depends on;
* `Exchange.Alike` — two exchanges that a sender cannot tell apart;
* `Alike.step` — every event keeps them alike;
* `Exchange.unaffected` — an acknowledgement for another identifier makes no difference, ever after.
-/

namespace LockFleet

/-! ### One poll -/

namespace SendStage

variable {c : SendCall} {d d' : Desk} {r : Registration} {st : SendStage}

/-- Whether a sender has not been polled. -/
def isFresh : SendStage → Bool
  | fresh => true
  | _ => false

theorem isFresh_iff : st.isFresh = true ↔ st = fresh := by
  cases st <;> simp [isFresh]

/-- Of the desk, a sender that waits sees its own channel and entry. -/
theorem stage_await {v : View} (htiming : d'.timing = d.timing) (hnews : d'.receive r = d.receive r)
    (alarm : Alarm) : (await c v d' r alarm).stage = (await c v d r alarm).stage := by
  rw [await, await, hnews, htiming]
  split
  · rfl
  · split
    · rfl
    · rfl
    · split <;> rfl

theorem stage_afterPublishing {v : View} (htiming : d'.timing = d.timing)
    (hnews : d'.receive r = d.receive r) (g : Guarded) (job : Option PublishRequest) :
    (afterPublishing c v d' r g job).stage = (afterPublishing c v d r g job).stage := by
  cases g with
  | fresh => rfl
  | running n => rfl
  | ended result =>
    cases result with
    | ok u =>
      show (await c v d' r _).stage = (await c v d r _).stage
      rw [htiming]
      exact stage_await htiming hnews _
    | error e => cases e <;> rfl

theorem stage_poll {s : SendView} (hr : st.registration? = some r)
    (htiming : d'.timing = d.timing) (hnews : d'.receive r = d.receive r) :
    (st.poll c s d').stage = (st.poll c s d).stage := by
  cases st with
  | fresh => cases hr
  | ended result => cases hr
  | waiting r' alarm =>
    cases hr
    exact stage_await htiming hnews alarm
  | publishing r' g =>
    cases hr
    show (publish c s d' r g).stage = (publish c s d r g).stage
    rw [publish, publish]
    exact stage_afterPublishing htiming hnews _ _

/-- What the first poll of a sender shows of the desk: that nobody has the identifier it draws, and
the number of the next channel. -/
structure PollsAlike (s s' : Sent) : Prop where
  stage : s'.stage = s.stage
  job : s'.job = s.job
  next : s'.desk.nextChannel = s.desk.nextChannel

theorem poll_fresh_congr {s : SendView} (hnext : d'.nextChannel = d.nextChannel)
    (hd : d.isPending (s.draws 0) = false) (hd' : d'.isPending (s.draws 0) = false) :
    PollsAlike (fresh.poll c s d) (fresh.poll c s d') := by
  cases hreg : d.register s.view.now c.device c.kind s.draws with
  | mk r₁ d₁ =>
    cases hreg' : d'.register s.view.now c.device c.kind s.draws with
    | mk r₂ d₂ =>
      obtain ⟨hchannel, hnext₁, -⟩ := Desk.of_register hreg
      obtain ⟨hchannel', hnext₂, -⟩ := Desk.of_register hreg'
      have hid := Desk.register_id hd s.view.now c.device c.kind
      have hid' := Desk.register_id hd' s.view.now c.device c.kind
      rw [hreg] at hid
      rw [hreg'] at hid'
      obtain ⟨id₁, n₁⟩ := r₁
      obtain ⟨id₂, n₂⟩ := r₂
      cases hid.trans hid'.symm
      cases hchannel.trans (hnext.symm.trans hchannel'.symm)
      rw [poll_fresh hreg, poll_fresh hreg']
      have hsame : d₂.nextChannel = d₁.nextChannel := by omega
      split
      · exact ⟨rfl, rfl, hsame⟩
      · exact ⟨rfl, rfl, hsame⟩

/-- A later poll gives nothing to a job, and leaves the numbers of channels alone. -/
theorem poll_later (c : SendCall) (s : SendView) (d : Desk) (hj : st.HasJob) (hf : st ≠ fresh) :
    (st.poll c s d).stage ≠ fresh ∧ (st.poll c s d).job = none ∧
      (st.poll c s d).desk.nextChannel = d.nextChannel := by
  cases hr : st.registration? with
  | some r =>
    rcases poll_cases c s d hr hj with ⟨result, -, hp⟩ | ⟨n, rfl, -, hp⟩ | ⟨alarm, -, -, -, hp⟩
    · rw [hp]
      exact ⟨nofun, rfl, rfl⟩
    · rw [hp]
      exact ⟨nofun, rfl, rfl⟩
    · rw [hp]
      exact ⟨nofun, rfl, rfl⟩
  | none =>
    cases st with
    | fresh => exact absurd rfl hf
    | publishing r g => cases hr
    | waiting r alarm => cases hr
    | ended result => exact ⟨nofun, rfl, rfl⟩

end SendStage

namespace Exchange

variable {timing : DeskClock} {es : List Event} {x y x' y' : Exchange} {e : Event} {i j : Nat}
  {r : Registration}

/-! ### The entry and the channel of a sender -/

/-- The entry of a sender changes by sweeps only, as long as the sender is in progress. -/
theorem Booked.entry_frame (h : Booked timing es x) (hstep : x.Happens e y) (hne : e ≠ .sweep)
    (hf : x.FreshAt e) (hx : x.registration? i = some r) (hy : y.registration? i = some r) :
    y.desk.pending.find? r.id = x.desk.pending.find? r.id := by
  have hclose : ∀ j r', y.registration? j = none → x.registration? j = some r' →
      y.desk = x.desk.close r' → y.desk.pending.find? r.id = x.desk.pending.find? r.id := by
    intro j r' hgone hj hdesk
    have hid : r.id ≠ r'.id := by
      intro hid
      cases h.ids_apart i j r r' hx hj hid
      cases hgone.symm.trans hy
    rw [hdesk]
    exact Table.find?_erase_of_ne _ hid
  cases hstep with
  | quiet desk => rw [desk]
  | @enters _ draws _ _ c r' _ _ desk =>
    have hid : r.id ≠ r'.id := by
      rw [← congrArg (fun q => q.1.id) desk, Desk.register_id (h.unused hf)]
      exact (hf i r hx).symm
    rw [(Desk.of_register desk).2.2.1, Table.find?_insert_of_ne _ _ hid]
  | @turnedAway _ draws _ _ c r' d _ _ _ entry desk =>
    have hid : r.id ≠ r'.id := by
      rw [← congrArg (fun q => q.1.id) entry, Desk.register_id (h.unused hf)]
      exact (hf i r hx).symm
    rw [desk]
    refine (Table.find?_erase_of_ne _ hid).trans ?_
    rw [(Desk.of_register entry).2.2.1, Table.find?_insert_of_ne _ _ hid]
  | stays _ _ _ desk => rw [desk]
  | returns _ stage held _ desk stage' =>
    refine hclose _ _ ?_ (registration?_eq_some_iff.2 ⟨_, stage, held⟩) desk
    rw [registration?, stage']
    rfl
  | isGivenUp held desk stage' =>
    refine hclose _ _ ?_ held desk
    rw [registration?, stage']
    rfl
  | isForgotten _ desk => rw [desk]
  | acknowledged desk => rw [desk, Desk.pending_handleAck]
  | swept => exact absurd rfl hne

/-- The channel of a sender receives an acknowledgement for its identifier, if it is empty and the
entry is there. -/
theorem Booked.channel_handleAck (h : Booked timing es x) (hx : x.registration? i = some r)
    (a : Ack) : (x.desk.handleAck a).2.channels.find? r.channel =
      if a.command = r.id ∧ x.desk.hasEntry r = true ∧
        x.desk.channels.find? r.channel = some none then some (some a)
      else x.desk.channels.find? r.channel := by
  rcases x.desk.handleAck_cases a with ⟨p, hp, hempty, hack⟩ | ⟨hack, hnot⟩
  · rw [hack]
    by_cases hchannel : r.channel = p.channel
    · have hid : a.command = r.id := by
        obtain ⟨j, hj⟩ := h.owned a.command p hp
        cases h.channels_apart j i _ r hj hx hchannel.symm
        exact congrArg Registration.id (Option.some.inj (hj.symm.trans hx))
      have hentry : x.desk.hasEntry r = true := Desk.hasEntry_iff.2 ⟨p, hid ▸ hp, hchannel.symm⟩
      rw [if_pos ⟨hid, hentry, hchannel ▸ hempty⟩, hchannel]
      exact Table.find?_insert_self _ _ _
    · rw [if_neg]
      · exact Table.find?_insert_of_ne _ _ hchannel
      · rintro ⟨hid, -, -⟩
        exact hchannel (h.hasEntry_of_find? hx (hid ▸ hp)).symm
  · rw [hack, if_neg]
    rintro ⟨hid, hentry, hempty⟩
    obtain ⟨p, hp, hchannel⟩ := Desk.hasEntry_iff.1 hentry
    exact hnot p (hid ▸ hp) (hchannel ▸ hempty)

/-! ### Exchanges that a sender cannot tell apart -/

/-- What a sender is to the others: what it sends, and whether it is there and has been polled. -/
def Sender.mark (s : Sender) : SendCall × Option Bool := (s.call, s.stage.map SendStage.isFresh)

/-- Two exchanges that agree on a sender, and on all that is not the business of single senders. -/
structure Outside (i : Nat) (x y : Exchange) : Prop where
  sender : y.senders[i]? = x.senders[i]?
  marks : y.senders.map Sender.mark = x.senders.map Sender.mark
  jobs : y.jobs = x.jobs
  now : y.now = x.now
  cancelled : y.cancelled = x.cancelled
  polls : y.polls = x.polls
  timing : y.desk.timing = x.desk.timing
  next : y.desk.nextChannel = x.desk.nextChannel

/-- Two exchanges that a sender cannot tell apart: they also agree on what it has at the desk.  What
other senders have there may differ. -/
structure Alike (i : Nat) (x y : Exchange) : Prop extends Outside i x y where
  entry : ∀ r, x.registration? i = some r →
    y.desk.pending.find? r.id = x.desk.pending.find? r.id
  channel : ∀ r, x.registration? i = some r →
    y.desk.channels.find? r.channel = x.desk.channels.find? r.channel

namespace Outside

theorem stage (h : Outside i x y) : y.stage? i = x.stage? i := by
  rw [stage?, stage?, h.sender]

theorem registration (h : Outside i x y) : y.registration? i = x.registration? i :=
  registration?_congr h.stage

theorem length (h : Outside i x y) : y.senders.length = x.senders.length := by
  have hmarks := congrArg List.length h.marks
  rwa [List.length_map, List.length_map] at hmarks

theorem mark (h : Outside i x y) (j : Nat) :
    y.senders[j]?.map Sender.mark = x.senders[j]?.map Sender.mark := by
  rw [← List.getElem?_map, ← List.getElem?_map, h.marks]

theorem call (h : Outside i x y) (j : Nat) : y.call? j = x.call? j := by
  have hmark := congrArg (Option.map Prod.fst) (h.mark j)
  rwa [Option.map_map, Option.map_map] at hmark

theorem fresh (h : Outside i x y) (j : Nat) :
    (y.stage? j).map SendStage.isFresh = (x.stage? j).map SendStage.isFresh := by
  have hmark := congrArg (Option.bind · Prod.snd) (h.mark j)
  rw [stage?, stage?, Option.map_bind, Option.map_bind]
  rwa [Option.bind_map, Option.bind_map] at hmark

theorem sendView (h : Outside i x y) (draws : Nat → String) (wall : Moment) :
    y.sendView draws wall = x.sendView draws wall := by
  have hends : y.jobEnd? = x.jobEnd? := by
    funext n
    rw [jobEnd?, jobEnd?, h.jobs]
  rw [Exchange.sendView, Exchange.sendView, view, view, h.now, h.polls, h.cancelled, hends, h.jobs]

end Outside

namespace Alike

theorem hasEntry (h : Alike i x y) (hr : x.registration? i = some r) :
    y.desk.hasEntry r = x.desk.hasEntry r :=
  hasEntry_congr (h.entry r hr)

theorem receive (h : Alike i x y) (hr : x.registration? i = some r) :
    y.desk.receive r = x.desk.receive r := by
  rw [Desk.receive, Desk.receive, h.channel r hr, h.hasEntry hr]

/-! ### One event more -/

theorem marks_setStage (x : Exchange) (j : Nat) (st : Option SendStage) :
    (x.setStage j st).senders.map Sender.mark =
      (x.senders.map Sender.mark).modify j fun m => (m.1, st.map SendStage.isFresh) := by
  refine List.ext_getElem? fun n => ?_
  show ((x.senders.modify j _).map Sender.mark)[n]? = _
  rw [List.getElem?_map, List.getElem?_modify, List.getElem?_modify, List.getElem?_map]
  cases x.senders[n]? with
  | none => rfl
  | some s =>
    by_cases hn : j = n
    · simp [hn, Sender.mark]
    · simp [hn]

theorem sender_setStage {st st' : Option SendStage} (h : Alike i x y) (hst : j = i → st' = st) :
    (y.setStage j st').senders[i]? = (x.setStage j st).senders[i]? := by
  show (y.senders.modify j _)[i]? = (x.senders.modify j _)[i]?
  rw [List.getElem?_modify, List.getElem?_modify, h.sender]
  by_cases hj : j = i
  · rw [hst hj]
  · simp [hj]

theorem outside_giveUp (h : Alike i x y) (j : Nat) :
    Outside i (x.step (.giveUp j)) (y.step (.giveUp j)) := by
  have hfresh := h.fresh j
  cases hs : x.stage? j with
  | none =>
    rw [hs, Option.map_none, Option.map_eq_none_iff] at hfresh
    have hstep : x.step (.giveUp j) = x := by rw [step, hs]
    have hstep' : y.step (.giveUp j) = y := by rw [step, hfresh]
    rw [hstep, hstep']
    exact h.toOutside
  | some s =>
    rw [hs, Option.map_some] at hfresh
    obtain ⟨s', hs', -⟩ := Option.map_eq_some_iff.1 hfresh
    have hstep : x.step (.giveUp j) = { x.setStage j none with desk := s.abandon x.desk } := by
      rw [step, hs]
    have hstep' : y.step (.giveUp j) = { y.setStage j none with desk := s'.abandon y.desk } := by
      rw [step, hs']
    have habandon : ∀ (s : SendStage) (d : Desk), (s.abandon d).timing = d.timing ∧
        (s.abandon d).nextChannel = d.nextChannel := by
      intro s d
      cases s <;> exact ⟨rfl, rfl⟩
    rw [hstep, hstep']
    refine ⟨h.sender_setStage fun _ => rfl, ?_, h.jobs, h.now, h.cancelled, h.polls, ?_, ?_⟩
    · refine (marks_setStage y j _).trans (Eq.trans ?_ (marks_setStage x j _).symm)
      rw [h.marks]
    · exact (habandon s' y.desk).1.trans (h.timing.trans (habandon s x.desk).1.symm)
    · exact (habandon s' y.desk).2.trans (h.next.trans (habandon s x.desk).2.symm)

variable {timing' : DeskClock} {es' : List Event} (h : Alike i x y) (hx : Booked timing es x)
  (hy : Booked timing' es' y) (hsx : x.Staffed) (hsy : y.Staffed)

include h hx hy hsx hsy

/-- What a poll shows to others is the same on both sides, and so is what comes of the sender that
cannot tell them apart. -/
theorem polled {draws : Nat → String} {wall : Moment} {c : SendCall} {s s' : SendStage}
    (hfx : x.FreshAt (.poll j draws wall)) (hfy : y.FreshAt (.poll j draws wall))
    (hs : x.stage? j = some s) (hs' : y.stage? j = some s') :
    let sent := s.poll c (x.sendView draws wall) x.desk
    let sent' := s'.poll c (y.sendView draws wall) y.desk
    sent'.stage.isFresh = sent.stage.isFresh ∧ sent'.job = sent.job ∧
      sent'.desk.nextChannel = sent.desk.nextChannel ∧ (j = i → sent'.stage = sent.stage) := by
  rw [h.sendView]
  have hfresh : s'.isFresh = s.isFresh := by
    have hsame := h.fresh j
    rw [hs, hs'] at hsame
    exact Option.some.inj hsame
  by_cases hf : s = .fresh
  · obtain rfl : s' = .fresh := SendStage.isFresh_iff.1 (hfresh.trans (SendStage.isFresh_iff.2 hf))
    subst hf
    obtain ⟨hstage, hjob, hnext⟩ := SendStage.poll_fresh_congr (c := c)
      (s := x.sendView draws wall) h.next (hx.unused hfx) (hy.unused hfy)
    exact ⟨congrArg SendStage.isFresh hstage, hjob, hnext, fun _ => hstage⟩
  · have hf' : s' ≠ .fresh := fun hf' =>
      hf (SendStage.isFresh_iff.1 (hfresh.symm.trans (SendStage.isFresh_iff.2 hf')))
    obtain ⟨hlater, hjob, hnext⟩ := SendStage.poll_later c (x.sendView draws wall) x.desk
      (hsx j s hs) hf
    obtain ⟨hlater', hjob', hnext'⟩ := SendStage.poll_later c (x.sendView draws wall) y.desk
      (hsy j s' hs') hf'
    refine ⟨?_, hjob'.trans hjob.symm, hnext'.trans (h.next.trans hnext.symm), fun hj => ?_⟩
    · rw [Bool.eq_false_iff.2 fun hx => hlater (SendStage.isFresh_iff.1 hx),
        Bool.eq_false_iff.2 fun hy => hlater' (SendStage.isFresh_iff.1 hy)]
    · subst hj
      obtain rfl := Option.some.inj (hs'.symm.trans (h.stage.trans hs))
      cases hr : s'.registration? with
      | some r =>
        exact SendStage.stage_poll hr h.timing
          (h.receive (registration?_eq_some_iff.2 ⟨s', hs, hr⟩))
      | none =>
        cases s' with
        | fresh => exact absurd rfl hf
        | publishing r g => cases hr
        | waiting r alarm => cases hr
        | ended result => rfl

theorem outside_poll {draws : Nat → String} {wall : Moment}
    (hfx : x.FreshAt (.poll j draws wall)) (hfy : y.FreshAt (.poll j draws wall)) :
    Outside i (x.step (.poll j draws wall)) (y.step (.poll j draws wall)) := by
  have htiming := (happens_step hsx (.poll j draws wall)).timing_eq
  have htiming' := (happens_step hsy (.poll j draws wall)).timing_eq
  have hsame := htiming'.trans (h.timing.trans htiming.symm)
  have hfresh := h.fresh j
  cases hc : x.call? j with
  | none =>
    have hstep : x.step (.poll j draws wall) = x := by rw [step, hc]
    have hstep' : y.step (.poll j draws wall) = y := by rw [step, h.call, hc]
    rw [hstep, hstep']
    exact h.toOutside
  | some c =>
    cases hs : x.stage? j with
    | none =>
      rw [hs, Option.map_none, Option.map_eq_none_iff] at hfresh
      have hstep : x.step (.poll j draws wall) = x := by rw [step, hc, hs]
      have hstep' : y.step (.poll j draws wall) = y := by rw [step, h.call, hc, hfresh]
      rw [hstep, hstep']
      exact h.toOutside
    | some s =>
      rw [hs, Option.map_some] at hfresh
      obtain ⟨s', hs', -⟩ := Option.map_eq_some_iff.1 hfresh
      have hstep : x.step (.poll j draws wall) = x.pollStage j draws wall c s := by
        rw [step, hc, hs]
      have hstep' : y.step (.poll j draws wall) = y.pollStage j draws wall c s' := by
        rw [step, h.call, hc, hs']
      obtain ⟨hmark, hjob, hnext, hstage⟩ := polled (c := c) h hx hy hsx hsy hfx hfy hs hs'
      rw [hstep, hstep'] at hsame ⊢
      refine ⟨h.sender_setStage fun hj => congrArg some (hstage hj), ?_, ?_, h.now, h.cancelled,
        congrArg (· + 1) h.polls, hsame, hnext⟩
      · refine (marks_setStage y j _).trans (Eq.trans ?_ (marks_setStage x j _).symm)
        rw [h.marks, Option.map_some, Option.map_some, hmark]
      · show y.jobs ++ _ = x.jobs ++ _
        rw [hjob, h.jobs]

/-- All that is not at the desk stays alike. -/
theorem outside (hfx : x.FreshAt e) (hfy : y.FreshAt e) : Outside i (x.step e) (y.step e) := by
  cases e with
  | poll j draws wall => exact outside_poll h hx hy hsx hsy hfx hfy
  | giveUp j => exact h.outside_giveUp j
  | cancel t =>
    refine { h.toOutside with cancelled := ?_ }
    exact congrArg t.cancel h.cancelled
  | pass millis =>
    refine { h.toOutside with now := ?_ }
    exact congrArg (· + millis) h.now
  | sweep => exact { h.toOutside with }
  | acknowledge a =>
    refine { h.toOutside with timing := ?_, next := ?_ }
    · exact (y.desk.timing_handleAck a).trans (h.timing.trans (x.desk.timing_handleAck a).symm)
    · exact (y.desk.nextChannel_handleAck a).trans
        (h.next.trans (x.desk.nextChannel_handleAck a).symm)
  | jobEnds n k =>
    refine { h.toOutside with jobs := ?_ }
    show y.jobs.modify n _ = x.jobs.modify n _
    rw [h.jobs, h.now]
  | begin c =>
    refine { h.toOutside with sender := ?_, marks := ?_ }
    · show (y.senders ++ [_])[i]? = (x.senders ++ [_])[i]?
      rw [List.getElem?_append, List.getElem?_append, h.length, h.sender]
    · show (y.senders ++ [_]).map _ = (x.senders ++ [_]).map _
      rw [List.map_append, List.map_append, h.marks]

/-- What a sender has at the desk stays alike. -/
theorem desk (hfx : x.FreshAt e) (hfy : y.FreshAt e)
    (hr : (x.step e).registration? i = some r) :
    (y.step e).desk.pending.find? r.id = (x.step e).desk.pending.find? r.id ∧
      (y.step e).desk.channels.find? r.channel = (x.step e).desk.channels.find? r.channel := by
  have hr' := (outside h hx hy hsx hsy hfx hfy).registration.trans hr
  have hstep := happens_step hsx e
  have hstep' := happens_step hsy e
  rcases hstep.registration?_cases hr with hold | ⟨hnew, draws, wall, rfl⟩
  · have hold' := h.registration.trans hold
    constructor
    · by_cases hsweep : e = .sweep
      · subst hsweep
        refine Option.ext fun p => ?_
        show (y.desk.sweep y.now).2.pending.find? r.id = some p ↔
          (x.desk.sweep x.now).2.pending.find? r.id = some p
        rw [Desk.find?_sweep, Desk.find?_sweep, h.entry r hold, Desk.isExpired, Desk.isExpired,
          h.timing, h.now]
      · rw [hy.entry_frame hstep' hsweep hfy hold' hr', hx.entry_frame hstep hsweep hfx hold hr,
          h.entry r hold]
    · by_cases hack : ∃ a, e = .acknowledge a
      · obtain ⟨a, rfl⟩ := hack
        show (y.desk.handleAck a).2.channels.find? r.channel =
          (x.desk.handleAck a).2.channels.find? r.channel
        rw [hy.channel_handleAck hold', hx.channel_handleAck hold, h.hasEntry hold,
          h.channel r hold]
      · have hne : ∀ a, e ≠ .acknowledge a := fun a ha => hack ⟨a, ha⟩
        rw [hy.channel_frame hstep' hne hold' hr', hx.channel_frame hstep hne hold hr,
          h.channel r hold]
  · obtain ⟨c, _, _, hc, hreg, -⟩ := hstep.entered hnew hr
    obtain ⟨c', _, _, hc', hreg', -⟩ := hstep'.entered (h.stage.trans hnew) hr'
    obtain rfl := Option.some.inj (hc'.symm.trans ((h.call i).trans hc))
    obtain ⟨-, -, hpending, hchannels⟩ := Desk.of_register hreg
    obtain ⟨-, -, hpending', hchannels'⟩ := Desk.of_register hreg'
    rw [hpending, hpending', hchannels, hchannels', h.now]
    simp only [Table.find?_insert_self, and_self]

/-- **Every event keeps two exchanges alike.** -/
theorem step (hfx : x.FreshAt e) (hfy : y.FreshAt e) : Alike i (x.step e) (y.step e) where
  toOutside := outside h hx hy hsx hsy hfx hfy
  entry _ hr := (desk h hx hy hsx hsy hfx hfy hr).1
  channel _ hr := (desk h hx hy hsx hsy hfx hfy hr).2

end Alike

/-! ### Acknowledgements for others -/

/-- An acknowledgement for another identifier leaves a sender and its channel as they are. -/
theorem Booked.alike_acknowledge (h : Booked timing es x) {a : Ack}
    (ha : ∀ r, x.registration? i = some r → a.command ≠ r.id) :
    Alike i x (x.step (.acknowledge a)) where
  sender := rfl
  marks := rfl
  jobs := rfl
  now := rfl
  cancelled := rfl
  polls := rfl
  timing := x.desk.timing_handleAck a
  next := x.desk.nextChannel_handleAck a
  entry r _ := congrArg (·.find? r.id) (x.desk.pending_handleAck a)
  channel r hr := by
    refine (h.channel_handleAck hr a).trans (if_neg ?_)
    rintro ⟨hid, -⟩
    exact ha r hr hid

/-- **An acknowledgement for another identifier makes no difference to a sender**, whatever happens
afterwards. -/
theorem unaffected {a : Ack} {post : List Event}
    (hwith : Run.Along step FreshAt (start timing) (es ++ [.acknowledge a] ++ post))
    (hwithout : Run.Along step FreshAt (start timing) (es ++ post))
    (ha : ∀ r, (play timing es).registration? i = some r → a.command ≠ r.id) :
    Alike i (play timing (es ++ post)) (play timing (es ++ [.acknowledge a] ++ post)) := by
  induction post using List.reverseRecOn with
  | nil =>
    rw [List.append_nil] at hwithout
    rw [List.append_nil, List.append_nil, play_snoc]
    exact (booked hwithout).alike_acknowledge ha
  | append_singleton post e ih =>
    rw [← List.append_assoc] at hwith hwithout
    obtain ⟨hwith, he⟩ := (Run.along_snoc _ e).1 hwith
    obtain ⟨hwithout, he'⟩ := (Run.along_snoc _ e).1 hwithout
    rw [← List.append_assoc, ← List.append_assoc, play_snoc, play_snoc]
    exact (ih hwith hwithout).step (booked hwithout) (booked hwith) (staffed timing _)
      (staffed timing _) he' he

end Exchange

end LockFleet
