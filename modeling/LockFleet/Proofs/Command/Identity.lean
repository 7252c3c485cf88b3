import LockFleet.Proofs.Command.Deadline

/-!
# The identifier of a command

A command has one identifier from its entry to its result.  The envelope that its sender gives to a
job carries it, and so does the result, whatever identifiers other senders draw: the channel of a
sender receives acknowledgements for its own identifier only.

* `SendStage.poll_job`, `SendStage.waitsUnder_of_ended` — what a poll gives to a job, and what it
  needs to end after the publishing;
* `Desk.Addressed` — what is at the desk for a registration carries its identifier;
* `Exchange.posted_bears` — the identifier of an envelope is that of its sender, before and after;
* `Exchange.published_of_ended` — a sender that waited for its acknowledgement had published;
* `Exchange.not_posted_of_cancelled` — a token that was cancelled in time keeps the envelope back.
-/

namespace LockFleet

/-- The identifier that the result of a sender carries. -/
def resultId? : Except CommandError Reply → Option String
  | .ok reply => some reply.command
  | .error e => e.command?

/-- The results of senders that have waited for their acknowledgements. -/
def IsAwaited : Except CommandError Reply → Prop
  | .ok _ => True
  | .error (.timeout _ _) => True
  | .error (.expired _) => True
  | .error (.cancelled _) => False
  | .error (.transport _) => False

/-! ### One poll -/

namespace SendStage

variable {c : SendCall} {s : SendView} {d : Desk} {st : SendStage} {r : Registration}

/-- Only the first poll gives an envelope to a job, and only if the token is not cancelled. -/
theorem poll_job (hj : st.HasJob) {q : PublishRequest} (h : (st.poll c s d).job = some q) :
    st = fresh ∧ s.view.isCancelled c.token = false := by
  cases hr : st.registration? with
  | some r =>
    rcases poll_cases c s d hr hj with ⟨result, -, hp⟩ | ⟨n, -, -, hp⟩ | ⟨alarm, -, -, -, hp⟩ <;>
      · rw [hp] at h
        cases h
  | none =>
    cases st with
    | publishing r g => cases hr
    | waiting r alarm => cases hr
    | ended result => cases h
    | fresh =>
      refine ⟨rfl, ?_⟩
      cases hc : s.view.isCancelled c.token with
      | false => rfl
      | true =>
        cases hreg : d.register s.view.now c.device c.kind s.draws with
        | mk r d' =>
          rw [poll_fresh hreg, if_pos hc] at h
          cases h

/-- A sender that has waited for its acknowledgement ends at a poll at which its envelope has been
published. -/
theorem waitsUnder_of_ended {result : Except CommandError Reply} (hr : st.registration? = some r)
    (hj : st.HasJob) (h : (st.poll c s d).stage = .ended result) (hresult : IsAwaited result) :
    ∃ alarm, WaitsUnder c s d r alarm st := by
  cases st with
  | fresh => cases hr
  | ended _ => cases hr
  | waiting r' alarm =>
    cases hr
    exact ⟨alarm, Or.inl rfl⟩
  | publishing r' g =>
    cases hr
    obtain ⟨n, rfl⟩ := hj r g rfl
    have hpoll : (publish c s d r (.running n)).stage = .ended result := h
    rw [publish, Guarded.poll] at hpoll
    by_cases hc : s.view.isCancelled c.token = true
    · rw [if_pos hc] at hpoll
      cases hpoll
      exact hresult.elim
    rw [if_neg hc] at hpoll
    cases hjob : s.jobs n with
    | none =>
      rw [hjob] at hpoll
      cases hpoll
    | some e =>
      cases hq : e.requested (c.kind.topic c.device) n with
      | ok u => exact ⟨_, Or.inr ⟨n, e, u, rfl, hjob, hq, rfl⟩⟩
      | error t =>
        simp only [hjob, hq] at hpoll
        cases t <;>
          · cases hpoll
            exact hresult.elim

end SendStage

/-! ### The desk -/

namespace Desk

variable {d d' : Desk} {r r' : Registration}

/-- The channels in use have been given out. -/
structure Numbered (d : Desk) : Prop where
  pending : ∀ id p, d.pending.find? id = some p → p.channel < d.nextChannel
  channels : ∀ n held, d.channels.find? n = some held → n < d.nextChannel

/-- What is at the desk for the channel of a registration carries its identifier. -/
structure Addressed (d : Desk) (r : Registration) : Prop where
  numbered : r.channel < d.nextChannel
  entry : ∀ id p, d.pending.find? id = some p → p.channel = r.channel → id = r.id
  mail : ∀ a, d.channels.find? r.channel = some (some a) → a.command = r.id

/-- All that can be at a desk after a step: what was there, an entry with the next channel, and an
acknowledgement in the channel of its entry. -/
structure Becomes (d d' : Desk) : Prop where
  next : d.nextChannel ≤ d'.nextChannel
  pending : ∀ id p, d'.pending.find? id = some p →
    d.pending.find? id = some p ∨ (p.channel = d.nextChannel ∧ d.nextChannel < d'.nextChannel)
  channels : ∀ n held, d'.channels.find? n = some held → d.channels.find? n = some held ∨
    (n = d.nextChannel ∧ held = none ∧ d.nextChannel < d'.nextChannel) ∨
    ∃ a p, held = some a ∧ d.pending.find? a.command = some p ∧ p.channel = n

theorem becomes_refl (d : Desk) : d.Becomes d :=
  ⟨Nat.le_refl _, fun _ _ => Or.inl, fun _ _ => Or.inl⟩

theorem becomes_register (d : Desk) (now : Nat) (device : String) (kind : CommandKind)
    (draws : Nat → String) : d.Becomes (d.register now device kind draws).2 := by
  cases hreg : d.register now device kind draws with
  | mk r d' =>
    obtain ⟨hchannel, hnext, hpending, hchannels⟩ := of_register hreg
    refine ⟨by simp only [hnext]; omega, fun id p hid => ?_, fun n held hn => ?_⟩
    · rw [hpending] at hid
      by_cases heq : id = r.id
      · rw [heq, Table.find?_insert_self] at hid
        cases hid
        exact Or.inr ⟨hchannel, by simp only [hnext]; omega⟩
      · rw [Table.find?_insert_of_ne _ _ heq] at hid
        exact Or.inl hid
    · rw [hchannels] at hn
      by_cases heq : n = r.channel
      · rw [heq, Table.find?_insert_self] at hn
        cases hn
        exact Or.inr (Or.inl ⟨heq.trans hchannel, rfl, by simp only [hnext]; omega⟩)
      · rw [Table.find?_insert_of_ne _ _ heq] at hn
        exact Or.inl hn

theorem Becomes.close (h : d.Becomes d') (r : Registration) : d.Becomes (d'.close r) := by
  refine ⟨h.next, fun id p hid => h.pending id p ?_, fun n held hn => h.channels n held ?_⟩
  · exact ((Table.find?_keep_eq_some_iff _ _ id p).1 hid).1
  · exact ((Table.find?_keep_eq_some_iff _ _ n held).1 hn).1

theorem becomes_handleAck (d : Desk) (a : Ack) : d.Becomes (d.handleAck a).2 := by
  rcases d.handleAck_cases a with ⟨p, hp, -, h⟩ | ⟨h, -⟩
  · rw [h]
    refine ⟨Nat.le_refl _, fun _ _ => Or.inl, fun n held hn => ?_⟩
    by_cases heq : n = p.channel
    · rw [heq] at hn
      cases (Table.find?_insert_self _ _ _).symm.trans hn
      exact Or.inr (Or.inr ⟨a, p, rfl, hp, heq.symm⟩)
    · exact Or.inl ((Table.find?_insert_of_ne _ _ heq).symm.trans hn)
  · rw [h]
    exact becomes_refl d

theorem becomes_sweep (d : Desk) (now : Nat) : d.Becomes (d.sweep now).2 :=
  ⟨Nat.le_refl _, fun _ _ hid => Or.inl (find?_sweep.1 hid).1, fun _ _ => Or.inl⟩

theorem Numbered.becomes (h : d.Numbered) (hb : d.Becomes d') : d'.Numbered where
  pending id p hid := by
    have hnext := hb.next
    rcases hb.pending id p hid with hid | ⟨hp, hlt⟩
    · have hp := h.pending id p hid
      omega
    · omega
  channels n held hn := by
    have hnext := hb.next
    rcases hb.channels n held hn with hn | ⟨hn, -, hlt⟩ | ⟨a, p, -, hp, hn⟩
    · have hn := h.channels n held hn
      omega
    · omega
    · have hp := h.pending _ p hp
      omega

theorem Addressed.becomes (h : d.Addressed r) (hb : d.Becomes d') : d'.Addressed r where
  numbered := Nat.lt_of_lt_of_le h.numbered hb.next
  entry id p hid hchannel := by
    have hlt := h.numbered
    rcases hb.pending id p hid with hid | ⟨hp, -⟩
    · exact h.entry id p hid hchannel
    · omega
  mail a ha := by
    have hlt := h.numbered
    rcases hb.channels _ _ ha with ha | ⟨-, hnone, -⟩ | ⟨b, p, hb, hp, hchannel⟩
    · exact h.mail a ha
    · cases hnone
    · cases hb
      exact h.entry _ p hp hchannel

/-- A new registration has a channel that nothing else has. -/
theorem Numbered.addressed (h : d.Numbered) {now : Nat} {device : String} {kind : CommandKind}
    {draws : Nat → String} (hreg : d.register now device kind draws = (r, d')) :
    d'.Addressed r := by
  obtain ⟨hchannel, hnext, hpending, hchannels⟩ := of_register hreg
  refine ⟨by omega, fun id p hid hp => ?_, fun a ha => ?_⟩
  · by_contra hne
    rw [hpending, Table.find?_insert_of_ne _ _ hne] at hid
    have hlt := h.pending id p hid
    omega
  · rw [hchannels, Table.find?_insert_self] at ha
    cases ha

end Desk

/-- A sender ends with a result that carries its identifier. -/
theorem SendStage.Ends.resultId?_eq {c : SendCall} {v : SendView} {d : Desk} {r : Registration}
    {s : SendStage} {result : Except CommandError Reply} (h : s.Ends c v d r result)
    (hd : d.Addressed r) : ∀ id, resultId? result = some id → id = r.id := by
  intro id hid
  cases h with
  | cancelled => exact (Option.some.inj hid).symm
  | unpublished n e t => cases t <;> cases hid; rfl
  | acknowledged a ha =>
    obtain rfl : a.command = id := Option.some.inj hid
    exact hd.mail a (Desk.receive_eq_acknowledged_iff.1 ha)
  | expired => exact (Option.some.inj hid).symm
  | timeout => exact (Option.some.inj hid).symm

namespace Exchange

variable {timing : DeskClock} {es pre : List Event} {x y : Exchange} {e : Event} {i : Nat}
  {q : PublishRequest} {r : Registration} {result : Except CommandError Reply}

/-! ### One step -/

theorem Happens.becomes (h : x.Happens e y) : x.desk.Becomes y.desk := by
  cases h with
  | quiet desk => exact desk ▸ x.desk.becomes_refl
  | @enters i draws _ _ c _ _ _ desk =>
    have hb := x.desk.becomes_register x.now c.device c.kind draws
    rwa [desk] at hb
  | @turnedAway i draws _ _ c r d _ _ _ entry desk =>
    have hb := x.desk.becomes_register x.now c.device c.kind draws
    rw [entry] at hb
    exact desk ▸ hb.close r
  | stays _ _ _ desk => exact desk ▸ x.desk.becomes_refl
  | returns _ _ _ _ desk => exact desk ▸ x.desk.becomes_refl.close _
  | isGivenUp _ desk => exact desk ▸ x.desk.becomes_refl.close _
  | isForgotten _ desk => exact desk ▸ x.desk.becomes_refl
  | acknowledged desk => exact desk ▸ x.desk.becomes_handleAck _
  | swept desk => exact desk ▸ x.desk.becomes_sweep _

/-- The sender that makes its entry at a step. -/
theorem Happens.entered (h : x.Happens e y) (hx : x.stage? i = some .fresh)
    (hy : y.registration? i = some r) : ∃ c draws timestamp, x.call? i = some c ∧
      x.desk.register x.now c.device c.kind draws = (r, y.desk) ∧
        y.posted = x.posted ++ [(i, c.publishing r.id timestamp)] := by
  have hnone : x.registration? i = none := by
    rw [registration?, hx]
    rfl
  by_cases hi : e.IsTurnOf i
  · cases h with
    | quiet _ stages =>
      rw [registration?_of_quiet (stages i), hnone] at hy
      cases hy
    | @enters _ draws wall _ c r' call stage desk stage' _ posted =>
      cases hi
      rw [registration?, stage'] at hy
      cases hy
      exact ⟨c, draws, _, call, desk, posted⟩
    | turnedAway _ _ _ _ _ stage' =>
      cases hi
      rw [registration?, stage'] at hy
      cases hy
    | stays _ stage held =>
      cases hi
      cases stage.symm.trans hx
      cases held
    | returns _ stage held =>
      cases hi
      cases stage.symm.trans hx
      cases held
    | isGivenUp held =>
      cases hi
      cases held.symm.trans hnone
    | isForgotten _ _ stage' =>
      cases hi
      rw [registration?, stage'] at hy
      cases hy
    | acknowledged => exact hi.elim
    | swept => exact hi.elim
  · rw [registration?_of_quiet (h.of_other hi), hnone] at hy
    cases hy

/-- The sender that publishes at a step. -/
theorem Happens.posts (h : x.Happens e y) (hy : (i, q) ∈ y.posted) (hx : (i, q) ∉ x.posted) :
    ∃ c r timestamp, x.call? i = some c ∧ x.stage? i = some .fresh ∧
      y.registration? i = some r ∧ q = c.publishing r.id timestamp := by
  cases h with
  | @enters j draws wall _ c r call stage desk stage' _ posted =>
    rw [posted, List.mem_append, List.mem_singleton] at hy
    rcases hy with hy | hy
    · exact absurd hy hx
    · cases hy
      refine ⟨c, r, _, call, stage, ?_, rfl⟩
      rw [registration?, stage']
      rfl
  | quiet _ _ posted => exact absurd (posted ▸ hy) hx
  | turnedAway _ _ _ _ _ _ _ posted => exact absurd (posted ▸ hy) hx
  | stays _ _ _ _ _ _ _ posted => exact absurd (posted ▸ hy) hx
  | returns _ _ _ _ _ _ _ posted => exact absurd (posted ▸ hy) hx
  | isGivenUp _ _ _ _ posted => exact absurd (posted ▸ hy) hx
  | isForgotten _ _ _ _ posted => exact absurd (posted ▸ hy) hx
  | acknowledged _ _ posted => exact absurd (posted ▸ hy) hx
  | swept _ _ posted => exact absurd (posted ▸ hy) hx

/-- How a sender comes to have ended. -/
theorem Happens.ended_cases (h : x.Happens e y) (hy : y.stage? i = some (.ended result)) :
    x.stage? i = some (.ended result) ∨ ∃ draws wall, e = .poll i draws wall ∧
      ((x.stage? i = some .fresh ∧ ∃ id, result = .error (.cancelled id)) ∨
        ∃ c s r, x.call? i = some c ∧ x.stage? i = some s ∧ s.registration? = some r ∧
          s.Ends c (x.sendView draws wall) x.desk r result) := by
  have hquiet : y.stage? i = x.stage? i ∨ (x.call? i = none ∧ y.stage? i = some .fresh) →
      x.stage? i = some (.ended result) := by
    rintro (hsame | ⟨-, hnew⟩)
    · exact hsame.symm.trans hy
    · cases hnew.symm.trans hy
  by_cases hi : e.IsTurnOf i
  · cases h with
    | quiet _ stages => exact Or.inl (hquiet (stages i))
    | enters _ _ _ stage' =>
      cases hi
      cases stage'.symm.trans hy
    | turnedAway _ stage _ _ _ stage' =>
      cases hi
      cases stage'.symm.trans hy
      exact Or.inr ⟨_, _, rfl, Or.inl ⟨stage, _, rfl⟩⟩
    | stays _ _ held _ stage' goesOn =>
      cases hi
      cases stage'.symm.trans hy
      rcases goesOn with ⟨rfl, -⟩ | ⟨alarm, -, -, -, hw⟩
      · cases held
      · cases hw
    | returns call stage held ends _ stage' =>
      cases hi
      cases stage'.symm.trans hy
      exact Or.inr ⟨_, _, rfl, Or.inr ⟨_, _, _, call, stage, held, ends⟩⟩
    | isGivenUp _ _ stage' =>
      cases hi
      cases stage'.symm.trans hy
    | isForgotten _ _ stage' =>
      cases hi
      cases stage'.symm.trans hy
    | acknowledged => exact hi.elim
    | swept => exact hi.elim
  · exact Or.inl (hquiet (h.of_other hi))

/-- What has been given to jobs stays. -/
theorem posted_isPrefix (x : Exchange) (e : Event) : x.posted <+: (x.step e).posted := by
  cases e with
  | jobEnds n k =>
    have hsame : (x.step (.jobEnds n k)).posted = x.posted := posted_endJob n k
    exact hsame ▸ List.prefix_refl _
  | giveUp j =>
    rw [step]
    split <;> exact List.prefix_refl _
  | poll j draws wall =>
    rw [step]
    split
    · next c s _ _ =>
      show x.jobs.map _ <+: (x.jobs ++ _).map _
      rw [List.map_append]
      exact List.prefix_append _ _
    · exact List.prefix_refl _
  | _ => exact List.prefix_refl _

/-- A job that was there keeps its owner and its request. -/
theorem jobs_same {n : Nat} {j j' : PublishJob} (hj : x.jobs[n]? = some j)
    (hj' : (x.step e).jobs[n]? = some j') : j'.owner = j.owner ∧ j'.request = j.request := by
  obtain ⟨tail, htail⟩ := x.posted_isPrefix e
  have hposted := posted_getElem? hj
  have hposted' := posted_getElem? hj'
  rw [← htail, List.getElem?_append_left (List.getElem?_eq_some_iff.1 hposted).1, hposted]
    at hposted'
  obtain ⟨howner, hrequest⟩ := Prod.mk.inj (Option.some.inj hposted')
  exact ⟨howner.symm, hrequest.symm⟩

/-- A job that was not there is the first one of its owner. -/
theorem not_posted_of_new (hy : (x.step e).Filed) {n : Nat} {j : PublishJob}
    (hn : x.jobs.length ≤ n) (hj : (x.step e).jobs[n]? = some j) : (j.owner, q) ∉ x.posted := by
  intro hq
  obtain ⟨tail, htail⟩ := x.posted_isPrefix e
  have hposted := posted_getElem? hj
  have happart := hy.apart
  rw [← htail, List.getElem?_append_right (by rwa [length_posted])] at hposted
  rw [← htail, List.map_append] at happart
  exact (List.nodup_append.1 happart).2.2 _ (List.mem_map_of_mem hq) _
    (List.mem_map_of_mem (List.mem_of_getElem? hposted)) rfl

/-- The sender that gives an envelope to a job at a step. -/
theorem posted_step (hx : x.Staffed) (h : (i, q) ∈ (x.step e).posted) : (i, q) ∈ x.posted ∨
    ∃ c, x.call? i = some c ∧ x.stage? i = some .fresh ∧
      c.token.isCancelled x.cancelled = false := by
  cases e with
  | begin c => exact Or.inl h
  | acknowledge a => exact Or.inl h
  | cancel t => exact Or.inl h
  | sweep => exact Or.inl h
  | pass millis => exact Or.inl h
  | jobEnds n k => exact Or.inl (posted_endJob n k ▸ h)
  | giveUp j =>
    rw [step] at h
    split at h <;> exact Or.inl h
  | poll j draws wall =>
    rw [step] at h
    split at h
    · next c s hc hs =>
      have hposted : (x.pollStage j draws wall c s).posted = x.posted ++
          (s.poll c (x.sendView draws wall) x.desk).job.toList.map (j, ·) := by
        show (x.jobs ++ _).map _ = _
        rw [List.map_append, List.map_map]
        rfl
      rw [hposted, List.mem_append, List.mem_map] at h
      rcases h with h | ⟨q', hq', heq⟩
      · exact Or.inl h
      · cases heq
        obtain ⟨rfl, hcancelled⟩ := SendStage.poll_job (hx _ _ hs) (Option.mem_toList.1 hq')
        exact Or.inr ⟨c, hc, hs, hcancelled⟩
    · exact Or.inl h

/-- A token that is cancelled stays so. -/
theorem isCancelled_step {t : Token} (h : t.isCancelled x.cancelled = true) (e : Event) :
    t.isCancelled (x.step e).cancelled = true := by
  refine Token.isCancelled_of_subset (fun n hn => ?_) h
  cases e with
  | cancel t' => exact t'.mem_cancel hn
  | poll i draws wall =>
    rw [step]
    split <;> exact hn
  | giveUp i =>
    rw [step]
    split <;> exact hn
  | _ => exact hn

/-- A token that has been cancelled stays so, whatever happens next. -/
theorem isCancelled_append {t : Token} (h : t.isCancelled (play timing es).cancelled = true)
    (more : List Event) : t.isCancelled (play timing (es ++ more)).cancelled = true := by
  induction more using List.reverseRecOn with
  | nil =>
    rw [List.append_nil]
    exact h
  | append_singleton more e ih =>
    rw [← List.append_assoc, play, Run.after_snoc]
    exact isCancelled_step ih e

/-! ### The identifier of a sender -/

/-- The identifier that a sender holds and that its result carries, at every point of a run. -/
structure Bears (timing : DeskClock) (es : List Event) (i : Nat) (id : String) : Prop where
  held : ∀ pre r, pre <+: es → (play timing pre).registration? i = some r → r.id = id
  result : ∀ pre result, pre <+: es → (play timing pre).stage? i = some (.ended result) →
    ∀ id', resultId? result = some id' → id' = id

theorem Bears.snoc {id : String} (h : Bears timing es i id)
    (hheld : ∀ r, (play timing (es ++ [e])).registration? i = some r → r.id = id)
    (hresult : ∀ result, (play timing (es ++ [e])).stage? i = some (.ended result) →
      ∀ id', resultId? result = some id' → id' = id) : Bears timing (es ++ [e]) i id where
  held pre r hpre hr := by
    rcases List.prefix_concat_iff.1 hpre with rfl | hpre
    · exact hheld r hr
    · exact h.held pre r hpre hr
  result pre result hpre hs := by
    rcases List.prefix_concat_iff.1 hpre with rfl | hpre
    · exact hresult result hs
    · exact h.result pre result hpre hs

/-- What is at the desk carries the identifiers of the senders in progress. -/
theorem addressed (timing : DeskClock) (es : List Event) : (play timing es).desk.Numbered ∧
    ∀ i r, (play timing es).registration? i = some r → (play timing es).desk.Addressed r := by
  induction es using List.reverseRecOn with
  | nil =>
    refine ⟨⟨fun id p hp => ?_, fun n held hn => ?_⟩, fun i r hr => ?_⟩
    · cases hp
    · cases hn
    · cases hr
  | append_singleton es e ih =>
    have hstep := happens timing es e
    refine ⟨ih.1.becomes hstep.becomes, fun i r hr => ?_⟩
    rcases hstep.registration?_cases hr with hx | ⟨hx, -⟩
    · exact (ih.2 i r hx).becomes hstep.becomes
    · obtain ⟨c, draws, timestamp, -, hreg, -⟩ := hstep.entered hx hr
      exact ih.1.addressed hreg

/-- A sender that has ended has been polled. -/
theorem polled_of_ended (h : (play timing es).stage? i = some (.ended result)) :
    Polled timing es i := by
  induction es using List.reverseRecOn with
  | nil => cases h
  | append_singleton es e ih =>
    rw [polled_snoc]
    rcases (happens timing es e).ended_cases h with
      hx | ⟨draws, wall, he, ⟨hx, -⟩ | ⟨c, s, r, -, hs, -⟩⟩
    · exact Or.inl (ih hx)
    · exact Or.inr ⟨draws, wall, _, he, hx⟩
    · exact Or.inr ⟨draws, wall, s, he, hs⟩

/-- A sender that has not been polled has shown no identifier. -/
theorem bears_of_fresh (h : (play timing es).stage? i = some .fresh) (id : String) :
    Bears timing es i id where
  held pre r hpre hr :=
    absurd (((tracked timing pre i).held r hr).of_isPrefix hpre) ((tracked timing es i).fresh h)
  result _ _ hpre hs :=
    absurd ((polled_of_ended hs).of_isPrefix hpre) ((tracked timing es i).fresh h)

/-- **The envelope of a sender carries the identifier that the sender holds and that its result
carries.** -/
theorem posted_bears (h : (i, q) ∈ (play timing es).posted) : ∃ c id timestamp,
    (play timing es).call? i = some c ∧ q = c.publishing id timestamp ∧ Bears timing es i id ∧
      ∃ pre r, pre <+: es ∧ (play timing pre).registration? i = some r ∧ r.id = id := by
  induction es using List.reverseRecOn with
  | nil => cases h
  | append_singleton es e ih =>
    have hstep := happens timing es e
    have hcall : ∀ c, (play timing es).call? i = some c →
        (play timing (es ++ [e])).call? i = some c := fun c hc => by
      rw [play_snoc]
      exact call?_step hc e
    by_cases hold : (i, q) ∈ (play timing es).posted
    · obtain ⟨c, id, timestamp, hc, hq, hb, pre, r, hpre, hr⟩ := ih hold
      have hnotFresh : (play timing es).stage? i ≠ some .fresh := fun hf =>
        (filed timing es).fresh i q hf hold
      have hheld : ∀ r, (play timing es).registration? i = some r → r.id = id :=
        fun r hr => hb.held es r (List.prefix_refl es) hr
      refine ⟨c, id, timestamp, hcall c hc, hq, hb.snoc (fun r hr => ?_) fun result hs => ?_,
        pre, r, hpre.trans (List.prefix_append es [e]), hr⟩
      · rcases hstep.registration?_cases hr with hx | ⟨hx, -⟩
        · exact hheld r hx
        · exact absurd hx hnotFresh
      · rcases hstep.ended_cases hs with
          hx | ⟨draws, wall, -, ⟨hx, -⟩ | ⟨c', s, r, -, hs, hr, hends⟩⟩
        · exact hb.result es result (List.prefix_refl es) hx
        · exact absurd hx hnotFresh
        · have hreg := registration?_eq_some_iff.2 ⟨s, hs, hr⟩
          rw [← hheld r hreg]
          exact hends.resultId?_eq ((addressed timing es).2 i r hreg)
    · obtain ⟨c, r, timestamp, hc, hfresh, hreg, hq⟩ := hstep.posts h hold
      refine ⟨c, r.id, timestamp, hcall c hc, hq,
        (bears_of_fresh hfresh r.id).snoc (fun r' hr' => ?_) fun result hs => ?_,
        es ++ [e], r, List.prefix_refl _, hreg, rfl⟩
      · rw [Option.some.inj (hr'.symm.trans hreg)]
      · rw [registration?, hs] at hreg
        cases hreg

/-- **A sender that has waited for its acknowledgement has published its envelope.** -/
theorem published_of_ended (h : (play timing es).stage? i = some (.ended result))
    (hresult : IsAwaited result) : ∃ t, PublishedAt (play timing es) i t := by
  induction es using List.reverseRecOn with
  | nil => cases h
  | append_singleton es e ih =>
    have hcases := (happens timing es e).ended_cases h
    rw [play_snoc] at h ⊢
    rcases hcases with hx | ⟨draws, wall, rfl, ⟨-, id, rfl⟩ | ⟨c, s, r, hc, hs, hr, -⟩⟩
    · obtain ⟨t, ht⟩ := ih hx
      exact ⟨t, ht.step e⟩
    · exact hresult.elim
    · have hstep : (play timing es).step (.poll i draws wall) =
          (play timing es).pollStage i draws wall c s := by rw [step, hs, hc]
      have hend : (s.poll c ((play timing es).sendView draws wall) (play timing es).desk).stage =
          .ended result := by
        rw [hstep] at h
        exact Option.some.inj ((stage?_setStage_self hc _).symm.trans h)
      obtain ⟨alarm, hw⟩ := SendStage.waitsUnder_of_ended hr (staffed timing es i s hs) hend hresult
      obtain ⟨t, seen, ht, -⟩ := (clocked timing es).waitsUnder hc hs hw
      exact ⟨t, ht.step _⟩

theorem PublishedAt.of_isPrefix {t : Nat} (h : PublishedAt (play timing pre) i t)
    (hpre : pre <+: es) : PublishedAt (play timing es) i t := by
  obtain ⟨post, rfl⟩ := hpre
  induction post using List.reverseRecOn with
  | nil => rwa [List.append_nil]
  | append_singleton post e ih =>
    rw [← List.append_assoc, play_snoc]
    exact ih.step e

/-- **A token that is cancelled before the first poll keeps the envelope back.** -/
theorem not_posted_of_cancelled {c : SendCall} (hpre : pre <+: es)
    (hc : (play timing es).call? i = some c)
    (hnew : (play timing pre).call? i = none ∨ (play timing pre).stage? i = some .fresh)
    (hcancelled : c.token.isCancelled (play timing pre).cancelled = true) :
    (i, q) ∉ (play timing es).posted := by
  obtain ⟨post, rfl⟩ := hpre
  suffices h : c.token.isCancelled (play timing (pre ++ post)).cancelled = true ∧
      ((i, q) ∈ (play timing (pre ++ post)).posted →
        ∃ c', (play timing (pre ++ post)).call? i = some c' ∧ c' ≠ c) by
    intro hq
    obtain ⟨c', hc', hne⟩ := h.2 hq
    exact hne (Option.some.inj (hc'.symm.trans hc))
  clear hc
  induction post using List.reverseRecOn with
  | nil =>
    rw [List.append_nil]
    refine ⟨hcancelled, fun hq => absurd hq ?_⟩
    exact hnew.elim ((filed timing pre).unknown i q) ((filed timing pre).fresh i q)
  | append_singleton post e ih =>
    rw [← List.append_assoc, play_snoc]
    refine ⟨isCancelled_step ih.1 e, fun hq => ?_⟩
    rcases posted_step (staffed timing _) hq with hq | ⟨c', hc', -, hlive⟩
    · obtain ⟨c', hc', hne⟩ := ih.2 hq
      exact ⟨c', call?_step hc' e, hne⟩
    · refine ⟨c', call?_step hc' e, ?_⟩
      rintro rfl
      rw [hlive] at ih
      cases ih.1

end Exchange

end LockFleet
