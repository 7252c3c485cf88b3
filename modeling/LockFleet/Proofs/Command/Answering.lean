import LockFleet.Proofs.Command.Independence
import LockFleet.Proofs.Command.Outcome
import LockFleet.Proofs.Command.Sending

/-!
# The sender that an acknowledgement is for

An acknowledgement with the identifier of a sender that waits is taken for this sender.  It returns
the acknowledgement at its next poll, its entry goes, and all other senders stand where they stood.

* `Exchange.Waits` — a sender that waits for its acknowledgement;
* `Exchange.Carries`, `Exchange.carries_iff` — the identifier in the envelope of a sender;
* `Exchange.Aside`, `Exchange.SparesOthers` — what changes is a matter of one sender;
* `Exchange.Waits.taken`, `Exchange.Waits.acknowledge` — the acknowledgement is taken;
* `Exchange.EndsWith.closes`, `Exchange.Taken.returns` — and it is returned.
-/

namespace LockFleet.Exchange

variable {timing : DeskClock} {es pre : List Event} {x y z : Exchange} {e : Event} {i j : Nat}
  {c c' : SendCall} {r r' : Registration} {a : Ack} {draws : Nat → String} {wall : Moment}

/-- A sender waits for its acknowledgement: it is in progress, its token is not cancelled, no sweep
has taken its entry away, and the desk has taken no acknowledgement for it. -/
structure Waits (timing : DeskClock) (es : List Event) (i : Nat) (c : SendCall)
    (r : Registration) : Prop where
  call : (play timing es).call? i = some c
  held : (play timing es).registration? i = some r
  live : c.token.isCancelled (play timing es).cancelled = false
  unswept : ¬ SweptIn timing es r
  unanswered : ∀ pre a, ¬ Taken timing es pre i r a

/-! ### The identifier in an envelope -/

/-- A sender has given an envelope to a job that carries an identifier, whether one goes by what has
been written or by what is read. -/
def Carries (x : Exchange) (i : Nat) (id : String) : Prop :=
  ∃ q env, (i, q) ∈ x.posted ∧
    (q.payload = env.encode ∨ Json.parse Envelope.read q.payload = .ok env) ∧ env.id = id

/-- **The envelope of a sender carries the identifier that the sender holds**, and no other. -/
theorem carries_iff (hr : (play timing es).registration? i = some r) {id : String} :
    (play timing es).Carries i id ↔ id = r.id := by
  obtain ⟨c, timestamp, -, hq⟩ := (filed timing es).one i r hr
  constructor
  · rintro ⟨q, env, hmem, henv, rfl⟩
    obtain rfl := (hq q).1 hmem
    rcases henv with hwritten | hread
    · exact (Envelope.id_of_encode hwritten).symm
    · exact Envelope.id_of_parse hread
  · rintro rfl
    exact ⟨_, _, (hq _).2 rfl, Or.inl rfl, rfl⟩

/-! ### A matter of one sender -/

/-- What distinguishes two exchanges is a matter of one sender and its entry: the others stand where
they stood, and what they have at the desk is the same. -/
structure Aside (i : Nat) (r : Registration) (x y : Exchange) : Prop where
  stage : ∀ j, j ≠ i → y.stage? j = x.stage? j
  news : ∀ j r', j ≠ i → x.registration? j = some r' → y.desk.receive r' = x.desk.receive r'
  entry : ∀ id, id ≠ r.id → y.desk.pending.find? id = x.desk.pending.find? id

theorem Aside.trans (h : Aside i r x y) (h' : Aside i r y z) : Aside i r x z where
  stage j hj := (h'.stage j hj).trans (h.stage j hj)
  news j r' hj hr' :=
    (h'.news j r' hj ((registration?_congr (h.stage j hj)).trans hr')).trans (h.news j r' hj hr')
  entry id hid := (h'.entry id hid).trans (h.entry id hid)

/-- An acknowledgement is a matter of the sender that holds its identifier. -/
theorem Booked.aside_acknowledge (h : Booked timing es x) (hr : x.registration? i = some r)
    (ha : a.command = r.id) : Aside i r x (x.step (.acknowledge a)) where
  stage _ _ := rfl
  news j r' hj hr' := by
    have hforeign : ∀ r'', x.registration? j = some r'' → a.command ≠ r''.id :=
      fun r'' hr'' hid => hj (h.ids_apart j i r'' r hr'' hr (hid.symm.trans ha))
    exact (h.alike_acknowledge hforeign).receive hr'
  entry id _ := congrArg (·.find? id) (x.desk.pending_handleAck a)

/-- So is the end of a sender; its entry goes with it. -/
theorem Booked.aside_close (h : Booked timing es x) (hr : x.registration? i = some r)
    (hdesk : y.desk = x.desk.close r) (hothers : ∀ j, j ≠ i → y.stage? j = x.stage? j) :
    Aside i r x y ∧ y.desk.pending.find? r.id = none := by
  refine ⟨⟨hothers, fun j r' hj hr' => ?_, fun id hid => ?_⟩, ?_⟩
  · have hchannel : y.desk.channels.find? r'.channel = x.desk.channels.find? r'.channel := by
      rw [hdesk]
      exact Desk.find?_channels_close_of_ne fun hc => hj (h.channels_apart j i r' r hr' hr hc)
    have hentry : y.desk.hasEntry r' = x.desk.hasEntry r' := by
      rw [hdesk]
      exact hasEntry_congr
        (Table.find?_erase_of_ne _ fun hid => hj (h.ids_apart j i r' r hr' hr hid))
    rw [Desk.receive, Desk.receive, hchannel, hentry]
  · rw [hdesk]
    exact Table.find?_erase_of_ne _ hid
  · rw [hdesk]
    exact Table.find?_erase_self _ _

/-- From one point of a run to a later one, nothing has changed but a matter of one sender, and all
others that waited still do. -/
structure SparesOthers (timing : DeskClock) (es es' : List Event) (i : Nat) (r : Registration) :
    Prop extends Aside i r (play timing es) (play timing es') where
  waits : ∀ j c' r', j ≠ i → Waits timing es j c' r' → Waits timing es' j c' r'

theorem SparesOthers.trans {es' es'' : List Event} (h : SparesOthers timing es es' i r)
    (h' : SparesOthers timing es' es'' i r) : SparesOthers timing es es'' i r where
  toAside := h.toAside.trans h'.toAside
  waits j c' r' hj hw := h'.waits j c' r' hj (h.waits j c' r' hj hw)

/-- An event spares the other senders if it is a matter of one sender and neither a sweep nor a
cancellation nor an acknowledgement for any of them. -/
theorem Aside.sparesOthers (h : Aside i r (play timing es) (play timing (es ++ [e])))
    (hsweep : e ≠ .sweep)
    (hcancelled : (play timing (es ++ [e])).cancelled = (play timing es).cancelled)
    (hack : ∀ a, e = .acknowledge a →
      ∀ j r', j ≠ i → (play timing es).registration? j = some r' → a.command ≠ r'.id) :
    SparesOthers timing es (es ++ [e]) i r where
  toAside := h
  waits j c' r' hj hw :=
    { call := by
        rw [play_snoc]
        exact call?_step hw.call e
      held := (registration?_congr (h.stage j hj)).trans hw.held
      live := by
        rw [hcancelled]
        exact hw.live
      unswept := fun hswept => hw.unswept ((sweptIn_snoc_of_ne hsweep).1 hswept)
      unanswered := fun pre b ht => by
        rcases Run.occurs_snoc.1 ht.occurs with ho | ⟨rfl, he⟩
        · exact hw.unanswered pre b ⟨ho, ht.held, ht.command, ht.taken⟩
        · exact hack b he.symm j r' hj hw.held ht.command }

/-! ### Taken and returned -/

/-- A sender whose envelope has been published finds its job at an end. -/
theorem requested_of_publishedAt {t n : Nat} (hpublished : PublishedAt (play timing es) i t)
    (hc : (play timing es).call? i = some c)
    (hs : (play timing es).stage? i = some (.publishing r (.running n))) :
    ∃ k, (play timing es).jobEnd? n = some k ∧
      k.requested (c.kind.topic c.device) n = .ok () := by
  obtain ⟨m, j, c', k, hj, howner, hc', hout, hok⟩ := hpublished
  obtain ⟨j', hj', howner', -⟩ := (clocked timing es).running i r n hs
  obtain rfl := (filed timing es).job_unique hj' hj (howner.trans howner'.symm)
  cases hc.symm.trans hc'
  refine ⟨k, ?_, hok⟩
  rw [jobEnd?, hj, Option.bind_some, hout]
  rfl

/-- A sender in progress that ends closes its entry, and no other sender is concerned. -/
theorem EndsWith.closes {result : Except CommandError Reply}
    (he : EndsWith timing es i draws wall result) (hr : (play timing es).registration? i = some r) :
    (play timing (es ++ [.poll i draws wall])).desk = (play timing es).desk.close r ∧
      ∀ j, j ≠ i → (play timing (es ++ [.poll i draws wall])).stage? j =
        (play timing es).stage? j := by
  obtain ⟨s, hs, hheld⟩ := registration?_eq_some_iff.1 hr
  have hended := he.2
  have hstep := happens timing es (.poll i draws wall)
  generalize play timing (es ++ [.poll i draws wall]) = y at hended hstep
  cases hstep with
  | quiet _ _ _ idle =>
    obtain ⟨q, rfl⟩ := idle s hs
    cases hheld
  | enters _ _ _ stage' => cases stage'.symm.trans hended
  | turnedAway _ stage =>
    cases hs.symm.trans stage
    cases hheld
  | stays _ stage held _ stage' goesOn =>
    rcases goesOn with ⟨rfl, -⟩ | ⟨alarm, -, -, -, rfl⟩
    · cases stage'.symm.trans hended
      cases held
    · cases stage'.symm.trans hended
  | returns _ stage held _ desk _ others =>
    cases hs.symm.trans stage
    cases hheld.symm.trans held
    exact ⟨desk, others⟩

/-- A sender has returned a reply, its entry is gone, and nothing else has changed. -/
structure Returns (timing : DeskClock) (es es' : List Event) (i : Nat) (r : Registration)
    (reply : Reply) : Prop extends SparesOthers timing es es' i r where
  ended : (play timing es').stage? i = some (.ended (.ok reply))
  gone : (play timing es').desk.pending.find? r.id = none

section Answers

variable (h : Run.Along step FreshAt (start timing) es)

include h

/-- The entry of a sender that waits is there. -/
theorem Waits.hasEntry (hw : Waits timing es i c r) : (play timing es).desk.hasEntry r = true :=
  ((booked h).entry i r hw.held).2 hw.unswept

/-- **An acknowledgement with the identifier of a sender that waits is taken for it.** -/
theorem Waits.taken (hw : Waits timing es i c r) (ha : a.command = r.id) :
    Taken timing (es ++ [.acknowledge a]) es i r a := by
  obtain ⟨p, hp, hchannel⟩ := Desk.hasEntry_iff.1 (hw.hasEntry h)
  have hempty : (play timing es).desk.channels.find? r.channel = some none := by
    have hopen := (booked h).isOpen i r hw.held
    cases hc : (play timing es).desk.channels.find? r.channel with
    | none =>
      rw [hc] at hopen
      cases hopen
    | some held =>
      cases held with
      | none => rfl
      | some b =>
        obtain ⟨pre, ht, -⟩ := (mailbox h hw.held).full b hc
        exact absurd ht (hw.unanswered pre b)
  refine ⟨⟨[], rfl⟩, hw.held, ha, ?_⟩
  rcases (play timing es).desk.handleAck_cases a with ⟨p', -, -, hack⟩ | ⟨-, hnot⟩
  · rw [hack]
  · exact absurd (hchannel ▸ hempty) (hnot p (ha ▸ hp))

/-- Nobody else takes notice of it. -/
theorem Waits.acknowledge (hw : Waits timing es i c r) (ha : a.command = r.id) :
    SparesOthers timing es (es ++ [.acknowledge a]) i r := by
  have haside : Aside i r (play timing es) (play timing (es ++ [.acknowledge a])) := by
    rw [play_snoc]
    exact (booked h).aside_acknowledge hw.held ha
  refine haside.sparesOthers nofun ?_ ?_
  · rw [play_snoc]
    rfl
  · rintro b ⟨⟩ j r' hj hr' hid
    exact hj ((booked h).ids_apart j i r' r hr' hw.held (hid.symm.trans ha))

/-- **A sender for which an acknowledgement was taken returns it at its next poll**, if its envelope
has been published and its token is not cancelled. -/
theorem Taken.returns (ht : Taken timing es pre i r a)
    (hr : (play timing es).registration? i = some r) (hc : (play timing es).call? i = some c)
    (hlive : c.token.isCancelled (play timing es).cancelled = false)
    (hpublished : ∃ t, PublishedAt (play timing es) i t) (draws : Nat → String) (wall : Moment) :
    Returns timing es (es ++ [.poll i draws wall]) i r (Reply.ofAck a) := by
  obtain ⟨t, hpublished⟩ := hpublished
  have hends := ht.returned h hr hc hlive
    (fun n hs => requested_of_publishedAt hpublished hc hs) draws wall
  obtain ⟨hdesk, hothers⟩ := hends.closes hr
  obtain ⟨haside, hgone⟩ := (booked h).aside_close hr hdesk hothers
  refine ⟨haside.sparesOthers nofun ?_ nofun, hends.2, hgone⟩
  rw [play_snoc, step]
  split <;> rfl

/-- A sender that waits and whose envelope has been published returns, when it is polled, an
acknowledgement that has just come with its identifier. -/
theorem Waits.returns (hw : Waits timing es i c r) (ha : a.command = r.id)
    (hpublished : ∃ t, PublishedAt (play timing es) i t) (draws : Nat → String) (wall : Moment) :
    Returns timing es (es ++ [.acknowledge a] ++ [.poll i draws wall]) i r (Reply.ofAck a) := by
  have hafter : Run.Along step FreshAt (start timing) (es ++ [.acknowledge a]) :=
    (Run.along_snoc _ _).2 ⟨h, True.intro⟩
  have hstep : play timing (es ++ [.acknowledge a]) = (play timing es).step (.acknowledge a) :=
    play_snoc es _
  have hreturns : Returns timing (es ++ [.acknowledge a])
      (es ++ [.acknowledge a] ++ [.poll i draws wall]) i r (Reply.ofAck a) := by
    refine (hw.taken h ha).returns (c := c) hafter ?_ ?_ ?_ ?_ draws wall
    · rw [hstep]
      exact hw.held
    · rw [hstep]
      exact hw.call
    · rw [hstep]
      exact hw.live
    · obtain ⟨t, ht⟩ := hpublished
      exact ⟨t, hstep ▸ ht.step _⟩
  exact ⟨(hw.acknowledge h ha).trans hreturns.toSparesOthers, hreturns.ended, hreturns.gone⟩

end Answers

end LockFleet.Exchange
