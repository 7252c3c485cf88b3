import LockFleet.Proofs.Command.Deadline
import LockFleet.Proofs.Command.Delivery

/-!
# What a sender learns

A sender that returns a reply returns the first acknowledgement that came for its identifier while
its entry was there.  Once the desk has taken an acknowledgement for a sender, neither its alarm nor
a sweep can take it away again.  All this holds by any timer; when exactly a sender times out is said
by one that keeps the timeout.

* `Exchange.EndsWith` — the next poll of a sender ends it with a result;
* `Exchange.EndsWith.ends_cases` — why it does;
* `Exchange.Answered` — the results of senders, by the run.
-/

namespace LockFleet

/-- A span of whole milliseconds is not rounded. -/
theorem Span.millisUp_whole {s : Span} (h : nanosPerMilli ∣ s.nanos) :
    s.millisUp * nanosPerMilli = s.nanos := by
  obtain ⟨m, hm⟩ := h
  rw [millisUp, hm]
  simp only [nanosPerMilli]
  omega

namespace Exchange

variable {timing : DeskClock} {es pre : List Event} {i : Nat} {draws : Nat → String}
  {wall : Moment} {result : Except CommandError Reply} {r : Registration} {a : Ack}

/-- A poll ends a sender with a result. -/
def EndsWith (timing : DeskClock) (es : List Event) (i : Nat) (draws : Nat → String)
    (wall : Moment) (result : Except CommandError Reply) : Prop :=
  (∃ s, (play timing es).stage? i = some s ∧ ∀ q, s ≠ .ended q) ∧
    (play timing (es ++ [.poll i draws wall])).stage? i = some (.ended result)

/-- A sender that ends was turned away at its first poll, or held a registration until now. -/
theorem EndsWith.ends_cases (h : EndsWith timing es i draws wall result) :
    (∃ c r, (play timing es).call? i = some c ∧ (play timing es).stage? i = some .fresh ∧
      ((play timing es).view wall).isCancelled c.token = true ∧
      result = .error (.cancelled r)) ∨
    ∃ c s r, (play timing es).call? i = some c ∧ (play timing es).stage? i = some s ∧
      s.registration? = some r ∧
      s.Ends c ((play timing es).sendView draws wall) (play timing es).desk r result := by
  obtain ⟨⟨s, hs, hne⟩, hend⟩ := h
  have hstep := happens timing es (.poll i draws wall)
  generalize play timing (es ++ [.poll i draws wall]) = y at hend hstep
  cases hstep with
  | quiet _ _ _ idle =>
    obtain ⟨q, hq⟩ := idle s hs
    exact absurd hq (hne q)
  | enters _ _ _ stage' => cases stage'.symm.trans hend
  | @turnedAway _ _ _ _ c r _ call stage cancelled _ _ stage' =>
    cases stage'.symm.trans hend
    exact Or.inl ⟨c, r.id, call, stage, cancelled, rfl⟩
  | stays _ _ held _ stage' goesOn =>
    rcases goesOn with ⟨rfl, -⟩ | ⟨alarm, -, -, -, rfl⟩
    · cases stage'.symm.trans hend
      cases held
    · cases stage'.symm.trans hend
  | @returns _ _ _ _ c s' r _ call stage held ends _ stage' =>
    cases stage'.symm.trans hend
    exact Or.inr ⟨c, s', r, call, stage, held, ends⟩

/-- What the senders of a run learn at their next polls. -/
structure Answered (timing : DeskClock) (es : List Event) : Prop where
  /-- A reply is the first acknowledgement that came for the sender while its entry was there, and
  the desk took it; it carries the identifier of the one envelope that the sender published. -/
  reply : ∀ i draws wall reply, EndsWith timing es i draws wall (.ok reply) →
    ∃ pre r a c timestamp, Taken timing es pre i r a ∧ ¬ Heard timing pre i r ∧
      reply = Reply.ofAck a ∧ reply.command = r.id ∧ (play timing es).call? i = some c ∧
      ∀ q, (i, q) ∈ (play timing es).posted ↔ q = c.publishing r.id timestamp
  /-- An acknowledgement that the desk takes is for a sender in progress. -/
  addressed : ∀ a, ((play timing es).desk.handleAck a).1 = true →
    ∃ i r, (play timing es).registration? i = some r ∧ a.command = r.id
  /-- The desk takes one acknowledgement for a sender at most. -/
  once : ∀ i r pre pre' a b, Taken timing es pre i r a → Taken timing es pre' i r b →
    pre = pre' ∧ a = b
  /-- A sender for which one was taken ends with it, or because its token is cancelled, or because
  its envelope could not be published. -/
  kept : ∀ i r pre a draws wall result, Taken timing es pre i r a →
    EndsWith timing es i draws wall result → result = .ok (Reply.ofAck a) ∨
      ∃ c, (play timing es).call? i = some c ∧
        ((result = .error (.cancelled r.id) ∧
            c.token.isCancelled (play timing es).cancelled = true) ∨
          ∃ n k t, (play timing es).stage? i = some (.publishing r (.running n)) ∧
            (play timing es).jobEnd? n = some k ∧
            k.requested (c.kind.topic c.device) n = .error t ∧
            result = .error (SendStage.unpublished r t))
  /-- It does so at its next poll if its envelope has been published and its token is not
  cancelled. -/
  returned : ∀ i r pre a c draws wall, Taken timing es pre i r a →
    (play timing es).registration? i = some r → (play timing es).call? i = some c →
    c.token.isCancelled (play timing es).cancelled = false →
    (∀ n, (play timing es).stage? i = some (.publishing r (.running n)) →
      ∃ k, (play timing es).jobEnd? n = some k ∧
        k.requested (c.kind.topic c.device) n = .ok ()) →
    EndsWith timing es i draws wall (.ok (Reply.ofAck a))
  /-- A sender times out only if no acknowledgement has come while its entry was there, and, by a
  timer that keeps the timeout, exactly when its time is over, counted from the end of the
  publishing. -/
  timeout : ∀ i draws wall id millis,
    EndsWith timing es i draws wall (.error (.timeout id millis)) →
    ∃ r t, (play timing es).registration? i = some r ∧ id = r.id ∧ ¬ Heard timing es i r ∧
      PublishedAt (play timing es) i t ∧
      (timing.timer.Keeps timing.ackTimeout (play timing es).now →
        t * Span.nanosPerMilli + timing.ackTimeout.nanos ≤
            (play timing es).now * Span.nanosPerMilli ∧
          (Prompt timing es → (play timing es).now * Span.nanosPerMilli =
            t * Span.nanosPerMilli + timing.ackTimeout.nanos))
  /-- A sender expires only if a sweep took its entry before an acknowledgement came. -/
  expired : ∀ i draws wall id, EndsWith timing es i draws wall (.error (.expired id)) →
    ∃ r, (play timing es).registration? i = some r ∧ id = r.id ∧ ¬ Heard timing es i r ∧
      SweptIn timing es r

/-- A sender for which an acknowledgement was taken still holds the same registration. -/
theorem Taken.registration? (ht : Taken timing es pre i r a) {s : SendStage} {r' : Registration}
    (hs : (play timing es).stage? i = some s) (hr : s.registration? = some r') : r' = r := by
  have hpre : pre <+: es := (List.prefix_append pre [.acknowledge a]).trans ht.occurs.isPrefix
  exact (registration?_constant hpre ht.held (registration?_eq_some_iff.2 ⟨s, hs, hr⟩)).symm

section Results

variable (h : Run.Along step FreshAt (start timing) es)

include h

/-- A sender that ends with a reply has found it in its channel. -/
theorem EndsWith.reply {reply : Reply} (he : EndsWith timing es i draws wall (.ok reply)) :
    ∃ pre r a c timestamp, Taken timing es pre i r a ∧ ¬ Heard timing pre i r ∧
      reply = Reply.ofAck a ∧ reply.command = r.id ∧ (play timing es).call? i = some c ∧
      ∀ q, (i, q) ∈ (play timing es).posted ↔ q = c.publishing r.id timestamp := by
  rcases he.ends_cases with ⟨_, _, _, _, _, hres⟩ | ⟨_, s, r, -, hs, hr, hends⟩
  · cases hres
  · have hreg : (play timing es).registration? i = some r :=
      registration?_eq_some_iff.2 ⟨s, hs, hr⟩
    cases hends with
    | acknowledged a hrec =>
      obtain ⟨pre, ht⟩ := taken_of_acknowledged h hreg hrec
      obtain ⟨c, timestamp, hc, hq⟩ := (filed timing es).one i r hreg
      exact ⟨pre, r, a, c, timestamp, ht, ht.first h, rfl, ht.command, hc, hq⟩

theorem handleAck_addressed (ha : ((play timing es).desk.handleAck a).1 = true) :
    ∃ i r, (play timing es).registration? i = some r ∧ a.command = r.id := by
  rcases (play timing es).desk.handleAck_cases a with ⟨p, hp, -⟩ | ⟨hack, -⟩
  · obtain ⟨i, hi⟩ := (booked h).owned _ p hp
    exact ⟨i, _, hi, rfl⟩
  · rw [hack] at ha
    cases ha

theorem EndsWith.kept (ht : Taken timing es pre i r a)
    (he : EndsWith timing es i draws wall result) : result = .ok (Reply.ofAck a) ∨
      ∃ c, (play timing es).call? i = some c ∧
        ((result = .error (.cancelled r.id) ∧
            c.token.isCancelled (play timing es).cancelled = true) ∨
          ∃ n k t, (play timing es).stage? i = some (.publishing r (.running n)) ∧
            (play timing es).jobEnd? n = some k ∧
            k.requested (c.kind.topic c.device) n = .error t ∧
            result = .error (SendStage.unpublished r t)) := by
  have hpre : pre <+: es := (List.prefix_append pre [.acknowledge a]).trans ht.occurs.isPrefix
  rcases he.ends_cases with ⟨_, _, _, hf, _, _⟩ | ⟨c, s, r', hc, hs, hr, hends⟩
  · have hpolled := ((tracked timing pre i).held r ht.held).of_isPrefix hpre
    exact absurd hpolled ((tracked timing es i).fresh hf)
  · cases ht.registration? hs hr
    have hrec := ht.delivered h (registration?_eq_some_iff.2 ⟨s, hs, hr⟩)
    cases hends with
    | cancelled hcan => exact Or.inr ⟨c, hc, Or.inl ⟨rfl, hcan⟩⟩
    | unpublished n k t hst hjob hk =>
      exact Or.inr ⟨c, hc, Or.inr ⟨n, k, t, hst ▸ hs, hjob, hk, rfl⟩⟩
    | acknowledged b hb =>
      cases hrec.symm.trans hb
      exact Or.inl rfl
    | expired hd => cases hrec.symm.trans hd
    | timeout alarm _ hw => cases hrec.symm.trans hw

theorem Taken.returned {c : SendCall} (ht : Taken timing es pre i r a)
    (hreg : (play timing es).registration? i = some r) (hc : (play timing es).call? i = some c)
    (hcan : c.token.isCancelled (play timing es).cancelled = false)
    (hpub : ∀ n, (play timing es).stage? i = some (.publishing r (.running n)) →
      ∃ k, (play timing es).jobEnd? n = some k ∧
        k.requested (c.kind.topic c.device) n = .ok ())
    (draws : Nat → String) (wall : Moment) :
    EndsWith timing es i draws wall (.ok (Reply.ofAck a)) := by
  obtain ⟨s, hs, hr⟩ := registration?_eq_some_iff.1 hreg
  have hrec := ht.delivered h hreg
  refine ⟨⟨s, hs, ?_⟩, ?_⟩
  · rintro q rfl
    cases hr
  have hstep := happens timing es (.poll i draws wall)
  generalize play timing (es ++ [.poll i draws wall]) = y at hstep
  cases hstep with
  | quiet _ _ _ idle =>
    obtain ⟨q, rfl⟩ := idle s hs
    cases hr
  | enters _ stage =>
    cases hs.symm.trans stage
    cases hr
  | turnedAway _ stage =>
    cases hs.symm.trans stage
    cases hr
  | stays call stage held _ _ goesOn =>
    cases hc.symm.trans call
    cases hs.symm.trans stage
    cases hr.symm.trans held
    rcases goesOn with ⟨-, n, rfl, hnone⟩ | ⟨alarm, -, hwait, -⟩
    · obtain ⟨k, hk, -⟩ := hpub n hs
      cases hnone.symm.trans hk
    · cases hrec.symm.trans hwait
  | returns call stage held ends _ stage' =>
    cases hc.symm.trans call
    cases hs.symm.trans stage
    cases hr.symm.trans held
    rw [stage']
    cases ends with
    | cancelled hcan' => cases hcan.symm.trans hcan'
    | unpublished n k t hst hjob hk =>
      subst hst
      obtain ⟨k', hk', hok⟩ := hpub n hs
      cases hjob.symm.trans hk'
      cases hk.symm.trans hok
    | acknowledged b hb =>
      cases hrec.symm.trans hb
      rfl
    | expired hd => cases hrec.symm.trans hd
    | timeout alarm _ hw => cases hrec.symm.trans hw

theorem EndsWith.timeout (hwhole : Span.nanosPerMilli ∣ timing.ackTimeout.nanos) {id : String}
    {millis : Nat} (he : EndsWith timing es i draws wall (.error (.timeout id millis))) :
    ∃ r t, (play timing es).registration? i = some r ∧ id = r.id ∧ ¬ Heard timing es i r ∧
      PublishedAt (play timing es) i t ∧
      (timing.timer.Keeps timing.ackTimeout (play timing es).now →
        t * Span.nanosPerMilli + timing.ackTimeout.nanos ≤
            (play timing es).now * Span.nanosPerMilli ∧
          (Prompt timing es → (play timing es).now * Span.nanosPerMilli =
            t * Span.nanosPerMilli + timing.ackTimeout.nanos)) := by
  rcases he.ends_cases with ⟨_, _, _, _, _, hres⟩ | ⟨c, s, r, hc, hs, hr, hends⟩
  · cases hres
  have hreg : (play timing es).registration? i = some r :=
    registration?_eq_some_iff.2 ⟨s, hs, hr⟩
  generalize hresult : (Except.error (.timeout id millis) : Except CommandError Reply) = result
    at hends
  cases hends with
  | cancelled => cases hresult
  | unpublished n k t => cases t <;> cases hresult
  | acknowledged => cases hresult
  | expired => cases hresult
  | timeout alarm hw hrec hdue =>
    cases hresult
    obtain ⟨t, seen, hpub, hle, halarm, hprompt⟩ := (clocked timing es).waitsUnder hc hs hw
    have hover : alarm.due ≤ (play timing es).now := of_decide_eq_true hdue
    refine ⟨r, t, hreg, rfl, not_heard_of_empty h hreg (Desk.receive_eq_waiting_iff.1 hrec).1, hpub,
      fun hkeeps => ?_⟩
    have hseen : seen ≤ (play timing es).now :=
      Nat.le_trans (halarm ▸ timing.timer.le_due seen timing.ackTimeout) hover
    have hspan : alarm.due = seen + timing.ackTimeout.millisUp :=
      halarm.trans (hkeeps.due_eq hseen)
    rw [← Span.millisUp_whole hwhole, ← Nat.add_mul]
    refine ⟨Nat.mul_le_mul_right _ (by omega), fun hp => ?_⟩
    obtain ⟨rfl, hnow⟩ := hprompt hp
    exact congrArg (· * Span.nanosPerMilli) (by omega)

theorem EndsWith.expired {id : String}
    (he : EndsWith timing es i draws wall (.error (.expired id))) :
    ∃ r, (play timing es).registration? i = some r ∧ id = r.id ∧ ¬ Heard timing es i r ∧
      SweptIn timing es r := by
  rcases he.ends_cases with ⟨_, _, _, _, _, hres⟩ | ⟨c, s, r, hc, hs, hr, hends⟩
  · cases hres
  have hreg : (play timing es).registration? i = some r :=
    registration?_eq_some_iff.2 ⟨s, hs, hr⟩
  generalize hresult : (Except.error (.expired id) : Except CommandError Reply) = result at hends
  cases hends with
  | cancelled => cases hresult
  | unpublished n k t => cases t <;> cases hresult
  | acknowledged => cases hresult
  | timeout => cases hresult
  | expired hrec =>
    cases hresult
    obtain ⟨hempty, hgone⟩ := Desk.receive_eq_dropped_iff.1 hrec
    refine ⟨r, hreg, rfl, not_heard_of_empty h hreg hempty, ?_⟩
    by_contra hns
    rw [((booked h).entry i r hreg).2 hns] at hgone
    cases hgone

end Results

/-- **What the senders of a run learn**, for timeouts of whole milliseconds. -/
theorem senders_answered (hwhole : Span.nanosPerMilli ∣ timing.ackTimeout.nanos)
    (h : Run.Along step FreshAt (start timing) es) : Answered timing es where
  reply _ _ _ _ he := he.reply h
  addressed _ ha := handleAck_addressed h ha
  once _ _ _ _ _ _ ht ht' := ht.unique h ht'
  kept _ _ _ _ _ _ _ ht he := he.kept h ht
  returned _ _ _ _ _ draws wall ht hreg hc hcan hpub := ht.returned h hreg hc hcan hpub draws wall
  timeout _ _ _ _ _ he := he.timeout h hwhole
  expired _ _ _ _ he := he.expired h

/-- After the two senders a third comes, which nobody answers. -/
def unanswered : List Event :=
  twoSenders ++ [.begin ⟨⟨[3]⟩, "lock-3", .unlock, .empty⟩, .poll 2 (fun _ => "d") .epoch,
    .pass 1200, .jobEnds 2 (.finished (.ok ())), .poll 2 (fun _ => "e") .epoch, .pass 30000]

theorem senders_answered_unanswered :
    Span.nanosPerMilli ∣ DeskClock.standard.ackTimeout.nanos ∧
      Run.Along step FreshAt (start .standard) unanswered ∧ Answered .standard unanswered ∧
      EndsWith .standard unanswered 2 (fun _ => "f") .epoch (.error (.timeout "d" 30000)) ∧
      DeskClock.standard.timer.Keeps DeskClock.standard.ackTimeout
        (play .standard unanswered).now := by
  have hwhole : Span.nanosPerMilli ∣ DeskClock.standard.ackTimeout.nanos := by decide
  have hfresh : Run.Along step FreshAt (start .standard) unanswered := by
    refine (Run.along_append _ _).2 ⟨twoSenders_fresh, trivial, fun i r hr => ?_, trivial, trivial,
      fun i r hr => ?_, trivial, trivial⟩
    · match i with
      | 0 | 1 | 2 | _ + 3 => cases hr
    · match i with
      | 2 =>
        cases hr
        decide
      | 0 | 1 | _ + 3 => cases hr
  have hends : EndsWith .standard unanswered 2 (fun _ => "f") .epoch
      (.error (.timeout "d" 30000)) :=
    ⟨⟨_, rfl, fun q hq => by cases hq⟩, rfl⟩
  exact ⟨hwhole, hfresh, senders_answered hwhole hfresh, hends, fun _ _ => Nat.le_refl _⟩

end Exchange

end LockFleet
