import LockFleet.Proofs.Broker.Outbox

/-!
# Publishing with a token and publishing plainly

A call with a token is compared with a plain call of the same arguments that is made in its place.
Whatever becomes of the link, and whenever the token is cancelled, the same is requested of the link;
the call returns what the plain call returns unless the token is cancelled before it goes on.  The
job of a call that has given up goes on, and nobody can tell how it ends.

* `GuardedCall`, `GuardedCall.Course` — a call with a token, and where it can stand;
* `GuardedCall.polled_fresh`, `polled_running` — what decides at a poll;
* `GuardedCall.Course.step`, `Holds.step` — the invariant;
* `GuardedCall.Twin`, `Holds.alike_step` — the plain call, event by event;
* `GuardedCall.Holds.unheard_after` — the job of a call that has returned;
* `GuardedCall.Agrees`, `GuardedCall.agrees_with_plain` — every run.
-/

namespace LockFleet

/-- A call with a token that is made at an outbox. -/
structure GuardedCall (L : Type) where
  outbox : Outbox L
  orderly : outbox.Orderly
  topic : String
  payload : Payload
  token : Token

namespace GuardedCall

open Outbox (Event)

variable {L : Type} (x : GuardedCall L)

/-- The number of the call. -/
def number : Nat := x.outbox.calls.length

/-- The only message that may be requested for the call. -/
def message : Outgoing := ⟨x.topic, x.outbox.settings.quality, false, x.payload.bytes⟩

/-! ### Where the call stands -/

/-- The call before its first poll. -/
def fresh : Publication := .make x.topic x.payload (some x.token)

/-- The call while it waits for its job. -/
def running (p : Posting) : Publication :=
  ⟨x.topic, x.payload, .guarded x.token (.running x.number), some p, p.requests x.message, none⟩

/-- The call after it has returned.  Its job goes on, if it has been started. -/
def ended (r : Requested) (t : Nat) (p : Option Posting) : Publication :=
  ⟨x.topic, x.payload, .guarded x.token (.ended r), p, p.elim [] fun p => p.requests x.message,
    some (r, t)⟩

/-- Where a call with a token stands.  It has not returned `cancelled` unless its token is. -/
inductive Course (s : Outbox L) : Publication → Prop where
  | fresh : Course s x.fresh
  | running (p : Posting) : Course s (x.running p)
  | cancelled (t : Nat) (p : Option Posting) (h : x.token.isCancelled s.cancelled = true) :
      Course s (x.ended (.error .cancelled) t p)
  | answered (r : Requested) (t : Nat) : Course s (x.ended r t (some (.ended r)))

variable {x} {s : Outbox L} {c : Publication} {p : Posting} {r : Requested} {t : Nat}

theorem Course.guarded (h : x.Course s c) : ∃ g, c.mode = .guarded x.token g := by
  cases h with
  | fresh => exact ⟨_, rfl⟩
  | running p => exact ⟨_, rfl⟩
  | cancelled t p hoff => exact ⟨_, rfl⟩
  | answered r t => exact ⟨_, rfl⟩

/-- The message has been requested if the job has ended, and nothing else has ever been. -/
theorem Course.sent_eq (h : x.Course s c) :
    c.sent = if c.outcome?.isSome then [x.message] else [] := by
  have hrequests : ∀ p : Posting,
      p.requests x.message = if p.result?.isSome then [x.message] else [] := by
    intro p
    cases p <;> rfl
  cases h with
  | fresh => rfl
  | running p => exact hrequests p
  | cancelled t p hoff =>
    cases p with
    | none => rfl
    | some p => exact hrequests p
  | answered r t => rfl

theorem Course.returns (h : x.Course s c) (hr : c.returned = some (r, t)) :
    c.outcome? = some r ∨ r = .error .cancelled ∧ x.token.isCancelled s.cancelled = true := by
  cases h with
  | fresh => cases hr
  | running p => cases hr
  | cancelled t' p hoff =>
    cases hr
    exact Or.inr ⟨rfl, hoff⟩
  | answered r' t' =>
    cases hr
    exact Or.inl rfl

theorem Course.eq_ended (h : x.Course s c) (hreturned : c.returned ≠ none)
    (hr : c.outcome? = some r) : ∃ r₀ t, c = x.ended r₀ t (some (.ended r)) := by
  cases h with
  | fresh => exact absurd rfl hreturned
  | running p => exact absurd rfl hreturned
  | cancelled t p? hoff =>
    cases p? with
    | none => cases hr
    | some p =>
      cases p with
      | ended r' =>
        cases hr
        exact ⟨_, t, rfl⟩
      | _ => cases hr
  | answered r' t =>
    cases hr
    exact ⟨r, t, rfl⟩

variable [Link L]

/-! ### One poll -/

/-- At its first poll the call is refused, or its job is started. -/
theorem polled_fresh : (s.polled x.number x.fresh).1 =
    if x.token.isCancelled s.cancelled then x.ended (.error .cancelled) s.now none
    else x.running .fresh := by
  simp only [Outbox.polled, fresh, Publication.make, Guarded.poll]
  split <;> rfl

/-- Then the token is looked at, and after it the job. -/
theorem polled_running (h : s.calls[x.number]? = some (x.running p)) :
    (s.polled x.number (x.running p)).1 =
      if x.token.isCancelled s.cancelled then x.ended (.error .cancelled) s.now (some p)
      else match p.result? with
        | some r => x.ended r s.now (some p)
        | none => x.running p := by
  have hjob : s.jobEnd? x.number = p.result?.map .finished := by
    rw [Outbox.jobEnd?, h]
    rfl
  simp only [Outbox.polled, running, Guarded.poll, hjob]
  split
  · rfl
  · cases p.result? <;> rfl

/-- A job that is polled asks for the message of the call. -/
theorem worked_eq {mode : Publication.Mode} {returned : Option (Requested × Nat)}
    (hs : s.settings = x.outbox.settings) (p : Posting) :
    (s.worked ⟨x.topic, x.payload, mode, some p, p.requests x.message, returned⟩).1 =
      ⟨x.topic, x.payload, mode, some (p.poll s.timer s.now x.message s.link).posting,
        (p.poll s.timer s.now x.message s.link).posting.requests x.message, returned⟩ := by
  have hmessage : x.message = PublishRequest.outgoing ⟨x.topic, false, x.payload.bytes⟩
      s.settings.quality := by
    rw [hs]
    rfl
  rw [Posting.requests_poll, hmessage]
  rfl

theorem jobPolled_running (hs : s.settings = x.outbox.settings) (p : Posting) :
    (s.jobPolled (x.running p)).1 = x.running (p.poll s.timer s.now x.message s.link).posting :=
  worked_eq hs p

theorem jobPolled_ended (hs : s.settings = x.outbox.settings) (p : Option Posting) :
    (s.jobPolled (x.ended r t p)).1 =
      x.ended r t (p.map fun p => (p.poll s.timer s.now x.message s.link).posting) := by
  cases p with
  | none => rfl
  | some p => exact worked_eq hs p

/-! ### One event -/

omit [Link L] in
theorem Course.of_isCancelled {s' : Outbox L} (h : x.Course s c)
    (hs : x.token.isCancelled s.cancelled = true → x.token.isCancelled s'.cancelled = true) :
    x.Course s' c := by
  cases h with
  | fresh => exact .fresh
  | running p => exact .running p
  | cancelled t p h => exact .cancelled t p (hs h)
  | answered r t => exact .answered r t

theorem Course.polled (h : x.Course s c) (hc : s.calls[x.number]? = some c) :
    x.Course s (s.polled x.number c).1 := by
  cases h with
  | fresh =>
    rw [polled_fresh]
    split
    · next hoff => exact .cancelled _ _ hoff
    · exact .running _
  | running p =>
    rw [polled_running hc]
    split
    · next hoff => exact .cancelled _ _ hoff
    · cases p with
      | ended r => exact .answered r _
      | _ => exact .running _
  | cancelled t p h => exact .cancelled t p h
  | answered r t => exact .answered r t

theorem Course.jobPolled (h : x.Course s c) (hs : s.settings = x.outbox.settings) :
    x.Course s (s.jobPolled c).1 := by
  cases h with
  | fresh => exact .fresh
  | running p =>
    rw [jobPolled_running hs]
    exact .running _
  | cancelled t p h =>
    rw [jobPolled_ended hs]
    exact .cancelled _ _ h
  | answered r t =>
    rw [jobPolled_ended hs]
    exact .answered r t

/-- **The call stays on its course**, whatever happens. -/
theorem Course.step (h : x.Course s c) (hc : s.calls[x.number]? = some c)
    (hs : s.settings = x.outbox.settings) (e : Event L) :
    x.Course (s.step e) (s.next x.number c e) := by
  have hnext : x.Course s (s.next x.number c e) := by
    cases e with
    | poll i =>
      rw [Outbox.next]
      split
      · exact h.polled hc
      · exact h
    | work i =>
      rw [Outbox.next]
      split
      · exact h.jobPolled hs
      · exact h
    | _ => exact h
  exact hnext.of_isCancelled fun hoff => Outbox.isCancelled_step hoff e

/-- The call is among the calls of an outbox, and it is on its course. -/
structure Holds (x : GuardedCall L) (s : Outbox L) (c : Publication) : Prop where
  stored : s.calls[x.number]? = some c
  settings : s.settings = x.outbox.settings
  orderly : s.Orderly
  course : x.Course s c

omit [Link L] in
theorem Holds.only {d : Publication} (h : x.Holds s c) (hd : s.calls[x.number]? = some d) : d = c :=
  Option.some.inj (hd.symm.trans h.stored)

theorem Holds.step (h : x.Holds s c) (e : Event L) :
    x.Holds (s.step e) (s.next x.number c e) where
  stored := Outbox.getElem?_step h.stored e
  settings := (Outbox.settings_step s e).trans h.settings
  orderly := h.orderly.step e
  course := h.course.step h.stored h.settings e

theorem Holds.exists_after (h : x.Holds s c) (es : List (Event L)) :
    ∃ c, x.Holds (Run.after Outbox.step s es) c := by
  induction es generalizing s c with
  | nil => exact ⟨c, h⟩
  | cons e es ih => exact ih (h.step e)

/-! ### After the call has returned -/

section Ended

variable {p? : Option Posting}

/-- Only the job may still do something. -/
theorem next_ended (hs : s.settings = x.outbox.settings) (e : Event L) :
    s.next x.number (x.ended r t p?) e =
      match e with
      | .work i =>
        if i = x.number then
          x.ended r t (p?.map fun p => (p.poll s.timer s.now x.message s.link).posting)
        else x.ended r t p?
      | _ => x.ended r t p? := by
  cases e with
  | poll i => exact ite_self _
  | work i => rw [Outbox.next, jobPolled_ended hs]
  | _ => rfl

/-- **What a call has returned stays.** -/
theorem Holds.ended_after (h : x.Holds s (x.ended r t p?)) (es : List (Event L)) :
    ∃ p', x.Holds (Run.after Outbox.step s es) (x.ended r t p') := by
  induction es generalizing s p? with
  | nil => exact ⟨p?, h⟩
  | cons e es ih =>
    have hstep := h.step e
    rw [next_ended h.settings] at hstep
    cases e with
    | work i =>
      dsimp only at hstep
      split at hstep <;> exact ih hstep
    | _ => exact ih hstep

/-- A job that has not been started or has ended does nothing more. -/
theorem Holds.settled_after (h : x.Holds s (x.ended r t p?))
    (hp : ∀ p, p? = some p → ∃ r, p = .ended r) (es : List (Event L)) :
    x.Holds (Run.after Outbox.step s es) (x.ended r t p?) := by
  induction es generalizing s with
  | nil => exact h
  | cons e es ih =>
    have hmap : (p?.map fun p => (p.poll s.timer s.now x.message s.link).posting) = p? := by
      cases p? with
      | none => rfl
      | some p =>
        obtain ⟨r, rfl⟩ := hp p rfl
        rfl
    have hstep := h.step e
    rw [next_ended h.settings, hmap] at hstep
    cases e with
    | work i => exact ih (by simpa using hstep)
    | _ => exact ih hstep

end Ended

/-! ### Before the call has returned -/

theorem Holds.pending_after (h : x.Holds s c) (hc : c.returned = none) {es : List (Event L)}
    (hes : .poll x.number ∉ es) :
    ∃ c', x.Holds (Run.after Outbox.step s es) c' ∧ c'.returned = none := by
  induction es generalizing s c with
  | nil => exact ⟨c, h, hc⟩
  | cons e es ih =>
    obtain ⟨he, hes⟩ := List.ne_and_not_mem_of_not_mem_cons hes
    exact ih (h.step e) ((Outbox.returned_next (Ne.symm he)).trans hc) hes

/-- Without a poll no job is started. -/
theorem Holds.fresh_after (h : x.Holds s x.fresh) {es : List (Event L)}
    (hes : .poll x.number ∉ es) : x.Holds (Run.after Outbox.step s es) x.fresh := by
  induction es generalizing s with
  | nil => exact h
  | cons e es ih =>
    obtain ⟨he, hes⟩ := List.ne_and_not_mem_of_not_mem_cons hes
    have hsame : s.next x.number x.fresh e = x.fresh := by
      cases e with
      | poll i => exact if_neg fun hi => he (congrArg Event.poll hi.symm)
      | work i => exact ite_self _
      | _ => rfl
    have hstep := h.step e
    rw [hsame] at hstep
    exact ih hstep hes

/-- A call whose token is cancelled can go on, so no time passes. -/
theorem Holds.clock_stands (h : x.Holds s c) (hc : c.returned = none)
    (hoff : x.token.isCancelled s.cancelled = true) {es : List (Event L)}
    (hes : .poll x.number ∉ es) (hprompt : Run.Along Outbox.step (Outbox.PromptAt x.number) s es) :
    (Run.after Outbox.step s es).now = s.now := by
  induction es generalizing s c with
  | nil => rfl
  | cons e es ih =>
    obtain ⟨he, hes⟩ := List.ne_and_not_mem_of_not_mem_cons hes
    have hnow : (s.step e).now = s.now := by
      refine Outbox.now_step fun n hpass => ?_
      cases h.course with
      | fresh => cases hprompt.1 n _ _ _ hpass h.stored rfl
      | running p =>
        have hready := hprompt.1 n _ _ _ hpass h.stored rfl
        rw [hoff] at hready
        cases hready
      | cancelled t p hoff => cases hc
      | answered r t => cases hc
    have hrest := ih (h.step e) ((Outbox.returned_next (Ne.symm he)).trans hc)
      (Outbox.isCancelled_step hoff e) hes hprompt.2
    exact hrest.trans hnow

/-- Polled with its token cancelled, the call gives up. -/
theorem Holds.cancelled_of_poll (h : x.Holds s c) (hc : c.returned = none)
    (hoff : x.token.isCancelled s.cancelled = true) :
    x.Holds (s.step (.poll x.number)) (x.ended (.error .cancelled) s.now c.posting) := by
  have hstep := h.step (.poll x.number)
  rw [Outbox.next, if_pos rfl] at hstep
  cases h.course with
  | fresh =>
    rw [polled_fresh, if_pos hoff] at hstep
    exact hstep
  | running p =>
    rw [polled_running h.stored, if_pos hoff] at hstep
    exact hstep
  | cancelled t p hoff => cases hc
  | answered r t => cases hc

/-- Polled with its job ended and its token not cancelled, the call returns what the job did. -/
theorem Holds.answered_of_poll (h : x.Holds s c) (hr : c.outcome? = some r)
    (hon : x.token.isCancelled s.cancelled = false) :
    ∃ t, x.Holds (s.step (.poll x.number)) (x.ended r t (some (.ended r))) := by
  have hstep := h.step (.poll x.number)
  rw [Outbox.next, if_pos rfl] at hstep
  cases h.course with
  | fresh => cases hr
  | running p =>
    cases p with
    | ended r' =>
      cases hr
      rw [polled_running h.stored, if_neg (by simp [hon])] at hstep
      exact ⟨s.now, hstep⟩
    | _ => cases hr
  | cancelled t p hoff => cases hon.symm.trans hoff
  | answered r' t =>
    cases hr
    exact ⟨t, hstep⟩

/-- Polled with its token not cancelled, the call has a job. -/
theorem Holds.started_of_poll (h : x.Holds s c) (hon : x.token.isCancelled s.cancelled = false) :
    (s.next x.number c (.poll x.number)).posting.isSome = true := by
  cases h.course with
  | fresh =>
    rw [Outbox.next, if_pos rfl, polled_fresh, if_neg (by simp [hon])]
    rfl
  | running p => exact Outbox.isSome_posting_next rfl _
  | cancelled t p hoff => cases hon.symm.trans hoff
  | answered r t => exact Outbox.isSome_posting_next rfl _

/-- **A call whose token is cancelled gives up at its next poll**, and no time passes until then if
time waits for what can go on. -/
theorem Holds.abandoned_after (h : x.Holds s c) (hc : c.returned = none)
    (hoff : x.token.isCancelled s.cancelled = true) {es : List (Event L)}
    (hes : .poll x.number ∈ es) :
    ∃ t p?, x.Holds (Run.after Outbox.step s es) (x.ended (.error .cancelled) t p?) ∧
      (Run.Along Outbox.step (Outbox.PromptAt x.number) s es → t = s.now) := by
  obtain ⟨pre, post, rfl, hpre⟩ := List.eq_append_cons_of_mem hes
  obtain ⟨d, hd, hpending⟩ := h.pending_after hc hpre
  have hgives := hd.cancelled_of_poll hpending (Outbox.isCancelled_after hoff pre)
  obtain ⟨p?, hstays⟩ := hgives.ended_after post
  rw [Run.after_append]
  refine ⟨_, p?, hstays, fun hprompt => ?_⟩
  exact h.clock_stands hc hoff hpre ((Run.along_append pre _).1 hprompt).1

/-- A call whose token is cancelled before its first poll causes no request. -/
theorem Holds.refused_after (h : x.Holds s x.fresh)
    (hoff : x.token.isCancelled s.cancelled = true) (es : List (Event L)) :
    x.Holds (Run.after Outbox.step s es) x.fresh ∧ .poll x.number ∉ es ∨
      ∃ t, x.Holds (Run.after Outbox.step s es) (x.ended (.error .cancelled) t none) := by
  by_cases hes : .poll x.number ∈ es
  · obtain ⟨pre, post, rfl, hpre⟩ := List.eq_append_cons_of_mem hes
    have hgives := (h.fresh_after hpre).cancelled_of_poll rfl (Outbox.isCancelled_after hoff pre)
    rw [Run.after_append]
    exact Or.inr ⟨_, hgives.settled_after (fun p hp => nomatch hp) post⟩
  · exact Or.inl ⟨h.fresh_after hes, hes⟩

/-! ### The same call without a token -/

/-- A plain call that has done what the job of a call has, and returned what the job has come to. -/
inductive Twin (c : Publication) : Publication → Prop where
  | plain (returned : Option (Requested × Nat)) (h : returned.map Prod.fst = c.outcome?) :
      Twin c { c with mode := .plain, posting := some (c.posting.getD .fresh), returned := returned }

/-- What happens to a plain call in place of what happens to the call: it is polled whenever the job
would be polled. -/
def plainEvents (x : GuardedCall L) (s : Outbox L) : Event L → List (Event L)
  | .poll i => if i = x.number then [] else [.poll i]
  | .work i =>
    if i = x.number then
      if (s.calls[i]?.bind Publication.posting).isSome then [.poll i] else []
    else [.work i]
  | e => [e]

variable {y : Outbox L}

theorem map_fst_or {returned : Option (Requested × Nat)} {result : Option Requested}
    (h : ∀ x, returned = some x → result = some x.1) (now : Nat) :
    (returned.or (result.map (·, now))).map Prod.fst = result := by
  cases returned with
  | some x => exact (h x rfl).symm
  | none => cases result <;> rfl

/-- The work of a plain call is the work of a job. -/
theorem Twin.works {R : Publication → Publication → Prop} {d : Publication} {i k : Nat}
    {token : Token} {g : Guarded} (h : Twin c d) (ha : Outbox.Alike k R s y)
    (hmode : c.mode = .guarded token g) (hp : c.posting = some p) :
    (y.polled i d).2 = (s.jobPolled c).2 ∧ Twin (s.jobPolled c).1 (y.polled i d).1 := by
  obtain ⟨topic, payload, mode, posting, sent, _⟩ := c
  obtain rfl : mode = .guarded token g := hmode
  obtain rfl : posting = some p := hp
  cases h with
  | plain returned hreturned =>
    rw [Outbox.polled]
    dsimp only
    rw [ha.worked, ha.now]
    refine ⟨rfl, .plain _ (map_fst_or (fun x hx => ?_) s.now)⟩
    obtain rfl : returned = some x := hx
    exact Posting.result?_poll hreturned.symm _ _ _ _

/-- A poll of the call leaves its work alone, but for a job that is started. -/
theorem Twin.polls {d : Publication} (h : Twin c d) (hc : x.Course s c)
    (hstored : s.calls[x.number]? = some c) :
    (s.polled x.number c).2 = s.link ∧ Twin (s.polled x.number c).1 d := by
  cases h with
  | plain returned hreturned =>
    cases hc with
    | fresh =>
      refine ⟨rfl, ?_⟩
      rw [polled_fresh]
      split <;> exact .plain returned hreturned
    | running p =>
      refine ⟨rfl, ?_⟩
      rw [polled_running hstored]
      split
      · exact .plain returned hreturned
      · cases p with
        | _ => exact .plain returned hreturned
    | cancelled t p hoff => exact ⟨rfl, .plain returned hreturned⟩
    | answered r t => exact ⟨rfl, .plain returned hreturned⟩

/-- **One event**, and what happens to the plain call in its place. -/
theorem Holds.alike_step (h : x.Holds s c) (ha : Outbox.Alike x.number Twin s y) (e : Event L) :
    Outbox.Alike x.number Twin (s.step e) (Run.after Outbox.step y (x.plainEvents s e)) := by
  cases e with
  | poll i =>
    rw [plainEvents]
    split
    · next hi =>
      subst hi
      refine ha.turn_left fun c' d hc' _ htwin => ?_
      obtain rfl := h.only hc'
      exact htwin.polls h.course h.stored
    · next hi =>
      exact ha.step_other h.orderly (fun heq => hi (Event.poll.inj heq)) (by rintro ⟨⟩)
  | work i =>
    rw [plainEvents]
    split
    · next hi =>
      subst hi
      obtain ⟨g, hmode⟩ := h.course.guarded
      rw [h.stored, Option.bind_some]
      cases hp : c.posting with
      | none =>
        refine ha.turn_left fun c' d hc' _ htwin => ?_
        obtain rfl := h.only hc'
        have hidle : s.jobPolled c' = (c', s.link) := by
          rw [Outbox.jobPolled, hmode, Outbox.worked, hp]
        rw [hidle]
        exact ⟨rfl, htwin⟩
      | some p =>
        refine ha.turn_own fun c' d hc' _ htwin => ?_
        obtain rfl := h.only hc'
        exact htwin.works ha hmode hp
    · next hi =>
      exact ha.step_other h.orderly (by rintro ⟨⟩) (fun heq => hi (Event.work.inj heq))
  | _ => exact ha.step_other h.orderly (by rintro ⟨⟩) (by rintro ⟨⟩)

theorem Holds.alike_after (h : x.Holds s c) (ha : Outbox.Alike x.number Twin s y)
    (es : List (Event L)) : Outbox.Alike x.number Twin (Run.after Outbox.step s es)
      (Run.after Outbox.step y (Run.gather Outbox.step x.plainEvents s es)) := by
  induction es generalizing s c y with
  | nil => exact ha
  | cons e es ih =>
    rw [Run.gather, Run.after_append]
    exact ih (h.step e) (h.alike_step ha e)

/-! ### A job that nobody waits for -/

/-- What the job of a call that has returned came to makes no difference to anybody. -/
theorem Holds.unheard_after {u : Outbox L} {r' r'' : Requested}
    (h : x.Holds s (x.ended r t (some (.ended r')))) (hu : u.Orderly)
    (ha : Outbox.Alike x.number (fun c d => c = d.withOutcome r'') u s) (es : List (Event L)) :
    Outbox.Alike x.number (fun c d => c = d.withOutcome r'') (Run.after Outbox.step u es)
      (Run.after Outbox.step s es) := by
  induction es generalizing s u with
  | nil => exact ha
  | cons e es ih =>
    have hstep : x.Holds (s.step e) (x.ended r t (some (.ended r'))) :=
      h.settled_after (fun p hp => ⟨r', (Option.some.inj hp).symm⟩) [e]
    refine ih hstep (hu.step e) ?_
    by_cases hpoll : e = .poll x.number
    · subst hpoll
      refine ha.turn_own fun c d _ hd hc => ?_
      obtain rfl := h.only hd
      subst hc
      exact ⟨ha.link, rfl⟩
    · by_cases hwork : e = .work x.number
      · subst hwork
        refine ha.turn_own fun c d _ hd hc => ?_
        obtain rfl := h.only hd
        subst hc
        exact ⟨ha.link, rfl⟩
      · exact ha.step_other hu hpoll hwork

/-! ### Every run -/

/-- The outbox after the call has been made and some things have happened. -/
def after (x : GuardedCall L) (es : List (Event L)) : Outbox L :=
  Run.after Outbox.step (x.outbox.step (.call x.topic x.payload (some x.token))) es

/-- The outbox after a plain call has been made instead and the same things have happened. -/
def afterPlain (x : GuardedCall L) (es : List (Event L)) : Outbox L :=
  Run.after Outbox.step (x.outbox.step (.call x.topic x.payload none))
    (Run.gather Outbox.step x.plainEvents
      (x.outbox.step (.call x.topic x.payload (some x.token))) es)

/-- The call after some things have happened. -/
def call? (x : GuardedCall L) (es : List (Event L)) : Option Publication :=
  (x.after es).calls[x.number]?

/-- Whether the token has been cancelled then. -/
def isCancelled (x : GuardedCall L) (es : List (Event L)) : Bool :=
  x.token.isCancelled (x.after es).cancelled

theorem holds_begun (x : GuardedCall L) : x.Holds (x.after []) x.fresh where
  stored := List.getElem?_concat_length
  settings := rfl
  orderly := x.orderly.step (.call x.topic x.payload (some x.token))
  course := .fresh

theorem alike_begun (x : GuardedCall L) :
    Outbox.Alike x.number Twin (x.after []) (x.afterPlain []) where
  settings := rfl
  timer := rfl
  link := rfl
  now := rfl
  cancelled := rfl
  length := by
    show (_ ++ [_]).length = (_ ++ [_]).length
    rw [List.length_append, List.length_append]
    rfl
  others i hi := by
    show (x.outbox.calls ++ [_])[i]? = (x.outbox.calls ++ [_])[i]?
    rw [List.getElem?_append, List.getElem?_append]
    split
    · rfl
    · next hlt =>
      rw [List.getElem?_eq_none_iff.2, List.getElem?_eq_none_iff.2]
      all_goals
        show 1 ≤ i - x.outbox.calls.length
        have hne : i ≠ x.outbox.calls.length := hi
        omega
  own := ⟨_, _, List.getElem?_concat_length, List.getElem?_concat_length, .plain none rfl⟩

/-- What is seen of a call with a token, whenever the token is cancelled, however the call and its
job are polled, and whatever becomes of the link. -/
structure Agrees (x : GuardedCall L) (es : List (Event L)) (c : Publication) : Prop where
  /-- One message is requested, when the job ends, and it is that of the call. -/
  single : c.sent = if c.outcome?.isSome then [x.message] else []
  /-- Nothing is returned but the result of the job, or that the token is cancelled. -/
  returns : ∀ r t, c.returned = some (r, t) →
    c.outcome? = some r ∨ r = .error .cancelled ∧ x.isCancelled es = true
  /-- A call whose token is cancelled before its first poll gives up, and nothing is requested. -/
  refused : ∀ pre post, es = pre ++ post → .poll x.number ∉ pre → x.isCancelled pre = true →
    c.sent = [] ∧ (.poll x.number ∈ post → ∃ t, c.returned = some (.error .cancelled, t))
  /-- A call that is polled before its token is cancelled has a job. -/
  started : ∀ pre post, es = pre ++ .poll x.number :: post → x.isCancelled pre = false →
    c.posting.isSome = true
  /-- A call that goes on before its token is cancelled, when the job has ended, returns what a plain
  call returns, and the same has been requested. -/
  answered : ∀ pre post d r, es = pre ++ .poll x.number :: post → x.isCancelled pre = false →
    x.call? pre = some d → d.outcome? = some r →
      (∃ t, c.returned = some (r, t)) ∧ c.sent = [x.message] ∧
        ∃ d' t', (x.afterPlain es).calls[x.number]? = some d' ∧ d'.mode = .plain ∧
          d'.returned = some (r, t') ∧ d'.sent = [x.message]
  /-- A call that has not returned when its token is cancelled gives up, at that very time if time
  waits for what can go on. -/
  abandoned : ∀ pre post d, es = pre ++ post → x.isCancelled pre = true → x.call? pre = some d →
    d.returned = none → .poll x.number ∈ post →
      ∃ t, c.returned = some (.error .cancelled, t) ∧
        (Run.Along Outbox.step (Outbox.PromptAt x.number) (x.after pre) post →
          t = (x.after pre).now)
  /-- Until it gives up no time passes. -/
  stands : ∀ pre post d, es = pre ++ post → x.isCancelled pre = true → x.call? pre = some d →
    d.returned = none → .poll x.number ∉ post →
      Run.Along Outbox.step (Outbox.PromptAt x.number) (x.after pre) post →
        (x.after es).now = (x.after pre).now
  /-- Nobody else can tell the call from a plain one. -/
  plain : Outbox.Alike x.number Twin (x.after es) (x.afterPlain es)
  /-- Once the call has returned, nobody can tell what its job has come to. -/
  unheard : ∀ pre post d r r', es = pre ++ post → x.call? pre = some d → d.returned ≠ none →
    d.outcome? = some r →
      Outbox.Alike x.number (fun c d => c = d.withOutcome r')
        (Run.after Outbox.step ((x.after pre).withOutcome x.number r') post) (x.after es)

variable {es pre post : List (Event L)} {d : Publication}

theorem after_append (pre post : List (Event L)) :
    x.after (pre ++ post) = Run.after Outbox.step (x.after pre) post :=
  Run.after_append pre post

/-- The call is where it is seen to be. -/
theorem holds_of_call? (h : x.call? es = some c) : x.Holds (x.after es) c := by
  obtain ⟨c', hc'⟩ := x.holds_begun.exists_after es
  obtain rfl := hc'.only h
  exact hc'

theorem alike_plain (x : GuardedCall L) (es : List (Event L)) :
    Outbox.Alike x.number Twin (x.after es) (x.afterPlain es) :=
  x.holds_begun.alike_after x.alike_begun es

omit [Link L] in
/-- A plain call has returned what the job of the call has come to. -/
theorem Twin.returned_of_ended (h : Twin (x.ended r t (some (.ended r))) d) :
    d.mode = .plain ∧ d.sent = [x.message] ∧ ∃ t', d.returned = some (r, t') := by
  cases h with
  | plain returned hreturned =>
    obtain ⟨⟨r', t'⟩, hsome, rfl⟩ := Option.map_eq_some_iff.1 hreturned
    exact ⟨rfl, rfl, t', hsome⟩

/-- A call that goes on when its job has ended returns what a plain call returns. -/
theorem answered_plainly (hc : x.Holds (x.after (pre ++ .poll x.number :: post)) c)
    (hon : x.isCancelled pre = false) (hd : x.call? pre = some d) (hr : d.outcome? = some r) :
    (∃ t, c.returned = some (r, t)) ∧ c.sent = [x.message] ∧
      ∃ d' t', (x.afterPlain (pre ++ .poll x.number :: post)).calls[x.number]? = some d' ∧
        d'.mode = .plain ∧ d'.returned = some (r, t') ∧ d'.sent = [x.message] := by
  obtain ⟨t, hreturns⟩ := (holds_of_call? hd).answered_of_poll hr hon
  have hstays := hreturns.settled_after (fun p hp => ⟨r, (Option.some.inj hp).symm⟩) post
  rw [after_append] at hc
  obtain rfl := hstays.only hc.stored
  have halike := x.alike_plain (pre ++ .poll x.number :: post)
  obtain ⟨c', d', hc', hd', htwin⟩ := halike.own
  rw [after_append] at hc'
  obtain rfl := hstays.only hc'
  obtain ⟨hmode, hsent, t', hreturned⟩ := htwin.returned_of_ended
  exact ⟨⟨t, rfl⟩, rfl, d', t', hd', hmode, hreturned, hsent⟩

theorem unheard (hd : x.call? pre = some d) (hreturned : d.returned ≠ none)
    (hr : d.outcome? = some r) (r' : Requested) (post : List (Event L)) :
    Outbox.Alike x.number (fun c d => c = d.withOutcome r')
      (Run.after Outbox.step ((x.after pre).withOutcome x.number r') post)
      (x.after (pre ++ post)) := by
  have hholds := holds_of_call? hd
  have horderly : ((x.after pre).withOutcome x.number r').Orderly :=
    hholds.orderly.turn fun c token n hc hmode => hholds.orderly x.number n c token hc hmode
  have halike : Outbox.Alike x.number (fun c d => c = d.withOutcome r')
      ((x.after pre).withOutcome x.number r') (x.after pre) :=
    (Outbox.Alike.refl hholds.stored).turn_left fun c d _ _ heq => ⟨rfl, by rw [heq]⟩
  obtain ⟨r₀, t, rfl⟩ := hholds.course.eq_ended hreturned hr
  rw [after_append]
  exact hholds.unheard_after horderly halike post

/-- **A call with a token agrees with a plain call.** -/
theorem agrees_with_plain (x : GuardedCall L) (es : List (Event L)) :
    ∃ c, x.call? es = some c ∧ x.Agrees es c := by
  obtain ⟨c, hc⟩ : ∃ c, x.Holds (x.after es) c := x.holds_begun.exists_after es
  refine ⟨c, hc.stored, hc.course.sent_eq, fun r t => hc.course.returns, ?_, ?_, ?_, ?_, ?_,
    x.alike_plain es, ?_⟩
  · rintro pre post rfl hpre hoff
    have hfresh : x.Holds (x.after pre) x.fresh := x.holds_begun.fresh_after hpre
    rcases hfresh.refused_after hoff post with ⟨hwaits, hpost⟩ | ⟨t, hgives⟩
    · rw [← after_append] at hwaits
      obtain rfl := hwaits.only hc.stored
      exact ⟨rfl, fun hmem => absurd hmem hpost⟩
    · rw [← after_append] at hgives
      obtain rfl := hgives.only hc.stored
      exact ⟨rfl, fun _ => ⟨t, rfl⟩⟩
  · rintro pre post rfl hon
    obtain ⟨d, hd⟩ : ∃ d, x.Holds (x.after pre) d := x.holds_begun.exists_after pre
    have hstored := hc.stored
    rw [after_append] at hstored
    exact Outbox.isSome_posting_after (hd.step _).stored (hd.started_of_poll hon) hstored
  · rintro pre post d r rfl hon hd hr
    exact answered_plainly hc hon hd hr
  · rintro pre post d rfl hoff hd hpending hpost
    obtain ⟨t, p?, hgives, hprompt⟩ := (holds_of_call? hd).abandoned_after hpending hoff hpost
    rw [← after_append] at hgives
    obtain rfl := hgives.only hc.stored
    exact ⟨t, rfl, hprompt⟩
  · rintro pre post d rfl hoff hd hpending hpost hprompt
    rw [after_append]
    exact (holds_of_call? hd).clock_stands hpending hoff hpost hprompt
  · rintro pre post d r r' rfl hd hreturned hr
    exact unheard hd hreturned hr r' post

/-- A call that is made after some things have happened, the calls before it included. -/
def madeAfter (settings : Settings) (timer : Timer) (l : L) (es : List (Event L)) (topic : String)
    (payload : Payload) (token : Token) : GuardedCall L where
  outbox := Run.after Outbox.step (Outbox.start settings timer l) es
  orderly := Outbox.orderly_after (Outbox.orderly_start settings timer l) es
  topic := topic
  payload := payload
  token := token

/-- A call that gives up while the link takes its time: the message is requested nevertheless. -/
example :
    let link := { RecordingLink.empty with delay := some (Span.ofSeconds 1) }
    let x := madeAfter Settings.standard .precise link [] "device/lock-1/cmd" (.octets [0x7B, 0x7D])
      (Token.root 0)
    (x.call? [.poll 0, .work 0, .pass 400, .cancel (Token.root 0), .poll 0, .pass 600, .work 0]).map
        (fun c => (c.returned, c.sent)) =
      some (some (.error .cancelled, 400), [x.message]) := by
  decide

end GuardedCall

end LockFleet
