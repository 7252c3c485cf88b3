import LockFleet.Payload
import LockFleet.Proofs.Program
import LockFleet.Proofs.Run
import LockFleet.Rehearsal.Schedule

/-!
# Calls that publish

Any number of callers publish over one link.  A plain call does the work itself; a call with a token
leaves it to a job and waits.  Callers and jobs are polled in any order or not at all, and in between
time passes, tokens are cancelled and others use the link as they like, so that a request may take
any time and come to any end.

* `Posting`, `Posting.poll` — the work of publishing a message, from poll to poll;
* `Posting.does_poll` — it is the activity that publishes;
* `Publication`, `Outbox`, `Outbox.step` — the calls, their link, and what can happen;
* `Outbox.next`, `Outbox.getElem?_step` — what can happen to one call;
* `Outbox.Orderly` — every call waits for its own job;
* `Outbox.Alike`, `Outbox.Alike.step_other` — outboxes that differ in one call.
-/

namespace LockFleet

/-! ### The work of publishing -/

/-- Where the work of publishing a message stands. -/
inductive Posting where
  | fresh
  /-- The message is to be requested once a time has come. -/
  | delayed (due : Nat)
  | ended (r : Requested)
  deriving Repr

namespace Posting

/-- What a poll comes to. -/
structure Turn (L : Type) where
  posting : Posting
  link : L
  /-- What it has requested of the link. -/
  requests : List Outgoing

variable {L : Type} [Link L]

/-- Requests the message. -/
def request (m : Outgoing) (l : L) : Turn L :=
  let (r, l) := Link.publish l m
  ⟨ended r, l, [m]⟩

/-- Requests the message if the time has come. -/
def await (now due : Nat) (m : Outgoing) (l : L) : Turn L :=
  if due ≤ now then request m l else ⟨delayed due, l, []⟩

def poll (timer : Timer) (now : Nat) (m : Outgoing) (l : L) : Posting → Turn L
  | fresh =>
    match Link.publishDelay l with
    | none => request m l
    | some s => await now (timer.due now s) m l
  | delayed due => await now due m l
  | ended r => ⟨ended r, l, []⟩

/-- The result of work that has ended. -/
def result? : Posting → Option Requested
  | ended r => some r
  | _ => none

/-- Work that has ended is not done again. -/
theorem result?_poll {p : Posting} {r : Requested} (h : p.result? = some r) (timer : Timer)
    (now : Nat) (m : Outgoing) (l : L) : (p.poll timer now m l).posting.result? = some r := by
  cases p with
  | ended r' => exact h
  | _ => cases h

/-- What has been requested when work has come so far. -/
def requests (m : Outgoing) : Posting → List Outgoing
  | ended _ => [m]
  | _ => []

/-- **The message is requested once**, when the work ends. -/
theorem requests_poll (timer : Timer) (now : Nat) (m : Outgoing) (l : L) (p : Posting) :
    (p.poll timer now m l).posting.requests m =
      p.requests m ++ (p.poll timer now m l).requests := by
  have hawait : ∀ due, (await now due m l).posting.requests m = (await now due m l).requests := by
    intro due
    rw [await]
    split <;> rfl
  cases p with
  | fresh =>
    rw [poll]
    cases Link.publishDelay l with
    | none => rfl
    | some s => exact (hawait _).trans (List.nil_append _).symm
  | delayed due => exact hawait due
  | ended r => rfl

end Posting

/-! ### The activity that publishes -/

namespace Posting

open Rehearsal

/-- What the activity does once it need not wait any more. -/
def asking (q : PublishRequest) : Activity Outcome :=
  .call (.publish q) fun r => .done (.published r)

/-- The work stands where an activity stands. -/
inductive Stands (q : PublishRequest) : Posting → Paused Outcome → Prop where
  | fresh : Stands q .fresh (Paused.start (Activity.publishJob q))
  | delayed (s : Span) (alarm : Alarm) :
      Stands q (.delayed alarm.due) ⟨.call (.wait s) fun _ => asking q, some alarm⟩

/-- The work has come to what an activity has come to. -/
inductive Matches (q : PublishRequest) : Posting → World.Progress Outcome → Prop where
  | finished (r : Requested) : Matches q (.ended r) (.finished (.published r))
  | paused {p : Posting} {a : Paused Outcome} (h : Stands q p a) : Matches q p (.paused a)

/-- An activity has done what a turn of the work does. -/
structure Does (q : PublishRequest) (w : World) (t : Turn RecordingLink)
    (result : World.Progress Outcome × World) : Prop where
  progress : Matches q t.posting result.1
  world : result.2 = { w with link := t.link }

variable {w : World} {task : Nat} {q : PublishRequest} {p : Posting} {a : Paused Outcome}

/-- The message that an activity requests in a world. -/
def messageIn (w : World) (q : PublishRequest) : Outgoing :=
  q.outgoing w.broker.settings.quality

theorem does_asking (hw : w.simulation = none) (alarm : Option Alarm) :
    Does q w (request (messageIn w q) w.link) (World.advance task (asking q) alarm w) := by
  have hpublish : w.publish q = .answered (Link.publish w.link (messageIn w q)).1
      { w with link := (Link.publish w.link (messageIn w q)).2 } := by
    rw [World.publish, messageIn]
    generalize Link.publish w.link (q.outgoing w.broker.settings.quality) = answer
    obtain ⟨r, l⟩ := answer
    cases r with
    | error e => rfl
    | ok u => simp only [World.answerCommand, hw]
  rw [asking, World.advance, World.perform, hpublish]
  exact ⟨.finished _, rfl⟩

theorem does_awaiting (hw : w.simulation = none) (s : Span) (alarm : Option Alarm) :
    Does q w (await w.now (alarm.getD (w.view.alarm Rehearsal.timer s)).due (messageIn w q) w.link)
      (World.advance task (.call (.wait s) fun _ => asking q) alarm w) := by
  rw [await]
  split
  · next h =>
    have hperform : w.perform task alarm (.wait s) = .answered () w := if_pos (decide_eq_true h)
    rw [World.advance, hperform]
    exact does_asking hw none
  · next h =>
    have hperform : w.perform task alarm (.wait s) =
        .waiting (some (alarm.getD (w.view.alarm Rehearsal.timer s))) w :=
      if_neg fun hdue => h (of_decide_eq_true hdue)
    rw [World.advance, hperform]
    exact ⟨.paused (.delayed s _), rfl⟩

/-- **A poll of the work is a poll of the activity**, while no devices are simulated. -/
theorem does_poll (hw : w.simulation = none) (h : Stands q p a) :
    Does q w (p.poll Rehearsal.timer w.now (messageIn w q) w.link)
      (World.advance task a.program a.alarm w) := by
  cases h with
  | delayed s alarm => exact does_awaiting hw s (some alarm)
  | fresh =>
    have hprogram : Activity.publishJob q =
        .call .linkDelay fun delay => (Activity.waitFor delay).bind fun _ => asking q :=
      congrArg (Program.call _) (funext fun delay =>
        (Activity.waitFor delay).bind_assoc (fun _ => Program.ask (Effect.publish q)) _)
    rw [poll, Paused.start, hprogram]
    change Does q w _ (World.advance task
      ((Activity.waitFor (Link.publishDelay w.link)).bind fun _ => asking q) none w)
    cases Link.publishDelay w.link with
    | none => exact does_asking hw none
    | some s => exact does_awaiting hw s none

end Posting

/-! ### Calls -/

/-- The result of a caller that has ended. -/
def Guarded.result? : Guarded → Option Requested
  | ended r => some r
  | _ => none

/-- A caller waits for the job that it has started, or for the one that it starts now. -/
theorem Guarded.of_poll_running {topic : String} {cancelled : Bool} {jobs : Nat → Option JobEnd}
    {next n : Nat} {g : Guarded} (h : (g.poll topic cancelled jobs next).1 = .running n) :
    n = next ∨ g = .running n := by
  cases g with
  | fresh =>
    cases cancelled with
    | true => cases h
    | false =>
      cases h
      exact Or.inl rfl
  | running job =>
    cases cancelled with
    | true => cases h
    | false =>
      rw [poll, if_neg Bool.false_ne_true] at h
      cases hjob : jobs job with
      | some e =>
        rw [hjob] at h
        cases h
      | none =>
        rw [hjob] at h
        exact Or.inr h
  | ended r => cases h

/-- A caller looks at no job but the one that it waits for. -/
theorem Guarded.poll_congr {topic : String} {cancelled : Bool} {jobs jobs' : Nat → Option JobEnd}
    {next : Nat} {g : Guarded} (h : ∀ n, g = .running n → jobs n = jobs' n) :
    g.poll topic cancelled jobs next = g.poll topic cancelled jobs' next := by
  cases g with
  | running job => rw [poll, poll, h job rfl]
  | _ => rfl

/-- The ways to publish. -/
inductive Publication.Mode where
  /-- The call does the work itself. -/
  | plain
  /-- The call waits for its job or for the cancellation of a token. -/
  | guarded (token : Token) (g : Guarded)

/-- A call that publishes. -/
structure Publication where
  topic : String
  payload : Payload
  mode : Publication.Mode
  /-- The work of the call or of its job.  A job that has not been started has none. -/
  posting : Option Posting
  /-- What has been requested of the link for the call. -/
  sent : List Outgoing
  /-- What the call has returned, and when. -/
  returned : Option (Requested × Nat)

/-- The calls over a link. -/
structure Outbox (L : Type) where
  settings : Settings
  /-- What measures the delays of the link. -/
  timer : Timer
  link : L
  calls : List Publication
  now : Nat
  cancelled : List Nat

namespace Publication

/-- A call that has just been made. -/
def make (topic : String) (payload : Payload) : Option Token → Publication
  | none => ⟨topic, payload, .plain, some .fresh, [], none⟩
  | some token => ⟨topic, payload, .guarded token .fresh, none, [], none⟩

def request (c : Publication) : PublishRequest := ⟨c.topic, false, c.payload.bytes⟩

/-- The result of the work. -/
def outcome? (c : Publication) : Option Requested := c.posting.bind Posting.result?

/-- The call with another result of its work. -/
def withOutcome (r : Requested) (c : Publication) : Publication :=
  { c with posting := some (.ended r) }

/-- Notes what a call returns; a call that has returned stays as it is. -/
def noted (now : Nat) (r : Option Requested) (c : Publication) : Publication :=
  { c with returned := c.returned.or (r.map (·, now)) }

end Publication

namespace Outbox

/-- What can happen. -/
inductive Event (L : Type) where
  /-- A call is made, with a token or plainly. -/
  | call (topic : String) (payload : Payload) (token : Option Token)
  /-- A call is polled. -/
  | poll (i : Nat)
  /-- The job of a call is polled. -/
  | work (i : Nat)
  | cancel (t : Token)
  /-- Milliseconds pass. -/
  | pass (n : Nat)
  /-- Others use the link. -/
  | others (l : L)

variable {L : Type} [Link L]

/-- The ends of jobs.  A job has the number of its call. -/
def jobEnd? (s : Outbox L) (n : Nat) : Option JobEnd :=
  s.calls[n]?.bind fun c => c.outcome?.map .finished

/-- The work of a call gets as far as it can. -/
def worked (s : Outbox L) (c : Publication) : Publication × L :=
  match c.posting with
  | none => (c, s.link)
  | some p =>
    let turn := p.poll s.timer s.now (c.request.outgoing s.settings.quality) s.link
    ({ c with posting := some turn.posting, sent := c.sent ++ turn.requests }, turn.link)

/-- A call is polled. -/
def polled (s : Outbox L) (i : Nat) (c : Publication) : Publication × L :=
  match c.mode with
  | .plain =>
    let (c, l) := s.worked c
    (c.noted s.now c.outcome?, l)
  | .guarded token g =>
    let (g, start) := g.poll c.topic (token.isCancelled s.cancelled) s.jobEnd? i
    let posting := if start then some .fresh else c.posting
    ({ c with mode := .guarded token g, posting }.noted s.now g.result?, s.link)

/-- The job of a call is polled.  A plain call has none. -/
def jobPolled (s : Outbox L) (c : Publication) : Publication × L :=
  match c.mode with
  | .plain => (c, s.link)
  | .guarded _ _ => s.worked c

/-- One call takes a turn. -/
def turn (s : Outbox L) (i : Nat) (f : Publication → Publication × L) : Outbox L :=
  match s.calls[i]? with
  | none => s
  | some c => { s with calls := s.calls.set i (f c).1, link := (f c).2 }

def step (s : Outbox L) : Event L → Outbox L
  | .call topic payload token => { s with calls := s.calls ++ [.make topic payload token] }
  | .poll i => s.turn i (s.polled i)
  | .work i => s.turn i s.jobPolled
  | .cancel t => { s with cancelled := t.cancel s.cancelled }
  | .pass n => { s with now := s.now + n }
  | .others l => { s with link := l }

/-- Time passes only while a call with a token cannot go on. -/
def PromptAt (k : Nat) (s : Outbox L) (e : Event L) : Prop :=
  ∀ (n : Nat) (c : Publication) (token : Token) (g : Guarded), e = .pass (n + 1) →
    s.calls[k]? = some c → c.mode = .guarded token g →
      g.isReady (token.isCancelled s.cancelled) s.jobEnd? = false

/-- The outbox with another result of the work of a call. -/
def withOutcome (s : Outbox L) (k : Nat) (r : Requested) : Outbox L :=
  s.turn k fun c => (c.withOutcome r, s.link)

/-! ### One call -/

/-- A call after an event. -/
def next (s : Outbox L) (k : Nat) (c : Publication) : Event L → Publication
  | .poll i => if i = k then (s.polled k c).1 else c
  | .work i => if i = k then (s.jobPolled c).1 else c
  | _ => c

variable {s : Outbox L} {k : Nat} {c : Publication} {e : Event L}

omit [Link L] in
theorem getElem?_turn_ne {i : Nat} (hi : i ≠ k) (f : Publication → Publication × L) :
    (s.turn i f).calls[k]? = s.calls[k]? := by
  rw [turn]
  cases s.calls[i]? with
  | none => rfl
  | some d => exact List.getElem?_set_ne hi

omit [Link L] in
theorem getElem?_turn (h : s.calls[k]? = some c) (i : Nat) (f : Publication → Publication × L) :
    (s.turn i f).calls[k]? = some (if i = k then (f c).1 else c) := by
  by_cases hi : i = k
  · subst hi
    rw [turn, h, if_pos rfl]
    exact List.getElem?_set_self (List.getElem?_eq_some_iff.1 h).1
  · rw [if_neg hi, getElem?_turn_ne hi, h]

/-- **What an event does to a call.** -/
theorem getElem?_step (h : s.calls[k]? = some c) (e : Event L) :
    (s.step e).calls[k]? = some (s.next k c e) := by
  cases e with
  | call topic payload token => exact List.getElem?_append_left (List.getElem?_eq_some_iff.1 h).1 ▸ h
  | poll i =>
    rw [step, getElem?_turn h, next]
    split
    · next hi => rw [hi]
    · rfl
  | work i => exact getElem?_turn h i _
  | _ => exact h

theorem returned_jobPolled (s : Outbox L) (c : Publication) :
    (s.jobPolled c).1.returned = c.returned := by
  rw [jobPolled, worked]
  cases c.mode with
  | plain => rfl
  | guarded token g => cases c.posting <;> rfl

/-- Only a poll lets a call return. -/
theorem returned_next (he : e ≠ .poll k) : (s.next k c e).returned = c.returned := by
  cases e with
  | poll i => rw [next, if_neg fun hi => he (congrArg Event.poll hi)]
  | work i =>
    rw [next]
    split
    · exact s.returned_jobPolled c
    · rfl
  | _ => rfl

theorem isSome_posting_worked (h : c.posting.isSome = true) :
    (s.worked c).1.posting.isSome = true := by
  rw [worked]
  cases hp : c.posting with
  | none =>
    rw [hp] at h
    cases h
  | some p => rfl

theorem isSome_posting_polled (h : c.posting.isSome = true) :
    (s.polled k c).1.posting.isSome = true := by
  rw [polled]
  split
  · exact isSome_posting_worked h
  · dsimp only [Publication.noted]
    split
    · rfl
    · exact h

theorem isSome_posting_next (h : c.posting.isSome = true) (e : Event L) :
    (s.next k c e).posting.isSome = true := by
  cases e with
  | poll i =>
    rw [next]
    split
    · exact isSome_posting_polled h
    · exact h
  | work i =>
    rw [next, jobPolled]
    split
    · split
      · exact h
      · exact isSome_posting_worked h
    · exact h
  | _ => exact h

/-- **Work that has been started is never forgotten.** -/
theorem isSome_posting_after (hc : s.calls[k]? = some c) (h : c.posting.isSome = true)
    {es : List (Event L)} {d : Publication} (hd : (Run.after step s es).calls[k]? = some d) :
    d.posting.isSome = true := by
  induction es generalizing s c with
  | nil =>
    obtain rfl := Option.some.inj (hc.symm.trans hd)
    exact h
  | cons e es ih => exact ih (getElem?_step hc e) (isSome_posting_next h e) hd

theorem settings_step (s : Outbox L) (e : Event L) : (s.step e).settings = s.settings := by
  cases e with
  | poll i =>
    rw [step, turn]
    cases s.calls[i]? <;> rfl
  | work i =>
    rw [step, turn]
    cases s.calls[i]? <;> rfl
  | _ => rfl

theorem now_step (he : ∀ n, e ≠ .pass (n + 1)) : (s.step e).now = s.now := by
  cases e with
  | poll i =>
    rw [step, turn]
    cases s.calls[i]? <;> rfl
  | work i =>
    rw [step, turn]
    cases s.calls[i]? <;> rfl
  | pass n =>
    cases n with
    | zero => rfl
    | succ n => exact absurd rfl (he n)
  | _ => rfl

/-- A token that has been cancelled stays so. -/
theorem isCancelled_step {t : Token} (h : t.isCancelled s.cancelled = true) (e : Event L) :
    t.isCancelled (s.step e).cancelled = true := by
  have hturn : ∀ i f, (s.turn i f).cancelled = s.cancelled := by
    intro i f
    rw [turn]
    cases s.calls[i]? <;> rfl
  refine Token.isCancelled_of_subset (fun n hn => ?_) h
  cases e with
  | cancel t => exact t.mem_cancel hn
  | poll i => rwa [step, hturn]
  | work i => rwa [step, hturn]
  | _ => exact hn

theorem isCancelled_after {t : Token} (h : t.isCancelled s.cancelled = true) (es : List (Event L)) :
    t.isCancelled (Run.after step s es).cancelled = true := by
  induction es generalizing s with
  | nil => exact h
  | cons e es ih => exact ih (isCancelled_step h e)

/-! ### Calls and their jobs -/

omit [Link L] in
/-- Every call waits for its own job. -/
def Orderly (s : Outbox L) : Prop :=
  ∀ (i n : Nat) (c : Publication) (token : Token), s.calls[i]? = some c →
    c.mode = .guarded token (.running n) → n = i

/-- An outbox without calls. -/
def start (settings : Settings) (timer : Timer) (l : L) : Outbox L :=
  ⟨settings, timer, l, [], 0, []⟩

omit [Link L] in
theorem orderly_start (settings : Settings) (timer : Timer) (l : L) :
    (start settings timer l).Orderly := by
  intro i n c token hc
  cases hc

omit [Link L] in
theorem Orderly.turn (h : s.Orderly) {i : Nat} {f : Publication → Publication × L}
    (hf : ∀ c token n, s.calls[i]? = some c → (f c).1.mode = .guarded token (.running n) → n = i) :
    (s.turn i f).Orderly := by
  intro k n c token hc hmode
  by_cases hk : i = k
  · subst hk
    cases hstored : s.calls[i]? with
    | none =>
      rw [Outbox.turn, hstored] at hc
      cases hstored.symm.trans hc
    | some d =>
      rw [getElem?_turn hstored, if_pos rfl] at hc
      cases hc
      exact hf d token n hstored hmode
  · rw [getElem?_turn_ne hk] at hc
    exact h k n c token hc hmode

theorem mode_worked (s : Outbox L) (c : Publication) : (s.worked c).1.mode = c.mode := by
  rw [worked]
  cases c.posting <;> rfl

theorem mode_jobPolled (s : Outbox L) (c : Publication) : (s.jobPolled c).1.mode = c.mode := by
  rw [jobPolled]
  split
  · rfl
  · exact s.mode_worked c

theorem mode_polled {i : Nat} {token : Token} {g : Guarded} (h : c.mode = .guarded token g) :
    (s.polled i c).1.mode =
      .guarded token (g.poll c.topic (token.isCancelled s.cancelled) s.jobEnd? i).1 := by
  rw [polled, h]
  rfl

theorem mode_polled_plain {i : Nat} (h : c.mode = .plain) : (s.polled i c).1.mode = .plain := by
  have hworked : (s.polled i c).1.mode = (s.worked c).1.mode := by rw [polled, h]; rfl
  rw [hworked, mode_worked, h]

theorem Orderly.step (h : s.Orderly) (e : Event L) : (s.step e).Orderly := by
  cases e with
  | call topic payload token =>
    intro i n c token' hc hmode
    rw [Outbox.step, List.getElem?_append] at hc
    split at hc
    · exact h i n c token' hc hmode
    · -- a new call has no job
      obtain rfl := List.mem_singleton.1 (List.mem_of_getElem? hc)
      cases token <;> cases hmode
  | poll i =>
    refine h.turn fun c token n hc hmode => ?_
    cases hold : c.mode with
    | plain => cases (mode_polled_plain hold).symm.trans hmode
    | guarded token' g =>
      obtain ⟨rfl, hg⟩ := Publication.Mode.guarded.inj ((mode_polled hold).symm.trans hmode)
      rcases Guarded.of_poll_running hg with hn | rfl
      · exact hn
      · exact h i n c token' hc hold
  | work i =>
    refine h.turn fun c token n hc hmode => ?_
    rw [mode_jobPolled] at hmode
    exact h i n c token hc hmode
  | _ => exact h

/-- Any outbox that came about is orderly. -/
theorem orderly_after (h : s.Orderly) (es : List (Event L)) : (Run.after step s es).Orderly := by
  induction es generalizing s with
  | nil => exact h
  | cons e es ih => exact ih (h.step e)

/-! ### Outboxes that differ in one call -/

/-- Two outboxes are the same but for one call, and that call is related to the other one. -/
structure Alike (k : Nat) (R : Publication → Publication → Prop) (s y : Outbox L) : Prop where
  settings : y.settings = s.settings
  timer : y.timer = s.timer
  link : y.link = s.link
  now : y.now = s.now
  cancelled : y.cancelled = s.cancelled
  length : y.calls.length = s.calls.length
  others : ∀ i, i ≠ k → y.calls[i]? = s.calls[i]?
  own : ∃ c d, s.calls[k]? = some c ∧ y.calls[k]? = some d ∧ R c d

namespace Alike

variable {R R' : Publication → Publication → Prop} {y : Outbox L} {i : Nat}
  {f g : Publication → Publication × L} {d : Publication}

omit [Link L] in
theorem refl (hc : s.calls[k]? = some c) : Alike k Eq s s :=
  ⟨rfl, rfl, rfl, rfl, rfl, rfl, fun _ _ => rfl, c, c, hc, hc, rfl⟩

theorem worked (h : Alike k R s y) (c : Publication) : y.worked c = s.worked c := by
  rw [Outbox.worked, Outbox.worked, h.settings, h.timer, h.link, h.now]

theorem jobPolled (h : Alike k R s y) (c : Publication) : y.jobPolled c = s.jobPolled c := by
  rw [Outbox.jobPolled, Outbox.jobPolled, h.link, h.worked]

/-- The other calls do the same. -/
theorem polled (h : Alike k R s y) (hs : s.Orderly) (hi : i ≠ k) (hc : s.calls[i]? = some c) :
    y.polled i c = s.polled i c := by
  rw [Outbox.polled, Outbox.polled, h.worked, h.link, h.now, h.cancelled]
  cases hmode : c.mode with
  | plain => rfl
  | guarded token g =>
    have hpoll : g.poll c.topic (token.isCancelled s.cancelled) y.jobEnd? i =
        g.poll c.topic (token.isCancelled s.cancelled) s.jobEnd? i := by
      refine Guarded.poll_congr fun n hn => ?_
      obtain rfl := hs i n c token hc (hn ▸ hmode)
      rw [jobEnd?, jobEnd?, h.others n hi]
    simp only [hpoll]

omit [Link L] in
theorem turn_other (h : Alike k R s y) (hi : i ≠ k) (hf : ∀ c, s.calls[i]? = some c → g c = f c) :
    Alike k R (s.turn i f) (y.turn i g) := by
  have hsame := h.others i hi
  cases hc : s.calls[i]? with
  | none =>
    rw [hc] at hsame
    rw [Outbox.turn, Outbox.turn, hc, hsame]
    exact h
  | some c =>
    rw [hc] at hsame
    obtain ⟨c₀, d₀, hstored, hstored', hR⟩ := h.own
    have hown : (s.turn i f).calls[k]? = some c₀ := (getElem?_turn_ne hi f).trans hstored
    have hown' : (y.turn i g).calls[k]? = some d₀ := (getElem?_turn_ne hi g).trans hstored'
    rw [Outbox.turn, hc] at hown ⊢
    rw [Outbox.turn, hsame] at hown' ⊢
    dsimp only at hown hown' ⊢
    rw [hf c hc] at hown' ⊢
    refine ⟨h.settings, h.timer, rfl, h.now, h.cancelled, ?_, fun j hj => ?_, c₀, d₀, hown, hown',
      hR⟩
    · rw [List.length_set, List.length_set, h.length]
    · rw [List.getElem?_set, List.getElem?_set, h.length, h.others j hj]

omit [Link L] in
theorem turn_own (h : Alike k R s y) (hfg : ∀ c d, s.calls[k]? = some c → y.calls[k]? = some d →
    R c d → (g d).2 = (f c).2 ∧ R' (f c).1 (g d).1) :
    Alike k R' (s.turn k f) (y.turn k g) := by
  obtain ⟨c, d, hc, hd, hR⟩ := h.own
  obtain ⟨hlink, hR'⟩ := hfg c d hc hd hR
  have hown := getElem?_turn hc k f
  have hown' := getElem?_turn hd k g
  rw [if_pos rfl] at hown hown'
  rw [Outbox.turn, hc] at hown ⊢
  rw [Outbox.turn, hd] at hown' ⊢
  refine ⟨h.settings, h.timer, hlink, h.now, h.cancelled, ?_, fun i hi => ?_, _, _, hown, hown',
    hR'⟩
  · rw [List.length_set, List.length_set, h.length]
  · rw [List.getElem?_set_ne hi.symm, List.getElem?_set_ne hi.symm, h.others i hi]

omit [Link L] in
/-- One of the outboxes may do something that the other one does not notice. -/
theorem turn_left (h : Alike k R s y) (hf : ∀ c d, s.calls[k]? = some c → y.calls[k]? = some d →
    R c d → (f c).2 = s.link ∧ R' (f c).1 d) : Alike k R' (s.turn k f) y := by
  obtain ⟨c, d, hc, hd, hR⟩ := h.own
  obtain ⟨hlink, hR'⟩ := hf c d hc hd hR
  have hown := getElem?_turn hc k f
  rw [if_pos rfl] at hown
  rw [Outbox.turn, hc] at hown ⊢
  refine ⟨h.settings, h.timer, h.link.trans hlink.symm, h.now, h.cancelled, ?_, fun i hi => ?_,
    _, d, hown, hd, hR'⟩
  · rw [List.length_set, h.length]
  · rw [List.getElem?_set_ne hi.symm, h.others i hi]

/-- **What happens to others happens on both sides.** -/
theorem step_other (h : Alike k R s y) (hs : s.Orderly) (hpoll : e ≠ .poll k) (hwork : e ≠ .work k) :
    Alike k R (s.step e) (y.step e) := by
  cases e with
  | call topic payload token =>
    obtain ⟨c, d, hc, hd, hR⟩ := h.own
    refine ⟨h.settings, h.timer, h.link, h.now, h.cancelled, ?_, fun i hi => ?_, c, d, ?_, ?_, hR⟩
    · simp only [step, List.length_append, h.length]
    · simp only [step, List.getElem?_append, h.length, h.others i hi]
    · exact getElem?_step hc _
    · exact getElem?_step hd _
  | poll i =>
    have hi : i ≠ k := fun hi => hpoll (congrArg Event.poll hi)
    exact h.turn_other hi fun c hc => h.polled hs hi hc
  | work i =>
    have hi : i ≠ k := fun hi => hwork (congrArg Event.work hi)
    exact h.turn_other hi fun c _ => h.jobPolled c
  | cancel t =>
    exact ⟨h.settings, h.timer, h.link, h.now, congrArg t.cancel h.cancelled, h.length, h.others,
      h.own⟩
  | pass n =>
    exact ⟨h.settings, h.timer, h.link, congrArg (· + n) h.now, h.cancelled, h.length, h.others,
      h.own⟩
  | others l => exact ⟨h.settings, h.timer, rfl, h.now, h.cancelled, h.length, h.others, h.own⟩

end Alike

end Outbox

end LockFleet
