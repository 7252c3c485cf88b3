import LockFleet.Broker.Settings
import LockFleet.Proofs.Command.Identity
import LockFleet.Rehearsal.Effect

/-!
# Commands on the wire

A wire is an exchange of commands and acknowledgements with the link on which the jobs of the
senders publish, and with callers who publish commands that nobody waits for.  A task makes one
request at a time; between its requests anything else can happen, others use the link, and the task
may break off or be dropped for good.  What has been requested of the link for a caller can be read
off what is left to do of the task.

* `Wire.Event`, `Wire.step`, `Wire.play` — what can happen on a wire;
* `Wire.requestsOf`, `Wire.messagesOf`, `Wire.returned?` — what is seen of a command;
* `Wire.Sends`, `Wire.Stands` — the programs that publish one message, and how far they are;
* `Wire.Sound` — the invariant, with `Wire.Sound.step` for one step and `Wire.sound` for a run;
* `Wire.exchange_play` — the exchange of a wire is an exchange.
-/

namespace LockFleet

open Rehearsal (Effect Activity Outcome)

/-! ### The system -/

/-- A command that nobody waits for. -/
structure Unawaited where
  device : String
  kind : CommandKind
  arguments : Arguments

/-- The publishing of a command that nobody waits for. -/
def Unawaited.publishing (c : Unawaited) (id : String) (timestamp : Int64) : PublishRequest :=
  ⟨c.kind.topic c.device, false, (Envelope.mk id c.kind c.arguments timestamp).encode⟩

/-- Whose command it is. -/
inductive Caller where
  | sender (i : Nat)
  | unawaited (k : Nat)
  deriving DecidableEq

/-- A task that makes requests: the job of a number, or the call of a command that nobody waits
for. -/
inductive WireTask where
  | job (n : Nat)
  | call (k : Nat)
  deriving DecidableEq

/-- An exchange with its link, and with the commands that nobody waits for. -/
structure Wire (L : Type) where
  exchange : Exchange
  settings : Settings
  link : L
  calls : List Unawaited
  /-- What is left to do of the tasks that have made a request. -/
  progress : WireTask → Option (Activity Outcome)
  /-- The calls that have been dropped. -/
  dropped : List Nat
  /-- What has been requested of the link, and for whom. -/
  log : List (Caller × Outgoing × Requested)

/-- The end of a job with a result. -/
def jobEndOf : Outcome → JobEnd
  | .published r => .finished r
  | _ => .brokenOff "not a job"

namespace Wire

variable {L : Type}

/-- What can happen on a wire. -/
inductive Event (L : Type) where
  /-- Something happens at the exchange.  Jobs end only by themselves. -/
  | exchange (e : Exchange.Event)
  /-- A command is sent that nobody waits for. -/
  | send (c : Unawaited)
  /-- A task makes its next request, or ends; these are the identifier and the time that it gets,
  should it ask for them. -/
  | turn (t : WireTask) (drawn : String) (wall : Moment)
  /-- A job breaks off. -/
  | breakOff (job : Nat) (reason : String)
  /-- The call of a command that nobody waits for is dropped. -/
  | drop (call : Nat)
  /-- Others use the link. -/
  | others (l : L)

/-- A wire on which nothing has happened. -/
def start (timing : DeskClock) (settings : Settings) (l : L) : Wire L :=
  ⟨Exchange.start timing, settings, l, [], fun _ => none, [], []⟩

/-- What is left to do of a job. -/
def jobProgram (w : Wire L) (n : Nat) (j : PublishJob) : Activity Outcome :=
  (w.progress (.job n)).getD (Activity.publishJob j.request)

/-- What is left to do of the call of a command that nobody waits for. -/
def callProgram (w : Wire L) (k : Nat) (c : Unawaited) : Activity Outcome :=
  (w.progress (.call k)).getD (Activity.sendOff c.device c.kind c.arguments)

/-- What is left to do of a task that has not broken off or been dropped. -/
def program? (w : Wire L) : WireTask → Option (Activity Outcome)
  | .job n => w.exchange.jobs[n]?.bind fun j =>
      if j.outcome.isSome then none else some (w.jobProgram n j)
  | .call k => w.calls[k]?.bind fun c => if k ∈ w.dropped then none else some (w.callProgram k c)

/-- The caller for whom a task works. -/
def caller (w : Wire L) : WireTask → Caller
  | .job n => .sender ((w.exchange.jobs[n]?.map PublishJob.owner).getD 0)
  | .call k => .unawaited k

/-- What comes of a request: the answer, the link, and what was requested of it.  Tasks on the wire
make no other requests. -/
def serve [Link L] (w : Wire L) (drawn : String) (wall : Moment) :
    (e : Effect) → Option (e.Answer × L × List (Outgoing × Requested))
  | .linkDelay => some (Link.publishDelay w.link, w.link, [])
  | .wait _ => some ((), w.link, [])
  | .draw => some (drawn, w.link, [])
  | .clock => some (wall, w.link, [])
  | .publish q =>
    let m := q.outgoing w.settings.quality
    let (r, l) := Link.publish w.link m
    some (r, l, [(m, r)])
  | _ => none

/-- What an event does to the exchange. -/
def exchangeEvents (w : Wire L) : Event L → List Exchange.Event
  | .exchange (.jobEnds _ _) => []
  | .exchange e => [e]
  | .turn (.job n) _ _ =>
    match w.program? (.job n) with
    | some (.done o) => [.jobEnds n (jobEndOf o)]
    | _ => []
  | .breakOff n reason => [.jobEnds n (.brokenOff reason)]
  | _ => []

/-- The wire after a request of a task: what is left to do of it, the link, and what was
requested. -/
def answered (w : Wire L) (t : WireTask) (left : Activity Outcome) (l : L)
    (requests : List (Outgoing × Requested)) : Wire L :=
  { w with
    link := l
    progress := fun t' => if t' = t then some left else w.progress t'
    log := w.log ++ requests.map (w.caller t, ·) }

/-- Lets a task make its next request. -/
def proceed [Link L] (w : Wire L) (t : WireTask) (drawn : String) (wall : Moment) : Wire L :=
  match w.program? t with
  | some (.call e next) =>
    match w.serve drawn wall e with
    | some (a, l, requests) => w.answered t (next a) l requests
    | none => w
  | _ => w

/-- What comes of an event. -/
def step [Link L] (w : Wire L) (e : Event L) : Wire L :=
  let x := Run.after Exchange.step w.exchange (w.exchangeEvents e)
  match e with
  | .turn t drawn wall => { w.proceed t drawn wall with exchange := x }
  | .send c => { w with calls := w.calls ++ [c] }
  | .drop k => { w with dropped := k :: w.dropped }
  | .others l => { w with link := l }
  | _ => { w with exchange := x }

/-- The wire after a list of events. -/
def play [Link L] (timing : DeskClock) (settings : Settings) (l : L) (es : List (Event L)) :
    Wire L := Run.after step (start timing settings l) es

/-- What happens at the exchange of a run. -/
def trace [Link L] (timing : DeskClock) (settings : Settings) (l : L) (es : List (Event L)) :
    List Exchange.Event := Run.gather step exchangeEvents (start timing settings l) es

/-- What has been requested of the link for a caller, in order. -/
def requestsOf (w : Wire L) (who : Caller) : List (Outgoing × Requested) :=
  (w.log.filter (·.1 = who)).map (·.2)

/-- The messages that the link has taken from a caller. -/
def messagesOf (w : Wire L) (who : Caller) : List Outgoing :=
  (w.requestsOf who).filterMap fun p => match p.2 with
    | .ok _ => some p.1
    | .error _ => none

/-- What the call of a command that nobody waits for has returned. -/
def returned? (w : Wire L) (k : Nat) : Option (Except CommandError String) :=
  match w.program? (.call k) with
  | some (.done (.sentOff r)) => some r
  | _ => none

/-! ### Programs that publish one message -/

/-- The program publishes a message, and ends with a result that depends on the outcome. -/
inductive Sends (q : PublishRequest) (f : Requested → Outcome) : Activity Outcome → Prop where
  | delay {next : Effect.linkDelay.Answer → Activity Outcome} (later : ∀ d, Sends q f (next d)) :
      Sends q f (.call .linkDelay next)
  | wait {s : Span} {next : (Effect.wait s).Answer → Activity Outcome}
      (later : ∀ u, Sends q f (next u)) : Sends q f (.call (.wait s) next)
  | publish {next : (Effect.publish q).Answer → Activity Outcome}
      (later : ∀ r, next r = .done (f r)) : Sends q f (.call (.publish q) next)

theorem sends_publish {q : PublishRequest} {f : Requested → Outcome}
    {g : Requested → Activity Outcome} (h : ∀ r, g r = .done (f r)) :
    Sends q f ((Activity.publish q).bind g) := by
  refine .delay fun d => ?_
  cases d with
  | none => exact .publish h
  | some s => exact .wait fun _ => .publish h

/-- What has been requested for a program that publishes a message, by what is left to do. -/
inductive Stands (quality : Quality) (q : PublishRequest) (f : Requested → Outcome) :
    Activity Outcome → List (Outgoing × Requested) → Prop where
  | before {p : Activity Outcome} (h : Sends q f p) : Stands quality q f p []
  | after (r : Requested) : Stands quality q f (.done (f r)) [(q.outgoing quality, r)]

/-- The end of the call of a command that nobody waits for. -/
def sentOff (id : String) : Requested → Outcome
  | .ok _ => .sentOff (.ok id)
  | .error e => .sentOff (.error (.transport e))

/-- What has been requested for the call of a command that nobody waits for. -/
inductive CallStands (quality : Quality) (c : Unawaited) :
    Activity Outcome → List (Outgoing × Requested) → Prop where
  | fresh : CallStands quality c (Activity.sendOff c.device c.kind c.arguments) []
  | drawn (id : String) {next : Effect.clock.Answer → Activity Outcome}
      (later : ∀ now : Moment,
        Sends (c.publishing id (Int64.ofInt now.second)) (sentOff id) (next now)) :
      CallStands quality c (.call .clock next) []
  | named (id : String) (timestamp : Int64) {p : Activity Outcome}
      {requests : List (Outgoing × Requested)}
      (h : Stands quality (c.publishing id timestamp) (sentOff id) p requests) :
      CallStands quality c p requests

section Turns

variable [Link L] {w : Wire L} {drawn : String} {wall : Moment} {e : Effect}
  {next : e.Answer → Activity Outcome} {a : e.Answer} {l : L}
  {requests made : List (Outgoing × Requested)} {q : PublishRequest} {f : Requested → Outcome}
  {quality : Quality}

theorem Stands.serve (h : Stands quality q f (.call e next) made)
    (hquality : w.settings.quality = quality)
    (hserve : w.serve drawn wall e = some (a, l, requests)) :
    Stands quality q f (next a) (made ++ requests) := by
  cases h with
  | before h =>
    cases h with
    | delay later =>
      cases hserve
      exact .before (later _)
    | wait later =>
      cases hserve
      exact .before (later _)
    | publish later =>
      cases hserve
      have hdone := later (Link.publish w.link (q.outgoing w.settings.quality)).1
      rw [hquality] at hdone
      rw [hquality]
      exact hdone.symm ▸ .after _

theorem CallStands.serve {c : Unawaited} (h : CallStands quality c (.call e next) made)
    (hquality : w.settings.quality = quality)
    (hserve : w.serve drawn wall e = some (a, l, requests)) :
    CallStands quality c (next a) (made ++ requests) := by
  cases h with
  | fresh =>
    cases hserve
    refine .drawn drawn fun now => sends_publish fun r => ?_
    cases r <;> rfl
  | drawn id later =>
    cases hserve
    exact .named id _ (.before (later wall))
  | named id timestamp h => exact .named id timestamp (h.serve hquality hserve)

/-- A program that publishes has requested one thing at most, and has requested it if it has
ended. -/
theorem Stands.cases {p : Activity Outcome} (h : Stands quality q f p made) :
    (made = [] ∧ ∀ o, p ≠ .done o) ∨ ∃ r, p = .done (f r) ∧ made = [(q.outgoing quality, r)] := by
  cases h with
  | before h =>
    refine Or.inl ⟨rfl, fun o ho => ?_⟩
    subst ho
    cases h
  | after r => exact Or.inr ⟨r, rfl, rfl⟩

theorem CallStands.cases {c : Unawaited} {p : Activity Outcome}
    (h : CallStands quality c p made) : (made = [] ∧ ∀ o, p ≠ .done o) ∨
      ∃ id timestamp r, p = .done (sentOff id r) ∧
        made = [((c.publishing id timestamp).outgoing quality, r)] := by
  cases h with
  | fresh => exact Or.inl ⟨rfl, fun o ho => by cases ho⟩
  | drawn id later => exact Or.inl ⟨rfl, fun o ho => by cases ho⟩
  | named id timestamp h =>
    exact h.cases.imp_right fun ⟨r, hp, hmade⟩ => ⟨id, timestamp, r, hp, hmade⟩

end Turns

/-! ### What one step keeps -/

/-- What has been requested is what the tasks stand for. -/
structure Sound (settings : Settings) (w : Wire L) : Prop where
  settings_eq : w.settings = settings
  job : ∀ n j, w.exchange.jobs[n]? = some j → Stands settings.quality j.request .published
    (w.jobProgram n j) (w.requestsOf (.sender j.owner))
  jobEnd : ∀ n j r t, w.exchange.jobs[n]? = some j → j.outcome = some (.finished r, t) →
    w.jobProgram n j = .done (.published r)
  noJob : ∀ n, w.exchange.jobs.length ≤ n → w.progress (.job n) = none
  idle : ∀ i, (∀ q, (i, q) ∉ w.exchange.posted) → w.requestsOf (.sender i) = []
  call : ∀ k c, w.calls[k]? = some c →
    CallStands settings.quality c (w.callProgram k c) (w.requestsOf (.unawaited k))
  noCall : ∀ k, w.calls.length ≤ k →
    w.progress (.call k) = none ∧ w.requestsOf (.unawaited k) = []

section Lookup

variable {w : Wire L} {t t' : WireTask} {p : Activity Outcome} {l : L} {who : Caller}
  {requests : List (Outgoing × Requested)}

theorem progress_answered_self : (w.answered t p l requests).progress t = some p := if_pos rfl

theorem progress_answered_of_ne (h : t' ≠ t) :
    (w.answered t p l requests).progress t' = w.progress t' := if_neg h

theorem requestsOf_answered_self : (w.answered t p l requests).requestsOf (w.caller t) =
    w.requestsOf (w.caller t) ++ requests := by
  simp [answered, requestsOf, List.filter_map, Function.comp_def]

theorem requestsOf_answered_of_ne (h : who ≠ w.caller t) :
    (w.answered t p l requests).requestsOf who = w.requestsOf who := by
  simp [answered, requestsOf, List.filter_map, Function.comp_def, Ne.symm h]

/-- A job that has something left to do has not ended. -/
theorem program?_job_eq_some {n : Nat} (h : w.program? (.job n) = some p) : ∃ j,
    w.exchange.jobs[n]? = some j ∧ j.outcome = none ∧ w.jobProgram n j = p ∧
      w.caller (.job n) = .sender j.owner := by
  obtain ⟨j, hj, hp⟩ := Option.bind_eq_some_iff.1 h
  cases ho : j.outcome with
  | some o =>
    rw [ho] at hp
    cases hp
  | none =>
    rw [ho] at hp
    refine ⟨j, hj, ho, Option.some.inj hp, ?_⟩
    rw [caller, hj]
    rfl

theorem program?_call_eq_some {k : Nat} (h : w.program? (.call k) = some p) : ∃ c,
    w.calls[k]? = some c ∧ w.callProgram k c = p := by
  obtain ⟨c, hc, hp⟩ := Option.bind_eq_some_iff.1 h
  refine ⟨c, hc, ?_⟩
  by_cases hk : k ∈ w.dropped
  · rw [if_pos hk] at hp
    cases hp
  · rw [if_neg hk] at hp
    exact Option.some.inj hp

end Lookup

theorem exchange_proceed [Link L] (w : Wire L) (t : WireTask) (drawn : String) (wall : Moment) :
    (w.proceed t drawn wall).exchange = w.exchange := by
  rw [proceed]
  split
  · split <;> rfl
  · rfl

/-- What an event does to the exchange, and nothing else happens to it. -/
theorem exchange_step [Link L] (w : Wire L) (e : Event L) : (w.step e).exchange =
    Run.after Exchange.step w.exchange (w.exchangeEvents e) := by
  cases e <;> rfl

namespace Sound

variable {settings : Settings} {w : Wire L}

/-- The exchange goes on; a job that ends with a result has no more to do. -/
theorem exchange {e : Exchange.Event} (h : Sound settings w) (hy : (w.exchange.step e).Filed)
    (hend : ∀ n j r, e = .jobEnds n (.finished r) → w.exchange.jobs[n]? = some j →
      j.outcome = none → w.jobProgram n j = .done (.published r)) :
    Sound settings { w with exchange := w.exchange.step e } := by
  have hlength : w.exchange.jobs.length ≤ (w.exchange.step e).jobs.length := by
    rw [← Exchange.length_posted, ← Exchange.length_posted]
    exact (w.exchange.posted_isPrefix e).length_le
  refine ⟨h.settings_eq, fun n j' hj' => ?_, fun n j' r t hj' ho => ?_,
    fun n hn => h.noJob n (Nat.le_trans hlength hn),
    fun i hi => h.idle i fun q hq => hi q ((w.exchange.posted_isPrefix e).subset hq),
    h.call, h.noCall⟩
  · show Stands _ j'.request _ ((w.progress (.job n)).getD (Activity.publishJob j'.request))
      (w.requestsOf (.sender j'.owner))
    cases hj : w.exchange.jobs[n]? with
    | some j =>
      obtain ⟨howner, hrequest⟩ := Exchange.jobs_same hj hj'
      rw [howner, hrequest]
      exact h.job n j hj
    | none =>
      have hn := List.getElem?_eq_none_iff.1 hj
      rw [h.noJob n hn, h.idle _ fun q => Exchange.not_posted_of_new hy hn hj']
      exact .before (sends_publish fun r => rfl)
  · show (w.progress (.job n)).getD (Activity.publishJob j'.request) = _
    cases hj : w.exchange.jobs[n]? with
    | some j =>
      obtain ⟨j'', hj'', -, hout⟩ := Exchange.jobs_step hj e
      cases hj'.symm.trans hj''
      rw [(Exchange.jobs_same hj hj').2]
      rcases hout with hout | ⟨hnone, k, rfl, hout⟩
      · exact h.jobEnd n j r t hj (hout.symm.trans ho)
      · cases hout.symm.trans ho
        exact hend n j r rfl hj hnone
    | none =>
      cases (Exchange.jobs_step_new (List.getElem?_eq_none_iff.1 hj) hj').symm.trans ho

/-- A job makes its next request. -/
theorem answered_job [Link L] (h : Sound settings w) (hx : w.exchange.Filed) {n : Nat}
    {drawn : String} {wall : Moment} {e : Effect} {next : e.Answer → Activity Outcome}
    {a : e.Answer} {l : L} {requests : List (Outgoing × Requested)}
    (hprogram : w.program? (.job n) = some (.call e next))
    (hserve : w.serve drawn wall e = some (a, l, requests)) :
    Sound settings (w.answered (.job n) (next a) l requests) := by
  obtain ⟨j, hj, hnone, hleft, hcaller⟩ := program?_job_eq_some hprogram
  have hself : (w.answered (.job n) (next a) l requests).requestsOf (.sender j.owner) =
      w.requestsOf (.sender j.owner) ++ requests := by
    rw [← hcaller]
    exact requestsOf_answered_self
  have hothers : ∀ who, who ≠ .sender j.owner →
      (w.answered (.job n) (next a) l requests).requestsOf who = w.requestsOf who :=
    fun who hwho => requestsOf_answered_of_ne (hcaller.symm ▸ hwho)
  have hsame : ∀ m k, m ≠ n →
      (w.answered (.job n) (next a) l requests).jobProgram m k = w.jobProgram m k := by
    intro m k hm
    rw [jobProgram, progress_answered_of_ne (by simpa using hm)]
    rfl
  refine ⟨h.settings_eq, fun m k hk => ?_, fun m k r t hk ho => ?_, fun m hm => ?_,
    fun i hi => ?_, fun m c hc => ?_, fun m hm => ?_⟩
  · by_cases hm : m = n
    · subst hm
      cases hj.symm.trans hk
      have hnow : (w.answered (.job m) (next a) l requests).jobProgram m j = next a := by
        rw [jobProgram, progress_answered_self]
        rfl
      rw [hself, hnow]
      have hbefore := h.job m j hj
      rw [hleft] at hbefore
      exact hbefore.serve (by rw [h.settings_eq]) hserve
    · rw [hsame m k hm, hothers _ fun heq => hm (hx.job_unique hj hk (Caller.sender.inj heq))]
      exact h.job m k hk
  · by_cases hm : m = n
    · subst hm
      cases hj.symm.trans hk
      cases hnone.symm.trans ho
    · rw [hsame m k hm]
      exact h.jobEnd m k r t hk ho
  · have hne : m ≠ n := fun heq =>
      absurd (List.getElem?_eq_some_iff.1 hj).1 (Nat.not_lt.2 (heq ▸ hm))
    rw [progress_answered_of_ne (by simpa using hne)]
    exact h.noJob m hm
  · rw [hothers _ fun heq => hi j.request ?_]
    · exact h.idle i hi
    · cases heq
      exact List.mem_of_getElem? (Exchange.posted_getElem? hj)
  · have hne : WireTask.call m ≠ .job n := nofun
    rw [callProgram, progress_answered_of_ne hne, hothers (.unawaited m) nofun]
    exact h.call m c hc
  · have hne : WireTask.call m ≠ .job n := nofun
    rw [progress_answered_of_ne hne, hothers (.unawaited m) nofun]
    exact h.noCall m hm

/-- The call of a command that nobody waits for makes its next request. -/
theorem answered_call [Link L] (h : Sound settings w) {k : Nat} {drawn : String} {wall : Moment}
    {e : Effect} {next : e.Answer → Activity Outcome} {a : e.Answer} {l : L}
    {requests : List (Outgoing × Requested)} (hprogram : w.program? (.call k) = some (.call e next))
    (hserve : w.serve drawn wall e = some (a, l, requests)) :
    Sound settings (w.answered (.call k) (next a) l requests) := by
  obtain ⟨c, hc, hleft⟩ := program?_call_eq_some hprogram
  have hself : (w.answered (.call k) (next a) l requests).requestsOf (.unawaited k) =
      w.requestsOf (.unawaited k) ++ requests := requestsOf_answered_self
  have hothers : ∀ who, who ≠ .unawaited k →
      (w.answered (.call k) (next a) l requests).requestsOf who = w.requestsOf who :=
    fun who hwho => requestsOf_answered_of_ne hwho
  have hjob : ∀ m, WireTask.job m ≠ .call k := fun m => nofun
  refine ⟨h.settings_eq, fun m j hj => ?_, fun m j r t hj ho => ?_, fun m hm => ?_,
    fun i hi => ?_, fun m c' hc' => ?_, fun m hm => ?_⟩
  · rw [jobProgram, progress_answered_of_ne (hjob m), hothers (.sender j.owner) nofun]
    exact h.job m j hj
  · rw [jobProgram, progress_answered_of_ne (hjob m)]
    exact h.jobEnd m j r t hj ho
  · rw [progress_answered_of_ne (hjob m)]
    exact h.noJob m hm
  · rw [hothers (.sender i) nofun]
    exact h.idle i hi
  · by_cases hm : m = k
    · subst hm
      cases hc.symm.trans hc'
      have hnow : (w.answered (.call m) (next a) l requests).callProgram m c = next a := by
        rw [callProgram, progress_answered_self]
        rfl
      rw [hself, hnow]
      have hbefore := h.call m c hc
      rw [hleft] at hbefore
      exact hbefore.serve (by rw [h.settings_eq]) hserve
    · rw [callProgram, progress_answered_of_ne (by simpa using hm),
        hothers _ (by simpa using hm)]
      exact h.call m c' hc'
  · have hne : m ≠ k := fun heq =>
      absurd (List.getElem?_eq_some_iff.1 hc).1 (Nat.not_lt.2 (heq ▸ hm))
    rw [progress_answered_of_ne (by simpa using hne), hothers _ (by simpa using hne)]
    exact h.noCall m hm

/-- A task makes its next request. -/
theorem proceed [Link L] (h : Sound settings w) (hx : w.exchange.Filed) (t : WireTask)
    (drawn : String) (wall : Moment) : Sound settings (w.proceed t drawn wall) := by
  rw [Wire.proceed]
  split
  · next e next hprogram =>
    split
    · next a l requests hserve =>
      cases t with
      | job n => exact h.answered_job hx hprogram hserve
      | call k => exact h.answered_call hprogram hserve
    · exact h
  · exact h

/-- A command is sent that nobody waits for. -/
theorem send (h : Sound settings w) (c : Unawaited) :
    Sound settings { w with calls := w.calls ++ [c] } := by
  refine ⟨h.settings_eq, h.job, h.jobEnd, h.noJob, h.idle, fun k c' hk => ?_, fun k hk => ?_⟩
  · show CallStands _ c' ((w.progress (.call k)).getD _) (w.requestsOf (.unawaited k))
    rcases Nat.lt_or_ge k w.calls.length with hlt | hge
    · exact h.call k c' ((List.getElem?_append_left hlt).symm.trans hk)
    · obtain ⟨hprogress, hrequests⟩ := h.noCall k hge
      rw [hprogress, hrequests]
      exact .fresh
  · refine h.noCall k (Nat.le_trans ?_ hk)
    rw [List.length_append]
    exact Nat.le_add_right _ _

/-- **What every step keeps.** -/
theorem step [Link L] (h : Sound settings w) (hx : w.exchange.Filed) (e : Event L)
    (hy : (Run.after Exchange.step w.exchange (w.exchangeEvents e)).Filed) :
    Sound settings (w.step e) := by
  cases e with
  | exchange e =>
    show Sound settings { w with
      exchange := Run.after Exchange.step w.exchange (w.exchangeEvents (.exchange e)) }
    have hcases : w.exchangeEvents (.exchange e) = [] ∨
        (w.exchangeEvents (.exchange e) = [e] ∧ ∀ n k, e ≠ .jobEnds n k) := by
      cases e <;> simp [exchangeEvents]
    rcases hcases with hevents | ⟨hevents, hne⟩
    · rw [hevents]
      exact h
    · rw [hevents] at hy ⊢
      exact h.exchange hy fun n j r he => absurd he (hne n _)
  | send c => exact h.send c
  | drop k => exact ⟨h.settings_eq, h.job, h.jobEnd, h.noJob, h.idle, h.call, h.noCall⟩
  | others l => exact ⟨h.settings_eq, h.job, h.jobEnd, h.noJob, h.idle, h.call, h.noCall⟩
  | breakOff n reason =>
    exact h.exchange (e := .jobEnds n (.brokenOff reason)) hy fun n j r he => by cases he
  | turn t drawn wall =>
    have hproceed := h.proceed hx t drawn wall
    show Sound settings { w.proceed t drawn wall with
      exchange := Run.after Exchange.step w.exchange (w.exchangeEvents (.turn t drawn wall)) }
    have hquiet : w.exchangeEvents (.turn t drawn wall) = [] →
        Sound settings { w.proceed t drawn wall with
          exchange := Run.after Exchange.step w.exchange
            (w.exchangeEvents (.turn t drawn wall)) } := by
      intro hnone
      rw [hnone]
      show Sound settings { w.proceed t drawn wall with exchange := w.exchange }
      rw [← exchange_proceed w t drawn wall]
      exact hproceed
    cases t with
    | call k => exact hquiet rfl
    | job n =>
      cases hprogram : w.program? (.job n) with
      | none => exact hquiet (by rw [exchangeEvents, hprogram])
      | some p =>
        cases p with
        | call e next => exact hquiet (by rw [exchangeEvents, hprogram])
        | done o =>
          have hsame : w.proceed (.job n) drawn wall = w := by rw [Wire.proceed, hprogram]
          have hevents : w.exchangeEvents (.turn (.job n) drawn wall) =
              [.jobEnds n (jobEndOf o)] := by rw [exchangeEvents, hprogram]
          rw [hevents] at hy
          rw [hsame, hevents]
          obtain ⟨j, hj, -, hleft, -⟩ := program?_job_eq_some hprogram
          refine h.exchange (e := .jobEnds n (jobEndOf o)) hy fun n' j' r he hj' _ => ?_
          obtain ⟨rfl, hend⟩ := Exchange.Event.jobEnds.inj he
          cases hj.symm.trans hj'
          rw [hleft]
          cases o <;> cases hend
          rfl

end Sound

/-! ### Runs -/

section Runs

variable [Link L] {timing : DeskClock} {settings : Settings} {l : L} {es pre : List (Event L)}

theorem play_snoc (es : List (Event L)) (e : Event L) :
    play timing settings l (es ++ [e]) = (play timing settings l es).step e :=
  Run.after_snoc es e

theorem trace_snoc (es : List (Event L)) (e : Event L) : trace timing settings l (es ++ [e]) =
    trace timing settings l es ++ (play timing settings l es).exchangeEvents e :=
  Run.gather_snoc _ es e

/-- The exchange of a wire goes through what happens at it, and through nothing else. -/
theorem exchange_play (es : List (Event L)) : (play timing settings l es).exchange =
    Exchange.play timing (trace timing settings l es) := by
  induction es using List.reverseRecOn with
  | nil => rfl
  | append_singleton es e ih =>
    rw [play_snoc, exchange_step, ih, trace_snoc, Exchange.play, ← Run.after_append]
    rfl

theorem trace_isPrefix (h : pre <+: es) :
    trace timing settings l pre <+: trace timing settings l es := by
  obtain ⟨post, rfl⟩ := h
  induction post using List.reverseRecOn with
  | nil => simp
  | append_singleton post e ih =>
    rw [← List.append_assoc, trace_snoc]
    exact ih.trans (List.prefix_append _ _)

/-- Every point that the exchange has passed through belongs to a point of the run. -/
theorem exists_trace_eq {xs : List Exchange.Event} (h : xs <+: trace timing settings l es) :
    ∃ pre, pre <+: es ∧ trace timing settings l pre = xs := by
  induction es using List.reverseRecOn with
  | nil => exact ⟨[], List.prefix_refl _, (List.prefix_nil.1 h).symm⟩
  | append_singleton es e ih =>
    have hone : (play timing settings l es).exchangeEvents e = [] ∨
        ∃ e', (play timing settings l es).exchangeEvents e = [e'] := by
      unfold exchangeEvents
      split
      · exact Or.inl rfl
      · exact Or.inr ⟨_, rfl⟩
      · split
        · exact Or.inr ⟨_, rfl⟩
        · exact Or.inl rfl
      · exact Or.inr ⟨_, rfl⟩
      · exact Or.inl rfl
    have hearlier : xs <+: trace timing settings l es →
        ∃ pre, pre <+: es ++ [e] ∧ trace timing settings l pre = xs := by
      intro hxs
      obtain ⟨pre, hpre, htrace⟩ := ih hxs
      exact ⟨pre, hpre.trans (List.prefix_append es [e]), htrace⟩
    rcases hone with hnone | ⟨e', hone⟩
    · rw [trace_snoc, hnone, List.append_nil] at h
      exact hearlier h
    · rw [trace_snoc, hone, List.prefix_concat_iff] at h
      rcases h with rfl | h
      · exact ⟨es ++ [e], List.prefix_refl _, by rw [trace_snoc, hone]⟩
      · exact hearlier h

/-- **What has been requested is what the tasks stand for, in every run.** -/
theorem sound (timing : DeskClock) (settings : Settings) (l : L) (es : List (Event L)) :
    Sound settings (play timing settings l es) := by
  induction es using List.reverseRecOn with
  | nil =>
    refine ⟨rfl, fun n j hj => ?_, fun n j r t hj => ?_, fun n _ => rfl, fun i _ => rfl,
      fun k c hc => ?_, fun k _ => ⟨rfl, rfl⟩⟩
    · cases hj
    · cases hj
    · cases hc
  | append_singleton es e ih =>
    have hfiled : ∀ es, (play timing settings l es).exchange.Filed := fun es => by
      rw [exchange_play]
      exact Exchange.filed timing _
    have hnext := hfiled (es ++ [e])
    rw [play_snoc, exchange_step] at hnext
    rw [play_snoc]
    exact ih.step (hfiled es) e hnext

end Runs

end Wire

end LockFleet
