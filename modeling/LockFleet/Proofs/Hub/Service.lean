import LockFleet.Proofs.Broker.Absence
import LockFleet.Proofs.Command.Identity
import LockFleet.Proofs.Hub.Working
import LockFleet.Proofs.Router.Stopping
import LockFleet.Rehearsal.World

/-!
# A hub in service

A hub in service is at work, its periodic tasks take turns with its dispatches, callers use its
connection, and it may be shut down.  A shutdown is not a single step: it cancels the token of the
router and takes the subscriptions back, cancels the token of the hub and waits for the periodic
tasks, and closes the connection, and anything may happen in between.  One that has been asked for
is carried on until it returns, and none begins before that.

* `Hub.Routine`, `Hub.Closing`, `Hub.Service` — periodic tasks, shutdowns and hubs;
* `Bench.Instant` — more has happened at the desk, but no time has passed;
* `Service.Event`, `Service.step`, `Service.play` — what can happen, and what comes of it;
* `Service.Proceeds`, `Service.connection_step` — what a step does to the shutdown and the connection;
* `Working.Sealed`, `Service.store_step` — a hub whose store is not touched any more;
* `Service.PartsQuietly`, `Service.absent_step` — filters that only callers register.
-/

namespace LockFleet

open Registry (Issued Returned)

/-! ### Periodic tasks and tokens -/

namespace Periodic

variable {σ W : Type} {v : View} {token : Token} {begins : σ} {turn : σ → W → Option σ × W}
  {p : Periodic σ} {w : W}

/-- Whether a periodic task has ended, in good order or not. -/
def hasEnded : Periodic σ → Bool
  | .ended => true
  | .brokenOff => true
  | _ => false

theorem poll_of_hasEnded (h : p.hasEnded = true) : p.poll v token begins turn w = (p, w) := by
  cases p with
  | ended => rfl
  | brokenOff => rfl
  | _ => cases h

/-- What a periodic task works on is changed by its work only. -/
theorem world_of_poll {P : W → Prop} (hw : P w) (hturn : ∀ a, P (turn a w).2) :
    P (p.poll v token begins turn w).2 := by
  have hwork : ∀ t a, P (work v turn t a w).2 := by
    intro t a
    have hnext := hturn a
    rw [work]
    split <;> next h => rwa [h] at hnext
  cases p with
  | fresh period =>
    rw [poll]
    split
    · exact hw
    · split <;> exact hw
  | idle t alarm =>
    rw [poll]
    split
    · exact hw
    · split
      · exact hwork _ _
      · exact hw
  | busy t a => exact hwork t a
  | ended => exact hw
  | brokenOff => exact hw

end Periodic

namespace Hub

variable {H S : Type}

/-! ### Dispatches under a cancelled token -/

namespace Working

variable {s : Equipment H S} {x : Working H S} {wall : Moment} {k n : Nat}
  {d : ReportDispatch} {a : Errand (Reconcile (Except HandlerError Unit))}

/-- Every dispatch at work is under the token of the router. -/
def Under (x : Working H S) : Prop := ∀ a ∈ x.errands, ∀ token alarm handler,
  a.dispatch = .running token alarm handler → token = x.token

theorem Under.append (h : x.Under) {more : List (Errand (Reconcile (Except HandlerError Unit)))}
    (hmore : ∀ a ∈ more, ∃ topic payload, a.dispatch = .fresh topic payload) {b : Broker H} :
    Under { x with broker := b, errands := x.errands ++ more } := by
  intro a ha token alarm handler hrunning
  rcases List.mem_append.1 ha with ha | ha
  · exact h a ha token alarm handler hrunning
  · obtain ⟨topic, payload, hfresh⟩ := hmore a ha
    cases hfresh.symm.trans hrunning

theorem Under.attend (h : x.Under) (ha : a ∈ x.errands) : (x.attend s n wall k a).Under := by
  intro a' ha' token alarm handler hrunning
  rcases List.mem_or_eq_of_mem_set ha' with ha' | rfl
  · exact h a' ha' token alarm handler hrunning
  · rcases Dispatch.token_of_poll hrunning with ⟨alarm', handler', hbefore⟩ | ⟨_, _, -, htoken⟩
    · exact h a ha token alarm' handler' hbefore
    · exact htoken

/-- No dispatch gets to its handler any more: the token of the router has been cancelled, and it is
above every dispatch at work. -/
structure Sealed (s : Equipment H S) (x : Working H S) : Prop where
  cancelled : x.token.isCancelled (x.exchange s).cancelled = true
  under : x.Under

namespace Sealed

/-- **A dispatch of a sealed router ends at its next poll**, without a step of its handler. -/
theorem polled (h : x.Sealed s) (ha : a ∈ x.errands) (wall : Moment) (k : Nat) :
    ∃ outcome, x.polled s wall k a.dispatch = (.ended outcome, x.bench) := by
  have hunder := h.under a ha
  generalize a.dispatch = d at hunder
  cases d with
  | ended outcome => exact ⟨outcome, rfl⟩
  | running token alarm handler =>
    obtain rfl := hunder token alarm handler rfl
    exact ⟨.cancelled, Dispatch.poll_cancelled h.cancelled⟩
  | fresh topic payload =>
    cases hm : Message.decode topic payload with
    | ok m => exact ⟨.cancelled, Dispatch.poll_fresh_cancelled hm h.cancelled⟩
    | error fault =>
      refine ⟨.dropped, ?_⟩
      rw [Working.polled, Dispatch.poll, Dispatch.begin, hm]

/-- Such a dispatch gets its next poll, for it is ready. -/
theorem isReady (h : x.Sealed s) (ha : a ∈ x.errands) (hended : a.dispatch.hasEnded = false)
    (wall : Moment) (handlerReady : Reconcile (Except HandlerError Unit) → Bool) :
    a.dispatch.isReady ((x.exchange s).view wall) handlerReady = true := by
  have hunder := h.under a ha
  generalize a.dispatch = d at hunder hended
  cases d with
  | ended outcome => cases hended
  | fresh topic payload => rfl
  | running token alarm handler =>
    obtain rfl := hunder token alarm handler rfl
    have hcancelled : ((x.exchange s).view wall).isCancelled x.token = true := h.cancelled
    rw [Dispatch.isReady, hcancelled]
    rfl

/-- A router stays sealed as long as it keeps its token. -/
theorem mono {y : Working H S} (h : x.Sealed s) (hy : y.Under) (htoken : y.token = x.token)
    (hpast : ∃ more, y.bench.past = x.bench.past ++ more) : y.Sealed s where
  cancelled := by
    obtain ⟨more, hmore⟩ := hpast
    rw [htoken, exchange, hmore]
    exact Exchange.isCancelled_append h.cancelled more
  under := hy

variable [DecidableEq H]

/-- The poll of a dispatch of a sealed router ends it and leaves everything else alone. -/
theorem attend (h : x.Sealed s) (hd : x.dispatch? n = some d) (wall : Moment) (k : Nat) :
    (x.step s (.attend n wall k)).bench = x.bench ∧
      ∃ outcome, (x.step s (.attend n wall k)).dispatch? n = some (.ended outcome) := by
  obtain ⟨hbench, hdispatch⟩ := step_attend (s := s) hd wall k
  obtain ⟨a, ha, rfl⟩ := Option.map_eq_some_iff.1 hd
  obtain ⟨outcome, hpolled⟩ := h.polled (List.mem_of_getElem? ha) wall k
  rw [hpolled] at hbench hdispatch
  exact ⟨hbench, outcome, hdispatch⟩

theorem bench_attend (h : x.Sealed s) (n : Nat) (wall : Moment) (k : Nat) :
    (x.step s (.attend n wall k)).bench = x.bench := by
  cases hd : x.dispatch? n with
  | some d => exact (h.attend hd wall k).1
  | none =>
    rw [step, Option.map_eq_none_iff.1 hd]

end Sealed

end Working

/-! ### Hubs -/

/-- A periodic task of a hub. -/
structure Routine where
  token : Token
  chore : Rehearsal.Chore
  stage : Periodic (Reconcile (Except HandlerError Unit))

/-- How far the shutdown of a hub has got. -/
inductive Closing where
  /-- Nobody has asked for it. -/
  | unasked
  /-- The call of this number takes the subscriptions for reports back. -/
  | stopping (call : Nat)
  /-- These periodic tasks have to end first. -/
  | joining (tasks : List Nat)
  /-- The call of this number closes the connection. -/
  | leaving (call : Nat)
  | returned (r : Returned)

namespace Closing

/-- No shutdown is in progress. -/
def isResting : Closing → Bool
  | unasked => true
  | returned _ => true
  | _ => false

/-- The call that the shutdown has made and waits for. -/
def call? : Closing → Option Nat
  | stopping k => some k
  | leaving k => some k
  | _ => none

/-- The connection is being closed or has been closed. -/
def hasLeft : Closing → Bool
  | leaving _ => true
  | returned _ => true
  | _ => false

end Closing

/-- A hub in service. -/
structure Service (H L S : Type) where
  working : Working H S
  link : L
  /-- The calls on the connection. -/
  calls : List (Ongoing H)
  /-- What has been asked of the link. -/
  issued : List (Issued H)
  /-- The token above those of the router and of the periodic tasks. -/
  token : Token
  routines : List Routine
  /-- The periodic tasks that no shutdown has waited for. -/
  tasks : List Nat
  closing : Closing

variable {L : Type}

namespace Bench

/-- The work of a periodic task before its first step. -/
def beginChore : Rehearsal.Chore → Reconcile (Except HandlerError Unit)
  | .sweep => .done (.ok ())
  | .scan offlineAfter => (Watchdog.check offlineAfter).run.bind fun _ => .done (.ok ())

/-- The work of a periodic task goes on until it is done or has to wait for the store. -/
def turnChore (s : Equipment H S) (wall : Moment) (k : Nat) (chore : Rehearsal.Chore)
    (p : Reconcile (Except HandlerError Unit)) (w : Bench S) :
    Option (Reconcile (Except HandlerError Unit)) × Bench S :=
  match chore with
  | .sweep => (none, { w with past := w.past ++ [.sweep] })
  | .scan _ =>
    match turn s wall k p w with
    | (.inl p, w) => (some p, w)
    | (.inr _, w) => (none, w)

/-- More may have happened at the desk, but no time has passed. -/
def Instant (w w' : Bench S) : Prop :=
  ∃ more, w'.past = w.past ++ more ∧ ∀ millis, .pass millis ∉ more

section Instant

variable {w w' w'' : Bench S}

theorem instant_refl (w : Bench S) : w.Instant w := ⟨[], (List.append_nil _).symm, nofun⟩

theorem instant_of_past (h : w'.past = w.past) : w.Instant w' :=
  ⟨[], h.trans (List.append_nil _).symm, nofun⟩

theorem instant_snoc {e : Exchange.Event} (h : w'.past = w.past ++ [e])
    (he : ∀ millis, e ≠ .pass millis) : w.Instant w' :=
  ⟨[e], h, fun millis hmem => he millis (List.mem_singleton.1 hmem).symm⟩

theorem Instant.trans (h : w.Instant w') (h' : w'.Instant w'') : w.Instant w'' := by
  obtain ⟨more, hmore, hpass⟩ := h
  obtain ⟨more', hmore', hpass'⟩ := h'
  refine ⟨more ++ more', by rw [hmore', hmore, List.append_assoc], fun millis hmem => ?_⟩
  exact (List.mem_append.1 hmem).elim (hpass millis) (hpass' millis)

/-- What has happened at the desk is not undone. -/
theorem Instant.past (h : w.Instant w') : ∃ more, w'.past = w.past ++ more := by
  obtain ⟨more, hmore, -⟩ := h
  exact ⟨more, hmore⟩

end Instant

/-- The turn of a handler takes no time: all that it does at the desk is to acknowledge. -/
theorem instant_turn (s : Equipment H S) (wall : Moment) (k : Nat)
    (p : Reconcile (Except HandlerError Unit)) (w : Bench S) : w.Instant (turn s wall k p w).2 := by
  induction p generalizing k w with
  | done r =>
    rw [turn]
    exact w.instant_refl
  | call q next ih =>
    cases q with
    | clock =>
      rw [turn]
      exact ih wall k w
    | ack a =>
      rw [turn]
      exact Instant.trans (instant_snoc rfl (by simp)) (ih _ k _)
    | store q =>
      cases k with
      | zero =>
        rw [turn]
        exact w.instant_refl
      | succ k =>
        rw [turn]
        exact ih _ k _

theorem instant_turnChore (s : Equipment H S) (wall : Moment) (k : Nat) (chore : Rehearsal.Chore)
    (p : Reconcile (Except HandlerError Unit)) (w : Bench S) :
    w.Instant (turnChore s wall k chore p w).2 := by
  cases chore with
  | sweep => exact instant_snoc rfl (by simp)
  | scan offlineAfter =>
    have hturn := instant_turn s wall k p w
    rw [turnChore]
    split <;> next h => rwa [h] at hturn

end Bench

namespace Service

/-! ### Events -/

/-- What can happen at a hub in service. -/
inductive Event (H L S : Type) where
  /-- Something happens at the desk, or time passes. -/
  | desk (e : Exchange.Event)
  /-- A message arrives over the connection. -/
  | deliver (topic : String) (payload : Bytes)
  /-- The router is asked to route a message. -/
  | route (topic : String) (payload : Bytes)
  /-- A dispatch is polled; the store answers it `k` times at most. -/
  | attend (n : Nat) (wall : Moment) (k : Nat)
  /-- A periodic task is polled; it may look at its ticker without looking at its token. -/
  | tend (n : Nat) (wall : Moment) (k : Nat) (heeds : Bool)
  /-- A call on the connection begins or takes a step. -/
  | line (m : Move H)
  /-- The link and the store change for other reasons. -/
  | elsewhere (link : L) (store : S)
  | shutDown
  /-- The shutdown takes its next step. -/
  | proceed

/-- The connection, as its callers share it. -/
def shared (x : Service H L S) : Shared H L := ⟨x.working.broker, x.link, x.calls, x.issued⟩

def dispatch? (x : Service H L S) (n : Nat) : Option ReportDispatch := x.working.dispatch? n

/-- The handle of a periodic task answers. -/
def hasEnded (x : Service H L S) (n : Nat) : Bool := x.routines[n]?.all fun r => r.stage.hasEnded

/-- What a call has returned. -/
def returned? (x : Service H L S) (k : Nat) : Option Returned :=
  match x.calls[k]? with
  | some ⟨_, .done r⟩ => some r
  | _ => none

theorem calls_of_returned? {x : Service H L S} {k : Nat} {r : Returned}
    (h : x.returned? k = some r) : ∃ c, x.calls[k]? = some ⟨c, .done r⟩ := by
  rw [returned?] at h
  split at h
  · next c r' hc =>
    cases h
    exact ⟨c, hc⟩
  · cases h

/-- Something happens at the desk. -/
def happen (x : Service H L S) (e : Exchange.Event) : Service H L S :=
  { x with working := { x.working with
      bench := { x.working.bench with past := x.working.bench.past ++ [e] } } }

/-- Polls a periodic task. -/
def tend (s : Equipment H S) (x : Service H L S) (n : Nat) (wall : Moment) (k : Nat) (heeds : Bool)
    (r : Routine) : Service H L S :=
  let v := (x.working.exchange s).view wall
  let (stage, bench) := r.stage.poll (if heeds then v else { v with cancelled := [] }) r.token
    (Bench.beginChore r.chore) (Bench.turnChore s wall k r.chore) x.working.bench
  { x with working := { x.working with bench }, routines := x.routines.set n { r with stage } }

/-- The move on the connection that an event comes to. -/
def move? (x : Service H L S) : Event H L S → Option (Move H)
  | .line m => some m
  | .shutDown =>
    if x.closing.isResting then some (.begin (.unsubscribe Listening.patterns)) else none
  | .proceed =>
    match x.closing with
    | .joining [] => some (.begin .disconnect)
    | .stopping k => if (x.returned? k).isNone then some (.step k) else none
    | .leaving k => if (x.returned? k).isNone then some (.step k) else none
    | _ => none
  | _ => none

/-- The event is not a change of the store by somebody else. -/
def Event.LeavesStore (x : Service H L S) : Event H L S → Prop
  | .elsewhere _ store => store = x.working.bench.store
  | _ => True

/-- An event registers a filter: a call takes such a step. -/
def Event.Registers (filter : String) (x : Service H L S) : Event H L S → Prop
  | .line m => ∃ q, x.shared.request? m = some q ∧ q.Registers filter
  | _ => False

variable {s : Equipment H S} {x y : Service H L S} {e : Event H L S} {n : Nat} {filter : String}

/-! ### What a step leaves alone -/

/-- The dispatches, the periodic tasks and the store are as they were, and what has happened at the
desk has happened. -/
structure Spares (x y : Service H L S) : Prop where
  errands : y.working.errands = x.working.errands
  router : y.working.token = x.working.token
  routines : y.routines = x.routines
  store : y.working.bench.store = x.working.bench.store
  past : ∃ more, y.working.bench.past = x.working.bench.past ++ more

theorem spares_refl (x : Service H L S) : x.Spares x :=
  ⟨rfl, rfl, rfl, rfl, [], (List.append_nil _).symm⟩

theorem Spares.under (h : x.Spares y) (hx : x.working.Under) :
    y.working.Under := by
  rw [Working.Under, h.errands, h.router]
  exact hx

/-- All periodic tasks have ended. -/
def AtRest (x : Service H L S) : Prop := ∀ r ∈ x.routines, r.stage.hasEnded = true

/-- A periodic task that has ended is not moved by a poll. -/
theorem tend_of_hasEnded {r : Routine} (hr : x.routines[n]? = some r)
    (hended : r.stage.hasEnded = true) (wall : Moment) (k : Nat) (heeds : Bool) :
    x.tend s n wall k heeds r = x := by
  obtain ⟨hlt, rfl⟩ := List.getElem?_eq_some_iff.1 hr
  rw [tend, Periodic.poll_of_hasEnded hended]
  show ({ x with routines := x.routines.set n x.routines[n] } : Service H L S) = x
  rw [List.set_getElem_self]

/-- The poll of a periodic task takes no time. -/
theorem instant_tend (s : Equipment H S) (x : Service H L S) (n : Nat) (wall : Moment) (k : Nat)
    (heeds : Bool) (r : Routine) :
    x.working.bench.Instant (x.tend s n wall k heeds r).working.bench :=
  Periodic.world_of_poll x.working.bench.instant_refl fun p =>
    Bench.instant_turnChore s wall k r.chore p _

/-- The call that a shutdown waits for neither registers a filter nor subscribes to one. -/
def PartsQuietly (x : Service H L S) : Prop := ∀ k, x.closing.call? = some k →
  ∃ c, x.calls[k]? = some c ∧ c.rest.Within BrokerRequest.IsQuiet

/-- The step that a shutdown waits for is quiet. -/
theorem PartsQuietly.own (h : x.PartsQuietly) {k : Nat} (hk : x.closing.call? = some k)
    {q : BrokerRequest H} (hq : x.shared.request? (.step k) = some q) : q.IsQuiet := by
  obtain ⟨⟨c, rest⟩, hc, hwithin⟩ := h k hk
  cases rest with
  | done r =>
    rw [Shared.request?, show x.shared.calls = x.calls from rfl, hc] at hq
    cases hq
  | call q' next =>
    rw [Shared.request?_step hc] at hq
    cases hq
    exact hwithin.1

/-- The hub's own steps on the connection are quiet. -/
theorem PartsQuietly.quiet (h : x.PartsQuietly) {m : Move H} (hm : x.move? e = some m) :
    e = .line m ∨ ∀ q, x.shared.request? m = some q → q.IsQuiet := by
  cases e with
  | line m' =>
    cases hm
    exact Or.inl rfl
  | shutDown =>
    rw [move?] at hm
    split at hm
    · cases hm
      exact Or.inr nofun
    · cases hm
  | proceed =>
    right
    rw [move?] at hm
    split at hm
    · cases hm
      exact nofun
    · next k hk =>
      split at hm
      · cases hm
        exact fun q => h.own (by rw [hk]; rfl)
      · cases hm
    · next k hk =>
      split at hm
      · cases hm
        exact fun q => h.own (by rw [hk]; rfl)
      · cases hm
    · cases hm
  | _ => cases hm

/-! ### Steps -/

variable [Link L]

/-- A call on the connection begins or takes a step. -/
def line (x : Service H L S) (m : Move H) : Service H L S :=
  let c := x.shared.move m
  { x with
    working := { x.working with broker := c.broker }
    link := c.link
    calls := c.calls
    issued := c.issued }

/-- A shutdown begins: routing stops. -/
def shutDown (x : Service H L S) : Service H L S :=
  { (x.happen (.cancel x.working.token)).line (.begin (.unsubscribe Listening.patterns)) with
    closing := .stopping x.calls.length }

/-- The next step of a shutdown.  Whether a call has failed does not matter to it. -/
def proceed (x : Service H L S) : Service H L S :=
  match x.closing with
  | .stopping k =>
    match x.returned? k with
    | none => x.line (.step k)
    | some _ => { x.happen (.cancel x.token) with tasks := [], closing := .joining x.tasks }
  | .joining (n :: rest) => if x.hasEnded n then { x with closing := .joining rest } else x
  | .joining [] => { x.line (.begin .disconnect) with closing := .leaving x.calls.length }
  | .leaving k =>
    match x.returned? k with
    | none => x.line (.step k)
    | some r => { x with closing := .returned r }
  | _ => x

/-- What an event asks of the link. -/
def issues (x : Service H L S) (e : Event H L S) : List (Issued H) :=
  match x.move? e with
  | some m => x.shared.issuedAt m
  | none => []

/-- All that the next step of a shutdown can be. -/
inductive Proceeds (x : Service H L S) : Service H L S → Prop
  | waits : Proceeds x x
  | asks {k : Nat} (hk : x.closing.call? = some k) : Proceeds x (x.line (.step k))
  | stops {k : Nat} {r : Returned} (hk : x.closing = .stopping k) (hr : x.returned? k = some r) :
    Proceeds x { x.happen (.cancel x.token) with tasks := [], closing := .joining x.tasks }
  | joins {n : Nat} {rest : List Nat} (hn : x.closing = .joining (n :: rest))
    (hended : x.hasEnded n = true) : Proceeds x { x with closing := .joining rest }
  | leaves (hjoined : x.closing = .joining []) :
    Proceeds x { x.line (.begin .disconnect) with closing := .leaving x.calls.length }
  | returns {k : Nat} {r : Returned} (hk : x.closing = .leaving k) (hr : x.returned? k = some r) :
    Proceeds x { x with closing := .returned r }

theorem proceeds (x : Service H L S) : Proceeds x x.proceed := by
  rw [proceed]
  split
  · next k hk =>
    split
    · exact .asks (by rw [hk]; rfl)
    · next r hr => exact .stops hk hr
  · next n rest hn =>
    split
    · next hended => exact .joins hn hended
    · exact .waits
  · next hjoined => exact .leaves hjoined
  · next k hk =>
    split
    · exact .asks (by rw [hk]; rfl)
    · next r hr => exact .returns hk hr
  · exact .waits

theorem spares_line (x : Service H L S) (m : Move H) : x.Spares (x.line m) :=
  ⟨rfl, rfl, rfl, rfl, [], (List.append_nil _).symm⟩

/-- The steps of a shutdown touch neither dispatches nor periodic tasks nor the store. -/
theorem Proceeds.spares (h : Proceeds x y) : x.Spares y := by
  cases h with
  | waits => exact x.spares_refl
  | asks hk => exact x.spares_line _
  | stops hk hr => exact ⟨rfl, rfl, rfl, rfl, _, rfl⟩
  | joins hn hended => exact ⟨rfl, rfl, rfl, rfl, [], (List.append_nil _).symm⟩
  | leaves hjoined => exact ⟨rfl, rfl, rfl, rfl, [], (List.append_nil _).symm⟩
  | returns hk hr => exact ⟨rfl, rfl, rfl, rfl, [], (List.append_nil _).symm⟩

theorem PartsQuietly.begin {c : Registry.Call H}
    (hclosing : y.closing.call? = some x.calls.length)
    (hcalls : y.calls = (x.line (.begin c)).calls)
    (hc : (c.operation x.working.broker.settings.quality).Within BrokerRequest.IsQuiet) :
    y.PartsQuietly := by
  intro k hk
  obtain rfl : x.calls.length = k := Option.some.inj (hclosing.symm.trans hk)
  refine ⟨⟨c, c.operation x.working.broker.settings.quality⟩, ?_, hc⟩
  rw [hcalls]
  exact List.getElem?_concat_length

theorem PartsQuietly.line (h : x.PartsQuietly) (m : Move H) : (x.line m).PartsQuietly :=
  fun k hk => Shared.within_move (h k hk) m

theorem PartsQuietly.proceed (h : x.PartsQuietly) (hy : Proceeds x y) :
    y.PartsQuietly := by
  cases hy with
  | waits => exact h
  | asks hk => exact h.line _
  | stops hk hr => exact fun k hcall => nomatch hcall
  | joins hn hended => exact fun k hcall => nomatch hcall
  | leaves hjoined => exact .begin rfl rfl (Registry.Call.quiet_disconnect _)
  | returns hk hr => exact fun k hcall => nomatch hcall

/-- **Who asks for an absent filter**: a call that has been in progress before. -/
theorem asked_before (h : Shared.Absent filter n x.shared) (hquiet : x.PartsQuietly) {i : Issued H}
    (hi : i ∈ x.issues e) {quality : Quality} (hrequest : i.request = .subscribe filter quality) :
    ∃ k, k < n ∧ e = .line (.step k) := by
  rw [issues] at hi
  split at hi
  · next m hm =>
    obtain ⟨k, hk, rfl⟩ := h.before hi hrequest
    rcases hquiet.quiet hm with rfl | hown
    · exact ⟨k, hk, rfl⟩
    · rw [Shared.issuedAt] at hi
      split at hi
      · next q hq =>
        exact absurd (BrokerRequest.subscribes_of_mem hi hrequest) (hown q hq).not_subscribes
      · cases hi
  · cases hi

variable [DecidableEq H]

/-- What comes of an event.  Tasks that are not there are not polled. -/
def step (s : Equipment H S) (x : Service H L S) : Event H L S → Service H L S
  | .desk e => x.happen e
  | .deliver topic payload => { x with working := x.working.deliver s topic payload }
  | .route topic payload =>
    { x with working := { x.working with
        errands := x.working.errands ++ [⟨.fresh topic payload, false⟩] } }
  | .attend n wall k => { x with working := x.working.step s (.attend n wall k) }
  | .tend n wall k heeds =>
    match x.routines[n]? with
    | some r => x.tend s n wall k heeds r
    | none => x
  | .line m => x.line m
  | .elsewhere link store =>
    { x with link, working := { x.working with bench := { x.working.bench with store } } }
  | .shutDown => if x.closing.isResting then x.shutDown else x
  | .proceed => x.proceed

/-- The hub after a list of events. -/
def play (s : Equipment H S) (x : Service H L S) (es : List (Event H L S)) : Service H L S :=
  Run.after (step s) x es

theorem play_append (s : Equipment H S) (x : Service H L S) (es es' : List (Event H L S)) :
    play s x (es ++ es') = play s (play s x es) es' :=
  Run.after_append es es'

theorem play_snoc (s : Equipment H S) (x : Service H L S) (es : List (Event H L S))
    (e : Event H L S) : play s x (es ++ [e]) = (play s x es).step s e :=
  Run.after_snoc es e

/-! ### What a step does -/

/-- **What an event does to the connection**: it is one move, or it changes its link and its permits
at most. -/
theorem connection_step (s : Equipment H S) (x : Service H L S) (e : Event H L S) :
    (∃ m, x.move? e = some m ∧ (x.step s e).shared = x.shared.move m) ∨
      (x.move? e = none ∧ x.shared.Alike (x.step s e).shared) := by
  cases e with
  | line m => exact Or.inl ⟨m, rfl, rfl⟩
  | shutDown =>
    rw [step, move?]
    split
    · exact Or.inl ⟨_, rfl, rfl⟩
    · exact Or.inr ⟨rfl, rfl, rfl, rfl, rfl⟩
  | proceed =>
    rw [step, move?, proceed]
    cases x.closing with
    | unasked => exact Or.inr ⟨rfl, rfl, rfl, rfl, rfl⟩
    | returned r => exact Or.inr ⟨rfl, rfl, rfl, rfl, rfl⟩
    | stopping k =>
      dsimp only
      cases x.returned? k with
      | none => exact Or.inl ⟨_, rfl, rfl⟩
      | some r => exact Or.inr ⟨rfl, rfl, rfl, rfl, rfl⟩
    | joining tasks =>
      match tasks with
      | [] => exact Or.inl ⟨_, rfl, rfl⟩
      | n :: rest =>
        refine Or.inr ⟨rfl, ?_⟩
        dsimp only
        split <;> exact ⟨rfl, rfl, rfl, rfl⟩
    | leaving k =>
      dsimp only
      cases x.returned? k with
      | none => exact Or.inl ⟨_, rfl, rfl⟩
      | some r => exact Or.inr ⟨rfl, rfl, rfl, rfl, rfl⟩
  | attend n wall k =>
    refine Or.inr ⟨rfl, ?_⟩
    rw [step, Working.step]
    split
    · rw [Working.attend]
      dsimp only
      split <;> exact ⟨rfl, rfl, rfl, rfl⟩
    · exact ⟨rfl, rfl, rfl, rfl⟩
  | tend n wall k heeds =>
    refine Or.inr ⟨rfl, ?_⟩
    rw [step]
    split <;> exact ⟨rfl, rfl, rfl, rfl⟩
  | _ => exact Or.inr ⟨rfl, rfl, rfl, rfl, rfl⟩

theorem issued_step (s : Equipment H S) (x : Service H L S) (e : Event H L S) :
    (x.step s e).issued = x.issued ++ x.issues e := by
  rcases x.connection_step s e with ⟨m, hm, hshared⟩ | ⟨hm, hsame⟩
  · have hissued : (x.step s e).issued = (x.shared.move m).issued := congrArg Shared.issued hshared
    rw [hissued, issues, hm]
    exact Shared.issued_move x.shared m
  · rw [issues, hm]
    exact hsame.issued.trans (List.append_nil _).symm

/-- A connection that has been closed stays closed. -/
theorem connected_step (h : x.working.broker.connected = false) (s : Equipment H S)
    (e : Event H L S) : (x.step s e).working.broker.connected = false := by
  show (x.step s e).shared.broker.connected = false
  rcases x.connection_step s e with ⟨m, -, hshared⟩ | ⟨-, hsame⟩
  · rw [hshared]
    exact Shared.connected_move h m
  · rw [hsame.connected]
    exact h

theorem spares_shutDown (s : Equipment H S) (x : Service H L S) :
    x.Spares (x.step s .shutDown) := by
  rw [step]
  split
  · exact ⟨rfl, rfl, rfl, rfl, _, rfl⟩
  · exact x.spares_refl

/-- **Dispatches stay under the token of the router**, which no step replaces. -/
theorem under_step (h : x.working.Under) (s : Equipment H S) (e : Event H L S) :
    (x.step s e).working.Under := by
  cases e with
  | desk e => exact h
  | line m => exact h
  | elsewhere link store => exact h
  | shutDown => exact (spares_shutDown s x).under h
  | proceed => exact x.proceeds.spares.under h
  | deliver topic payload =>
    refine h.append fun a ha => ?_
    obtain ⟨router, -, rfl⟩ := List.mem_map.1 ha
    exact ⟨topic, payload, rfl⟩
  | route topic payload =>
    refine h.append (b := x.working.broker) fun a ha => ?_
    obtain rfl := List.mem_singleton.1 ha
    exact ⟨topic, payload, rfl⟩
  | attend n wall k =>
    rw [step, Working.step]
    split
    · next a ha => exact h.attend (List.mem_of_getElem? ha)
    · exact h
  | tend n wall k heeds =>
    rw [step]
    split <;> exact h

/-- No step replaces the token of the router. -/
theorem token_step (s : Equipment H S) (x : Service H L S) (e : Event H L S) :
    (x.step s e).working.token = x.working.token := by
  cases e with
  | shutDown => exact (spares_shutDown s x).router
  | proceed => exact x.proceeds.spares.router
  | attend n wall k =>
    rw [step, Working.step]
    split <;> rfl
  | tend n wall k heeds =>
    rw [step]
    split <;> rfl
  | _ => rfl

/-- **A router that is sealed stays sealed.** -/
theorem sealed_step (h : x.working.Sealed s) (e : Event H L S) : (x.step s e).working.Sealed s := by
  have hsame : (x.step s e).working.bench.past = x.working.bench.past →
      ∃ more, (x.step s e).working.bench.past = x.working.bench.past ++ more :=
    fun hpast => ⟨[], hpast.trans (List.append_nil _).symm⟩
  refine h.mono (under_step h.under s e) (token_step s x e) ?_
  cases e with
  | desk e => exact ⟨[e], rfl⟩
  | shutDown => exact (spares_shutDown s x).past
  | proceed => exact x.proceeds.spares.past
  | attend n wall k => exact hsame (congrArg Bench.past (h.bench_attend n wall k))
  | tend n wall k heeds =>
    rw [step] at hsame ⊢
    split
    · next r _ => exact (instant_tend s x n wall k heeds r).past
    · exact ⟨[], (List.append_nil _).symm⟩
  | _ => exact hsame rfl

theorem atRest_step (h : x.AtRest) (s : Equipment H S) (e : Event H L S) :
    (x.step s e).AtRest := by
  cases e with
  | shutDown =>
    rw [AtRest, (spares_shutDown s x).routines]
    exact h
  | proceed =>
    show ∀ r ∈ x.proceed.routines, _
    rw [x.proceeds.spares.routines]
    exact h
  | tend n wall k heeds =>
    rw [step]
    split
    · next r hr =>
      rw [tend_of_hasEnded hr (h r (List.mem_of_getElem? hr))]
      exact h
    · exact h
  | _ => exact h

/-- **Nothing touches the store** once the router is sealed and the periodic tasks have ended. -/
theorem store_step (hsealed : x.working.Sealed s) (hrest : x.AtRest) (he : e.LeavesStore x) :
    (x.step s e).working.bench.store = x.working.bench.store := by
  cases e with
  | elsewhere link store => exact he
  | shutDown => exact (spares_shutDown s x).store
  | proceed => exact x.proceeds.spares.store
  | attend n wall k => exact congrArg Bench.store (hsealed.bench_attend n wall k)
  | tend n wall k heeds =>
    rw [step]
    split
    · next r hr => rw [tend_of_hasEnded hr (hrest r (List.mem_of_getElem? hr))]
    · rfl
  | _ => rfl

theorem partsQuietly_step (h : x.PartsQuietly) (s : Equipment H S) (e : Event H L S) :
    (x.step s e).PartsQuietly := by
  cases e with
  | line m => exact h.line m
  | shutDown =>
    rw [step]
    split
    · exact .begin rfl rfl (Registry.Call.quiet_unsubscribe _ _)
    · exact h
  | proceed =>
    exact h.proceed x.proceeds
  | tend n wall k heeds =>
    rw [step]
    split <;> exact h
  | _ => exact h

/-- **A filter that is absent stays so** as long as no caller registers it. -/
theorem absent_step (h : Shared.Absent filter n x.shared) (hquiet : x.PartsQuietly)
    (he : ¬ e.Registers filter x) (s : Equipment H S) :
    Shared.Absent filter n (x.step s e).shared := by
  rcases x.connection_step s e with ⟨m, hm, hshared⟩ | ⟨-, hsame⟩
  · rw [hshared]
    refine h.move fun q hq hregisters => ?_
    rcases hquiet.quiet hm with rfl | hown
    · exact he ⟨q, hq, hregisters⟩
    · exact (hown q hq).not_registers hregisters
  · exact h.alike hsame

/-! ### Runs -/

section Runs

variable {es : List (Event H L S)}

/-- **What has been asked of the link** is what the events of a run ask for, one after the other. -/
theorem issued_play (s : Equipment H S) (x : Service H L S) (es : List (Event H L S)) :
    (play s x es).issued = x.issued ++ Run.gather (step s) issues x es := by
  induction es using List.reverseRecOn with
  | nil => exact (List.append_nil _).symm
  | append_singleton es e ih =>
    rw [play_snoc, issued_step, ih, Run.gather_snoc, List.append_assoc]
    rfl

theorem sealed_play (h : x.working.Sealed s) (es : List (Event H L S)) :
    (play s x es).working.Sealed s := by
  induction es using List.reverseRecOn with
  | nil => exact h
  | append_singleton es e ih =>
    rw [play_snoc]
    exact sealed_step ih e

theorem atRest_play (h : x.AtRest) (s : Equipment H S) (es : List (Event H L S)) :
    (play s x es).AtRest := by
  induction es using List.reverseRecOn with
  | nil => exact h
  | append_singleton es e ih =>
    rw [play_snoc]
    exact atRest_step ih s e

theorem connected_play (h : x.working.broker.connected = false) (s : Equipment H S)
    (es : List (Event H L S)) : (play s x es).working.broker.connected = false := by
  induction es using List.reverseRecOn with
  | nil => exact h
  | append_singleton es e ih =>
    rw [play_snoc]
    exact connected_step ih s e

theorem store_play (hsealed : x.working.Sealed s) (hrest : x.AtRest)
    (hes : Run.Along (step s) (fun x e => e.LeavesStore x) x es) :
    (play s x es).working.bench.store = x.working.bench.store :=
  hes.invariant (P := fun _ y => y.working.bench.store = x.working.bench.store) rfl
    fun es _ _ hstore he =>
      (store_step (sealed_play hsealed es) (atRest_play hrest s es) he).trans hstore

theorem partsQuietly_play (h : x.PartsQuietly) (s : Equipment H S) (es : List (Event H L S)) :
    (play s x es).PartsQuietly := by
  induction es using List.reverseRecOn with
  | nil => exact h
  | append_singleton es e ih =>
    rw [play_snoc]
    exact partsQuietly_step ih s e

theorem absent_play (h : Shared.Absent filter n x.shared) (hquiet : x.PartsQuietly)
    (hes : Run.Along (step s) (fun x e => ¬ e.Registers filter x) x es) :
    Shared.Absent filter n (play s x es).shared :=
  hes.invariant (P := fun _ y => Shared.Absent filter n y.shared) h
    fun es _ _ hy he => absent_step hy (partsQuietly_play hquiet s es) he s

end Runs

end Service

end Hub

end LockFleet
