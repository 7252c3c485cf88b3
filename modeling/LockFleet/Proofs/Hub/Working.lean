import LockFleet.Proofs.Command.Delivery
import LockFleet.Proofs.Hub.Dispatching
import LockFleet.Proofs.Router.Addressing
import LockFleet.Proofs.Router.Relay

/-!
# A hub at work

Senders wait at the desk of a hub, messages arrive over its connection and start dispatches of
reports, and all of them take turns.  The connection, the store and the token of the router may also
change for other reasons.  An acknowledgement reaches the desk through the dispatch of a report
unless somebody hands it over directly; its handler needs nothing but the desk, so that it ends at
its first poll.

* `Hub.Equipment`, `Hub.Working` — what a hub works with, and where it stands;
* `Bench.turn` — a handler goes on;
* `Working.Event`, `Working.step`, `Working.play` — what can happen, and what comes of it;
* `Working.Expected`, `Working.Promised` — what is expected of the surroundings;
* `Working.polled_cases` — all that the poll of a dispatch can do;
* `Working.Sound`, `Working.sound` — where dispatches and acknowledgements come from.
-/

namespace LockFleet

/-! ### Handlers without acknowledgements -/

/-- A request that has nothing to do with the desk. -/
def ReconcileRequest.IsPlain : ReconcileRequest → Prop
  | .ack _ => False
  | _ => True

namespace Reconciler

theorem recordNow_within (id : Int64) (kind : EntryKind) (content : Option String) :
    (recordNow id kind content).run.Within ReconcileRequest.IsPlain := by
  refine ⟨trivial, fun time => ⟨trivial, fun r => ?_⟩⟩
  match r with
  | .error e => trivial
  | .ok () => trivial

theorem onHeartbeat_within (number : String) (h : Heartbeat) :
    (onHeartbeat number h).run.Within ReconcileRequest.IsPlain := by
  refine ⟨trivial, fun r => ?_⟩
  match r with
  | .error e => trivial
  | .ok none => trivial
  | .ok (some d) =>
    refine ⟨trivial, fun time => ⟨trivial, fun r => ?_⟩⟩
    match r with
    | .error e => trivial
    | .ok () =>
      refine ⟨trivial, fun r => ?_⟩
      match r with
      | .error e => trivial
      | .ok false => trivial
      | .ok true => exact recordNow_within d.id .online none

theorem onStatus_within (number : String) (s : StatusReport) :
    (onStatus number s).run.Within ReconcileRequest.IsPlain := by
  refine ⟨trivial, fun r => ?_⟩
  match r with
  | .error e => trivial
  | .ok none => trivial
  | .ok (some d) =>
    refine ⟨trivial, fun r => ?_⟩
    match r with
    | .error e => trivial
    | .ok () => trivial

theorem applyEvent_within (id : Int64) (kind : EventKind) {f : Unit → Handling Unit}
    (hf : (f ()).run.Within ReconcileRequest.IsPlain) :
    (applyEvent id kind >>= f).run.Within ReconcileRequest.IsPlain := by
  cases kind with
  | other name => exact hf
  | _ =>
    refine ⟨trivial, fun r => ?_⟩
    match r with
    | .error e => trivial
    | .ok () => exact hf

theorem onEvent_within (number : String) (e : EventReport) :
    (onEvent number e).run.Within ReconcileRequest.IsPlain := by
  refine ⟨trivial, fun r => ?_⟩
  match r with
  | .error e => trivial
  | .ok none => trivial
  | .ok (some d) => exact applyEvent_within d.id e.kind (recordNow_within _ _ _)

/-- Only the report of an acknowledgement has to do with the desk. -/
theorem handle_within {m : Message} (h : ∀ a, m.report ≠ .ack a) :
    (handle m).run.Within ReconcileRequest.IsPlain := by
  obtain ⟨number, r⟩ := m
  cases r with
  | heartbeat b => exact onHeartbeat_within number b
  | status b => exact onStatus_within number b
  | event b => exact onEvent_within number b
  | ack a => exact absurd rfl (h a)

end Reconciler

namespace Hub

/-- What a hub works with.  Its store may be of any kind. -/
structure Equipment (H S : Type) where
  router : H
  routing : RouterClock
  desk : DeskClock
  /-- Serves a request of a handler. -/
  serve : (q : StoreRequest) → S → Except StoreError q.Answer × S

/-- What the handlers of reports work on: the desk, by all that has happened at it, and the
store. -/
structure Bench (S : Type) where
  past : List Exchange.Event
  store : S

/-- A hub at work. -/
structure Working (H S : Type) where
  broker : Broker H
  bench : Bench S
  /-- The token above every dispatch that begins. -/
  token : Token
  errands : List (Errand (Reconcile (Except HandlerError Unit)))

variable {H S : Type}

/-! ### Handlers -/

namespace Bench

/-- A handler goes on until it ends or has to wait for the store, which answers it a number of times
at most.  It never waits for the clock or for the desk. -/
def turn (s : Equipment H S) (wall : Moment) :
    Nat → Dispatch.Step (Reconcile (Except HandlerError Unit)) (Bench S)
  | _, .done r, w => (.inr r, w)
  | k, .call .clock next, w => turn s wall k (next wall) w
  | k, .call (.ack a) next, w =>
    turn s wall k (next ((Exchange.play s.desk w.past).desk.handleAck a).1)
      { w with past := w.past ++ [.acknowledge a] }
  | 0, .call (.store q) next, w => (.inl (.call (.store q) next), w)
  | k + 1, .call (.store q) next, w =>
    turn s wall k (next (s.serve q w.store).1) { w with store := (s.serve q w.store).2 }

variable {s : Equipment H S} {wall : Moment} {k : Nat} {p : Reconcile (Except HandlerError Unit)}

/-- A handler without acknowledgements leaves the desk alone, and remains one. -/
theorem turn_plain (s : Equipment H S) (wall : Moment) (k : Nat) (w : Bench S)
    (hp : p.Within ReconcileRequest.IsPlain) :
    (turn s wall k p w).2.past = w.past ∧
      ∀ p', (turn s wall k p w).1 = .inl p' → p'.Within ReconcileRequest.IsPlain := by
  induction p generalizing k w with
  | done r =>
    rw [turn]
    exact ⟨rfl, nofun⟩
  | call q next ih =>
    cases q with
    | ack a => exact hp.1.elim
    | clock =>
      rw [turn]
      exact ih wall _ _ (hp.2 wall)
    | store q =>
      cases k with
      | zero =>
        rw [turn]
        refine ⟨rfl, fun p' h => ?_⟩
        cases h
        exact hp
      | succ k =>
        rw [turn]
        exact ih _ _ _ (hp.2 _)

/-- The handler of an acknowledgement hands it over at once. -/
theorem turn_ack (device : String) (a : Ack) (w : Bench S) :
    turn s wall k (Task.report ⟨device, .ack a⟩).program w =
      (.inr (.ok ()), { w with past := w.past ++ [.acknowledge a] }) :=
  rfl

/-- A dispatch whose handler, if it is at work, has nothing to do with the desk. -/
def IsPlain : ReportDispatch → Prop
  | .running _ _ handler => handler.Within ReconcileRequest.IsPlain
  | _ => True

/-- What the poll of such a dispatch leads to: the desk is left alone. -/
structure Spares (w : Bench S) (polled : ReportDispatch × Bench S) : Prop where
  past : polled.2.past = w.past
  plain : IsPlain polled.1
  begun : ∀ topic payload, polled.1 ≠ .fresh topic payload

theorem spares_ended (w : Bench S) (outcome : RouteOutcome) : w.Spares (.ended outcome, w) :=
  ⟨rfl, True.intro, nofun⟩

theorem spares_proceed {v : View} {token : Token} {alarm : Alarm}
    (hp : p.Within ReconcileRequest.IsPlain) (w : Bench S) :
    w.Spares (Dispatch.proceed v (turn s wall k) token alarm p w) := by
  obtain ⟨hpast, hplain⟩ := turn_plain s wall k w hp
  rw [Dispatch.proceed]
  by_cases hcancelled : v.isCancelled token = true
  · rw [if_pos hcancelled]
    exact w.spares_ended .cancelled
  rw [if_neg hcancelled]
  generalize turn s wall k p w = turned at hpast hplain
  obtain ⟨p' | result, w'⟩ := turned
  · dsimp only
    by_cases hdue : v.isDue alarm = true
    · rw [if_pos hdue]
      exact ⟨hpast, True.intro, by rintro topic payload ⟨⟩⟩
    · rw [if_neg hdue]
      exact ⟨hpast, hplain p' rfl, by rintro topic payload ⟨⟩⟩
  · exact ⟨hpast, True.intro, by rintro topic payload ⟨⟩⟩

end Bench

/-! ### Events -/

namespace Working

/-- What can happen at a hub. -/
inductive Event (H S : Type) where
  /-- Something happens at the desk. -/
  | desk (e : Exchange.Event)
  /-- A message arrives over the connection. -/
  | deliver (topic : String) (payload : Bytes)
  /-- A dispatch is polled; the store answers it `k` times at most. -/
  | attend (n : Nat) (wall : Moment) (k : Nat)
  /-- The connection, the store and the token of the router change for other reasons. -/
  | elsewhere (broker : Broker H) (store : S) (token : Token)

/-- A hub where nothing has happened. -/
def idle (broker : Broker H) (store : S) (token : Token) : Working H S :=
  ⟨broker, ⟨[], store⟩, token, []⟩

/-- The desk and its senders. -/
def exchange (s : Equipment H S) (x : Working H S) : Exchange := Exchange.play s.desk x.bench.past

def dispatch? (x : Working H S) (n : Nat) : Option ReportDispatch :=
  x.errands[n]?.map Errand.dispatch

/-- What the poll of a dispatch leads to. -/
def polled (s : Equipment H S) (x : Working H S) (wall : Moment) (k : Nat) (d : ReportDispatch) :
    ReportDispatch × Bench S :=
  d.poll ((x.exchange s).view wall) s.routing x.token (fun m => (Task.report m).program)
    (Bench.turn s wall k) x.bench

/-- Polls a dispatch; one that ends gives its permit back. -/
def attend (s : Equipment H S) (x : Working H S) (n : Nat) (wall : Moment) (k : Nat)
    (a : Errand (Reconcile (Except HandlerError Unit))) : Working H S :=
  let (d, bench) := x.polled s wall k a.dispatch
  let released := a.permit && d.hasEnded
  { x with
    broker := if released then x.broker.release else x.broker
    bench
    errands := x.errands.set n ⟨d, a.permit && !released⟩ }

/-! ### Polls of dispatches -/

variable {s : Equipment H S} {x : Working H S} {es : List (Event H S)} {e : Event H S}
  {wall : Moment} {k n : Nat} {keeps : Broker H → Prop}

/-- The dispatch of an acknowledgement ends at its first poll.  It does not matter which device
reports it. -/
theorem polled_ack {topic device : String} {payload : Bytes} {a : Ack}
    (h : Message.decode topic payload = .ok ⟨device, .ack a⟩) :
    x.polled s wall k (.fresh topic payload) =
      if x.token.isCancelled (x.exchange s).cancelled then (.ended .cancelled, x.bench)
      else (.ended .dispatched, { x.bench with past := x.bench.past ++ [.acknowledge a] }) := by
  rw [polled, Dispatch.poll, Dispatch.begin, h]
  dsimp only
  rw [Dispatch.proceed, Bench.turn_ack]
  rfl

/-- **All that the poll of a dispatch can do to the desk**: nothing, unless it hands over the
acknowledgement that it was started with. -/
theorem polled_cases {d : ReportDispatch} (hd : Bench.IsPlain d) :
    x.bench.Spares (x.polled s wall k d) ∨ ∃ topic payload device a, d = .fresh topic payload ∧
      Message.decode topic payload = .ok ⟨device, .ack a⟩ ∧ x.polled s wall k d =
        (.ended .dispatched, { x.bench with past := x.bench.past ++ [.acknowledge a] }) := by
  cases d with
  | ended outcome => exact Or.inl (x.bench.spares_ended outcome)
  | running token alarm handler => exact Or.inl (Bench.spares_proceed hd x.bench)
  | fresh topic payload =>
    cases hm : Message.decode topic payload with
    | error e =>
      rw [polled, Dispatch.poll, Dispatch.begin, hm]
      exact Or.inl (x.bench.spares_ended .dropped)
    | ok m =>
      by_cases hack : ∃ a, m.report = .ack a
      · obtain ⟨device, r⟩ := m
        obtain ⟨a, rfl⟩ := hack
        rw [polled_ack hm]
        split
        · exact Or.inl (x.bench.spares_ended .cancelled)
        · exact Or.inr ⟨topic, payload, device, a, rfl, hm, rfl⟩
      · rw [polled, Dispatch.poll, Dispatch.begin, hm]
        exact Or.inl (Bench.spares_proceed
          (Reconciler.handle_within fun a ha => hack ⟨a, ha⟩) x.bench)

/-! ### Where dispatches and acknowledgements come from -/

/-- The acknowledgement has come as a report of some device. -/
def Reported (es : List (Event H S)) (a : Ack) : Prop :=
  ∃ device payload, device ≠ "" ∧ '/' ∉ device.toList ∧
    .deliver (Topic.report device ReportKind.ack.name) payload ∈ es ∧
    Message.decode (Topic.report device ReportKind.ack.name) payload = .ok ⟨device, .ack a⟩

theorem Reported.snoc {a : Ack} (h : Reported es a) (e : Event H S) : Reported (es ++ [e]) a := by
  obtain ⟨device, payload, hdevice, hslash, hmem, hdecode⟩ := h
  exact ⟨device, payload, hdevice, hslash, List.mem_append_left _ hmem, hdecode⟩

/-- The message has arrived on the topic of a report. -/
def Arrived (es : List (Event H S)) (topic : String) (payload : Bytes) : Prop :=
  .deliver topic payload ∈ es ∧ ∃ p ∈ Listening.patterns, Topic.selects p topic = true

theorem Arrived.snoc {topic : String} {payload : Bytes} (h : Arrived es topic payload)
    (e : Event H S) : Arrived (es ++ [e]) topic payload :=
  ⟨List.mem_append_left _ h.1, h.2⟩

/-- An acknowledgement that has arrived has been reported. -/
theorem Arrived.reported {topic device : String} {payload : Bytes} {a : Ack}
    (h : Arrived es topic payload) (hm : Message.decode topic payload = .ok ⟨device, .ack a⟩) :
    Reported es a := by
  obtain ⟨hmem, p, hp, hselects⟩ := h
  obtain ⟨hdevice, hslash, htopic⟩ := Message.topic_of_decode hp hselects hm
  subst htopic
  exact ⟨device, payload, hdevice, hslash, hmem, hm⟩

/-- An acknowledgement has come as a report, or it has been handed to the desk in another way. -/
def Given (es : List (Event H S)) (a : Ack) : Prop := Reported es a ∨ .desk (.acknowledge a) ∈ es

theorem Given.snoc {a : Ack} (h : Given es a) (e : Event H S) : Given (es ++ [e]) a :=
  h.imp (fun hreported => hreported.snoc e) (List.mem_append_left [e])

/-- A hub whose dispatches have all come over its connection. -/
structure Sound (s : Equipment H S) (es : List (Event H S)) (x : Working H S) : Prop where
  only : Listening.Only s.router x.broker.registry
  /-- New identifiers have differed from those of the senders in progress. -/
  fresh : Run.Along Exchange.step Exchange.FreshAt (Exchange.start s.desk) x.bench.past
  arrived : ∀ r ∈ x.errands, ∀ topic payload, r.dispatch = .fresh topic payload →
    Arrived es topic payload
  plain : ∀ r ∈ x.errands, Bench.IsPlain r.dispatch
  given : ∀ a, .acknowledge a ∈ x.bench.past → Given es a

/-- The poll of a dispatch hands over an acknowledgement only if that has been reported. -/
theorem Sound.polled (h : Sound s es x) {r : Errand (Reconcile (Except HandlerError Unit))}
    (hr : r ∈ x.errands) (wall : Moment) (k : Nat) :
    Bench.IsPlain (x.polled s wall k r.dispatch).1 ∧
      (∀ topic payload, (x.polled s wall k r.dispatch).1 ≠ .fresh topic payload) ∧
      ((x.polled s wall k r.dispatch).2.past = x.bench.past ∨ ∃ a, Reported es a ∧
        (x.polled s wall k r.dispatch).2.past = x.bench.past ++ [.acknowledge a]) := by
  rcases polled_cases (h.plain r hr) with hspares | ⟨topic, payload, _, a, hd, hm, hpolled⟩
  · exact ⟨hspares.plain, hspares.begun, Or.inl hspares.past⟩
  · rw [hpolled]
    exact ⟨True.intro, nofun, Or.inr ⟨a, (h.arrived r hr topic payload hd).reported hm, rfl⟩⟩

theorem Sound.attend (h : Sound s es x) {r : Errand (Reconcile (Except HandlerError Unit))}
    (hr : x.errands[n]? = some r) (wall : Moment) (k : Nat) :
    Sound s (es ++ [.attend n wall k]) (x.attend s n wall k r) := by
  obtain ⟨hplain, hbegun, hpast⟩ := h.polled (List.mem_of_getElem? hr) wall k
  have hset : ∀ r' ∈ (x.attend s n wall k r).errands,
      r' ∈ x.errands ∨ r'.dispatch = (x.polled s wall k r.dispatch).1 := by
    intro r' hr'
    rcases List.mem_or_eq_of_mem_set hr' with hr' | rfl
    · exact Or.inl hr'
    · exact Or.inr rfl
  have hbench : (x.attend s n wall k r).bench = (x.polled s wall k r.dispatch).2 := rfl
  refine ⟨?_, ?_, fun r' hr' topic payload hd => ?_, fun r' hr' => ?_, fun a ha => ?_⟩
  · rw [Working.attend]
    dsimp only
    split <;> exact h.only
  · rw [hbench]
    rcases hpast with hsame | ⟨a, -, hmore⟩
    · rw [hsame]
      exact h.fresh
    · rw [hmore]
      exact (Run.along_snoc _ _).2 ⟨h.fresh, True.intro⟩
  · rcases hset r' hr' with hr' | hr'
    · exact (h.arrived r' hr' topic payload hd).snoc _
    · exact absurd (hr'.symm.trans hd) (hbegun topic payload)
  · rcases hset r' hr' with hr' | hr'
    · exact h.plain r' hr'
    · rw [hr']
      exact hplain
  · rw [hbench] at ha
    rcases hpast with hsame | ⟨b, hreported, hmore⟩
    · rw [hsame] at ha
      exact (h.given a ha).snoc _
    · rw [hmore] at ha
      rcases List.mem_append.1 ha with ha | ha
      · exact (h.given a ha).snoc _
      · cases List.mem_singleton.1 ha
        exact Or.inl (hreported.snoc _)

/-! ### Runs -/

/-- New identifiers differ from those of the senders in progress, and the connection keeps some
property. -/
def Expected (s : Equipment H S) (keeps : Broker H → Prop) (x : Working H S) : Event H S → Prop
  | .desk e => (x.exchange s).FreshAt e
  | .elsewhere broker _ _ => keeps broker
  | _ => True

/-- In addition, acknowledgements come as reports only. -/
def Promised (s : Equipment H S) (keeps : Broker H → Prop) (x : Working H S) : Event H S → Prop
  | .desk e => (∀ a, e ≠ .acknowledge a) ∧ (x.exchange s).FreshAt e
  | .elsewhere broker _ _ => keeps broker
  | _ => True

theorem Promised.expected (he : Promised s keeps x e) : Expected s keeps x e := by
  cases e with
  | desk e => exact he.2
  | elsewhere broker store token => exact he
  | deliver topic payload => exact True.intro
  | attend n wall k => exact True.intro

theorem Promised.reports (he : Promised s keeps x e) (a : Ack) : e ≠ .desk (.acknowledge a) := by
  rintro rfl
  exact he.1 a rfl

variable [DecidableEq H]

/-- A message arrives, and the router begins to dispatch it if it gets a permit. -/
def deliver (s : Equipment H S) (x : Working H S) (topic : String) (payload : Bytes) :
    Working H S :=
  let (started, broker) := x.broker.accept topic
  { x with
    broker
    errands := x.errands ++
      (started.filter (· = s.router)).map fun _ => ⟨.fresh topic payload, true⟩ }

/-- What comes of an event.  Dispatches that are not there are not polled. -/
def step (s : Equipment H S) (x : Working H S) : Event H S → Working H S
  | .desk e => { x with bench := { x.bench with past := x.bench.past ++ [e] } }
  | .deliver topic payload => x.deliver s topic payload
  | .attend n wall k =>
    match x.errands[n]? with
    | some a => x.attend s n wall k a
    | none => x
  | .elsewhere broker store token => { x with broker, bench := { x.bench with store }, token }

/-- The hub after a list of events. -/
def play (s : Equipment H S) (x : Working H S) (es : List (Event H S)) : Working H S :=
  Run.after (step s) x es

theorem play_snoc (s : Equipment H S) (x : Working H S) (es : List (Event H S)) (e : Event H S) :
    play s x (es ++ [e]) = (play s x es).step s e :=
  Run.after_snoc es e

/-- A dispatch that is there is polled. -/
theorem step_attend {d : ReportDispatch} (hd : x.dispatch? n = some d) (wall : Moment) (k : Nat) :
    (x.step s (.attend n wall k)).bench = (x.polled s wall k d).2 ∧
      (x.step s (.attend n wall k)).dispatch? n = some (x.polled s wall k d).1 := by
  obtain ⟨r, hr, rfl⟩ := Option.map_eq_some_iff.1 hd
  rw [step, hr]
  refine ⟨rfl, ?_⟩
  show ((x.errands.set n _)[n]?).map Errand.dispatch = _
  rw [List.getElem?_set_self (List.getElem?_eq_some_iff.1 hr).1]
  rfl

namespace Sound

/-- A message starts a dispatch only if it arrives on the topic of a report. -/
theorem deliver (h : Sound s es x) (topic : String) (payload : Bytes) :
    Sound s (es ++ [.deliver topic payload]) (x.deliver s topic payload) where
  only := h.only
  fresh := h.fresh
  arrived r hr topic' payload' hd := by
    rcases List.mem_append.1 hr with hr | hr
    · exact (h.arrived r hr topic' payload' hd).snoc _
    · obtain ⟨router, hrouter, rfl⟩ := List.mem_map.1 hr
      obtain ⟨hmem, hself⟩ := List.mem_filter.1 hrouter
      cases hd
      obtain rfl := of_decide_eq_true hself
      exact ⟨List.mem_append_right es List.mem_cons_self, h.only.selects_of_mem hmem⟩
  plain r hr := by
    rcases List.mem_append.1 hr with hr | hr
    · exact h.plain r hr
    · obtain ⟨router, -, rfl⟩ := List.mem_map.1 hr
      exact True.intro
  given a ha := (h.given a ha).snoc _

/-- Every event that is to be expected keeps a hub sound. -/
theorem step (h : Sound s es x) (hkeeps : ∀ b, keeps b → Listening.Only s.router b.registry)
    (he : Expected s keeps x e) : Sound s (es ++ [e]) (x.step s e) := by
  have harrived : ∀ r ∈ x.errands, ∀ topic payload, r.dispatch = .fresh topic payload →
      Arrived (es ++ [e]) topic payload :=
    fun r hr topic payload hd => (h.arrived r hr topic payload hd).snoc e
  have hgiven : ∀ a, .acknowledge a ∈ x.bench.past → Given (es ++ [e]) a :=
    fun a ha => (h.given a ha).snoc e
  cases e with
  | deliver topic payload => exact h.deliver topic payload
  | elsewhere broker store token =>
    exact ⟨hkeeps broker he, h.fresh, harrived, h.plain, hgiven⟩
  | attend n wall k =>
    rw [Working.step]
    split
    · next r hr => exact h.attend hr wall k
    · exact ⟨h.only, h.fresh, harrived, h.plain, hgiven⟩
  | desk e =>
    refine ⟨h.only, (Run.along_snoc _ _).2 ⟨h.fresh, he⟩, harrived, h.plain, fun a ha => ?_⟩
    rcases List.mem_append.1 ha with ha | ha
    · exact hgiven a ha
    · rw [← List.mem_singleton.1 ha]
      exact Or.inr (List.mem_append_right es List.mem_cons_self)

end Sound

variable {broker : Broker H} {store : S} {token : Token}

/-- **Dispatches come over the connection**, and acknowledgements do unless they are handed to the
desk in another way. -/
theorem sound (hkeeps : ∀ b, keeps b → Listening.Only s.router b.registry)
    (hbroker : Listening.Only s.router broker.registry)
    (h : Run.Along (step s) (Expected s keeps) (idle broker store token) es) :
    Sound s es (play s (idle broker store token) es) :=
  h.invariant (P := Sound s) ⟨hbroker, True.intro, nofun, nofun, nofun⟩
    fun _ _ _ hsound he => hsound.step hkeeps he

/-- What the surroundings keep of the connection is not changed by the hub. -/
theorem kept (hcongr : ∀ b b', b'.registry = b.registry → keeps b → keeps b')
    (hbroker : keeps broker)
    (h : Run.Along (step s) (Expected s keeps) (idle broker store token) es) :
    keeps (play s (idle broker store token) es).broker := by
  refine h.invariant (P := fun _ x => keeps x.broker) hbroker fun es e _ hx he => ?_
  generalize Run.after (step s) (idle broker store token) es = x at hx he
  cases e with
  | desk e => exact hx
  | deliver topic payload => exact hcongr x.broker _ rfl hx
  | elsewhere broker store token => exact he
  | attend n wall k =>
    rw [step]
    split
    · refine hcongr x.broker _ ?_ hx
      rw [attend]
      dsimp only
      split <;> rfl
    · exact hx

end Working

end Hub

end LockFleet
