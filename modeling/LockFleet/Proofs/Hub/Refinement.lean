import LockFleet.Broker.RecordingLink
import LockFleet.Proofs.Hub.Dispatching
import LockFleet.Proofs.Hub.Foretold
import LockFleet.Proofs.Hub.Listening

/-!
# A hub and its fleet

A hub that has been started takes messages of any content from its connection.  What it does to the
store is what the messages do to the fleet: whether a message is routed, decoded, looked up and
brought into the store by a handler over several polls, or dropped on the way, the fleet has taken
it in or ignored it in one step.

* `Hub.Live`, `Hub.Event`, `Hub.Live.step` — a hub between two messages, and what can happen;
* `Hub.Live.Handles` — what is promised of the surroundings;
* `Hub.Live.deliver_eq` — what a message does to a hub;
* `Hub.Live.Follows`, `Hub.Live.follows` — a run of the hub is a run of the fleet;
* `Hub.Refined` — what messages make of a store.
-/

namespace LockFleet.Hub

/-- What a hub routes reports with. -/
structure Routing (H : Type) where
  router : H
  timing : RouterClock
  /-- The token above every dispatch. -/
  token : Token

/-- A hub that has been started, at a time at which no handler is at work. -/
structure Live (H : Type) where
  broker : Broker H
  desk : Desk
  store : Store

/-- What can happen at a hub. -/
inductive Event where
  /-- A message arrives and its handlers work until they have ended. -/
  | arrives (a : Arrival) (course : Course)
  /-- Senders come and go, and the desk is swept. -/
  | turnsDesk (desk : Desk)

/-- The message that arrives. -/
def Event.arrival? : Event → Option Arrival
  | arrives a _ => some a
  | turnsDesk _ => none

/-- The messages of a run. -/
def arrivals (es : List Event) : List Arrival := es.filterMap Event.arrival?

variable {H : Type} [DecidableEq H]

namespace Live

/-- The dispatch of a message, over its polls. -/
def dispatch (r : Routing H) (a : Arrival) (course : Course) (x : Live H) :
    ReportDispatch × Surroundings :=
  Course.follow r.timing r.token a.clock course (.fresh a.topic a.payload) ⟨x.store, x.desk, 0⟩

/-- One of the handlers of a message works until it has ended.  Only the router has to do with
devices. -/
def attend (r : Routing H) (a : Arrival) (course : Course) (x : Live H) (handler : H) : Live H :=
  if handler = r.router then
    let w := (x.dispatch r a course).2
    ⟨x.broker.release, w.desk, w.store⟩
  else { x with broker := x.broker.release }

/-- A message is delivered, and all handlers that it starts work until they have ended. -/
def deliver (r : Routing H) (x : Live H) (a : Arrival) (course : Course) : Live H :=
  let (started, broker) := x.broker.accept a.topic
  started.foldl (attend r a course) { x with broker }

/-- What comes of an event. -/
def step (r : Routing H) (x : Live H) : Event → Live H
  | .arrives a course => x.deliver r a course
  | .turnsDesk desk => { x with desk }

/-- A message for the router gets a permit, and its dispatch is not cut short: its handler is faster
than the time that it has. -/
def Handles (r : Routing H) (x : Live H) : Event → Prop
  | .arrives a course => r.router ∈ x.broker.matching a.topic →
      r.router ∈ (x.broker.accept a.topic).1 ∧ Course.EndsInTime (x.dispatch r a course).1
  | .turnsDesk _ => True

variable {r : Routing H} {a : Arrival} {course : Course} {x : Live H}

omit [DecidableEq H] in
/-- A message is handled if it gets a permit, if no poll of its dispatch is late or sees a cancelled
token, and if six requests are answered. -/
theorem handles_of_quiet {v : View} {k : Nat} {rest : Course}
    (hpermit : (x.broker.matching a.topic).length ≤ x.broker.free)
    (hquiet : Course.Quiet r.token (v.alarm r.timing.timer r.timing.dispatchTimeout) ((v, k) :: rest))
    (hsix : 6 ≤ Course.answers ((v, k) :: rest)) : x.Handles r (.arrives a ((v, k) :: rest)) := by
  intro hrouter
  refine ⟨?_, Course.ends hquiet hsix⟩
  show r.router ∈ (x.broker.matching a.topic).take x.broker.free
  rwa [List.take_of_length_le hpermit]

/-! ### What a message does -/

/-- Handlers other than the router give their permits back. -/
theorem attend_others {handlers : List H} (h : r.router ∉ handlers) (x : Live H) :
    handlers.foldl (attend r a course) x =
      { x with broker := { x.broker with free := x.broker.free + handlers.length } } := by
  induction handlers generalizing x with
  | nil => rfl
  | cons handler rest ih =>
    have hne : handler ≠ r.router := Ne.symm (List.ne_of_not_mem_cons h)
    rw [List.foldl_cons, attend, if_neg hne, ih (List.not_mem_of_not_mem_cons h)]
    show Live.mk { x.broker with free := x.broker.free + 1 + rest.length } x.desk x.store = _
    rw [List.length_cons, Nat.add_assoc, Nat.add_comm 1]

/-- The router among the handlers dispatches the message once. -/
theorem attend_router {handlers : List H} (h : r.router ∈ handlers)
    (hcount : handlers.count r.router ≤ 1) (x : Live H) :
    handlers.foldl (attend r a course) x =
      ⟨{ x.broker with free := x.broker.free + handlers.length }, (x.dispatch r a course).2.desk,
        (x.dispatch r a course).2.store⟩ := by
  obtain ⟨pre, post, rfl⟩ := List.append_of_mem h
  have hpre : r.router ∉ pre := by
    intro hmem
    have hpos := List.count_pos_iff.2 hmem
    rw [List.count_append, List.count_cons_self] at hcount
    omega
  have hpost : r.router ∉ post := by
    intro hmem
    have hpos := List.count_pos_iff.2 hmem
    rw [List.count_append, List.count_cons_self] at hcount
    omega
  rw [List.foldl_append, attend_others hpre, List.foldl_cons, attend, if_pos rfl,
    attend_others hpost]
  show Live.mk { x.broker with free := x.broker.free + pre.length + 1 + post.length } _ _ = _
  rw [List.length_append, List.length_cons, Nat.add_assoc, Nat.add_assoc, Nat.add_comm 1]
  rfl

/-- **What a message does to a hub**: the router takes it or nobody does, and all permits are given
back. -/
theorem deliver_eq (hx : Listens r.router x.broker) (a : Arrival) (course : Course) :
    x.deliver r a course =
      if r.router ∈ (x.broker.accept a.topic).1 then
        ⟨x.broker, (x.dispatch r a course).2.desk, (x.dispatch r a course).2.store⟩
      else x := by
  have hfree : x.broker.free - (x.broker.accept a.topic).1.length +
      (x.broker.accept a.topic).1.length = x.broker.free :=
    Nat.sub_add_cancel (List.length_take_le _ _)
  have hcount : (x.broker.accept a.topic).1.count r.router ≤ 1 :=
    Nat.le_trans ((List.take_sublist _ _).count_le _) (hx.count_matching a.topic)
  show (x.broker.accept a.topic).1.foldl (attend r a course)
    ⟨(x.broker.accept a.topic).2, x.desk, x.store⟩ = _
  split
  · next h =>
    rw [attend_router h hcount]
    show Live.mk { x.broker with free := x.broker.free - (x.broker.accept a.topic).1.length +
      (x.broker.accept a.topic).1.length } _ _ = _
    rw [hfree]
    rfl
  · next h =>
    rw [attend_others h]
    show Live.mk { x.broker with free := x.broker.free - (x.broker.accept a.topic).1.length +
      (x.broker.accept a.topic).1.length } _ _ = _
    rw [hfree]

theorem broker_step (hx : Listens r.router x.broker) (e : Event) :
    (x.step r e).broker = x.broker := by
  cases e with
  | arrives a course =>
    show (x.deliver r a course).broker = _
    rw [deliver_eq hx]
    split <;> rfl
  | turnsDesk desk => rfl

/-- A message for the router leaves in the store what its handler does at once. -/
theorem store_deliver (hx : Listens r.router x.broker) (h : x.Handles r (.arrives a course)) :
    (x.deliver r a course).store =
      if Listening.patterns.any fun p => Topic.selects p a.topic then
        (Surroundings.settled a ⟨x.store, x.desk, 0⟩).store
      else x.store := by
  rw [deliver_eq hx]
  cases hany : Listening.patterns.any fun p => Topic.selects p a.topic with
  | true =>
    obtain ⟨hstarted, hends⟩ := h ((hx.mem_matching a.topic).2 hany)
    have hsettled : (x.dispatch r a course).2 = Surroundings.settled a ⟨x.store, x.desk, 0⟩ :=
      Course.settled hends
    rw [if_pos hstarted, if_pos rfl, hsettled]
  | false =>
    have hnot : r.router ∉ (x.broker.accept a.topic).1 := by
      intro hmem
      have hmatching : r.router ∈ x.broker.matching a.topic := List.mem_of_mem_take hmem
      rw [(hx.mem_matching a.topic).1 hmatching] at hany
      cases hany
    rw [if_neg hnot, if_neg Bool.false_ne_true]

/-- The message that a fleet takes in is the one that a dispatch leaves behind. -/
theorem fleet_settled {s : Store} (hs : s.Numbered) (desk : Desk)
    (hany : (Listening.patterns.any fun p => Topic.selects p a.topic) = true) :
    Fleet.ofStore (Surroundings.settled a ⟨s, desk, 0⟩).store = (Fleet.ofStore s).take a := by
  rw [Surroundings.settled]
  cases hm : Message.decode a.topic a.payload with
  | ok m =>
    refine Surroundings.fleet_takeIn hs desk ?_
    rw [Arrival.message?, if_pos hany, hm]
    rfl
  | error e =>
    refine (Fleet.take_of_message? _ ?_).symm
    rw [Arrival.message?, if_pos hany, hm]
    rfl

/-- **A message does to the store what it does to the fleet.** -/
theorem fleet_deliver (hx : Listens r.router x.broker) (hs : x.store.Numbered)
    (h : x.Handles r (.arrives a course)) :
    Fleet.ofStore (x.deliver r a course).store = (Fleet.ofStore x.store).take a := by
  rw [store_deliver hx h]
  cases hany : Listening.patterns.any fun p => Topic.selects p a.topic with
  | true =>
    rw [if_pos rfl]
    exact fleet_settled hs x.desk hany
  | false =>
    rw [if_neg Bool.false_ne_true]
    refine (Fleet.take_of_message? _ ?_).symm
    rw [Arrival.message?, hany, if_neg Bool.false_ne_true]

/-! ### What a run does -/

/-- Where a hub stands whose messages a fleet has taken in. -/
structure Follows (b : Broker H) (f : Fleet) (x : Live H) : Prop where
  broker : x.broker = b
  fleet : Fleet.ofStore x.store = f
  numbered : x.store.Numbered

/-- A step of the hub is a step of the fleet. -/
theorem Follows.step {b : Broker H} {f : Fleet} (hb : Listens r.router b) (h : Follows b f x)
    (e : Event) (he : x.Handles r e) :
    Follows b (Run.after Fleet.take f (arrivals [e])) (x.step r e) := by
  have hx : Listens r.router x.broker := h.broker ▸ hb
  cases e with
  | turnsDesk desk => exact ⟨h.broker, h.fleet, h.numbered⟩
  | arrives a course =>
    have hfleet : Fleet.ofStore (x.deliver r a course).store = (Fleet.ofStore x.store).take a :=
      fleet_deliver hx h.numbered he
    refine ⟨(broker_step hx _).trans h.broker, ?_, ?_⟩
    · rw [← h.fleet]
      exact hfleet
    · show (List.map Device.number (Fleet.ofStore (x.deliver r a course).store).devices).Nodup
      rw [hfleet, Fleet.numbers_take]
      exact h.numbered

/-- A run of the hub is a run of the fleet. -/
theorem follows {b : Broker H} {s : Store} {desk : Desk} {es : List Event}
    (hb : Listens r.router b) (hs : s.Numbered)
    (h : Run.Along (step r) (Handles r) ⟨b, desk, s⟩ es) :
    Follows b (Run.after Fleet.take (Fleet.ofStore s) (arrivals es))
      (Run.after (step r) ⟨b, desk, s⟩ es) := by
  have hstart : Follows b (Fleet.ofStore s) ⟨b, desk, s⟩ := ⟨rfl, rfl, hs⟩
  refine h.invariant (P := fun es => Follows b (Run.after Fleet.take _ (arrivals es))) hstart ?_
  intro es e _ hes he
  rw [arrivals, List.filterMap_append, Run.after_append]
  exact hes.step hb e he

end Live

/-- What messages have made of a store. -/
structure Refined (s : Store) (as : List Arrival) (s' : Store) : Prop where
  /-- The devices and the history are those of the fleet that has taken the messages in. -/
  fleet : Fleet.ofStore s' = Run.after Fleet.take (Fleet.ofStore s) as
  /-- Each device is where its own messages have taken it. -/
  devices : ∀ d ∈ s.devices.values, ∃ d', s'.device? d.id = some d' ∧ d.Foretold as d'
  /-- The history of each device is longer by what its own messages leave. -/
  history : ∀ d ∈ s.devices.values,
    s'.entriesOf d.id = s.entriesOf d.id ++ Run.gather Device.take Device.notes d as

/-- A store whose fleet has taken messages in. -/
theorem Refined.of_fleet {s s' : Store} {as : List Arrival}
    (h : Fleet.ofStore s' = Run.after Fleet.take (Fleet.ofStore s) as) : Refined s as s' := by
  refine ⟨h, fun d hd => ?_, fun d hd => ?_⟩
  · have hvalues : s'.devices.values = s.devices.values.map fun d => Run.after Device.take d as :=
      (congrArg Fleet.devices h).trans (Fleet.devices_after _ as)
    have hmem : Run.after Device.take d as ∈ s'.devices.values := by
      rw [hvalues]
      exact List.mem_map.2 ⟨d, hd, rfl⟩
    have hid : (Run.after Device.take d as).id = d.id := Device.after_same Device.take_id d as
    exact ⟨Run.after Device.take d as, hid ▸ Store.device?_of_mem hmem, d.foretold as⟩
  · show (Fleet.ofStore s').history.filter (fun e => e.device = d.id) = _
    rw [h]
    exact Fleet.history_after _ as s.nodup_ids hd

/-- **A hub refines its fleet**: whatever arrives, the devices and the history are those of the
fleet that has taken the messages in, and every field of a device is told by its own reports. -/
theorem fleet_refined {L : Type} [Link L] {quality : Quality} {r : Routing H} {b₀ b : Broker H}
    {l₀ l : L} (hstart : Registry.run (listen quality r.router) b₀ l₀ = (.ok (), b, l))
    (hnew : ∀ e ∈ b₀.registry.entries, e.2.handler ≠ r.router) {s : Store} (hs : s.Numbered)
    {desk : Desk} {es : List Event}
    (hes : Run.Along (Live.step r) (Live.Handles r) ⟨b, desk, s⟩ es) :
    Refined s (arrivals es) (Run.after (Live.step r) ⟨b, desk, s⟩ es).store :=
  .of_fleet (Live.follows (listens hstart hnew) hs hes).fleet

/-- A connection over which somebody else listens to a device. -/
def watched : Broker String :=
  ⟨Settings.standard, Table.empty.insert "device/lock-1/#" ⟨.atLeastOnce, "log"⟩, true, 4⟩

/-- A router with the usual timing. -/
def routing : Routing String := ⟨"router", RouterClock.standard, Token.root 0⟩

/-- A start of a hub over the connection. -/
def started : Requested × Broker String × RecordingLink :=
  Registry.run (listen .atLeastOnce routing.router) watched RecordingLink.empty

/-- A hub that has just been started, with one device. -/
def hubOfOne : Live String :=
  ⟨started.2.1, Desk.empty DeskClock.standard, Store.empty.insert (.fresh 1 "lock-1")⟩

/-- A heartbeat that is handled over two polls, and a status report that is broken off. -/
def twoMessages : List Event :=
  let view : View := ⟨0, 0, [], .epoch⟩
  let clock : Nat → Moment := fun _ => .epoch
  [.arrives ⟨"device/lock-1/heartbeat", [0x7B, 0x7D], clock⟩ [(view, 2), (view, 4)],
    .turnsDesk (Desk.empty DeskClock.standard),
    .arrives ⟨"device/lock-1/status", [0x7B], clock⟩ [(view, 6)]]

theorem fleet_refined_twoMessages :
    started = (.ok (), started.2.1, started.2.2) ∧
      Run.Along (Live.step routing) (Live.Handles routing) hubOfOne twoMessages ∧
      Refined hubOfOne.store (arrivals twoMessages)
        (Run.after (Live.step routing) hubOfOne twoMessages).store := by
  have hstart : started = (.ok (), started.2.1, started.2.2) := rfl
  have hnew : ∀ e ∈ watched.registry.entries, e.2.handler ≠ routing.router := by
    decide
  have hnumbered : hubOfOne.store.Numbered := List.nodup_singleton _
  have hheartbeat : hubOfOne.Handles routing twoMessages[0] :=
    Live.handles_of_quiet (by decide) (by unfold Course.Quiet; decide) (by decide)
  have hstatus : (Run.after (Live.step routing) hubOfOne (twoMessages.take 2)).Handles routing
      twoMessages[2] :=
    Live.handles_of_quiet (by decide +kernel) (by unfold Course.Quiet; decide) (by decide)
  have hes : Run.Along (Live.step routing) (Live.Handles routing) hubOfOne twoMessages :=
    ⟨hheartbeat, trivial, hstatus, trivial⟩
  exact ⟨hstart, hes, fleet_refined hstart hnew hnumbered hes⟩

end LockFleet.Hub
