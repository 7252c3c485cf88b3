import LockFleet.Proofs.Broker.Sharing

/-!
# Handlers at work

A message starts a handler for each filter that selects its topic, as far as there are permits.  A
handler holds its permit until it ends, in whatever way.  Calls that change the registry go on in
between, and no permit is lost or made by any of this.

* `Started`, `Inbound`, `Inbound.play` — a connection, the handlers that it has started, and what
  happens to them;
* `Inbound.held_step`, `Inbound.held_play` — permits are conserved;
* `Broker.Selection` — the subscriptions whose handlers a message starts;
* `Inbound.Bounded`, `Inbound.bounded` — what every run of a connection keeps to.
-/

namespace LockFleet

variable {H L : Type}

/-! ### Permits -/

/-- No step of an operation touches the permits. -/
theorem BrokerRequest.free_serve [Link L] (q : BrokerRequest H) (b : Broker H) (l : L) :
    (q.serve (b, l)).2.1.free = b.free := by
  cases q <;> rfl

theorem Shared.free_move [Link L] (s : Shared H L) (m : Move H) :
    (s.move m).broker.free = s.broker.free := by
  rcases s.move_cases m with ⟨c, -, hmove⟩ | ⟨k, c, q, next, -, hmove⟩ | hmove
  · rw [hmove]
  · rw [hmove]
    exact q.free_serve s.broker s.link
  · rw [hmove]

namespace Broker

/-- Subscriptions whose handlers a message starts: as many as there are permits for, and each of a
filter of its own that selects the topic. -/
structure Selection (b : Broker H) (topic : String) (chosen : List (String × Subscription H)) :
    Prop where
  distinct : (chosen.map (·.1)).Nodup
  registered : ∀ e ∈ chosen, b.registry.find? e.1 = some e.2
  selects : ∀ e ∈ chosen, Topic.selects e.1 topic = true
  count : chosen.length = min (b.topics.filter fun f => Topic.selects f topic).length b.free

/-- The subscriptions of a topic, up to the number of permits. -/
def chosen (b : Broker H) (topic : String) : List (String × Subscription H) :=
  (b.registry.entries.filter fun e => Topic.selects e.1 topic).take b.free

theorem selection_chosen (b : Broker H) (topic : String) : b.Selection topic (b.chosen topic) := by
  have hsub : (b.chosen topic).Sublist b.registry.entries :=
    (List.take_sublist _ _).trans List.filter_sublist
  have hmem : ∀ e ∈ b.chosen topic,
      e ∈ b.registry.entries.filter fun e => Topic.selects e.1 topic :=
    fun e he => List.mem_of_mem_take he
  have hlength : (b.topics.filter fun f => Topic.selects f topic).length =
      (b.registry.entries.filter fun e => Topic.selects e.1 topic).length := by
    rw [topics, Table.keys, List.filter_map, List.length_map]
    rfl
  refine ⟨b.registry.distinct.sublist (hsub.map _), fun e he => ?_, fun e he => ?_, ?_⟩
  · exact (b.registry.mem_entries_iff e.1 e.2).1 (List.mem_filter.1 (hmem e he)).1
  · exact (List.mem_filter.1 (hmem e he)).2
  · rw [hlength, chosen, List.length_take, Nat.min_comm]

theorem accept_eq (b : Broker H) (topic : String) :
    b.accept topic = ((b.chosen topic).map (·.2.handler),
      { b with free := b.free - (b.chosen topic).length }) := by
  have hstarted : (b.matching topic).take b.free = (b.chosen topic).map (·.2.handler) :=
    List.map_take.symm
  rw [accept, hstarted, List.length_map]

end Broker

/-! ### Runs -/

/-- How a handler ends: it returns, it breaks off, or it is stopped from outside. -/
inductive Conclusion where
  | returned
  | brokenOff
  | aborted
  deriving DecidableEq, Repr

/-- A handler that a message has started, and how it has ended if it has. -/
structure Started (H : Type) where
  handler : H
  topic : String
  payload : Bytes
  conclusion : Option Conclusion
  deriving DecidableEq

/-- A handler has not ended. -/
def Started.isRunning (x : Started H) : Bool := x.conclusion.isNone

/-- A connection in use, and all handlers that its messages have started. -/
structure Inbound (H L : Type) where
  shared : Shared H L
  started : List (Started H)

namespace Inbound

/-- What happens: a call begins or takes a step, a message arrives, or a handler ends. -/
inductive Event (H : Type) where
  | move (m : Move H)
  | deliver (topic : String) (payload : Bytes)
  | conclude (k : Nat) (how : Conclusion)

/-- The permits that are free. -/
def free (s : Inbound H L) : Nat := s.shared.broker.free

/-- The handlers that have not ended. -/
def running (s : Inbound H L) : Nat := s.started.countP Started.isRunning

/-- Starts the handlers of subscriptions on a message. -/
def start (s : Inbound H L) (topic : String) (payload : Bytes) (b : Broker H) (handlers : List H) :
    Inbound H L :=
  ⟨{ s.shared with broker := b }, s.started ++ handlers.map fun h => ⟨h, topic, payload, none⟩⟩

/-- A message arrives. -/
def deliver (s : Inbound H L) (topic : String) (payload : Bytes) : Inbound H L :=
  let (handlers, b) := s.shared.broker.accept topic
  s.start topic payload b handlers

/-- A handler ends and gives its permit back. -/
def conclude (s : Inbound H L) (k : Nat) (how : Conclusion) : Inbound H L :=
  match s.started[k]? with
  | some ⟨handler, topic, payload, none⟩ =>
    ⟨{ s.shared with broker := s.shared.broker.release },
      s.started.set k ⟨handler, topic, payload, some how⟩⟩
  | _ => s

section Runs

variable [Link L]

/-- What an event does. -/
def step (s : Inbound H L) : Event H → Inbound H L
  | .move m => { s with shared := s.shared.move m }
  | .deliver topic payload => s.deliver topic payload
  | .conclude k how => s.conclude k how

/-- The state after events, from a connection that is not in use. -/
def play (b : Broker H) (l : L) (es : List (Event H)) : Inbound H L :=
  Run.after step ⟨⟨b, l, [], []⟩, []⟩ es

variable {s : Inbound H L} {b : Broker H} {l : L} {es : List (Event H)} {settings : Settings}

theorem play_snoc (es : List (Event H)) (e : Event H) :
    play b l (es ++ [e]) = (play b l es).step e :=
  Run.after_snoc es e

/-! ### One event -/

omit [Link L] in
theorem deliver_eq (s : Inbound H L) (topic : String) (payload : Bytes) :
    s.deliver topic payload = s.start topic payload
      { s.shared.broker with free := s.free - (s.shared.broker.chosen topic).length }
      ((s.shared.broker.chosen topic).map (·.2.handler)) := by
  rw [deliver, Broker.accept_eq, free]

omit [Link L] in
theorem running_start (s : Inbound H L) (topic : String) (payload : Bytes) (b : Broker H)
    (handlers : List H) :
    (s.start topic payload b handlers).running = s.running + handlers.length := by
  have hall : (handlers.map fun h => (⟨h, topic, payload, none⟩ : Started H)).countP
      Started.isRunning = handlers.length := by
    rw [List.countP_map]
    exact List.countP_eq_length.2 fun h _ => rfl
  rw [running, start, List.countP_append, hall, running]

omit [Link L] in
/-- A handler that has not ended gives one permit back, however it ends. -/
theorem conclude_cases (s : Inbound H L) (k : Nat) (how : Conclusion) :
    ((s.conclude k how).running + 1 = s.running ∧ (s.conclude k how).free = s.free + 1) ∨
      s.conclude k how = s := by
  rw [conclude]
  split
  · next handler topic payload hk =>
    obtain ⟨hlt, hget⟩ := List.getElem?_eq_some_iff.1 hk
    refine Or.inl ⟨?_, rfl⟩
    have hone : 0 < s.running :=
      List.countP_pos_iff.2 ⟨_, List.mem_of_getElem? hk, rfl⟩
    have hset : (s.started.set k ⟨handler, topic, payload, some how⟩).countP
        Started.isRunning = s.running - 1 + 0 := by
      rw [List.countP_set hlt, hget]
      rfl
    show (s.started.set k _).countP Started.isRunning + 1 = s.running
    omega
  · exact Or.inr rfl

/-- **Permits are conserved:** whatever happens, the permits that handlers hold and those that are
free remain the same number. -/
theorem held_step (s : Inbound H L) (e : Event H) :
    (s.step e).running + (s.step e).free = s.running + s.free := by
  cases e with
  | move m =>
    show s.running + (s.shared.move m).broker.free = _
    rw [Shared.free_move, free]
  | deliver topic payload =>
    have hle : (s.shared.broker.chosen topic).length ≤ s.free := by
      rw [(s.shared.broker.selection_chosen topic).count]
      exact Nat.min_le_right _ _
    rw [step, deliver_eq, running_start, List.length_map]
    show _ + (s.free - (s.shared.broker.chosen topic).length) = _
    omega
  | conclude k how =>
    rw [step]
    rcases s.conclude_cases k how with ⟨hrunning, hfree⟩ | hsame
    · omega
    · rw [hsame]

theorem held_play (b : Broker H) (l : L) (es : List (Event H)) :
    (play b l es).running + (play b l es).free = b.free := by
  induction es using List.reverseRecOn with
  | nil => exact Nat.zero_add _
  | append_singleton es e ih => rw [play_snoc, held_step, ih]

/-! ### All runs -/

/-- The handlers of a connection after a run. -/
structure Bounded (capacity : Nat) (b : Broker H) (l : L) (es : List (Event H)) : Prop where
  /-- Every permit is free, or a handler that has not ended holds it. -/
  conserved : (play b l es).running + (play b l es).free = capacity
  /-- A message starts handlers of distinct filters that select its topic, each as it is registered
  at that moment and on that topic and payload, as many as there are filters and permits.  It does
  nothing else. -/
  delivers : ∀ topic payload, ∃ chosen, (play b l es).shared.broker.Selection topic chosen ∧
    play b l (es ++ [.deliver topic payload]) = (play b l es).start topic payload
      { (play b l es).shared.broker with free := (play b l es).free - chosen.length }
      (chosen.map (·.2.handler))
  /-- A message without a permit changes nothing. -/
  dropped : (play b l es).free = 0 → ∀ topic payload,
    play b l (es ++ [.deliver topic payload]) = play b l es
  /-- When all handlers have ended, all permits are free. -/
  recovered : (∀ x ∈ (play b l es).started, x.conclusion ≠ none) →
    (play b l es).free = capacity

/-- **A connection starts no more handlers than it is set up for, and gets every permit back,** in
every order of calls, messages and ends of handlers. -/
theorem bounded (h : settings.maxInFlight ≤ Broker.maxPermits) :
    ∃ b : Broker H, Broker.open? settings = some b ∧
      ∀ (l : L) (es : List (Event H)), Bounded (max 1 settings.maxInFlight) b l es := by
  have hcapacity : settings.capacity ≤ Broker.maxPermits := Nat.max_le.2 ⟨by decide, h⟩
  refine ⟨_, if_pos hcapacity, fun l es => ?_⟩
  have hheld := held_play (⟨settings, Table.empty, true, settings.capacity⟩ : Broker H) l es
  refine ⟨hheld, fun topic payload => ?_, fun hfree topic payload => ?_, fun hended => ?_⟩
  · refine ⟨_, Broker.selection_chosen _ topic, ?_⟩
    rw [play_snoc, step, deliver_eq]
  · have hnone : (play (⟨settings, Table.empty, true, settings.capacity⟩ : Broker H) l
        es).shared.broker.chosen topic = [] :=
      List.take_eq_nil_iff.2 (Or.inl hfree)
    rw [play_snoc, step, deliver_eq, hnone, start, List.map_nil, List.map_nil, List.append_nil]
    rfl
  · have hnone : (play (⟨settings, Table.empty, true, settings.capacity⟩ : Broker H) l
        es).running = 0 :=
      List.countP_eq_zero.2 fun x hx hrunning =>
        hended x hx (Option.isNone_iff_eq_none.1 hrunning)
    rw [hnone, Nat.zero_add] at hheld
    exact hheld

end Runs

/-- Settings for one handler at a time. -/
def single : Settings := { Settings.standard with maxInFlight := 1 }

/-- Two filters select a topic, of which there are two messages; the one handler that was started is
then stopped, and a third message comes after a disconnection has begun. -/
def overlapping : List (Event String) :=
  [.move (.begin (.subscribe "device/+/ack" "acks")), .move (.step 0),
    .move (.begin (.subscribe "#" "all")), .move (.step 1), .deliver "device/a/ack" [1],
    .deliver "device/a/ack" [2], .conclude 0 .aborted, .move (.begin .disconnect),
    .deliver "device/a/ack" [3]]

theorem bounded_overlapping :
    single.maxInFlight ≤ Broker.maxPermits ∧ ∃ b : Broker String, Broker.open? single = some b ∧
      Bounded 1 b RecordingLink.empty overlapping ∧
      (play b RecordingLink.empty overlapping).started =
        [⟨"acks", "device/a/ack", [1], some .aborted⟩, ⟨"acks", "device/a/ack", [3], none⟩] := by
  have hsingle : single.maxInFlight ≤ Broker.maxPermits := by decide
  obtain ⟨b, hopen, hbounded⟩ := bounded (H := String) (L := RecordingLink) hsingle
  refine ⟨hsingle, b, hopen, hbounded RecordingLink.empty overlapping, ?_⟩
  have hb : (⟨single, Table.empty, true, 1⟩ : Broker String) = b := Option.some.inj hopen
  rw [← hb]
  decide +kernel

end Inbound

end LockFleet
