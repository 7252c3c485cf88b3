import LockFleet.Broker.Registry
import LockFleet.Proofs.Program
import LockFleet.Proofs.Run
import Mathlib.Data.List.Nodup

/-!
# The registry as the source of all subscriptions

Calls are carried out on a connection one after another, over a link that may refuse whatever it
likes.  What is registered depends on the calls alone.  The link is asked for a subscription only
while it is registered, and after a reconnect it is asked again for exactly what is registered.

* `Registry.Issued`, `Registry.issued` — the requests to the link that an operation issues;
* `Registry.askAll`, `Registry.askAll_spec` — requests one after another, as in all loops;
* `Registry.subscribeAll_spec`, `unsubscribe_spec`, `replay_spec` — the operations that loop;
* `Registry.Call`, `Registry.session` — calls one after another;
* `Registry.perform_registry`, `contains_of_issuedAt`, `rebuilds` — one call;
* `Registry.SingleSource`, `Registry.singleSource` — all calls.
-/

namespace LockFleet.Registry

variable {H L α β : Type}

/-! ### Requests to the link -/

/-- What is asked of a link. -/
inductive LinkRequest where
  | subscribe (filter : String) (quality : Quality)
  | unsubscribe (filter : String)
  | disconnect
  deriving DecidableEq, Repr

/-- A request to the link, with the connection as it stood then and with the outcome. -/
structure Issued (H : Type) where
  broker : Broker H
  request : LinkRequest
  outcome : Requested

/-- The request to the link that a step issues, if it issues one. -/
def issuedBy (b : Broker H) : (q : BrokerRequest H) → q.Answer → List (Issued H)
  | .subscribe filter quality, r => [⟨b, .subscribe filter quality, r⟩]
  | .unsubscribe filter, r => [⟨b, .unsubscribe filter, r⟩]
  | .disconnect, r => [⟨b, .disconnect, r⟩]
  | _, _ => []

/-- The requests to the link that an operation issues, in order. -/
def issued [Link L] : Operation H α → Broker H → L → List (Issued H)
  | .done _, _, _ => []
  | .call q next, b, l =>
    let (x, b', l') := q.serve (b, l)
    issuedBy b q x ++ issued (next x) b' l'

theorem run_bind [Link L] (p : Operation H α) (f : α → Operation H β) (b : Broker H) (l : L) :
    run (p.bind f) b l = run (f (run p b l).1) (run p b l).2.1 (run p b l).2.2 :=
  Program.run_bind _ p f (b, l)

theorem issued_bind [Link L] (p : Operation H α) (f : α → Operation H β) (b : Broker H) (l : L) :
    issued (p.bind f) b l =
      issued p b l ++ issued (f (run p b l).1) (run p b l).2.1 (run p b l).2.2 := by
  induction p generalizing b l with
  | done a => rfl
  | call q next ih =>
    show issuedBy b q _ ++ issued ((next _).bind f) _ _ =
      (issuedBy b q _ ++ issued (next _) _ _) ++ _
    rw [ih, List.append_assoc]
    rfl

/-- Entries with their values in another form. -/
theorem lookupEntry_map (f : α → β) (key : String) (entries : List (String × α)) :
    lookupEntry key (entries.map fun e => (e.1, f e.2)) = (lookupEntry key entries).map f := by
  induction entries with
  | nil => rfl
  | cons e rest ih =>
    rw [List.map_cons, lookupEntry, lookupEntry, ih]
    split <;> rfl

/-- The outcome of several requests is the first failure, if there is one. -/
def IsFirstFailure (outcomes : List Requested) (r : Requested) : Prop :=
  (r = .ok () ∧ ∀ x ∈ outcomes, x = .ok ()) ∨
    ∃ before e after, outcomes = before ++ .error e :: after ∧ (∀ x ∈ before, x = .ok ()) ∧
      r = .error e

theorem isFirstFailure (outcomes : List Requested) :
    IsFirstFailure outcomes (firstFailure outcomes) := by
  induction outcomes with
  | nil => exact Or.inl ⟨rfl, by simp⟩
  | cons r rest ih =>
    cases r with
    | error e => exact Or.inr ⟨[], e, rest, rfl, by simp, rfl⟩
    | ok u =>
      rcases ih with ⟨hr, hall⟩ | ⟨before, e, after, hrest, hall, hr⟩
      · exact Or.inl ⟨hr, by simpa using hall⟩
      · exact Or.inr ⟨.ok () :: before, e, after, by rw [hrest]; rfl, by simpa using hall, hr⟩

/-- The filters for which a subscription was refused. -/
def refused (xs : List (LinkRequest × Requested)) : List String :=
  xs.filterMap fun
    | (.subscribe filter _, .error _) => some filter
    | _ => none

theorem mem_refused {xs : List (LinkRequest × Requested)} {filter : String} :
    filter ∈ refused xs ↔ ∃ quality e, (.subscribe filter quality, .error e) ∈ xs := by
  rw [refused, List.mem_filterMap]
  constructor
  · rintro ⟨⟨request, outcome⟩, hmem, h⟩
    cases request <;> cases outcome <;> cases h
    exact ⟨_, _, hmem⟩
  · rintro ⟨quality, e, hmem⟩
    exact ⟨_, hmem, rfl⟩

/-! ### The loops -/

section Loops

variable [Link L] {b : Broker H} {l : L} {op : Operation H α} {requests : List LinkRequest}
  {filter : String} {quality : Quality}

/-- An operation leaves the connection alone and issues these requests. -/
structure Asks (op : Operation H α) (b : Broker H) (l : L) (requests : List LinkRequest) :
    Prop where
  broker : (run op b l).2.1 = b
  requests : (issued op b l).map (fun x => (x.broker, x.request)) = requests.map (b, ·)

/-- Giving the result another form issues nothing. -/
theorem run_map (op : Operation H α) (f : α → β) (b : Broker H) (l : L) :
    run (op.bind fun a => .done (f a)) b l = (f (run op b l).1, (run op b l).2) :=
  run_bind op _ b l

theorem issued_map (op : Operation H α) (f : α → β) (b : Broker H) (l : L) :
    issued (op.bind fun a => .done (f a)) b l = issued op b l :=
  (issued_bind op _ b l).trans (List.append_nil _)

theorem Asks.map (h : Asks op b l requests) (f : α → β) :
    Asks (op.bind fun a => .done (f a)) b l requests := by
  refine ⟨?_, ?_⟩
  · rw [run_map]
    exact h.broker
  · rw [issued_map]
    exact h.requests

/-- Requests that were all issued on one connection. -/
theorem broker_of_mem {xs : List (Issued H)} {b' : Broker H}
    (h : xs.map (fun x => (x.broker, x.request)) = requests.map (b', ·)) {x : Issued H}
    (hx : x ∈ xs) : x.broker = b' ∧ x.request ∈ requests := by
  have hmem : (x.broker, x.request) ∈ requests.map (b', ·) :=
    h ▸ List.mem_map_of_mem (f := fun x : Issued H => (x.broker, x.request)) hx
  obtain ⟨request, hrequest, heq⟩ := List.mem_map.1 hmem
  obtain ⟨hbroker, rfl⟩ := Prod.mk.inj heq
  exact ⟨hbroker.symm, hrequest⟩

theorem map_request {xs : List (Issued H)} {b' : Broker H}
    (h : xs.map (fun x => (x.broker, x.request)) = requests.map (b', ·)) :
    xs.map Issued.request = requests := by
  simpa [Function.comp_def] using congrArg (List.map Prod.snd) h

/-- The operation of a request. -/
def LinkRequest.ask : LinkRequest → Operation H Requested
  | subscribe filter quality => Registry.request quality filter
  | unsubscribe filter => requestEnd filter
  | disconnect => closeLink

/-- Requests one after another, whatever becomes of each. -/
def askAll : List LinkRequest → Operation H (List Requested)
  | [] => .done []
  | x :: rest => x.ask.bind fun r => (askAll rest).bind fun rs => .done (r :: rs)

theorem ask_spec (x : LinkRequest) (b : Broker H) (l : L) :
    (run x.ask b l).2.1 = b ∧ issued x.ask b l = [⟨b, x, (run x.ask b l).1⟩] := by
  cases x <;> exact ⟨rfl, rfl⟩

/-- **All requests are made, in order and past any failure.** -/
theorem askAll_spec (requests : List LinkRequest) (b : Broker H) (l : L) :
    Asks (askAll requests) b l requests ∧
      (run (askAll requests) b l).1 = (issued (askAll requests) b l).map Issued.outcome := by
  induction requests generalizing l with
  | nil => exact ⟨⟨rfl, rfl⟩, rfl⟩
  | cons x rest ih =>
    obtain ⟨hbroker, hissued⟩ := ask_spec x b l
    obtain ⟨hasks, hresult⟩ := ih (run x.ask b l).2.2
    have hrun : run (askAll (x :: rest)) b l =
        ((run x.ask b l).1 :: (run (askAll rest) b (run x.ask b l).2.2).1,
          (run (askAll rest) b (run x.ask b l).2.2).2) := by
      rw [askAll, run_bind, hbroker, run_map]
    have hall : issued (askAll (x :: rest)) b l =
        ⟨b, x, (run x.ask b l).1⟩ :: issued (askAll rest) b (run x.ask b l).2.2 := by
      rw [askAll, issued_bind, hissued, hbroker, issued_map, List.singleton_append]
    refine ⟨⟨?_, ?_⟩, ?_⟩
    · rw [hrun]
      exact hasks.broker
    · rw [hall, List.map_cons, List.map_cons, hasks.requests]
    · rw [hrun, hall, hresult, List.map_cons]

theorem requestAll_eq (quality : Quality) (filters : List String) :
    (requestAll quality filters : Operation H _) = askAll (filters.map (.subscribe · quality)) := by
  induction filters with
  | nil => rfl
  | cons filter rest ih =>
    rw [List.map_cons, askAll, ← ih]
    rfl

theorem requestEnds_eq (filters : List String) :
    (requestEnds filters : Operation H _) = askAll (filters.map .unsubscribe) := by
  induction filters with
  | nil => rfl
  | cons filter rest ih =>
    rw [List.map_cons, askAll, ← ih]
    rfl

theorem replayAll_eq (entries : List (String × Quality)) :
    (replayAll entries : Operation H _) =
      (askAll (entries.map fun e => .subscribe e.1 e.2)).bind fun rs =>
        .done (refused ((entries.map fun e => .subscribe e.1 e.2).zip rs)) := by
  induction entries with
  | nil => rfl
  | cons e rest ih =>
    have hloop : (replayAll (e :: rest) : Operation H (List String)) =
        (Registry.request e.2 e.1).bind fun r => (replayAll rest).bind fun failed =>
          .done (refused [(.subscribe e.1 e.2, r)] ++ failed) := by
      refine congrArg _ (funext fun r => congrArg _ (funext fun failed => ?_))
      cases r <;> rfl
    rw [hloop, ih, List.map_cons, askAll, Program.bind_assoc]
    refine congrArg _ (funext fun r => ?_)
    rw [Program.bind_assoc, Program.bind_assoc]
    refine congrArg _ (funext fun rs => ?_)
    cases r <;> rfl

/-- All subscriptions are requested again, in order and past any failure. -/
theorem replayAll_spec (entries : List (String × Quality)) (b : Broker H) (l : L) :
    Asks (replayAll entries) b l (entries.map fun e => .subscribe e.1 e.2) ∧
      (run (replayAll entries) b l).1 =
        refused ((issued (replayAll entries) b l).map fun x => (x.request, x.outcome)) := by
  obtain ⟨hasks, hresult⟩ := askAll_spec (entries.map fun e => .subscribe e.1 e.2) b l
  have hzip : (entries.map fun e => .subscribe e.1 e.2).zip
      (run (askAll (entries.map fun e => .subscribe e.1 e.2)) b l).1 =
      (issued (askAll (entries.map fun e => .subscribe e.1 e.2)) b l).map fun x =>
        (x.request, x.outcome) := by
    rw [hresult, ← List.zip_map', map_request hasks.requests]
  rw [replayAll_eq, issued_map, run_map, ← hzip]
  exact ⟨hasks.map _, rfl⟩

end Loops

/-! ### Operations -/

section Operations

variable [Link L]

/-- A table in which handlers are set one after another. -/
def setEach (quality : Quality) (t : Table String (Subscription H)) (list : List (String × H)) :
    Table String (Subscription H) :=
  list.foldl (fun t e => t.insert e.1 ⟨quality, e.2⟩) t

omit [Link L] in
theorem contains_setEach (quality : Quality) (t : Table String (Subscription H))
    (list : List (String × H)) (filter : String) :
    (setEach quality t list).contains filter =
      (list.any (fun e => e.1 = filter) || t.contains filter) := by
  induction list using List.reverseRecOn with
  | nil => simp [setEach]
  | append_singleton list e ih =>
    rw [setEach, List.foldl_append]
    show ((setEach quality t list).insert e.1 ⟨quality, e.2⟩).contains filter = _
    by_cases h : e.1 = filter
    · simp [Table.contains, ← h]
    · rw [Table.contains, Table.find?_insert_of_ne _ _ (Ne.symm h)]
      simpa [h, Table.contains] using ih

theorem registerAll_spec (quality : Quality) (list : List (String × H)) (b : Broker H) (l : L) :
    run (registerAll quality list) b l =
        ((), { b with registry := setEach quality b.registry list }, l) ∧
      issued (registerAll quality list) b l = [] := by
  induction list generalizing b with
  | nil => exact ⟨rfl, rfl⟩
  | cons e rest ih => exact ih { b with registry := b.registry.insert e.1 ⟨quality, e.2⟩ }

/-- Several subscriptions: all are registered before the first is requested. -/
theorem subscribeAll_spec (quality : Quality) (list : List (String × H)) (b b' : Broker H) (l : L)
    (hb' : b' = { b with registry := setEach quality b.registry list }) :
    (run (subscribeAll quality list) b l).2.1 = b' ∧
      (issued (subscribeAll quality list) b l).map (fun x => (x.broker, x.request)) =
        (list.map fun e => .subscribe e.1 quality).map (b', ·) ∧
      (run (subscribeAll quality list) b l).1 =
        firstFailure ((issued (subscribeAll quality list) b l).map Issued.outcome) := by
  obtain ⟨hrun, hnone⟩ := registerAll_spec quality list b l
  have hop : subscribeAll quality list = (registerAll quality list).bind fun _ =>
      (requestAll quality (list.map (·.1))).bind fun rs => .done (firstFailure rs) := rfl
  obtain ⟨hasks, hresult⟩ := askAll_spec ((list.map (·.1)).map (.subscribe · quality)) b' l
  rw [← requestAll_eq] at hasks hresult
  rw [hop, run_bind, issued_bind, hnone, hrun, ← hb', List.nil_append, run_map, issued_map]
  refine ⟨hasks.broker, hasks.requests.trans ?_, congrArg firstFailure hresult⟩
  simp [Function.comp_def]

/-- Several unsubscriptions: the registry is pruned after the last request. -/
theorem unsubscribe_spec (filters : List String) (b : Broker H) (l : L) :
    (run (unsubscribe filters) b l).2.1 =
        { b with registry := b.registry.keep fun k _ => k ∉ filters } ∧
      (issued (unsubscribe filters) b l).map (fun x => (x.broker, x.request)) =
        (filters.map .unsubscribe).map (b, ·) ∧
      (run (unsubscribe filters) b l).1 =
        firstFailure ((issued (unsubscribe filters) b l).map Issued.outcome) := by
  have hop : (unsubscribe filters : Operation H Requested) = (requestEnds filters).bind fun rs =>
      .call (.prune filters) fun _ => .done (firstFailure rs) := rfl
  obtain ⟨hasks, hresult⟩ := askAll_spec (filters.map .unsubscribe) b l
  rw [← requestEnds_eq] at hasks hresult
  have hissued : issued (unsubscribe filters) b l = issued (requestEnds filters) b l := by
    rw [hop, issued_bind]
    exact List.append_nil _
  rw [hissued, hop, run_bind, hasks.broker]
  exact ⟨rfl, hasks.requests, congrArg firstFailure hresult⟩

/-- A replay requests what was registered when it began. -/
theorem replay_spec (b : Broker H) (l : L) :
    Asks replay b l (b.registry.entries.map fun e => .subscribe e.1 e.2.quality) ∧
      (run replay b l).1 =
        refused ((issued replay b l).map fun x => (x.request, x.outcome)) := by
  obtain ⟨⟨hbroker, hrequests⟩, hresult⟩ :=
    replayAll_spec (b.registry.entries.map fun e => (e.1, e.2.quality)) b l
  refine ⟨⟨hbroker, hrequests.trans ?_⟩, hresult⟩
  simp

end Operations

/-! ### Calls -/

/-- A call on a connection. -/
inductive Call (H : Type) where
  | subscribe (filter : String) (handler : H)
  | subscribeAll (list : List (String × H))
  | unsubscribe (filters : List String)
  | disconnect
  | replay

/-- What a call returns: an outcome, or the filters that failed. -/
inductive Returned where
  | requested (r : Requested)
  | refused (filters : List String)

namespace Call

/-- The operation of a call. -/
def operation (quality : Quality) : Call H → Operation H Returned
  | subscribe filter handler =>
    (Registry.subscribe quality filter handler).bind fun r => .done (.requested r)
  | subscribeAll list => (Registry.subscribeAll quality list).bind fun r => .done (.requested r)
  | unsubscribe filters => (Registry.unsubscribe filters).bind fun r => .done (.requested r)
  | disconnect => Registry.disconnect.bind fun r => .done (.requested r)
  | replay => Registry.replay.bind fun failed => .done (.refused failed)

/-- What a call makes of the registry. -/
def effect (quality : Quality) (t : Table String (Subscription H)) :
    Call H → Table String (Subscription H)
  | subscribe filter handler => t.insert filter ⟨quality, handler⟩
  | subscribeAll list => setEach quality t list
  | unsubscribe filters => t.keep fun k _ => k ∉ filters
  | disconnect => Table.empty
  | replay => t

end Call

section Calls

variable [Link L]

/-- The connection and its link after a call. -/
def perform (s : Broker H × L) (c : Call H) : Broker H × L :=
  (run (c.operation s.1.settings.quality) s.1 s.2).2

/-- What a call returns. -/
def returned (s : Broker H × L) (c : Call H) : Returned :=
  (run (c.operation s.1.settings.quality) s.1 s.2).1

/-- The requests to the link that a call issues. -/
def issuedAt (s : Broker H × L) (c : Call H) : List (Issued H) :=
  issued (c.operation s.1.settings.quality) s.1 s.2

/-- The connection and its link after calls, one after another. -/
def session (b : Broker H) (l : L) (calls : List (Call H)) : Broker H × L :=
  Run.after perform (b, l) calls

/-- The requests to the link that calls issue, one after another. -/
def sessionIssued (b : Broker H) (l : L) (calls : List (Call H)) : List (Issued H) :=
  Run.gather perform issuedAt (b, l) calls

/-- What a request makes of the subscriptions of a session with the broker.  Whether a session
outlives its connection is up to the broker. -/
def Issued.applied (t : Table String Quality) (x : Issued H) : Table String Quality :=
  match x.request, x.outcome with
  | .subscribe filter quality, .ok _ => t.insert filter quality
  | .unsubscribe filter, .ok _ => t.erase filter
  | _, _ => t

/-- The subscriptions of a session with the broker after requests. -/
def brokerSide (t : Table String Quality) (xs : List (Issued H)) : Table String Quality :=
  xs.foldl Issued.applied t

/-- A call issues these requests, in order and past any failure, and returns the first failure. -/
structure Attempts (s : Broker H × L) (c : Call H) (requests : List LinkRequest) : Prop where
  requests : (issuedAt s c).map Issued.request = requests
  result : ∃ r, returned s c = .requested r ∧
    IsFirstFailure ((issuedAt s c).map Issued.outcome) r

/-- A replay rebuilds the subscriptions of a session from the registry. -/
structure Rebuilds (s : Broker H × L) : Prop where
  /-- It requests what is registered, and nothing else. -/
  requests : ∀ request, request ∈ (issuedAt s .replay).map Issued.request ↔
    ∃ filter entry, s.1.registry.find? filter = some entry ∧
      request = .subscribe filter entry.quality
  /-- It requests nothing twice. -/
  once : ((issuedAt s .replay).map Issued.request).Nodup
  /-- It returns the filters whose request has failed. -/
  result : ∃ failed, returned s .replay = .refused failed ∧ ∀ filter, filter ∈ failed ↔
    ∃ x ∈ issuedAt s .replay, ∃ quality e,
      x.request = .subscribe filter quality ∧ x.outcome = .error e
  /-- If none has failed, a session without subscriptions now has those of the registry. -/
  rebuilt : (∀ x ∈ issuedAt s .replay, x.outcome = .ok ()) →
    ∀ filter, (brokerSide Table.empty (issuedAt s .replay)).find? filter =
      (s.1.registry.find? filter).map Subscription.quality

/-- The registry is the source of all subscriptions. -/
structure SingleSource (b : Broker H) (l : L) (calls : List (Call H)) : Prop where
  /-- What is registered is what the calls make of it. -/
  registry : (session b l calls).1.registry =
    calls.foldl (Call.effect b.settings.quality) b.registry
  /-- It is the same over every link, be it one that never fails. -/
  registry_eq : ∀ {L' : Type} [Link L'] (l' : L'),
    (session b l' calls).1.registry = (session b l calls).1.registry
  /-- A subscription is requested while it is registered. -/
  registered : ∀ x ∈ sessionIssued b l calls, ∀ filter quality,
    x.request = .subscribe filter quality → x.broker.registry.contains filter = true
  subscribeAll : ∀ pre list, Run.Occurs calls pre (.subscribeAll list) →
    Attempts (session b l pre) (.subscribeAll list)
      (list.map fun e => .subscribe e.1 b.settings.quality)
  unsubscribe : ∀ pre filters, Run.Occurs calls pre (.unsubscribe filters) →
    Attempts (session b l pre) (.unsubscribe filters) (filters.map .unsubscribe)
  replay : ∀ pre, Run.Occurs calls pre .replay → Rebuilds (session b l pre)

/-! ### One call -/

section Call

variable (s : Broker H × L)

/-- A call leaves the settings alone and makes of the registry what does not depend on the link. -/
theorem perform_registry (c : Call H) :
    (perform s c).1.settings = s.1.settings ∧
      (perform s c).1.registry = c.effect s.1.settings.quality s.1.registry := by
  cases c with
  | subscribe filter handler => exact ⟨rfl, rfl⟩
  | subscribeAll list =>
    have hrun : perform s (.subscribeAll list) = _ := congrArg Prod.snd (run_map _ _ s.1 s.2)
    rw [hrun, (subscribeAll_spec _ list s.1 _ s.2 rfl).1]
    exact ⟨rfl, rfl⟩
  | unsubscribe filters =>
    have hrun : perform s (.unsubscribe filters) = _ := congrArg Prod.snd (run_map _ _ s.1 s.2)
    rw [hrun, (unsubscribe_spec filters s.1 s.2).1]
    exact ⟨rfl, rfl⟩
  | disconnect => exact ⟨rfl, rfl⟩
  | replay =>
    have hrun : perform s .replay = _ := congrArg Prod.snd (run_map _ _ s.1 s.2)
    rw [hrun, (replay_spec s.1 s.2).1.broker]
    exact ⟨rfl, rfl⟩

theorem issuedAt_subscribeAll (list : List (String × H)) :
    issuedAt s (.subscribeAll list) =
      issued (Registry.subscribeAll s.1.settings.quality list) s.1 s.2 :=
  issued_map _ _ s.1 s.2

theorem issuedAt_unsubscribe (filters : List String) :
    issuedAt s (.unsubscribe filters) = issued (Registry.unsubscribe filters) s.1 s.2 :=
  issued_map _ _ s.1 s.2

theorem issuedAt_replay : issuedAt s .replay = issued Registry.replay s.1 s.2 :=
  issued_map _ _ s.1 s.2

/-- A subscription is requested while it is registered. -/
theorem contains_of_issuedAt {c : Call H} {x : Issued H} (hx : x ∈ issuedAt s c)
    {filter : String} {quality : Quality} (hrequest : x.request = .subscribe filter quality) :
    x.broker.registry.contains filter = true := by
  cases c with
  | subscribe filter' handler =>
    obtain rfl := List.mem_singleton.1 hx
    cases hrequest
    exact congrArg Option.isSome (Table.find?_insert_self s.1.registry _ _)
  | subscribeAll list =>
    rw [issuedAt_subscribeAll] at hx
    obtain ⟨hbroker, hmem⟩ := broker_of_mem (subscribeAll_spec _ list s.1 _ s.2 rfl).2.1 hx
    rw [hrequest] at hmem
    obtain ⟨e, he, heq⟩ := List.mem_map.1 hmem
    cases heq
    rw [hbroker, contains_setEach, Bool.or_eq_true]
    exact Or.inl (List.any_eq_true.2 ⟨e, he, decide_eq_true rfl⟩)
  | unsubscribe filters =>
    rw [issuedAt_unsubscribe] at hx
    have hmem := (broker_of_mem (unsubscribe_spec filters s.1 s.2).2.1 hx).2
    simp [hrequest] at hmem
  | disconnect =>
    obtain rfl := List.mem_singleton.1 hx
    cases hrequest
  | replay =>
    rw [issuedAt_replay] at hx
    obtain ⟨hbroker, hmem⟩ := broker_of_mem (replay_spec s.1 s.2).1.requests hx
    rw [hrequest] at hmem
    obtain ⟨e, he, heq⟩ := List.mem_map.1 hmem
    cases heq
    rw [hbroker, ← Table.mem_keys_iff]
    exact List.mem_map_of_mem he

variable {s}

/-- An operation that returns the first failure of its requests. -/
theorem Attempts.of_operation {c : Call H} {op : Operation H Requested} {b' : Broker H}
    {requests : List LinkRequest}
    (hop : c.operation s.1.settings.quality = op.bind fun r => .done (.requested r))
    (hrequests : (issued op s.1 s.2).map (fun x => (x.broker, x.request)) = requests.map (b', ·))
    (hresult : (run op s.1 s.2).1 = firstFailure ((issued op s.1 s.2).map Issued.outcome)) :
    Attempts s c requests := by
  have hissued : issuedAt s c = issued op s.1 s.2 := by
    rw [issuedAt, hop, issued_map]
  have hreturned : returned s c = .requested (run op s.1 s.2).1 := by
    rw [returned, hop, run_map]
  refine ⟨?_, _, hreturned, ?_⟩
  · rw [hissued]
    simpa [Function.comp_def] using congrArg (List.map Prod.snd) hrequests
  · rw [hissued, hresult]
    exact isFirstFailure _

theorem attempts_subscribeAll (s : Broker H × L) (list : List (String × H)) :
    Attempts s (.subscribeAll list) (list.map fun e => .subscribe e.1 s.1.settings.quality) :=
  have hspec := subscribeAll_spec s.1.settings.quality list s.1 _ s.2 rfl
  Attempts.of_operation rfl hspec.2.1 hspec.2.2

theorem attempts_unsubscribe (s : Broker H × L) (filters : List String) :
    Attempts s (.unsubscribe filters) (filters.map .unsubscribe) :=
  have hspec := unsubscribe_spec filters s.1 s.2
  Attempts.of_operation rfl hspec.2.1 hspec.2.2

omit [Link L] in
/-- Accepted subscriptions to different filters add up. -/
theorem find?_brokerSide {xs : List (Issued H)} {entries : List (String × Quality)}
    (hrequests : xs.map Issued.request = entries.map fun e => .subscribe e.1 e.2)
    (haccepted : ∀ x ∈ xs, x.outcome = .ok ()) (hdistinct : (entries.map (·.1)).Nodup)
    (t : Table String Quality) (filter : String) :
    (brokerSide t xs).find? filter = (lookupEntry filter entries).or (t.find? filter) := by
  induction xs generalizing entries t with
  | nil =>
    obtain rfl := List.map_eq_nil_iff.1 hrequests.symm
    rfl
  | cons x xs ih =>
    cases entries with
    | nil => cases hrequests
    | cons e entries =>
      obtain ⟨hrequest, hrest⟩ := List.cons.inj hrequests
      obtain ⟨hnew, hdistinct⟩ := List.nodup_cons.1 hdistinct
      have hstep : brokerSide t (x :: xs) = brokerSide (t.insert e.1 e.2) xs := by
        rw [brokerSide, List.foldl_cons, Issued.applied, hrequest,
          haccepted x (List.mem_cons_self ..)]
        rfl
      rw [hstep, ih hrest (fun y hy => haccepted y (List.mem_cons_of_mem x hy)) hdistinct,
        lookupEntry]
      by_cases h : e.1 = filter
      · subst h
        have hnone : lookupEntry e.1 entries = none := by
          by_contra hsome
          obtain ⟨q, hq⟩ := Option.ne_none_iff_exists'.1 hsome
          exact hnew (List.mem_map_of_mem (f := (·.1)) (mem_of_lookupEntry hq))
        simp [hnone]
      · rw [if_neg h, Table.find?_insert_of_ne _ _ (Ne.symm h)]

/-- **A replay requests exactly what is registered.** -/
theorem rebuilds (s : Broker H × L) : Rebuilds s := by
  obtain ⟨hasks, hresult⟩ := replay_spec s.1 s.2
  have hrequests : (issuedAt s .replay).map Issued.request =
      s.1.registry.entries.map fun e => .subscribe e.1 e.2.quality := by
    rw [issuedAt_replay]
    exact map_request hasks.requests
  have hreturned : returned s .replay =
      .refused (refused ((issuedAt s .replay).map fun x => (x.request, x.outcome))) := by
    rw [issuedAt_replay, ← hresult]
    exact congrArg Prod.fst (run_map _ _ s.1 s.2)
  refine ⟨fun request => ?_, ?_, ⟨_, hreturned, fun filter => ?_⟩, fun haccepted filter => ?_⟩
  · rw [hrequests, List.mem_map]
    constructor
    · rintro ⟨⟨filter, entry⟩, hmem, rfl⟩
      exact ⟨filter, entry, (Table.mem_entries_iff ..).1 hmem, rfl⟩
    · rintro ⟨filter, entry, hfind, rfl⟩
      exact ⟨(filter, entry), (Table.mem_entries_iff ..).2 hfind, rfl⟩
  · -- two equal requests would be for one filter, and no filter is registered twice
    rw [hrequests]
    refine List.Nodup.of_map (fun | .subscribe filter _ => filter | _ => "") ?_
    simpa [Function.comp_def, Table.keys] using s.1.registry.nodup_keys
  · rw [mem_refused]
    constructor
    · rintro ⟨quality, e, hmem⟩
      obtain ⟨x, hx, heq⟩ := List.mem_map.1 hmem
      exact ⟨x, hx, quality, e, Prod.mk.inj heq⟩
    · rintro ⟨x, hx, quality, e, hrequest, houtcome⟩
      exact ⟨quality, e, List.mem_map.2 ⟨x, hx, Prod.ext hrequest houtcome⟩⟩
  · have hentries : (issuedAt s .replay).map Issued.request =
        (s.1.registry.entries.map fun e => (e.1, e.2.quality)).map fun e => .subscribe e.1 e.2 := by
      simpa [Function.comp_def] using hrequests
    have hdistinct : ((s.1.registry.entries.map fun e => (e.1, e.2.quality)).map (·.1)).Nodup := by
      simpa [Function.comp_def] using s.1.registry.distinct
    rw [find?_brokerSide hentries haccepted hdistinct, Table.find?_empty, Option.or_none,
      lookupEntry_map]
    rfl

end Call

/-! ### All calls -/

variable {b : Broker H} {l : L}

/-- What is registered depends on the calls alone. -/
theorem session_registry (b : Broker H) (l : L) (calls : List (Call H)) :
    (session b l calls).1.settings = b.settings ∧
      (session b l calls).1.registry = calls.foldl (Call.effect b.settings.quality) b.registry := by
  induction calls using List.reverseRecOn with
  | nil => exact ⟨rfl, rfl⟩
  | append_singleton calls c ih =>
    obtain ⟨hsettings, hregistry⟩ := perform_registry (session b l calls) c
    rw [ih.1, ih.2] at hregistry
    rw [session, Run.after_snoc, List.foldl_append]
    exact ⟨hsettings.trans ih.1, hregistry⟩

/-- A subscription is requested while it is registered. -/
theorem contains_of_sessionIssued {calls : List (Call H)} {x : Issued H}
    (hx : x ∈ sessionIssued b l calls) {filter : String} {quality : Quality}
    (hrequest : x.request = .subscribe filter quality) :
    x.broker.registry.contains filter = true := by
  induction calls using List.reverseRecOn with
  | nil => cases hx
  | append_singleton calls c ih =>
    rw [sessionIssued, Run.gather_snoc, List.mem_append] at hx
    rcases hx with hx | hx
    · exact ih hx
    · exact contains_of_issuedAt _ hx hrequest

/-- **The registry is the source of all subscriptions,** over every link and after all calls. -/
theorem singleSource (b : Broker H) (l : L) (calls : List (Call H)) : SingleSource b l calls where
  registry := (session_registry b l calls).2
  registry_eq l' := (session_registry b l' calls).2.trans (session_registry b l calls).2.symm
  registered x hx filter quality := contains_of_sessionIssued hx
  subscribeAll pre list _ := by
    have hattempts := attempts_subscribeAll (session b l pre) list
    rwa [(session_registry b l pre).1] at hattempts
  unsubscribe pre filters _ := attempts_unsubscribe (session b l pre) filters
  replay pre _ := rebuilds (session b l pre)

end Calls

end LockFleet.Registry
