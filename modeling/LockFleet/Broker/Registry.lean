import LockFleet.Broker.Link
import LockFleet.Broker.Settings
import LockFleet.Program
import LockFleet.Table
import LockFleet.Topic

/-!
# The registry of a broker connection

A connection remembers the handler of each filter, so that all subscriptions can be requested again
after a reconnect.  Every operation is a program of single requests: reading or writing the registry
is one step and each request to the link is one step, so that operations may interleave.

* `Broker`, `Broker.open?`: a connection;
* `BrokerRequest`, `BrokerRequest.serve`: the steps;
* `Registry.subscribe`, `subscribeAll`, `unsubscribe`, `replay`, `disconnect`: the operations.
-/

namespace LockFleet

/-- The handler of a filter and the quality with which it was subscribed to. -/
structure Subscription (H : Type) where
  quality : Quality
  handler : H
  deriving Repr

/-- A connection to a message broker with handlers from `H`. -/
structure Broker (H : Type) where
  settings : Settings
  registry : Table String (Subscription H)
  connected : Bool
  /-- How many handlers may be started before one has to end. -/
  free : Nat

namespace Broker

variable {H : Type}

/-- The largest number of handlers that a connection can be set up for. -/
def maxPermits : Nat := Nat.pow 2 61 - 1

/-- A connection over a link that is established, unless it is set up for too many handlers. -/
def open? (s : Settings) : Option (Broker H) :=
  if s.capacity ≤ maxPermits then some ⟨s, Table.empty, true, s.capacity⟩ else none

/-- The registered filters. -/
def topics (b : Broker H) : List String := b.registry.keys

/-- The handlers of the filters that select a topic. -/
def matching (b : Broker H) (topic : String) : List H :=
  (b.registry.entries.filter fun e => Topic.selects e.1 topic).map fun e => e.2.handler

/-- The handlers that a message starts: those of matching filters, as far as there are permits. -/
def accept (b : Broker H) (topic : String) : List H × Broker H :=
  let started := (b.matching topic).take b.free
  (started, { b with free := b.free - started.length })

/-- A handler has ended. -/
def release (b : Broker H) : Broker H := { b with free := b.free + 1 }

/-- The connection as a text. -/
def describe (b : Broker H) : String :=
  Description.record "MqttBroker"
    [("host", Text.quoted b.settings.host), ("port", toString b.settings.port.toNat),
      ("connected", Description.flag b.connected), ("subscriptions", toString b.registry.size)]

end Broker

/-! ### Steps -/

/-- The steps of which the operations consist. -/
inductive BrokerRequest (H : Type) where
  /-- Sets the handler of a filter. -/
  | register (filter : String) (entry : Subscription H)
  /-- Asks the link for a subscription. -/
  | subscribe (filter : String) (quality : Quality)
  /-- Asks the link to end a subscription. -/
  | unsubscribe (filter : String)
  /-- Removes filters. -/
  | prune (filters : List String)
  /-- Reads all filters and their qualities. -/
  | snapshot
  /-- Removes all filters. -/
  | clear
  /-- Asks the link to disconnect. -/
  | disconnect
  /-- Notes that there is no connection. -/
  | markDisconnected

/-- The type of the answer to a step. -/
def BrokerRequest.Answer {H : Type} : BrokerRequest H → Type
  | register _ _ => Unit
  | subscribe _ _ => Requested
  | unsubscribe _ => Requested
  | prune _ => Unit
  | snapshot => List (String × Quality)
  | clear => Unit
  | disconnect => Requested
  | markDisconnected => Unit

/-- Carries out a step. -/
def BrokerRequest.serve {H L : Type} [Link L] :
    (q : BrokerRequest H) → Broker H × L → q.Answer × (Broker H × L)
  | register filter entry, (b, l) =>
    ((), { b with registry := b.registry.insert filter entry }, l)
  | subscribe filter quality, (b, l) =>
    let (r, l) := Link.subscribe l filter quality
    (r, b, l)
  | unsubscribe filter, (b, l) =>
    let (r, l) := Link.unsubscribe l filter
    (r, b, l)
  | prune filters, (b, l) =>
    ((), { b with registry := b.registry.keep fun k _ => k ∉ filters }, l)
  | snapshot, (b, l) => (b.registry.entries.map fun e => (e.1, e.2.quality), b, l)
  | clear, (b, l) => ((), { b with registry := Table.empty }, l)
  | disconnect, (b, l) =>
    let (r, l) := Link.disconnect l
    (r, b, l)
  | markDisconnected, (b, l) => ((), { b with connected := false }, l)

/-! ### Operations -/

namespace Registry

/-- A program of steps. -/
abbrev Operation (H α : Type) := Program (BrokerRequest H) BrokerRequest.Answer α

variable {H : Type}

/-- Sets the handler of a filter. -/
def register (quality : Quality) (filter : String) (handler : H) : Operation H Unit :=
  Program.ask (BrokerRequest.register filter ⟨quality, handler⟩)

/-- Requests a subscription. -/
def request (quality : Quality) (filter : String) : Operation H Requested :=
  Program.ask (BrokerRequest.subscribe filter quality)

/-- Requests the end of a subscription. -/
def requestEnd (filter : String) : Operation H Requested :=
  Program.ask (BrokerRequest.unsubscribe filter)

/-- The first failure of several outcomes. -/
def firstFailure : List Requested → Requested
  | [] => .ok ()
  | .ok _ :: rest => firstFailure rest
  | .error e :: _ => .error e

/-- Registers a handler and then requests the subscription; the entry stays if that fails. -/
def subscribe (quality : Quality) (filter : String) (handler : H) : Operation H Requested := do
  register quality filter handler
  request quality filter

/-- Registers handlers one after another. -/
def registerAll (quality : Quality) : List (String × H) → Operation H Unit
  | [] => pure ()
  | (filter, handler) :: rest => do
    register quality filter handler
    registerAll quality rest

/-- Requests subscriptions one after another, whatever becomes of each. -/
def requestAll (quality : Quality) : List String → Operation H (List Requested)
  | [] => pure []
  | filter :: rest => do
    let r ← request quality filter
    return r :: (← requestAll quality rest)

/-- Registers all handlers and then requests all subscriptions; answers with the first failure. -/
def subscribeAll (quality : Quality) (list : List (String × H)) : Operation H Requested := do
  registerAll quality list
  return firstFailure (← requestAll quality (list.map (·.1)))

/-- Requests the end of subscriptions one after another, whatever becomes of each. -/
def requestEnds : List String → Operation H (List Requested)
  | [] => pure []
  | filter :: rest => do
    let r ← requestEnd filter
    return r :: (← requestEnds rest)

/-- Removes filters. -/
def prune (filters : List String) : Operation H Unit := Program.ask (BrokerRequest.prune filters)

/-- Requests the end of subscriptions and then removes the filters; answers with the first
failure. -/
def unsubscribe (filters : List String) : Operation H Requested := do
  let rs ← requestEnds filters
  prune filters
  return firstFailure rs

/-- All filters and their qualities. -/
def snapshot : Operation H (List (String × Quality)) := Program.ask BrokerRequest.snapshot

/-- Requests subscriptions with their qualities; answers with the filters that failed. -/
def replayAll : List (String × Quality) → Operation H (List String)
  | [] => pure []
  | (filter, quality) :: rest => do
    let r ← request quality filter
    let failed ← replayAll rest
    match r with
    | .ok _ => return failed
    | .error _ => return filter :: failed

/-- Requests all registered subscriptions again; answers with the filters that failed. -/
def replay : Operation H (List String) := do
  replayAll (← snapshot)

/-- Removes all filters. -/
def clear : Operation H Unit := Program.ask BrokerRequest.clear

/-- Asks the link to disconnect. -/
def closeLink : Operation H Requested := Program.ask BrokerRequest.disconnect

/-- Notes that there is no connection. -/
def markDisconnected : Operation H Unit := Program.ask BrokerRequest.markDisconnected

/-- Removes all filters and disconnects. -/
def disconnect : Operation H Requested := do
  clear
  let r ← closeLink
  markDisconnected
  return r

/-- Runs an operation without interruption. -/
def run {L α : Type} [Link L] (op : Operation H α) (b : Broker H) (l : L) : α × Broker H × L :=
  op.run BrokerRequest.serve (b, l)

end Registry

end LockFleet
