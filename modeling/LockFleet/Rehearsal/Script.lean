import LockFleet.Hub
import LockFleet.Rehearsal.Effect

/-!
# Scripts

A rehearsal is set up with the parts that take part in it and then goes through steps.  A step does
something at once, starts a task under a label, or moves the clock.

* `Setup`: what a rehearsal begins with;
* `Step`: what can be done;
* `Reply`: what a step answers at once.
-/

namespace LockFleet.Rehearsal

/-- The parts that take part. -/
inductive Cast where
  /-- The connection alone. -/
  | broker
  /-- Besides it a router over a stub. -/
  | router
  /-- All parts, none of them started. -/
  | parts
  /-- A hub that has been started. -/
  | hub
  deriving DecidableEq, Repr

/-- What a rehearsal begins with. -/
structure Setup where
  cast : Cast
  settings : Settings
  hub : HubSettings
  devices : List Device
  /-- Filters for which subscriptions fail. -/
  failing : List String
  /-- Whether the settings of the hub are described. -/
  describe : Bool

/-- A command to send. -/
structure Command where
  kind : CommandKind
  device : String
  arguments : Arguments

/-- What can be done in a rehearsal. -/
inductive Step where
  -- the connection
  | subscribe (filter : String) (handler : Handler)
  | subscribeAll (list : List (String × Handler))
  | unsubscribe (filters : List String)
  | publish (label : String) (q : PublishRequest)
  | publishGuarded (label : String) (q : PublishRequest) (token : Option String)
  | reconnect
  | disconnect
  | topics
  | deliver (label : String) (messages : List (String × Bytes))
  | release (permits : Nat)
  -- the link
  | failSubscribe (filter : String)
  | failUnsubscribe (on : Bool)
  | failPublish (on : Bool)
  | publishDelay (delay : Span)
  | clearLink
  | subscribeLink (filter : String)
  | simulate (s : Option Simulation)
  -- the router
  | startRouter (token : Option String)
  | stopRouter
  | dropRouter
  | route (label topic : String) (payload : Bytes)
  | stub (s : Stub)
  -- commands
  | send (label : String) (c : Command) (token : Option String)
  | sendOff (label : String) (c : Command)
  | handleAck (a : Ack)
  | isPending (id : String)
  | cleanup
  | startCleanup (label : String) (token : Option String)
  | cancel (token : String)
  | abort (label : String)
  | advance (millis : Nat)
  -- devices
  | handle (label : String) (kind : ReportKind) (device : String) (payload : Bytes)
  | offline (label device : String) (cutoff : Option Moment)
  | check (label : String) (offlineAfter : Span)
  | startWatchdog (label : String) (timing : WatchdogTiming) (token : Option String)
      (describe : Bool)
  | stale (before : Moment)
  | insert (d : Device)
  | storeFail (f : StoreFault)
  | storeDelay (m : StoreMethod) (delay : Span)
  | calmStore
  | ghost (number : String) (id : Int64)
  | revive
  -- the hub
  | hub
  | shutdown
  | describe

/-- The state of a connection as it is reported. -/
structure ConnectionState where
  topics : List String
  connected : Bool
  linkDisconnected : Bool
  host : String
  deriving DecidableEq, Repr

/-- The state of a hub as it is reported. -/
structure HubState where
  subscriptions : Nat
  pending : Nat
  ackTimeout : Span
  dispatchTimeout : Span
  deriving DecidableEq, Repr

/-- The descriptions of all parts that there are. -/
structure Descriptions where
  broker : String
  link : String
  router : Option String
  desk : Option String
  reconciler : Option String
  hub : Option String
  deriving DecidableEq, Repr

/-- What a step answers at once. -/
inductive Reply where
  | nothing
  | requested (r : Requested)
  /-- The start of a hub, with the description of its settings. -/
  | started (r : Requested) (description : Option String)
  | failed (filters : List String)
  | connection (s : ConnectionState)
  /-- How many handlers each message started. -/
  | tasks (counts : List Nat)
  | delivered (taken : Bool)
  | pending (b : Bool)
  | removed (n : Nat)
  | rejected (e : DecodeError)
  | described (s : String)
  | devices (ids : List Int64)
  | hub (s : HubState)
  | parts (d : Descriptions)

end LockFleet.Rehearsal
