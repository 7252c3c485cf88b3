import LockFleet.Rehearsal.Schedule
import LockFleet.Rehearsal.Script

/-!
# Staging

The steps of a script are carried out on a world.

* `World.ofSetup`: the world in which a rehearsal begins, with the answer of its start;
* `World.carryOut`: one step.
-/

namespace LockFleet.Rehearsal

namespace World

/-! ### Parts -/

/-- Runs an operation on the connection. -/
def operate {α : Type} (w : World) (op : Registry.Operation Handler α) : α × World :=
  let (a, broker, link) := Registry.run op w.broker w.link
  (a, { w with broker, link })

/-- The quality that the connection is set to. -/
def quality (w : World) : Quality := w.broker.settings.quality

/-- The token of a name, made when it is first asked for; without a name, a new one. -/
def tokenNamed (w : World) (name : Option String) : Token × World :=
  match name with
  | none => w.freshToken
  | some name =>
    match w.tokens.find? name with
    | some t => (t, w)
    | none =>
      let (t, w) := w.freshToken
      (t, { w with tokens := w.tokens.insert name t })

/-- Starts a periodic task. -/
def spawnPeriodic (w : World) (token : Token) (chore : Chore) (period : Span) : Nat × World :=
  w.spawn (.periodic token chore (.fresh period)) none false

/-! ### The start -/

/-- The world before anything has begun; its first task gets the number `firstTask`. -/
def blank (start : Moment) (firstTask : Nat) (b : Broker Handler) (devices : List Device)
    (failing : List String) : World where
  now := 0
  stamp := 0
  start := start
  cancelled := []
  nextToken := 0
  tokens := Table.empty
  broker := b
  link := { RecordingLink.empty with failing }
  desk := none
  store := TrialStore.ofStore (devices.foldl Store.insert Store.empty)
  router := none
  hub := none
  stub := Stub.standard
  simulation := none
  gate := ⟨0, []⟩
  tasks := []
  ready := []
  ends := Table.empty
  nextTask := firstTask
  calls := []
  done := []

/-- Adds a router that has not been started. -/
def addRouter (w : World) (timing : RouterClock) (backend : Backend) : World :=
  let (token, w) := w.freshToken
  { w with router := some ⟨timing, token, backend⟩ }

/-- Starts the periodic tasks of a hub. -/
def startChores (w : World) (token : Token) (s : HubSettings) : List Nat × World :=
  let (t, w) := w.childToken token
  let (sweep, w) := w.spawnPeriodic t .sweep s.desk.cleanupInterval
  match s.watchdog with
  | none => ([sweep], w)
  | some timing =>
    let (t, w) := w.childToken token
    let (scan, w) := w.spawnPeriodic t (.scan timing.offlineAfter) timing.checkInterval
    ([sweep, scan], w)

/-- Starts a hub.  A failed start leaves the connection alone. -/
def startHub (w : World) (s : HubSettings) : Requested × World :=
  let (token, w) := w.freshToken
  let (routing, w) := w.childToken token
  let (r, w) := w.operate (Hub.listen w.quality .router)
  match r with
  | .error e => (.error e, w.cancel token)
  | .ok _ =>
    let (tasks, w) := { w with
      desk := some (Desk.empty ⟨s.desk, timer⟩)
      router := some ⟨⟨s.router, timer⟩, routing, .reconciler⟩ }.startChores token s
    (.ok (), { w with hub := some ⟨token, tasks⟩ })

/-- The world in which a rehearsal begins, before its tasks have had a turn. -/
def ofSetup (start : Moment) (firstTask : Nat) (s : Setup) : Option (Reply × World) := do
  let b ← Broker.open? s.settings
  let w := blank start firstTask b s.devices s.failing
  match s.cast with
  | .broker => return (.requested (.ok ()), w)
  | .router => return (.requested (.ok ()), w.addRouter ⟨s.hub.router, timer⟩ .stub)
  | .parts =>
    let w := w.addRouter ⟨s.hub.router, timer⟩ .reconciler
    return (.requested (.ok ()), { w with desk := some (Desk.empty ⟨s.hub.desk, timer⟩) })
  | .hub =>
    let (r, w) := w.startHub s.hub
    return (.started r (if s.describe then some s.hub.describe else none), w)

/-! ### Steps -/

def connectionState (w : World) : ConnectionState where
  topics := w.broker.topics.mergeSort (fun a b => a ≤ b)
  connected := w.broker.connected
  linkDisconnected := w.link.disconnected
  host := w.broker.settings.host

/-- The descriptions of the parts. -/
def descriptions (w : World) : Descriptions where
  broker := w.broker.describe
  link := w.link.describe
  router := w.router.map fun r => r.timing.describeRouter w.broker
  desk := w.desk.map Desk.describe
  reconciler := w.desk.map Desk.describeReconciler
  hub := do
    let _ ← w.hub
    let d ← w.desk
    let r ← w.router
    return Hub.describe w.broker d r.timing.toRouterTiming

def hubState? (w : World) : Option HubState := do
  let d ← w.desk
  let r ← w.router
  return ⟨w.broker.registry.size, d.count, d.timing.ackTimeout, r.timing.dispatchTimeout⟩

/-- Starts a labelled activity. -/
def begin (w : World) (label : String) (p : Activity Outcome) : World :=
  (w.spawnActivity p (some label)).2

/-- Starts a periodic task and waits for its end under a label.  Giving up the waiting leaves the
task alone. -/
def beginPeriodic (w : World) (label : String) (token : Token) (chore : Chore) (period : Span) :
    World :=
  let (n, w) := w.spawnPeriodic token chore period
  w.begin label (Activity.awaitLoop n)

/-- Starts a labelled activity that takes something in. -/
def beginHandling {α : Type} (w : World) (label : String) (p : Handling α)
    (outcome : Except HandlerError α → Outcome) : World :=
  w.begin label ((Activity.ofReconcile p.run).bind fun r => .done (outcome r))

/-- Delivers messages one after another. -/
def deliverAll (w : World) : List (String × Bytes) → List (List Nat) × World
  | [] => ([], w)
  | (topic, payload) :: rest =>
    let (tasks, w) := w.deliver topic payload
    let (others, w) := w.deliverAll rest
    (tasks :: others, w)

/-- What is left to do when the owner of a task gives it up. -/
def abandon (w : World) (r : Running) : World :=
  match r.task with
  | .send _ s => { w with desk := w.desk.map fun d => s.abandon d }
  | _ => w

/-- Gives a labelled task up. -/
def abort (w : World) (label : String) : World :=
  match w.tasks.find? fun r => r.label = some label with
  | none => w
  | some r => (w.abandon r).finish r .aborted

/-- Stops the hub: routing ends, the periodic tasks end, and the connection is closed. -/
def shutDown (w : World) (h : Hub) : Requested × World :=
  let w := match w.router with
    | some r => w.cancel r.token
    | none => w
  let (_, w) := w.operate Listening.stop
  let w := (w.cancel h.token).settle
  ({ w with hub := some { h with tasks := [] } }).operate Registry.disconnect

/-- Carries out a step on the connection. -/
def connectionStep (w : World) : Step → Option (Reply × World)
  | .subscribe filter handler =>
    let (r, w) := w.operate (Registry.subscribe w.quality filter handler)
    some (.requested r, w)
  | .subscribeAll list =>
    let (r, w) := w.operate (Registry.subscribeAll w.quality list)
    some (.requested r, w)
  | .unsubscribe filters =>
    let (r, w) := w.operate (Registry.unsubscribe filters)
    some (.requested r, w)
  | .publish label q => some (.nothing, w.begin label (Activity.publishJob q))
  | .publishGuarded label q token =>
    let (t, w) := w.tokenNamed token
    some (.nothing, (w.spawn (.guarded t q .fresh) (some label) false).2)
  | .reconnect =>
    let (failed, w) := w.operate Registry.replay
    some (.failed (failed.mergeSort fun a b => a ≤ b), w)
  | .disconnect =>
    let (r, w) := w.operate Registry.disconnect
    some (.requested r, w)
  | .topics => some (.connection w.connectionState, w)
  | .deliver label messages =>
    let (tasks, w) := w.deliverAll messages
    some (.tasks (tasks.map List.length),
      w.begin label (Activity.awaitHandlers tasks.flatten))
  | .release permits =>
    some (.nothing, { w with gate := { w.gate with permits := w.gate.permits + permits } })
  | _ => none

/-- Carries out a step on the link. -/
def linkStep (w : World) : Step → Option World
  | .failSubscribe filter => some { w with link := w.link.failSubscribe filter }
  | .failUnsubscribe on => some { w with link := { w.link with failUnsubscribe := on } }
  | .failPublish on => some { w with link := { w.link with failPublish := on } }
  | .publishDelay delay => some { w with link := { w.link with delay := some delay } }
  | .clearLink => some { w with link := w.link.clear }
  | .simulate s => some { w with simulation := s }
  | _ => none

/-- Carries out a step on the router.  A hub does not let go of its router. -/
def routerStep (w : World) : Step → Option (Reply × World)
  | .startRouter token => do
    let r ← w.router
    let (parent, w) := w.tokenNamed token
    let (t, w) := w.childToken parent
    let (answer, w) := ({ w with router := some { r with token := t } }).operate
      (Listening.start w.quality .router)
    return (.requested answer, w)
  | .stopRouter => do
    let r ← w.router
    let (answer, w) := (w.cancel r.token).operate Listening.stop
    return (.requested answer, w)
  | .dropRouter => some (.nothing, if w.hub.isSome then w else { w with router := none })
  | .route label topic payload =>
    some (.nothing, (w.spawn (.dispatch (.fresh topic payload)) (some label) false).2)
  | .stub s => some (.nothing, { w with stub := s })
  | _ => none

/-- Carries out a step on commands. -/
def commandStep (w : World) : Step → Option (Reply × World)
  | .send label c token => do
    let _ ← w.desk
    let (t, w) := w.tokenNamed token
    return (.nothing,
      (w.spawn (.send ⟨t, c.device, c.kind, c.arguments⟩ .fresh) (some label) false).2)
  | .sendOff label c => do
    let _ ← w.desk
    return (.nothing, w.begin label (Activity.sendOff c.device c.kind c.arguments))
  | .handleAck a => do
    let _ ← w.desk
    let (taken, w) := w.handleAck a
    return (.delivered taken, w)
  | .isPending id => do
    let d ← w.desk
    return (.pending (d.isPending id), w)
  | .cleanup => do
    let _ ← w.desk
    let (removed, w) := w.sweep
    return (.removed removed, w)
  | .startCleanup label token => do
    let d ← w.desk
    let (t, w) := w.tokenNamed token
    return (.nothing, w.beginPeriodic label t .sweep d.timing.cleanupInterval)
  | .cancel name =>
    let (t, w) := w.tokenNamed (some name)
    some (.nothing, w.cancel t)
  | .abort label => some (.nothing, w.abort label)
  | _ => none

/-- Carries out a step on devices. -/
def deviceStep (w : World) : Step → Option (Reply × World)
  | .handle label kind device payload =>
    match Report.decode kind payload with
    | .error e => some (.rejected e, w)
    | .ok r => some (.nothing, w.beginHandling label (Reconciler.handle ⟨device, r⟩) .handled)
  | .offline label device cutoff =>
    some (.nothing, w.beginHandling label (Reconciler.takeOffline device cutoff) .wentOffline)
  | .check label offlineAfter =>
    some (.nothing, w.beginHandling label (Watchdog.check offlineAfter) .checked)
  | .startWatchdog label timing token describe => do
    let d ← w.desk
    let (t, w) := w.tokenNamed token
    return (if describe then .described (timing.describeWatchdog d) else .nothing,
      w.beginPeriodic label t (.scan timing.offlineAfter) timing.checkInterval)
  | .stale before =>
    some (.devices ((w.store.store.stale before).map (·.id)), w)
  | _ => none

/-- Carries out a step on the store. -/
def storeStep (t : TrialStore) : Step → Option TrialStore
  | .insert d => some { t with store := t.store.insert d }
  | .storeFail f => some { t with faults := t.faults ++ [f] }
  | .storeDelay m delay =>
    some { t with delays := (m, delay) :: t.delays.filter fun d => d.1 ≠ m }
  | .calmStore => some t.calm
  | .ghost number id => some { t with ghosts := (number, id) :: t.ghosts }
  | .revive => some { t with revive := true }
  | _ => none

/-- Carries out a step on the hub. -/
def hubStep (w : World) : Step → Option (Reply × World)
  | .hub => do
    let s ← w.hubState?
    return (.hub s, w)
  | .shutdown => do
    let h ← w.hub
    let (r, w) := w.shutDown h
    return (.requested r, w)
  | .describe => some (.parts w.descriptions, w)
  | _ => none

/-- Carries out a step.  A step on a part that there is not does nothing. -/
def carryOut (w : World) (s : Step) : Reply × World :=
  match s with
  | .advance millis => (.nothing, w.advanceTo (timer.due w.now (Span.ofMillis millis)))
  | .subscribeLink filter =>
    let (r, link) := Link.subscribe w.link filter w.quality
    (.requested r, { w with link })
  | s =>
    match w.connectionStep s <|> w.routerStep s <|> w.commandStep s <|> w.deviceStep s <|>
        w.hubStep s with
    | some r => r
    | none =>
      match w.linkStep s with
      | some w => (.nothing, w)
      | none =>
        match storeStep w.store s with
        | some store => (.nothing, { w with store })
        | none => (.nothing, w)

end World

end LockFleet.Rehearsal
