import LockFleet.Device.Reconciler
import LockFleet.Proofs.Device.Storage

/-!
# Where a handler stands

The programs that take reports in and take devices offline, by the positions that they pass between
two requests, and by all that serving the next request can do.

* `Task`, `Task.program` — what a handler is called for;
* `Position`, `Position.program` — where it stands and what is left of its program;
* `Position.Serves`, `Position.serves` — its next request, served by a store;
* `Position.fails` — its next request, failed.
-/

namespace LockFleet

/-- What a handler is called for. -/
inductive Task where
  | report (m : Message)
  /-- A device is to be taken offline, given a cutoff only if it has been silent since. -/
  | offline (number : String) (cutoff : Option Moment)

namespace Task

def program : Task → Reconcile (Except HandlerError Unit)
  | report m => (Reconciler.handle m).run
  | offline number cutoff => (do let _ ← Reconciler.takeOffline number cutoff : Handling Unit).run

/-- The number of the device that a task looks up. -/
def number? : Task → Option String
  | report ⟨_, .ack _⟩ => none
  | report m => some m.device
  | offline number _ => some number

def event? : Task → Option EventReport
  | report ⟨_, .event e⟩ => some e
  | _ => none

/-- The entry that a task leaves in the history, if it leaves one. -/
def Leaves (kind : EntryKind) (content : Option String) : Task → Prop
  | report ⟨_, .heartbeat _⟩ => kind = .online ∧ content = none
  | report ⟨_, .event e⟩ => kind = EntryKind.ofEvent e.kind ∧ content = e.message
  | report _ => False
  | offline _ _ => kind = .offline ∧ content = none

end Task

/-! ### Positions -/

/-- Where a handler stands between two requests. -/
inductive Position where
  | start (t : Task)
  | heartbeatFound (id : Int64) (h : Heartbeat)
  | heartbeatTimed (id : Int64) (h : Heartbeat) (time : Moment)
  | heartbeatStored (id : Int64) (time : Moment)
  | statusFound (id : Int64) (r : StatusReport)
  | eventFound (id : Int64) (kind : EventKind) (content : Option String)
  | silenceFound (id : Int64) (cutoff : Option Moment)
  | silenceTimed (id : Int64) (time : Moment) (cutoff : Option Moment)
  /-- An entry is to be stamped and recorded. -/
  | unstamped (id : Int64) (kind : EntryKind) (content : Option String)
  | unrecorded (e : Entry)
  | ended (result : Except HandlerError Unit)

/-- The update that a heartbeat writes. -/
def Update.ofHeartbeatAt (h : Heartbeat) (time : Moment) : Update :=
  { Update.ofHeartbeat h with lastHeartbeat := some time }

namespace Position

open Reconciler

/-- What is left of the program. -/
def program : Position → Reconcile (Except HandlerError Unit)
  | start t => t.program
  | heartbeatFound id h => (do
      let time ← now
      update id (Update.ofHeartbeatAt h time)
      if ← markOnline id time then recordNow id .online none : Handling Unit).run
  | heartbeatTimed id h time => (do
      update id (Update.ofHeartbeatAt h time)
      if ← markOnline id time then recordNow id .online none : Handling Unit).run
  | heartbeatStored id time => (do
      if ← markOnline id time then recordNow id .online none : Handling Unit).run
  | statusFound id r => (update id (Update.ofStatus r)).run
  | eventFound id kind content => (do
      applyEvent id kind
      recordNow id (EntryKind.ofEvent kind) content : Handling Unit).run
  | silenceFound id cutoff => (do
      let time ← now
      if ← markOffline id time cutoff then recordNow id .offline none : Handling Unit).run
  | silenceTimed id time cutoff => (do
      if ← markOffline id time cutoff then recordNow id .offline none : Handling Unit).run
  | unstamped id kind content => (recordNow id kind content).run
  | unrecorded e => (record e).run
  | ended result => .done result

/-- The key of the device that a position is about. -/
def device? : Position → Option Int64
  | start _ => none
  | heartbeatFound id _ => some id
  | heartbeatTimed id _ _ => some id
  | heartbeatStored id _ => some id
  | statusFound id _ => some id
  | eventFound id _ _ => some id
  | silenceFound id _ => some id
  | silenceTimed id _ _ => some id
  | unstamped id _ _ => some id
  | unrecorded e => some e.device
  | ended _ => none

/-- Where a task stands once it has found its device. -/
def found (id : Int64) : Task → Position
  | .report ⟨_, .heartbeat h⟩ => heartbeatFound id h
  | .report ⟨_, .status r⟩ => statusFound id r
  | .report ⟨_, .event e⟩ => eventFound id e.kind e.message
  | .report ⟨_, .ack _⟩ => ended (.ok ())
  | .offline _ cutoff => silenceFound id cutoff

end Position

/-! ### Serving requests -/

/-- Answers a request from a store, a clock and a desk. -/
def Store.answer (s : Store) (time : Moment) (taken : Bool) :
    (q : ReconcileRequest) → q.Answer × Store
  | .store q => s.serve q
  | .clock => (time, s)
  | .ack _ => (taken, s)

/-- The device that an answer has found. -/
def ReconcileRequest.found? : (q : ReconcileRequest) → q.Answer → Option Int64
  | .store (.find _), .ok (some d) => some d.id
  | _, _ => none

namespace Position

open Reconciler

/-- What the next request of a handler can do: the request, where the handler stands afterwards,
the store afterwards and the device that was found. -/
inductive Serves (s : Store) (time : Moment) (taken : Bool) :
    Position → ReconcileRequest → Position → Store → Option Int64 → Prop where
  | handsOver (number : String) (a : Ack) :
      Serves s time taken (start (.report ⟨number, .ack a⟩)) (.ack a) (ended (.ok ())) s none
  | unknown {t : Task} {number : String} (ht : t.number? = some number)
      (h : s.find? number = none) :
      Serves s time taken (start t) (.store (.find number))
        (ended (.error (.unknownDevice number))) s none
  | finds {t : Task} {number : String} {d : Device} (ht : t.number? = some number)
      (h : s.find? number = some d) :
      Serves s time taken (start t) (.store (.find number)) (found d.id t) s (some d.id)
  | timesHeartbeat (id : Int64) (h : Heartbeat) :
      Serves s time taken (heartbeatFound id h) .clock (heartbeatTimed id h time) s none
  | storesHeartbeat (id : Int64) (h : Heartbeat) (m : Moment)
      (hid : s.devices.contains id = true) :
      Serves s time taken (heartbeatTimed id h m)
        (.store (.update id (Update.ofHeartbeatAt h m))) (heartbeatStored id m)
        (s.change id (Store.applyUpdate (Update.ofHeartbeatAt h m))) none
  | goesOnline {id : Int64} {d : Device} (m : Moment) (hd : s.device? id = some d)
      (hoff : d.isOnline = false) :
      Serves s time taken (heartbeatStored id m) (.store (.markOnline id m))
        (unstamped id .online none) (s.change id (Store.goOnline m)) none
  | staysOnline {id : Int64} {d : Device} (m : Moment) (hd : s.device? id = some d)
      (hon : d.isOnline = true) :
      Serves s time taken (heartbeatStored id m) (.store (.markOnline id m)) (ended (.ok ())) s none
  | overwrites (id : Int64) (r : StatusReport) (hid : s.devices.contains id = true) :
      Serves s time taken (statusFound id r) (.store (.update id (Update.ofStatus r)))
        (ended (.ok ())) (s.change id (Store.applyUpdate (Update.ofStatus r))) none
  | unlocks (id : Int64) (content : Option String) (hid : s.devices.contains id = true) :
      Serves s time taken (eventFound id .unlocked content) (.store (.setLock id .unlocked))
        (unstamped id .unlock content) (s.change id (Store.setLock .unlocked)) none
  | locks (id : Int64) (content : Option String) (hid : s.devices.contains id = true) :
      Serves s time taken (eventFound id .locked content) (.store (.setLock id .locked))
        (unstamped id .lock content) (s.change id (Store.setLock .locked)) none
  | breaks (id : Int64) {kind : EventKind} (content : Option String)
      (hkind : kind = .error ∨ kind = .alarm) (hid : s.devices.contains id = true) :
      Serves s time taken (eventFound id kind content) (.store (.setAvailability id .fault))
        (unstamped id .error content) (s.change id (Store.setAvailability .fault)) none
  | notes (id : Int64) (name : String) (content : Option String) :
      Serves s time taken (eventFound id (.other name) content) .clock
        (unrecorded (Entry.bySystem id (.event name) content time)) s none
  | timesSilence (id : Int64) (cutoff : Option Moment) :
      Serves s time taken (silenceFound id cutoff) .clock (silenceTimed id time cutoff) s none
  | goesOffline {id : Int64} {d : Device} (m : Moment) (cutoff : Option Moment)
      (hd : s.device? id = some d) (hmay : Store.mayGoOffline cutoff d = true) :
      Serves s time taken (silenceTimed id m cutoff) (.store (.markOffline id m cutoff))
        (unstamped id .offline none) (s.change id (Store.goOffline m)) none
  | staysAsItIs {id : Int64} {d : Device} (m : Moment) (cutoff : Option Moment)
      (hd : s.device? id = some d) (hmay : Store.mayGoOffline cutoff d = false) :
      Serves s time taken (silenceTimed id m cutoff) (.store (.markOffline id m cutoff))
        (ended (.ok ())) s none
  | stamps (id : Int64) (kind : EntryKind) (content : Option String) :
      Serves s time taken (unstamped id kind content) .clock
        (unrecorded (Entry.bySystem id kind content time)) s none
  | records (e : Entry) :
      Serves s time taken (unrecorded e) (.store (.record e)) (ended (.ok ())) (s.record e) none
  /-- A write for a device that is not in the store is refused. -/
  | refused {p : Position} {q : StoreRequest} {id : Int64} (hp : p.device? = some id)
      (hid : s.devices.contains id = false) :
      Serves s time taken p (.store q) (ended (.error (.store (.notFound id)))) s none

end Position

namespace Position

variable {s : Store} {time : Moment} {taken : Bool}

/-- The request is served as `Serves` says, and the program goes on from the new position. -/
def Follows (s : Store) (time : Moment) (taken : Bool) (p : Position) (q : ReconcileRequest)
    (next : q.Answer → Reconcile (Except HandlerError Unit)) : Prop :=
  ∃ p', Serves s time taken p q p' (s.answer time taken q).2 (q.found? (s.answer time taken q).1) ∧
    next (s.answer time taken q).1 = p'.program

/-- A request is served as the answer and the store afterwards say. -/
theorem Follows.of_answer {p p' : Position} {q : ReconcileRequest}
    {next : q.Answer → Reconcile (Except HandlerError Unit)} {a : q.Answer} {s' : Store}
    (ha : s.answer time taken q = (a, s')) (h : Serves s time taken p q p' s' (q.found? a))
    (hn : next a = p'.program) : Follows s time taken p q next := by
  refine ⟨p', ?_, ?_⟩
  · rw [ha]
    exact h
  · rw [ha]
    exact hn

/-- A task that looks a device up goes on with the device or fails. -/
theorem follows_start {t : Task} {number : String} (ht : t.number? = some number)
    {next : Except StoreError (Option Device) → Reconcile (Except HandlerError Unit)}
    (hnone : next (.ok none) = (ended (.error (.unknownDevice number))).program)
    (hsome : ∀ d, next (.ok (some d)) = (found d.id t).program) :
    Follows s time taken (start t) (.store (.find number)) next := by
  cases h : s.find? number with
  | none =>
    refine .of_answer (a := .ok none) ?_ (.unknown ht h) hnone
    show (Except.ok (s.find? number), s) = _
    rw [h]
    rfl
  | some d =>
    refine .of_answer (a := .ok (some d)) ?_ (.finds ht h) (hsome d)
    show (Except.ok (s.find? number), s) = _
    rw [h]
    rfl

/-- A request that writes to the device of a handler is granted if the device is in the store, and
refused otherwise. -/
theorem follows_write {p p' : Position} {q : StoreRequest}
    {next : Except StoreError q.Answer → Reconcile (Except HandlerError Unit)} {a : q.Answer}
    {id : Int64} {c : Store.Change} (hp : p.device? = some id)
    (hgrant : s.devices.contains id = true → s.serve q = (.ok a, s.change id c))
    (hrefuse : s.devices.contains id = false → s.serve q = (.error (.notFound id), s))
    (hserves : s.devices.contains id = true → Serves s time taken p (.store q) p' (s.change id c)
      (ReconcileRequest.found? (.store q) (.ok a : Except StoreError q.Answer)))
    (hfound : ReconcileRequest.found? (.store q)
      (.error (.notFound id) : Except StoreError q.Answer) = none)
    (hok : next (.ok a) = p'.program)
    (herr : next (.error (.notFound id)) = (ended (.error (.store (.notFound id)))).program) :
    Follows s time taken p (.store q) next := by
  cases hid : s.devices.contains id with
  | true => exact .of_answer (hgrant hid) (hserves hid) hok
  | false =>
    refine .of_answer (hrefuse hid) ?_ herr
    rw [hfound]
    exact .refused hp hid

/-- **Every request of a handler is served in one of these ways**, and the handler goes on from the
position reached. -/
theorem serves {p : Position} {q : ReconcileRequest}
    {next : q.Answer → Reconcile (Except HandlerError Unit)} (hp : p.program = .call q next) :
    Follows s time taken p q next := by
  cases p with
  | start t =>
    cases t with
    | offline number cutoff =>
      cases hp
      refine follows_start rfl rfl fun d => ?_
      -- The answer of `takeOffline` is dropped behind each of its results.
      refine congrArg (Program.call _) (funext fun time => ?_)
      refine congrArg (Program.call _) (funext fun r => ?_)
      match r with
      | .error e => rfl
      | .ok false => rfl
      | .ok true =>
        refine congrArg (Program.call _) (funext fun time => ?_)
        refine congrArg (Program.call _) (funext fun r => ?_)
        match r with
        | .error e => rfl
        | .ok () => rfl
    | report m =>
      obtain ⟨number, r⟩ := m
      cases r with
      | heartbeat h =>
        cases hp
        exact follows_start rfl rfl fun d => rfl
      | status r =>
        cases hp
        exact follows_start rfl rfl fun d => rfl
      | event e =>
        cases hp
        exact follows_start rfl rfl fun d => rfl
      | ack a =>
        cases hp
        exact .of_answer rfl (.handsOver number a) rfl
  | heartbeatFound id h =>
    cases hp
    exact .of_answer rfl (.timesHeartbeat id h) rfl
  | heartbeatTimed id h m =>
    cases hp
    exact follows_write rfl Store.settled_modify Store.settled_modify_missing
      (.storesHeartbeat id h m) rfl rfl rfl
  | heartbeatStored id m =>
    cases hp
    cases hd : s.device? id with
    | none =>
      have hid := Store.contains_eq_false_of_device? hd
      exact .of_answer (Store.settled_modifyIf_missing hd) (.refused rfl hid) rfl
    | some d =>
      have hmark := Store.settled_modifyIf (fun d => !d.isOnline) (Store.goOnline m) hd
      cases hon : d.isOnline with
      | true =>
        rw [hon, Bool.not_true, if_neg Bool.false_ne_true] at hmark
        exact .of_answer hmark (.staysOnline m hd hon) rfl
      | false =>
        rw [hon, Bool.not_false, if_pos rfl] at hmark
        exact .of_answer hmark (.goesOnline m hd hon) rfl
  | statusFound id r =>
    cases hp
    exact follows_write rfl Store.settled_modify Store.settled_modify_missing
      (.overwrites id r) rfl rfl rfl
  | eventFound id kind content =>
    cases kind with
    | unlocked =>
      cases hp
      exact follows_write rfl Store.settled_modify Store.settled_modify_missing
        (.unlocks id content) rfl rfl rfl
    | locked =>
      cases hp
      exact follows_write rfl Store.settled_modify Store.settled_modify_missing
        (.locks id content) rfl rfl rfl
    | error =>
      cases hp
      exact follows_write rfl Store.settled_modify Store.settled_modify_missing
        (.breaks id content (Or.inl rfl)) rfl rfl rfl
    | alarm =>
      cases hp
      exact follows_write rfl Store.settled_modify Store.settled_modify_missing
        (.breaks id content (Or.inr rfl)) rfl rfl rfl
    | other name =>
      cases hp
      exact .of_answer rfl (.notes id name content) rfl
  | silenceFound id cutoff =>
    cases hp
    exact .of_answer rfl (.timesSilence id cutoff) rfl
  | silenceTimed id m cutoff =>
    cases hp
    cases hd : s.device? id with
    | none =>
      have hid := Store.contains_eq_false_of_device? hd
      exact .of_answer (Store.settled_modifyIf_missing hd) (.refused rfl hid) rfl
    | some d =>
      have hmark := Store.settled_modifyIf (Store.mayGoOffline cutoff) (Store.goOffline m) hd
      cases hmay : Store.mayGoOffline cutoff d with
      | true =>
        rw [hmay, if_pos rfl] at hmark
        exact .of_answer hmark (.goesOffline m cutoff hd hmay) rfl
      | false =>
        rw [hmay, if_neg Bool.false_ne_true] at hmark
        exact .of_answer hmark (.staysAsItIs m cutoff hd hmay) rfl
  | unstamped id kind content =>
    cases hp
    exact .of_answer rfl (.stamps id kind content) rfl
  | unrecorded e =>
    cases hp
    exact .of_answer rfl (.records e) rfl
  | ended result => cases hp

/-- A handler ends with the failure of any of its requests to the store. -/
theorem fails {p : Position} {q : StoreRequest}
    {next : Except StoreError q.Answer → Reconcile (Except HandlerError Unit)}
    (hp : p.program = .call (.store q) next) (e : StoreError) :
    next (.error e) = (ended (.error (.store e))).program := by
  cases p with
  | start t =>
    cases t with
    | offline number cutoff =>
      cases hp
      rfl
    | report m =>
      obtain ⟨number, r⟩ := m
      cases r <;> cases hp <;> rfl
  | eventFound id kind content => cases kind <;> cases hp <;> rfl
  | heartbeatFound => cases hp
  | silenceFound => cases hp
  | unstamped => cases hp
  | ended => cases hp
  | heartbeatTimed =>
    cases hp
    rfl
  | heartbeatStored =>
    cases hp
    rfl
  | statusFound =>
    cases hp
    rfl
  | silenceTimed =>
    cases hp
    rfl
  | unrecorded =>
    cases hp
    rfl

end Position

end LockFleet
