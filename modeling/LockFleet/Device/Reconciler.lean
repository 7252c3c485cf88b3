import LockFleet.Device.Store
import LockFleet.Program

/-!
# Taking reports in

A report is brought into the store by a program of single requests, so that the requests of several
reports may interleave and each of them may fail.  Whoever changes the reachability of a device also
records it in the history; the conditional writes of the store make sure that this is one program
only.

* `ReconcileRequest`, `Handling`: the requests, and programs that may fail;
* `Reconciler.onHeartbeat`, `onStatus`, `onEvent`, `onAck`: one program for each kind of report;
* `Reconciler.takeOffline`: the program for a device that has fallen silent;
* `Reconciler.handle`: the program for any report.
-/

namespace LockFleet

/-- What a program asks for while it takes a report in. -/
inductive ReconcileRequest where
  | store (q : StoreRequest)
  /-- The time on the wall. -/
  | clock
  /-- Hands an acknowledgement to the sender that waits for it. -/
  | ack (a : Ack)

def ReconcileRequest.Answer : ReconcileRequest → Type
  | store q => Except StoreError q.Answer
  | clock => Moment
  | ack _ => Bool

/-- Programs of such requests. -/
abbrev Reconcile (α : Type) := Program ReconcileRequest ReconcileRequest.Answer α

/-- Programs that may fail. -/
abbrev Handling (α : Type) := ExceptT HandlerError (Program ReconcileRequest ReconcileRequest.Answer) α

namespace Reconciler

/-! ### Single requests -/

def ask (q : StoreRequest) : Handling q.Answer :=
  ExceptT.mk ((Program.ask (ReconcileRequest.store q)).bind fun r =>
    .done ((r : Except StoreError q.Answer).mapError .store))

/-- The time on the wall. -/
def now : Handling Moment :=
  ExceptT.mk ((Program.ask ReconcileRequest.clock).bind fun (m : Moment) => .done (.ok m))

def lookUp (number : String) : Handling (Option Device) := ask (.find number)

/-- Sets fields. -/
def update (id : Int64) (u : Update) : Handling Unit := ask (.update id u)

/-- Appends an entry to the history. -/
def record (e : Entry) : Handling Unit := ask (.record e)

def setLock (id : Int64) (l : LockState) : Handling Unit := ask (.setLock id l)

def setAvailability (id : Int64) (a : Availability) : Handling Unit := ask (.setAvailability id a)

/-- Takes a device online unless it is. -/
def markOnline (id : Int64) (time : Moment) : Handling Bool := ask (.markOnline id time)

/-- Takes a device offline under the conditions of the store. -/
def markOffline (id : Int64) (time : Moment) (cutoff : Option Moment) : Handling Bool :=
  ask (.markOffline id time cutoff)

/-- The devices that are online and silent since a moment. -/
def stale (before : Moment) : Handling (List Device) := ask (.stale before)

/-- Hands an acknowledgement over. -/
def handOver (a : Ack) : Handling Bool :=
  ExceptT.mk ((Program.ask (ReconcileRequest.ack a)).bind fun (b : Bool) => .done (.ok b))

/-- The device of a number, which has to be known. -/
def device (number : String) : Handling Device := do
  match ← lookUp number with
  | some d => return d
  | none => throw (.unknownDevice number)

/-- Records what happened, stamped now. -/
def recordNow (id : Int64) (kind : EntryKind) (content : Option String) : Handling Unit := do
  let time ← now
  record (Entry.bySystem id kind content time)

/-! ### Reports -/

/-- A heartbeat: its telemetry and its time are stored and the device goes online. -/
def onHeartbeat (number : String) (h : Heartbeat) : Handling Unit := do
  let d ← device number
  let time ← now
  update d.id { Update.ofHeartbeat h with lastHeartbeat := some time }
  if ← markOnline d.id time then recordNow d.id .online none

/-- A status snapshot: all of it is stored. -/
def onStatus (number : String) (s : StatusReport) : Handling Unit := do
  let d ← device number
  update d.id (Update.ofStatus s)

/-- What an event changes about its device. -/
def applyEvent (id : Int64) : EventKind → Handling Unit
  | .unlocked => setLock id .unlocked
  | .locked => setLock id .locked
  | .error => setAvailability id .fault
  | .alarm => setAvailability id .fault
  | .other _ => pure ()

/-- An event: what it changes is stored, and it is recorded. -/
def onEvent (number : String) (e : EventReport) : Handling Unit := do
  let d ← device number
  applyEvent d.id e.kind
  recordNow d.id (EntryKind.ofEvent e.kind) e.message

/-- An acknowledgement goes to the sender that waits for it. -/
def onAck (a : Ack) : Handling Unit := do
  let _ ← handOver a

/-- The program for a report. -/
def handle (m : Message) : Handling Unit :=
  match m.report with
  | .heartbeat h => onHeartbeat m.device h
  | .status s => onStatus m.device s
  | .event e => onEvent m.device e
  | .ack a => onAck a

/-! ### Silence -/

/-- Takes an online device offline, given a cutoff only if it has been silent since.  Answers
whether it did. -/
def takeOffline (number : String) (cutoff : Option Moment) : Handling Bool := do
  let d ← device number
  let time ← now
  if ← markOffline d.id time cutoff then
    recordNow d.id .offline none
    return true
  else return false

end Reconciler

end LockFleet
