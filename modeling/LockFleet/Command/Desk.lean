import LockFleet.Clock
import LockFleet.Command.Basic
import LockFleet.Table
import LockFleet.Text.Description

/-!
# The desk of waiting commands

Whoever sends a command and waits for its acknowledgement has an entry at the desk, under the
identifier of the command, and a channel that holds one acknowledgement.  The first acknowledgement
for an entry goes into its channel; later ones and those without an entry are dropped.  Entries that
have become too old are swept away.

* `DeskTiming`, `DeskClock`: its times, and the timer that measures them;
* `Desk`, `Desk.register`, `Desk.close`: a sender comes and goes;
* `Desk.handleAck`, `Desk.receive`: the two ends of a channel;
* `Desk.sweep`: drops old entries.
-/

namespace LockFleet

/-- The times a desk works with. -/
structure DeskTiming where
  /-- How long a sender waits for an acknowledgement. -/
  ackTimeout : Span
  /-- The time between two sweeps. -/
  cleanupInterval : Span
  deriving DecidableEq, Repr

/-- Half a minute and a minute. -/
def DeskTiming.standard : DeskTiming := ⟨Span.ofSeconds 30, Span.ofSeconds 60⟩

/-- The timing as a text. -/
def DeskTiming.describe (t : DeskTiming) : String :=
  Description.record "CorrelatorConfig"
    [("ack_timeout", t.ackTimeout.text), ("cleanup_interval", t.cleanupInterval.text)]

/-- The times a desk works with, and the timer that measures them. -/
structure DeskClock extends DeskTiming where
  timer : Timer

/-- The standard times, kept. -/
def DeskClock.standard : DeskClock := ⟨DeskTiming.standard, Timer.precise⟩

/-- When the wait for an acknowledgement is over that begins at a time. -/
def DeskClock.deadline (t : DeskClock) (since : Nat) : Nat := t.timer.due since t.ackTimeout

/-! ### Identifiers -/

namespace Identifier

/-- The hexadecimal digits of a number, zeros in front up to twelve digits. -/
def digits (n : Nat) : List Char :=
  let ds := Nat.toDigits 16 n
  List.replicate (12 - ds.length) '0' ++ ds

/-- The identifier of a number. -/
def ofNumber (n : Nat) : String := "00000000-0000-4000-8000-" ++ String.ofList (digits n)

/-- The first of at most `fuel` drawn identifiers from the `n`-th on that is not in use, or the one
after them. -/
def firstUnused (inUse : String → Bool) (draws : Nat → String) : Nat → Nat → String
  | 0, n => draws n
  | fuel + 1, n =>
    if inUse (draws n) then firstUnused inUse draws fuel (n + 1) else draws n

end Identifier

/-! ### The desk -/

/-- The entry of a command that waits for its acknowledgement. -/
structure Pending where
  device : String
  kind : CommandKind
  /-- The time of registration, in milliseconds. -/
  createdAt : Nat
  channel : Nat
  deriving DecidableEq, Repr

/-- The entries and channels of waiting commands. -/
structure Desk where
  timing : DeskClock
  pending : Table String Pending
  /-- The open channels with the acknowledgement each one holds. -/
  channels : Table Nat (Option Ack)
  /-- The number of the next channel. -/
  nextChannel : Nat

/-- What a sender holds of its entry. -/
structure Registration where
  id : String
  channel : Nat
  deriving DecidableEq, Repr

namespace Desk

/-- A desk where nobody waits. -/
def empty (timing : DeskClock) : Desk := ⟨timing, Table.empty, Table.empty, 0⟩

/-- The number of entries. -/
def count (d : Desk) : Nat := d.pending.size

/-- Whether a command has an entry. -/
def isPending (d : Desk) (id : String) : Bool := d.pending.contains id

/-- Makes an entry under the first of the drawn identifiers that no entry has. -/
def register (d : Desk) (now : Nat) (device : String) (kind : CommandKind) (draws : Nat → String) :
    Registration × Desk :=
  let r : Registration := ⟨Identifier.firstUnused d.isPending draws d.count 0, d.nextChannel⟩
  (r, { d with
    pending := d.pending.insert r.id ⟨device, kind, now, r.channel⟩
    channels := d.channels.insert r.channel none
    nextChannel := d.nextChannel + 1 })

/-- The sender goes, however it ends. -/
def close (d : Desk) (r : Registration) : Desk :=
  { d with pending := d.pending.erase r.id, channels := d.channels.erase r.channel }

/-- Hands an acknowledgement to the sender that waits for it.  Answers whether it was taken. -/
def handleAck (d : Desk) (a : Ack) : Bool × Desk :=
  match d.pending.find? a.command with
  | none => (false, d)
  | some entry =>
    match d.channels.find? entry.channel with
    | some none => (true, { d with channels := d.channels.insert entry.channel (some a) })
    | some (some _) => (false, d)
    | none => (false, d)

/-- What a sender finds in its channel. -/
inductive News where
  /-- Nothing so far. -/
  | waiting
  | acknowledged (a : Ack)
  /-- Nothing, and its entry is gone. -/
  | dropped
  deriving DecidableEq, Repr

/-- Whether the entry of a sender is still there. -/
def hasEntry (d : Desk) (r : Registration) : Bool :=
  match d.pending.find? r.id with
  | some entry => entry.channel = r.channel
  | none => false

/-- Looks into a channel. -/
def receive (d : Desk) (r : Registration) : News :=
  match d.channels.find? r.channel with
  | some (some a) => .acknowledged a
  | _ => if d.hasEntry r then .waiting else .dropped

/-- Whether an entry is older than twice the time that senders wait. -/
def isExpired (d : Desk) (now : Nat) (p : Pending) : Bool :=
  d.timing.ackTimeout.double.nanos < (now - p.createdAt) * Span.nanosPerMilli

/-- Drops the entries that are too old and answers how many there were. -/
def sweep (d : Desk) (now : Nat) : Nat × Desk :=
  let kept := d.pending.keep fun _ p => !d.isExpired now p
  (d.pending.size - kept.size, { d with pending := kept })

/-- The desk as a text. -/
def describe (d : Desk) : String :=
  Description.openRecord "CommandCorrelator"
    [("pending", toString d.count), ("config", d.timing.describe)]

end Desk

end LockFleet
