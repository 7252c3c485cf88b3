import LockFleet.Json.Record
import LockFleet.Report.Basic
import LockFleet.Topic

/-!
# Commands

A command is of one of five kinds and has arguments of any form.  It is sent in an envelope with an
identifier that the device repeats in its acknowledgement.

* `CommandKind`, `CommandKind.topic`: the kinds and the topic a command of a kind is sent on;
* `Arguments`: a map of arguments, always in order of their names;
* `Envelope`, `Envelope.read`, `Envelope.members`: the record that is sent.
-/

namespace LockFleet

open Json (member given)

/-! ### Kinds -/

inductive CommandKind where
  | unlock
  | lock
  | reboot
  | upgrade
  | config
  deriving DecidableEq, Repr, Inhabited

namespace CommandKind

/-- The name in messages. -/
def name : CommandKind → String
  | unlock => "unlock"
  | lock => "lock"
  | reboot => "reboot"
  | upgrade => "upgrade"
  | config => "config"

def all : List CommandKind := [unlock, lock, reboot, upgrade, config]

/-- The names that can be read. -/
def choices : List (String × CommandKind) := all.map fun k => (k.name, k)

/-- Reads a name. -/
def read : Json.Leveled CommandKind := Json.choice choices

def ofName? (name : String) : Option CommandKind := all.find? fun k => k.name = name

/-- The topic on which a command of the kind is sent to a device. -/
def topic (kind : CommandKind) (device : String) : String :=
  match kind with
  | config => Topic.config device
  | _ => Topic.command device

end CommandKind

/-! ### Arguments -/

/-- The arguments of a command. -/
structure Arguments where
  object : Json.Object

namespace Arguments

def empty : Arguments := ⟨Json.Object.empty⟩

instance : Inhabited Arguments := ⟨empty⟩

def set (a : Arguments) (key : String) (v : Json.Value) : Arguments := ⟨a.object.insert key v⟩

/-- Names a slot of a cabinet with several slots. -/
def slot (a : Arguments) (n : UInt32) : Arguments := a.set "slot" (Json.ofUInt32 n)

/-- Names the firmware of an upgrade. -/
def firmware (a : Arguments) (url version : String) : Arguments :=
  (a.set "url" (.text url)).set "version" (.text version)

/-- An argument by its name. -/
def find? (a : Arguments) (key : String) : Option Json.Value := a.object.find? key

def isEmpty (a : Arguments) : Bool := a.object.isEmpty

def toValue (a : Arguments) : Json.Value := a.object.toValue

def read : Json.Leveled Arguments := fun levels => return ⟨← Json.object levels⟩

end Arguments

/-! ### Envelopes -/

/-- A command as it is sent. -/
structure Envelope where
  /-- The identifier that the acknowledgement repeats. -/
  id : String
  kind : CommandKind
  arguments : Arguments
  /-- The time of sending in seconds. -/
  timestamp : Int64

namespace Envelope

def read : Json.Leveled Envelope :=
  Json.record "CommandEnvelope"
    (.cons (given "command_id" Json.text) <| .cons (given "command" CommandKind.read) <|
      .cons ⟨"params", Arguments.read, .otherwise Arguments.empty⟩ <|
      .cons (given "timestamp" Json.int64) .nil)
    fun (id, kind, arguments, timestamp, _) => ⟨id, kind, arguments, timestamp⟩

def members (e : Envelope) : List (String × Json.Value) :=
  [("command_id", .text e.id), ("command", .text e.kind.name), ("params", e.arguments.toValue),
    ("timestamp", Json.ofInt64 e.timestamp)]

/-- The octets of an envelope, its keys in order. -/
def encode (e : Envelope) : Bytes := Json.sorted e.members

end Envelope

/-- What a sender learns from an acknowledgement. -/
structure Reply where
  command : String
  success : Bool
  message : String
  deriving DecidableEq, Repr

/-- The reply that an acknowledgement makes. -/
def Reply.ofAck (a : Ack) : Reply := ⟨a.command, a.success, a.message⟩

end LockFleet
