import LockFleet.Report.Decode

/-!
# Failures

Each layer has errors of its own, and a caller that does not care which layer failed takes them all
as one type.

* `TransportError`, `CommandError`, `StoreError`, `HandlerError`, `Failure`, each with `message`.
-/

namespace LockFleet

/-- Failures of the connection to the message broker. -/
inductive TransportError where
  | connect (reason : String)
  | subscribe (topic reason : String)
  | unsubscribe (topic reason : String)
  | publish (topic reason : String)
  /-- A payload has no JSON form. -/
  | encode (fault : Json.Fault)
  | invalidAddress (reason : String)
  | disconnect (reason : String)
  /-- The caller gave up first. -/
  | cancelled
  deriving DecidableEq, Repr

/-- The wording of a failure. -/
def TransportError.message : TransportError → String
  | connect reason => "connection failed: " ++ reason
  | subscribe topic reason => "subscribe to " ++ topic ++ " failed: " ++ reason
  | unsubscribe topic reason => "unsubscribe from " ++ topic ++ " failed: " ++ reason
  | publish topic reason => "publish to " ++ topic ++ " failed: " ++ reason
  | encode fault => "payload encoding failed: " ++ fault.message
  | invalidAddress reason => "invalid address: " ++ reason
  | disconnect reason => "disconnect failed: " ++ reason
  | cancelled => "operation cancelled"

/-- Ways in which a command ends without an acknowledgement. -/
inductive CommandError where
  /-- No acknowledgement arrived in time. -/
  | timeout (command : String) (millis : Nat)
  /-- The caller gave up. -/
  | cancelled (command : String)
  /-- The command was dropped by the sweep of old commands. -/
  | expired (command : String)
  /-- The command could not be published. -/
  | transport (error : TransportError)
  deriving DecidableEq, Repr

namespace CommandError

/-- The wording of an error. -/
def message : CommandError → String
  | timeout command millis =>
    "command " ++ command ++ " timed out after " ++ toString millis ++ " ms"
  | cancelled command => "command " ++ command ++ " cancelled"
  | expired command => "command " ++ command ++ " expired"
  | transport error => error.message

/-- The identifier of the command, for errors that arise after it was published. -/
def command? : CommandError → Option String
  | timeout command _ => some command
  | cancelled command => some command
  | expired command => some command
  | transport _ => none

/-- Whether the device did not answer in time. -/
def isTimeout : CommandError → Bool
  | timeout _ _ => true
  | _ => false

end CommandError

/-- Failures of the store. -/
inductive StoreError where
  /-- No device has this key. -/
  | notFound (id : Int64)
  /-- The storage behind the store failed. -/
  | backend (reason : String)
  deriving DecidableEq, Repr

/-- The wording of a failure. -/
def StoreError.message : StoreError → String
  | notFound id => "device " ++ toString id.toInt ++ " not found"
  | backend reason => "storage backend failed: " ++ reason

/-- Ways in which a report is not taken in. -/
inductive HandlerError where
  /-- The store has no device of this number. -/
  | unknownDevice (number : String)
  | store (error : StoreError)
  deriving DecidableEq, Repr

/-- The wording of an error. -/
def HandlerError.message : HandlerError → String
  | unknownDevice number => "unknown device: " ++ number
  | store error => error.message

/-- A failure of any layer. -/
inductive Failure where
  | transport (error : TransportError)
  | decode (error : DecodeError)
  | command (error : CommandError)
  | handler (error : HandlerError)
  | store (error : StoreError)
  deriving DecidableEq, Repr

/-- The wording of a failure, which names its layer. -/
def Failure.message : Failure → String
  | transport e => "transport error: " ++ e.message
  | decode e => "decode error: " ++ e.message
  | command e => "command error: " ++ e.message
  | handler e => "handler error: " ++ e.message
  | store e => "store error: " ++ e.message

end LockFleet
