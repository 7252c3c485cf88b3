import LockFleet.Broker.Quality
import LockFleet.Failure
import LockFleet.Span
import LockFleet.Text.Description

/-!
# Settings of a broker connection

Settings start from defaults and are changed one at a time.  Host and port can also be given by an
address such as `mqtt://host:1883`: an optional scheme, the host, and after the last colon the port.

* `Settings`, `Settings.standard`;
* `Endpoint.parse`, `Settings.withAddress`;
* `Settings.requireHost`: whether there is a host to connect to;
* `Settings.describe`.
-/

namespace LockFleet

/-- The settings of a connection. -/
structure Settings where
  host : String
  port : UInt16
  client : Option String
  credentials : Option (String × String)
  keepAlive : Span
  cleanSession : Bool
  autoReconnect : Bool
  reconnectDelay : Span
  quality : Quality
  connectionTimeout : Span
  /-- How many handlers may run at once. -/
  maxInFlight : Nat
  deriving DecidableEq, Repr

/-- The settings that hold when nothing else is said. -/
def Settings.standard : Settings where
  host := ""
  port := 1883
  client := none
  credentials := none
  keepAlive := Span.ofSeconds 30
  cleanSession := true
  autoReconnect := true
  reconnectDelay := Span.ofSeconds 5
  quality := .atLeastOnce
  connectionTimeout := Span.ofSeconds 10
  maxInFlight := 256

instance : Inhabited Settings := ⟨Settings.standard⟩

/-! ### Addresses -/

/-- Where a broker listens. -/
structure Endpoint where
  host : String
  port : UInt16
  deriving DecidableEq, Repr

namespace Endpoint

/-- A text without a word it begins with. -/
def dropWord? : List Char → List Char → Option (List Char)
  | [], cs => some cs
  | _ :: _, [] => none
  | w :: ws, c :: cs => if w = c then dropWord? ws cs else none

/-- An address without its scheme. -/
def dropScheme (cs : List Char) : List Char :=
  match dropWord? ['m', 'q', 't', 't', ':', '/', '/'] cs with
  | some rest => rest
  | none =>
    match dropWord? ['t', 'c', 'p', ':', '/', '/'] cs with
    | some rest => rest
    | none => cs

/-- The parts of a text before and after its last colon. -/
def splitLastColon? : List Char → Option (List Char × List Char)
  | [] => none
  | c :: cs =>
    match splitLastColon? cs with
    | some (host, port) => some (c :: host, port)
    | none => if c = ':' then some ([], cs) else none

/-- The value of decimal digits, if there are any. -/
def digitsValue? (cs : List Char) : Option Nat :=
  if cs ≠ [] ∧ cs.all Char.isDigit then some (cs.foldl (fun n c => n * 10 + (c.toNat - 48)) 0)
  else none

/-- A port: digits after an optional plus sign. -/
def port? (cs : List Char) : Option UInt16 := do
  let digits := match cs with
    | '+' :: rest => rest
    | _ => cs
  let n ← digitsValue? digits
  if n < UInt16.size then return UInt16.ofNat n else none

/-- The port of an address that names none. -/
def defaultPort : UInt16 := 1883

/-- Reads an address. -/
def parse (url : String) : Except TransportError Endpoint :=
  let rest := dropScheme url.toList
  match splitLastColon? rest with
  | none => .ok ⟨String.ofList rest, defaultPort⟩
  | some (host, port) =>
    match port? port with
    | some p => .ok ⟨String.ofList host, p⟩
    | none => .error (.invalidAddress ("Invalid port: " ++ String.ofList port))

end Endpoint

namespace Settings

/-- Sets host and port from an address. -/
def withAddress (s : Settings) (url : String) : Except TransportError Settings :=
  (Endpoint.parse url).map fun a => { s with host := a.host, port := a.port }

/-- Refuses settings without a host. -/
def requireHost (s : Settings) : Except TransportError Settings :=
  if s.host = "" then .error (.invalidAddress "MQTT broker host is required") else .ok s

/-- The number of handlers that may run at once, at least one. -/
def capacity (s : Settings) : Nat := max 1 s.maxInFlight

end Settings

/-! ### Description -/

/-- The settings as a text. -/
def Settings.describe (s : Settings) : String :=
  Description.record "MqttBrokerConfig"
    [("host", Text.quoted s.host), ("port", toString s.port.toNat),
      ("client_id", Description.optional Text.quoted s.client),
      ("credentials", Description.optional Description.pair s.credentials),
      ("keep_alive", s.keepAlive.text), ("clean_session", Description.flag s.cleanSession),
      ("auto_reconnect", Description.flag s.autoReconnect),
      ("reconnect_delay", s.reconnectDelay.text), ("qos", s.quality.name),
      ("connection_timeout", s.connectionTimeout.text),
      ("max_in_flight", toString s.maxInFlight)]

end LockFleet
