import LockFleet.Broker.Quality
import LockFleet.Failure
import LockFleet.Topic

/-!
# The request queue of a client

A client turns requests into packets for a queue that another party empties.  Requests are refused
when that party has gone, when a message is to be published on a topic with wildcard characters,
and when a filter is empty or has wildcard characters where they do not belong.

* `Packet`: what is queued;
* `ClientQueue.subscribe`, `unsubscribe`, `publish`, `disconnect`.
-/

namespace LockFleet

/-- What a client sends. -/
inductive Packet where
  | subscribe (filters : List (String × Quality))
  | unsubscribe (filters : List String)
  | publish (topic : String) (quality : Quality) (retain : Bool) (payload : Bytes)
  | disconnect
  deriving DecidableEq, Repr

structure ClientQueue where
  /-- Whether someone still empties the queue. -/
  attached : Bool
  packets : List Packet
  deriving DecidableEq, Repr

namespace ClientQueue

/-- An empty queue that is attended. -/
def empty : ClientQueue := ⟨true, []⟩

/-- The reason given for every refusal. -/
def refusal : String := "Failed to send mqtt requests to eventloop"

/-- Whether a text holds a character. -/
def holds (c : Char) (s : String) : Bool := c ∈ s.toList

/-- Whether a text is one octet long. -/
def isOneOctet (s : String) : Bool := s.utf8ByteSize = 1

/-- Whether the wildcard characters of a filter stand where they may: each is a level of its own,
and `#` is the last one. -/
def isFilter (filter : String) : Bool :=
  match (Topic.levels filter).reverse with
  | [] => false
  | last :: others =>
    filter ≠ "" ∧ (isOneOctet last ∨ ¬ (holds '#' last ∨ holds '+' last)) ∧
      others.all fun level => ¬ holds '#' level ∧ (level.utf8ByteSize ≤ 1 ∨ ¬ holds '+' level)

/-- Whether a text has no wildcard character. -/
def isPlain (topic : String) : Bool := ¬ (holds '+' topic ∨ holds '#' topic)

/-- Queues a packet if the request is allowed and the queue attended. -/
def send (q : ClientQueue) (allowed : Bool) (p : Packet) (error : String → TransportError) :
    Except TransportError ClientQueue :=
  if allowed ∧ q.attached then .ok { q with packets := q.packets ++ [p] }
  else .error (error refusal)

/-- Asks for the messages that a filter selects. -/
def subscribe (q : ClientQueue) (filter : String) (quality : Quality) :
    Except TransportError ClientQueue :=
  q.send (isFilter filter) (.subscribe [(filter, quality)]) (.subscribe filter)

/-- Asks for no more messages that a filter selects. -/
def unsubscribe (q : ClientQueue) (filter : String) : Except TransportError ClientQueue :=
  q.send true (.unsubscribe [filter]) (.unsubscribe filter)

/-- Publishes a message. -/
def publish (q : ClientQueue) (topic : String) (quality : Quality) (retain : Bool)
    (payload : Bytes) : Except TransportError ClientQueue :=
  q.send (isPlain topic) (.publish topic quality retain payload) (.publish topic)

/-- Ends the connection. -/
def disconnect (q : ClientQueue) : Except TransportError ClientQueue :=
  q.send true .disconnect .disconnect

/-- Nobody empties the queue any more. -/
def close (q : ClientQueue) : ClientQueue := { q with attached := false }

end ClientQueue

end LockFleet
