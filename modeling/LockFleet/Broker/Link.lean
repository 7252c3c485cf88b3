import LockFleet.Broker.ClientQueue
import LockFleet.Broker.Quality
import LockFleet.Failure
import LockFleet.Span

/-!
# Links

A link carries requests to a message broker.  Requests change the state of the link and succeed or
fail; publishing may take time before it happens.

* `Outgoing`: a message to publish;
* `Link`: the requests;
* the link of a client's queue.
-/

namespace LockFleet

/-- A message to publish. -/
structure Outgoing where
  topic : String
  quality : Quality
  retain : Bool
  payload : Bytes
  deriving DecidableEq, Repr

/-- The outcome of a request. -/
abbrev Requested := Except TransportError Unit

/-- What can be asked of a link. -/
class Link (L : Type) where
  subscribe : L → String → Quality → Requested × L
  unsubscribe : L → String → Requested × L
  /-- The time that publishing takes before it happens. -/
  publishDelay : L → Option Span
  publish : L → Outgoing → Requested × L
  disconnect : L → Requested × L

/-- The outcome of a request that leaves the queue alone when it is refused. -/
def ClientQueue.requested (q : ClientQueue) :
    Except TransportError ClientQueue → Requested × ClientQueue
  | .ok q' => (.ok (), q')
  | .error e => (.error e, q)

instance : Link ClientQueue where
  subscribe q filter quality := q.requested (q.subscribe filter quality)
  unsubscribe q filter := q.requested (q.unsubscribe filter)
  publishDelay _ := none
  publish q m := q.requested (q.publish m.topic m.quality m.retain m.payload)
  disconnect q := q.requested q.disconnect

end LockFleet
