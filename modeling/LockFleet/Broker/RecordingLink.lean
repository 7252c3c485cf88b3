import LockFleet.Broker.Link
import LockFleet.Text.Description

/-!
# A link that records

A recording link keeps what is asked of it, and fails where it is told to.

* `RecordingLink`, with its instance of `Link`;
* `RecordingLink.clear`: forgets what was recorded.
-/

namespace LockFleet

/-- A link in memory.  All lists are in order of the requests. -/
structure RecordingLink where
  /-- Filters subscribed to. -/
  subscribed : List String
  /-- Filters for which a subscription was requested, failed requests included. -/
  attempts : List String
  unsubscribed : List String
  published : List Outgoing
  /-- Filters for which requests fail. -/
  failing : List String
  failUnsubscribe : Bool
  failPublish : Bool
  delay : Option Span
  disconnected : Bool
  deriving DecidableEq, Repr

namespace RecordingLink

/-- A link that accepts everything. -/
def empty : RecordingLink := ⟨[], [], [], [], [], false, false, none, false⟩

/-- The reason of a failure that was asked for. -/
def injected : String := "injected failure"

instance : Link RecordingLink where
  subscribe l filter _ :=
    let l := { l with attempts := l.attempts ++ [filter] }
    if filter ∈ l.failing then (.error (.subscribe filter injected), l)
    else (.ok (), { l with subscribed := l.subscribed ++ [filter] })
  unsubscribe l filter :=
    if l.failUnsubscribe then (.error (.unsubscribe filter injected), l)
    else (.ok (), { l with unsubscribed := l.unsubscribed ++ [filter] })
  publishDelay l := l.delay
  publish l m :=
    if l.failPublish then (.error (.publish m.topic injected), l)
    else (.ok (), { l with published := l.published ++ [m] })
  disconnect l := (.ok (), { l with disconnected := true })

/-- Makes subscriptions to a filter fail. -/
def failSubscribe (l : RecordingLink) (filter : String) : RecordingLink :=
  { l with failing := filter :: l.failing }

/-- Forgets all requests and all failures of subscriptions. -/
def clear (l : RecordingLink) : RecordingLink :=
  { l with subscribed := [], attempts := [], unsubscribed := [], published := [], failing := [] }

/-- The link as a text. -/
def describe (l : RecordingLink) : String :=
  Description.openRecord "RecordingLink"
    [("subscribed", toString l.subscribed.length), ("published", toString l.published.length),
      ("disconnected", Description.flag l.disconnected)]

end RecordingLink

end LockFleet
