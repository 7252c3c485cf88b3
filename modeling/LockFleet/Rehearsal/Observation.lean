import LockFleet.Calendar.Relative
import LockFleet.Rehearsal.Stage

/-!
# Observations

After its start and after each step a rehearsal is observed: what is new on the link, which labelled
tasks have ended, what handlers have written down, what the history has gained, and which devices
look different.  Identifiers of commands are random in earnest, so they are given names in the order
in which they come to light.

* `Observation`;
* `Names`: the names of identifiers;
* `Rehearsal`, `Rehearsal.begin`, `Rehearsal.step`.
-/

namespace LockFleet.Rehearsal

/-! ### Names of identifiers -/

/-- The identifiers that have come to light, in order. -/
structure Names where
  ids : List String
  deriving Repr

namespace Names

/-- The name of a position. -/
def nameAt (n : Nat) : String := "cmd-" ++ toString (n + 1)

/-- An identifier comes to light. -/
def learn (names : Names) (id : String) : Names :=
  if id ∈ names.ids then names else ⟨names.ids ++ [id]⟩

/-- The rest of a text after a word that it begins with. -/
def dropWord? : List Char → List Char → Option (List Char)
  | [], cs => some cs
  | _ :: _, [] => none
  | w :: ws, c :: cs => if w = c then dropWord? ws cs else none

/-- The first of several words that a text begins with is replaced. -/
def replaceFirst (table : List (List Char × List Char)) (cs : List Char) :
    Option (List Char × List Char) :=
  match table with
  | [] => none
  | (word, name) :: rest =>
    match dropWord? word cs with
    | some after => if word = [] then replaceFirst rest cs else some (name, after)
    | none => replaceFirst rest cs

/-- A text with words replaced from left to right.  The fuel bounds its length. -/
def replaceWithin (table : List (List Char × List Char)) : Nat → List Char → List Char
  | 0, cs => cs
  | _ + 1, [] => []
  | fuel + 1, c :: cs =>
    match replaceFirst table (c :: cs) with
    | some (name, after) => name ++ replaceWithin table fuel after
    | none => c :: replaceWithin table fuel cs

/-- A text with words replaced. -/
def replace (table : List (String × String)) (s : String) : String :=
  if table.isEmpty then s
  else
    let cs := s.toList
    String.ofList (replaceWithin (table.map fun e => (e.1.toList, e.2.toList)) cs.length cs)

/-- The identifiers with their names. -/
def table (names : Names) : List (String × String) :=
  names.ids.zipIdx.map fun e => (e.1, nameAt e.2)

/-- A text with identifiers replaced by their names. -/
def conceal (names : Names) (s : String) : String := replace names.table s

/-- A text with names in angle brackets replaced by identifiers. -/
def reveal (names : Names) (s : String) : String :=
  replace (names.table.map fun e => ("<" ++ e.2 ++ ">", e.1)) s

end Names

/-! ### Observations -/

/-- What is seen after a step. -/
structure Observation where
  reply : Reply
  now : Nat
  pending : Option Nat
  published : List Outgoing
  subscribed : List String
  attempts : List String
  unsubscribed : List String
  /-- The ends of labelled tasks, in order of their labels. -/
  done : List (String × TaskEnd)
  calls : List CallNote
  history : List Entry
  /-- The devices that look different, in order of their keys. -/
  devices : List Device

/-- The look of a device: its moments as they are told. -/
structure Look where
  device : Device
  moments : List (Option Seen)
  deriving DecidableEq

def Look.of (r : Reference) (d : Device) : Look where
  device := { d with lastHeartbeat := none, lastOnline := none, lastOffline := none }
  moments := [d.lastHeartbeat, d.lastOnline, d.lastOffline].map fun m => m.map r.view

/-- The envelope that a message carries, if it carries one. -/
def envelope? (m : Outgoing) : Option Envelope := (Json.parse Envelope.read m.payload).toOption

/-- The identifier that the end of a task tells. -/
def TaskEnd.id? : TaskEnd → Option String
  | .finished (.sent (.ok r)) => some r.command
  | .finished (.sent (.error e)) => e.command?
  | .finished (.sentOff (.ok id)) => some id
  | _ => none

/-- The identifiers that an observation tells, in order. -/
def Observation.ids (o : Observation) : List String :=
  (o.published.filterMap fun m => (envelope? m).map (·.id)) ++ o.done.filterMap fun e => e.2.id?

/-- A message as it is shown: the time of an envelope is left out. -/
def shownPayload (m : Outgoing) : Bytes :=
  match envelope? m with
  | some e => { e with timestamp := 0 }.encode
  | none => m.payload

/-! ### Rehearsals -/

/-- What an observer has seen of a world before. -/
structure Watched where
  published : Nat
  subscribed : Nat
  attempts : Nat
  unsubscribed : Nat
  history : Nat
  looks : List Look

/-- A rehearsal that goes on. -/
structure Performance where
  world : World
  names : Names
  watched : Watched
  /-- The numbers of seconds before the start that times were given as. -/
  given : List Int

namespace Performance

/-- How moments are told. -/
def reference (p : Performance) : Reference :=
  ⟨p.world.start, p.given, p.world.start.shift (Span.nanosPerMilli + p.world.stamp + 1)⟩

/-- The devices of a world in order of their keys. -/
def devicesOf (w : World) : List Device := Store.byKey w.store.store.devices.values

def sortTexts (texts : List String) : List String := texts.mergeSort fun a b => a ≤ b

/-- Observes a world after an answer.  Requests without an order of their own are sorted. -/
def observe (p : Performance) (reply : Reply) (unordered : Bool) : Observation × Performance :=
  let w := p.world
  let r := p.reference
  let inOrder := fun (texts : List String) => if unordered then sortTexts texts else texts
  let devices := (devicesOf w).filter fun d => Look.of r d ∉ p.watched.looks
  let o : Observation := {
    reply, now := w.now, pending := w.desk.map Desk.count
    published := w.link.published.drop p.watched.published
    subscribed := inOrder (w.link.subscribed.drop p.watched.subscribed)
    attempts := inOrder (w.link.attempts.drop p.watched.attempts)
    unsubscribed := w.link.unsubscribed.drop p.watched.unsubscribed
    done := w.done.mergeSort fun a b => a.1 ≤ b.1
    calls := w.calls
    history := w.store.store.history.drop p.watched.history
    devices }
  (o, { p with
    world := { w with done := [], calls := [] }
    names := o.ids.foldl Names.learn p.names
    watched := ⟨w.link.published.length, w.link.subscribed.length, w.link.attempts.length,
      w.link.unsubscribed.length, w.store.store.history.length,
      (devicesOf w).map (Look.of r)⟩ })

/-- Begins a rehearsal, if its settings can be met.  Its tasks are numbered from `firstTask`. -/
def begin (start : Moment) (firstTask : Nat) (given : List Int) (s : Setup) :
    Option (Observation × Performance) := do
  let (reply, w) ← World.ofSetup start firstTask s
  let p : Performance := ⟨w.settle, ⟨[]⟩, ⟨0, 0, 0, 0, 0, []⟩, given⟩
  return p.observe reply false

/-- The number of the first task that starts after the rehearsal. -/
def nextTask (p : Performance) : Nat := p.world.nextTask

/-- Whether the requests of a step have no order of their own. -/
def isUnordered : Step → Bool
  | .reconnect => true
  | _ => false

/-- What the observer has to forget because a step forgets it. -/
def forget (watched : Watched) : Step → Watched
  | .clearLink => { watched with published := 0, subscribed := 0, attempts := 0, unsubscribed := 0 }
  | _ => watched

/-- Carries out a step and observes. -/
def step (p : Performance) (s : Step) : Observation × Performance :=
  let (reply, w) := p.world.carryOut s
  { p with world := w.settle, watched := forget p.watched s }.observe reply (isUnordered s)

end Performance

end LockFleet.Rehearsal
