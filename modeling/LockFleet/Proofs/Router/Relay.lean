import LockFleet.Proofs.Run
import LockFleet.Router.Dispatch
import LockFleet.Router.Listening
import Mathlib.Data.List.Induction

/-!
# A router and its dispatches

A relay is a router with its connection, the dispatches that have been started on it, and the clock.
It is started and stopped any number of times, under any tokens.  Dispatches are polled in any order
or not at all, and what their handlers work on may change in between.

* `Relay.Setup` — what a router works with, whatever its handlers are;
* `Relay.Event`, `Relay.step` — what can happen, and what comes of it; a poll is one step;
* `Relay.play` — the relay after a list of events;
* `Relay.WellMade` — the tokens of a start have been made before it;
* `Relay.dispatch?_step`, `Relay.dispatch?_poll` — what a step does to a dispatch.
-/

namespace LockFleet

/-- What a router works with.  The handler of a report is in a state of `σ` and works on `W`. -/
structure Relay.Setup (H σ W : Type) where
  /-- What stands for the router behind its filters. -/
  router : H
  quality : Quality
  timing : RouterClock
  begin : Message → σ
  turn : Dispatch.Step σ W

/-- A dispatch that has been started. -/
structure Errand (σ : Type) where
  dispatch : Dispatch σ
  /-- Whether it holds a permit of the connection. -/
  permit : Bool

/-- Whether a dispatch has ended. -/
def Dispatch.hasEnded {σ : Type} : Dispatch σ → Bool
  | .ended _ => true
  | _ => false

/-- A router, its connection, what handlers work on, and the dispatches, each under its number. -/
structure Relay (H L σ W : Type) where
  broker : Broker H
  link : L
  /-- The token above every dispatch that begins. -/
  token : Token
  errands : List (Errand σ)
  world : W
  now : Nat
  /-- The number of polls so far. -/
  polls : Nat
  cancelled : List Nat
  /-- The number of the next token. -/
  nextToken : Nat

namespace Relay

variable {H L σ W : Type}

/-! ### Events -/

/-- What can happen at a relay. -/
inductive Event (H L W : Type) where
  /-- The router is started under a token. -/
  | start (parent : Token)
  | stop
  /-- The router is asked to route a message. -/
  | route (topic : String) (payload : Bytes)
  /-- A message arrives over the connection. -/
  | deliver (topic : String) (payload : Bytes)
  /-- A dispatch is polled. -/
  | poll (errand : Nat) (wall : Moment)
  | cancel (t : Token)
  /-- Somebody makes a token. -/
  | mint
  /-- Time passes. -/
  | pass (millis : Nat)
  /-- The connection and what handlers work on change for other reasons. -/
  | elsewhere (broker : Broker H) (link : L) (world : W)

def Event.isStart : Event H L W → Bool
  | .start _ => true
  | _ => false

/-- A router that has been made and not been started. -/
def fresh (broker : Broker H) (link : L) (world : W) : Relay H L σ W :=
  ⟨broker, link, Token.root 0, [], world, 0, 0, [], 1⟩

/-- The surroundings of a poll. -/
def view (x : Relay H L σ W) (wall : Moment) : View := ⟨x.now, x.polls, x.cancelled, wall⟩

def dispatch? (x : Relay H L σ W) (i : Nat) : Option (Dispatch σ) :=
  x.errands[i]?.map Errand.dispatch

/-- Carries out an operation on the connection. -/
def operate [Link L] {α : Type} (x : Relay H L σ W) (op : Registry.Operation H α) :
    Relay H L σ W :=
  let (_, broker, link) := Registry.run op x.broker x.link
  { x with broker, link }

/-- Polls a dispatch; one that ends gives its permit back. -/
def poll (r : Setup H σ W) (x : Relay H L σ W) (i : Nat) (wall : Moment) (a : Errand σ) :
    Relay H L σ W :=
  let (d, world) := a.dispatch.poll (x.view wall) r.timing x.token r.begin r.turn x.world
  let released := a.permit && d.hasEnded
  { x with
    broker := if released then x.broker.release else x.broker
    errands := x.errands.set i ⟨d, a.permit && !released⟩
    world
    polls := x.polls + 1 }

variable [DecidableEq H] [Link L]

/-- What comes of an event.  Dispatches that are not there are not polled. -/
def step (r : Setup H σ W) (x : Relay H L σ W) : Event H L W → Relay H L σ W
  | .start parent =>
    { x with token := parent.child x.nextToken, nextToken := x.nextToken + 1 }.operate
      (Listening.start r.quality r.router)
  | .stop => { x with cancelled := x.token.cancel x.cancelled }.operate Listening.stop
  | .route topic payload => { x with errands := x.errands ++ [⟨.fresh topic payload, false⟩] }
  | .deliver topic payload =>
    let (started, broker) := x.broker.accept topic
    { x with
      broker
      errands := x.errands ++
        (started.filter (· = r.router)).map fun _ => ⟨.fresh topic payload, true⟩ }
  | .poll i wall =>
    match x.errands[i]? with
    | some a => x.poll r i wall a
    | none => x
  | .cancel t => { x with cancelled := t.cancel x.cancelled }
  | .mint => { x with nextToken := x.nextToken + 1 }
  | .pass millis => { x with now := x.now + millis }
  | .elsewhere broker link world => { x with broker, link, world }

/-- The relay after a list of events. -/
def play (r : Setup H σ W) (x : Relay H L σ W) (es : List (Event H L W)) : Relay H L σ W :=
  Run.after (step r) x es

theorem play_append (r : Setup H σ W) (x : Relay H L σ W) (es es' : List (Event H L W)) :
    play r x (es ++ es') = play r (play r x es) es' :=
  Run.after_append es es'

theorem play_snoc (r : Setup H σ W) (x : Relay H L σ W) (es : List (Event H L W))
    (e : Event H L W) : play r x (es ++ [e]) = (play r x es).step r e :=
  Run.after_snoc es e

/-- A token all of whose numbers have been given out. -/
def Knows (x : Relay H L σ W) (t : Token) : Prop := ∀ n ∈ t.path, n < x.nextToken

/-- A router is started under tokens that have been made. -/
def WellMade (x : Relay H L σ W) : Event H L W → Prop
  | .start parent => x.Knows parent
  | _ => True

/-! ### Steps -/

section Steps

variable {r : Setup H σ W} {x : Relay H L σ W} {e : Event H L W} {i : Nat} {d : Dispatch σ}
  {token : Token} {alarm : Alarm} {handler : σ}

/-- A dispatch that is there stays as it is, unless it is polled. -/
theorem dispatch?_step (h : x.dispatch? i = some d) (he : ∀ wall, e ≠ .poll i wall) :
    (x.step r e).dispatch? i = some d := by
  have happend : ∀ as : List (Errand σ),
      ({ x with errands := x.errands ++ as } : Relay H L σ W).dispatch? i = some d := by
    intro as
    obtain ⟨a, ha, hd⟩ := Option.map_eq_some_iff.1 h
    have hlt : i < x.errands.length := (List.getElem?_eq_some_iff.1 ha).1
    show (x.errands ++ as)[i]?.map Errand.dispatch = some d
    rw [List.getElem?_append_left hlt]
    exact h
  cases e with
  | route topic payload => exact happend _
  | deliver topic payload => exact happend _
  | poll j wall =>
    have hj : j ≠ i := by
      rintro rfl
      exact he wall rfl
    rw [step]
    split
    · show (x.errands.set j _)[i]?.map Errand.dispatch = some d
      rw [List.getElem?_set_ne hj]
      exact h
    · exact h
  | _ => exact h

/-- A dispatch that is polled goes on as its poll says. -/
theorem dispatch?_poll (h : x.dispatch? i = some d) (wall : Moment) :
    (x.step r (.poll i wall)).dispatch? i =
        some (d.poll (x.view wall) r.timing x.token r.begin r.turn x.world).1 ∧
      (x.step r (.poll i wall)).world =
        (d.poll (x.view wall) r.timing x.token r.begin r.turn x.world).2 := by
  obtain ⟨a, ha, rfl⟩ := Option.map_eq_some_iff.1 h
  have hlt : i < x.errands.length := (List.getElem?_eq_some_iff.1 ha).1
  have hstep : x.step r (.poll i wall) = x.poll r i wall a := by rw [step, ha]
  rw [hstep]
  refine ⟨?_, rfl⟩
  show (x.errands.set i _)[i]?.map Errand.dispatch = _
  rw [List.getElem?_set_self hlt]
  rfl

/-- The numbers of tokens only grow. -/
theorem nextToken_le (r : Setup H σ W) (x : Relay H L σ W) (e : Event H L W) :
    x.nextToken ≤ (x.step r e).nextToken := by
  cases e with
  | start parent => exact Nat.le_succ _
  | mint => exact Nat.le_succ _
  | poll i wall =>
    rw [step]
    split <;> exact Nat.le_refl _
  | _ => exact Nat.le_refl _

theorem Knows.step (h : x.Knows token) (e : Event H L W) : (x.step r e).Knows token :=
  fun n hn => Nat.lt_of_lt_of_le (h n hn) (nextToken_le r x e)

/-- The token of the router is replaced by a start only. -/
theorem token_step (he : e.isStart = false) : (x.step r e).token = x.token := by
  cases e with
  | start parent => cases he
  | poll i wall =>
    rw [step]
    split <;> rfl
  | _ => rfl

/-- Nothing that has been cancelled is ever taken back. -/
theorem cancelled_step (r : Setup H σ W) (x : Relay H L σ W) (e : Event H L W) :
    ∀ n ∈ x.cancelled, n ∈ (x.step r e).cancelled := by
  intro n hn
  cases e with
  | stop => exact x.token.mem_cancel hn
  | cancel t => exact t.mem_cancel hn
  | poll i wall =>
    rw [step]
    split <;> exact hn
  | _ => exact hn

theorem isCancelled_play (es : List (Event H L W))
    (ht : token.isCancelled x.cancelled = true) :
    token.isCancelled (play r x es).cancelled = true := by
  induction es using List.reverseRecOn with
  | nil => exact ht
  | append_singleton es e ih =>
    rw [play_snoc]
    exact Token.isCancelled_of_subset (cancelled_step r _ e) ih

end Steps

end Relay

end LockFleet
