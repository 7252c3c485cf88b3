import LockFleet.Proofs.Hub.Taking

/-!
# A dispatch from its first poll to its last

The handler of a report is polled again and again, and at each poll the store serves some of its
requests.  However its requests are spread over the polls, a handler that ends in time has done what
it does when it runs to its end at once.

* `Surroundings.advance` — a handler goes on for a number of requests;
* `Course`, `Course.follow` — a dispatch over its polls;
* `RouteOutcome.isInTime` — outcomes of a dispatch that was not cut short;
* `Surroundings.settled`, `Course.settled` — what a dispatch in time leaves behind;
* `Position.bound`, `Position.left_le` — the most requests that a handler makes;
* `Course.ends` — a dispatch ends in time if it is polled in time and its requests are answered.
-/

namespace LockFleet

namespace Surroundings

/-- A handler goes on until it ends or has to wait for the answer to a request, after a number of
answered ones at most. -/
def advance (clock : Nat → Moment) :
    Nat → Dispatch.Step (Reconcile (Except HandlerError Unit)) Surroundings
  | _, .done r, w => (.inr r, w)
  | 0, .call q next, w => (.inl (.call q next), w)
  | k + 1, .call q next, w => advance clock k (next (serve clock q w).1) (serve clock q w).2

/-- The end of a handler does not depend on how far it goes at once. -/
theorem advance_eq (clock : Nat → Moment) (k : Nat) (p : Reconcile (Except HandlerError Unit))
    (w : Surroundings) :
    (∃ p' w', advance clock k p w = (.inl p', w') ∧
      p'.run (serve clock) w' = p.run (serve clock) w) ∨
    ∃ r w', advance clock k p w = (.inr r, w') ∧ p.run (serve clock) w = (r, w') := by
  induction k generalizing p w with
  | zero =>
    cases p with
    | done r => exact Or.inr ⟨r, w, rfl, rfl⟩
    | call q next => exact Or.inl ⟨.call q next, w, rfl, rfl⟩
  | succ k ih =>
    cases p with
    | done r => exact Or.inr ⟨r, w, rfl, rfl⟩
    | call q next => exact ih (next (serve clock q w).1) (serve clock q w).2

/-- What a dispatch leaves behind that is not cut short. -/
def settled (a : Arrival) (w : Surroundings) : Surroundings :=
  match Message.decode a.topic a.payload with
  | .ok m => takeIn a.clock m w
  | .error _ => w

end Surroundings

/-- Whether a dispatch ended by itself, neither by its time nor by a cancellation. -/
def RouteOutcome.isInTime : RouteOutcome → Bool
  | dispatched => true
  | dropped => true
  | failed => true
  | timedOut => false
  | cancelled => false

abbrev ReportDispatch := Dispatch (Reconcile (Except HandlerError Unit))

/-! ### The polls of a dispatch -/

/-- The polls of a dispatch: what its task sees at each of them, and how many requests are answered
before it has to wait. -/
abbrev Course := List (View × Nat)

namespace Course

variable {timing : RouterClock} {token : Token} {a : Arrival} {w w₀ : Surroundings}

/-- Whether a dispatch has ended by itself. -/
def EndsInTime (d : ReportDispatch) : Prop :=
  ∃ outcome, d = .ended outcome ∧ outcome.isInTime = true

/-- A poll of a dispatch. -/
def poll (timing : RouterClock) (token : Token) (clock : Nat → Moment) (p : View × Nat)
    (d : ReportDispatch) (w : Surroundings) : ReportDispatch × Surroundings :=
  d.poll p.1 timing token (fun m => (Task.report m).program) (Surroundings.advance clock p.2) w

/-- A dispatch and its surroundings after some polls. -/
def follow (timing : RouterClock) (token : Token) (clock : Nat → Moment) :
    Course → ReportDispatch → Surroundings → ReportDispatch × Surroundings
  | [], d, w => (d, w)
  | p :: rest, d, w =>
    let (d, w) := poll timing token clock p d w
    follow timing token clock rest d w

/-- Where the dispatch of a message stands, compared with one that runs to its end at once. -/
def Underway (a : Arrival) (w₀ : Surroundings) : ReportDispatch → Surroundings → Prop
  | .fresh topic payload, w => topic = a.topic ∧ payload = a.payload ∧ w = w₀
  | .running _ _ handler, w =>
    (handler.run (Surroundings.serve a.clock) w).2 = Surroundings.settled a w₀
  | .ended outcome, w => outcome.isInTime = true → w = Surroundings.settled a w₀

theorem Underway.proceed {v : View} {k : Nat} {alarm : Alarm}
    {handler : Reconcile (Except HandlerError Unit)}
    (h : (handler.run (Surroundings.serve a.clock) w).2 = Surroundings.settled a w₀) :
    Underway a w₀
      (Dispatch.proceed v (Surroundings.advance a.clock k) token alarm handler w).1
      (Dispatch.proceed v (Surroundings.advance a.clock k) token alarm handler w).2 := by
  rw [Dispatch.proceed]
  split
  · exact fun hin => by cases hin
  · rcases Surroundings.advance_eq a.clock k handler w with
      ⟨handler', w', hgo, hrun⟩ | ⟨r, w', hgo, hrun⟩
    · rw [hgo]
      rw [← hrun] at h
      show Underway a w₀ (if v.isDue alarm = true then _ else _ : ReportDispatch × _).1 _
      split
      · exact fun hin => by cases hin
      · exact h
    · rw [hgo]
      rw [hrun] at h
      exact fun _ => h

/-- A poll keeps a dispatch underway. -/
theorem Underway.poll {d : ReportDispatch} (h : Underway a w₀ d w) (p : View × Nat) :
    Underway a w₀ (poll timing token a.clock p d w).1 (poll timing token a.clock p d w).2 := by
  cases d with
  | fresh topic payload =>
    obtain ⟨rfl, rfl, rfl⟩ := h
    rw [Course.poll, Dispatch.poll, Dispatch.begin]
    cases hm : Message.decode a.topic a.payload with
    | error e =>
      intro _
      rw [Surroundings.settled, hm]
    | ok m =>
      refine Underway.proceed ?_
      rw [Surroundings.settled, hm]
      rfl
  | running token alarm handler => exact Underway.proceed h
  | ended outcome => exact h

theorem Underway.follow (timing : RouterClock) (token : Token) {d : ReportDispatch}
    (h : Underway a w₀ d w) (course : Course) :
    Underway a w₀ (follow timing token a.clock course d w).1
      (follow timing token a.clock course d w).2 := by
  induction course generalizing d w with
  | nil => exact h
  | cons p rest ih => exact ih (h.poll p)

/-- **A dispatch that ends in time** leaves behind what its handler does when it runs to its end at
once, or nothing if the message cannot be decoded. -/
theorem settled {course : Course}
    (h : EndsInTime (follow timing token a.clock course (.fresh a.topic a.payload) w).1) :
    (follow timing token a.clock course (.fresh a.topic a.payload) w).2 =
      Surroundings.settled a w := by
  obtain ⟨outcome, hended, hin⟩ := h
  have hfresh : Underway a w (.fresh a.topic a.payload) w := ⟨rfl, rfl, rfl⟩
  have hend := hfresh.follow timing token course
  rw [hended] at hend
  exact hend hin

end Course

/-! ### Dispatches that end in time -/

namespace Surroundings

/-- The number of requests that a handler makes up to its end. -/
def left (clock : Nat → Moment) : Reconcile (Except HandlerError Unit) → Surroundings → Nat
  | .done _, _ => 0
  | .call q next, w => left clock (next (serve clock q w).1) (serve clock q w).2 + 1

/-- A handler that has to wait has made the requests that were answered. -/
theorem advance_left {clock : Nat → Moment} {k : Nat}
    {p p' : Reconcile (Except HandlerError Unit)} {w w' : Surroundings}
    (h : advance clock k p w = (.inl p', w')) :
    left clock p' w' + k = left clock p w ∧ 0 < left clock p' w' := by
  induction k generalizing p w with
  | zero =>
    cases p with
    | done r => cases h
    | call q next =>
      cases h
      exact ⟨rfl, Nat.succ_pos _⟩
  | succ k ih =>
    cases p with
    | done r => cases h
    | call q next =>
      obtain ⟨hleft, hpos⟩ := ih h
      refine ⟨?_, hpos⟩
      rw [left, ← hleft, Nat.add_assoc]

/-- The surroundings serve a request as a store does, with some time and some answer of the desk. -/
theorem serve_eq_answer (clock : Nat → Moment) (q : ReconcileRequest) (w : Surroundings) :
    ∃ time taken, (serve clock q w).1 = (w.store.answer time taken q).1 ∧
      (serve clock q w).2.store = (w.store.answer time taken q).2 := by
  cases q with
  | store q => exact ⟨.epoch, false, rfl, rfl⟩
  | clock => exact ⟨clock w.read, false, rfl, rfl⟩
  | ack a => exact ⟨.epoch, (w.desk.handleAck a).1, rfl, rfl⟩

end Surroundings

namespace Position

/-- The most requests that a handler still makes. -/
def bound : Position → Nat
  | start _ => 6
  | heartbeatFound _ _ => 5
  | heartbeatTimed _ _ _ => 4
  | heartbeatStored _ _ => 3
  | statusFound _ _ => 1
  | eventFound _ _ _ => 3
  | silenceFound _ _ => 4
  | silenceTimed _ _ _ => 3
  | unstamped _ _ _ => 2
  | unrecorded _ => 1
  | ended _ => 0

theorem bound_found (id : Int64) (t : Task) : (found id t).bound ≤ 5 := by
  cases t with
  | offline number cutoff => exact of_decide_eq_true rfl
  | report m =>
    obtain ⟨number, r⟩ := m
    cases r <;> exact of_decide_eq_true rfl

/-- Each request brings a handler closer to its end. -/
theorem Serves.bound_lt {s s' : Store} {time : Moment} {taken : Bool} {p p' : Position}
    {q : ReconcileRequest} {f : Option Int64} (h : Serves s time taken p q p' s' f) :
    p'.bound < p.bound := by
  cases h with
  | finds => exact Nat.lt_succ_of_le (bound_found _ _)
  | refused hp =>
    cases p with
    | start t => cases hp
    | ended r => cases hp
    | _ => exact Nat.succ_pos _
  | _ => exact of_decide_eq_true rfl

/-- A handler makes no more requests than its position allows. -/
theorem left_le (clock : Nat → Moment) (p : Position) (w : Surroundings) :
    Surroundings.left clock p.program w ≤ p.bound := by
  generalize hn : p.bound = n
  induction n using Nat.strongRecOn generalizing p w with
  | ind n ih =>
    cases hp : p.program with
    | done r => exact Nat.zero_le _
    | call q next =>
      obtain ⟨time, taken, hanswer, -⟩ := Surroundings.serve_eq_answer clock q w
      have hfollows : Position.Follows w.store time taken p q next := Position.serves hp
      obtain ⟨p', hserves, hnext⟩ := hfollows
      have hlt : p'.bound < n := hn ▸ hserves.bound_lt
      have hle := ih p'.bound hlt p' (Surroundings.serve clock q w).2 rfl
      rw [Surroundings.left, hanswer, hnext]
      omega

end Position

namespace Course

variable {timing : RouterClock} {token : Token} {a : Arrival} {w : Surroundings}

/-- The requests that are answered in the polls of a dispatch. -/
def answers : Course → Nat
  | [] => 0
  | p :: rest => p.2 + answers rest

/-- The dispatch is neither cancelled nor late at any of its polls. -/
def Quiet (token : Token) (alarm : Alarm) (course : Course) : Prop :=
  ∀ p ∈ course, p.1.isCancelled token = false ∧ p.1.isDue alarm = false

theorem follow_ended (course : Course) (outcome : RouteOutcome) (w : Surroundings) :
    (follow timing token a.clock course (.ended outcome) w).1 = .ended outcome := by
  induction course with
  | nil => rfl
  | cons p rest ih => exact ih

/-- A poll in time ends a dispatch, or its handler waits with the answered requests behind it. -/
theorem proceed_cases {v : View} {alarm : Alarm} (hlive : v.isCancelled token = false)
    (hearly : v.isDue alarm = false) (clock : Nat → Moment) (k : Nat)
    (handler : Reconcile (Except HandlerError Unit)) (w : Surroundings) :
    (∃ outcome w', Dispatch.proceed v (Surroundings.advance clock k) token alarm handler w =
      (.ended outcome, w') ∧ outcome.isInTime = true) ∨
    ∃ handler' w', Dispatch.proceed v (Surroundings.advance clock k) token alarm handler w =
      (.running token alarm handler', w') ∧
        Surroundings.left clock handler' w' + k = Surroundings.left clock handler w ∧
        0 < Surroundings.left clock handler' w' := by
  rw [Dispatch.proceed, hlive, if_neg Bool.false_ne_true]
  rcases Surroundings.advance_eq clock k handler w with
    ⟨handler', w', hgo, -⟩ | ⟨result, w', hgo, -⟩
  · rw [hgo]
    refine Or.inr ⟨handler', w', ?_, Surroundings.advance_left hgo⟩
    show (if v.isDue alarm = true then _ else _ : ReportDispatch × Surroundings) = _
    rw [hearly, if_neg Bool.false_ne_true]
  · rw [hgo]
    cases result with
    | ok u => exact Or.inl ⟨.dispatched, w', rfl, rfl⟩
    | error e => exact Or.inl ⟨.failed, w', rfl, rfl⟩

/-- A handler that waits ends in time if its requests are answered. -/
theorem ends_running {alarm : Alarm} {course : Course}
    {handler : Reconcile (Except HandlerError Unit)} (hquiet : course.Quiet token alarm)
    (hpos : 0 < Surroundings.left a.clock handler w)
    (hle : Surroundings.left a.clock handler w ≤ course.answers) :
    EndsInTime (follow timing token a.clock course (.running token alarm handler) w).1 := by
  induction course generalizing handler w with
  | nil => exact absurd hle (Nat.not_le_of_gt hpos)
  | cons p rest ih =>
    obtain ⟨v, k⟩ := p
    obtain ⟨hlive, hearly⟩ := hquiet (v, k) List.mem_cons_self
    have hsum : answers ((v, k) :: rest) = k + answers rest := rfl
    rw [follow, poll, Dispatch.poll]
    rcases proceed_cases hlive hearly a.clock k handler w with
      ⟨outcome, w', hgo, hin⟩ | ⟨handler', w', hgo, hleft, hpos'⟩
    · rw [hgo]
      exact ⟨outcome, follow_ended rest outcome w', hin⟩
    · rw [hgo]
      exact ih (fun p hp => hquiet p (List.mem_cons_of_mem _ hp)) hpos' (by omega)

/-- **A dispatch ends in time** if none of its polls is late or sees a cancelled token, and six
requests are answered in them. -/
theorem ends {v : View} {k : Nat} {rest : Course}
    (hquiet : Quiet token (v.alarm timing.timer timing.dispatchTimeout) ((v, k) :: rest))
    (hsix : 6 ≤ answers ((v, k) :: rest)) :
    EndsInTime (follow timing token a.clock ((v, k) :: rest) (.fresh a.topic a.payload) w).1 := by
  obtain ⟨hlive, hearly⟩ := hquiet (v, k) List.mem_cons_self
  have hsum : answers ((v, k) :: rest) = k + answers rest := rfl
  rw [follow]
  cases hm : Message.decode a.topic a.payload with
  | error e =>
    have hdrop : poll timing token a.clock (v, k) (.fresh a.topic a.payload) w =
        (.ended .dropped, w) := by
      rw [poll, Dispatch.poll, Dispatch.begin, hm]
    rw [hdrop]
    exact ⟨.dropped, follow_ended rest .dropped w, rfl⟩
  | ok m =>
    have hbegin : poll timing token a.clock (v, k) (.fresh a.topic a.payload) w =
        Dispatch.proceed v (Surroundings.advance a.clock k) token
          (v.alarm timing.timer timing.dispatchTimeout) (Task.report m).program w := by
      rw [poll, Dispatch.poll, Dispatch.begin, hm]
    have hbound : Surroundings.left a.clock (Task.report m).program w ≤ 6 :=
      Position.left_le a.clock (.start (.report m)) w
    rw [hbegin]
    rcases proceed_cases hlive hearly a.clock k (Task.report m).program w with
      ⟨outcome, w', hgo, hin⟩ | ⟨handler', w', hgo, hleft, hpos⟩
    · rw [hgo]
      exact ⟨outcome, follow_ended rest outcome w', hin⟩
    · rw [hgo]
      exact ends_running (fun p hp => hquiet p (List.mem_cons_of_mem _ hp)) hpos (by omega)

end Course

end LockFleet
