import LockFleet.Proofs.Router.Stopping

/-!
# What becomes of a report

A report that can be decoded is given to one method of the handler, once, unless the token of the
router has been cancelled.  From then on the token, the result of the handler and the deadline race
at every poll, in this order, and the first of them decides.  A handler that is given up takes no
further step.

* `MethodCall`, `Methods`, `Message.call` — the methods of a handler, and the one that a report goes
  to;
* `Journal`, `Handlers.setup` — a router whose handlers note their calls and steps;
* `Dispatch.Decides`, `Dispatch.proceed_ended_iff` — what decides at a poll;
* `Relay.Course` — a dispatch after a run, by the polls of the run;
* `Relay.DispatchPromptAt` — time passes only while the dispatch has something to wait for;
* `Relay.Routed`, `Relay.report_routed` — the outcome of a report in every run.
-/

namespace LockFleet

/-! ### Calls -/

/-- A call of a method of a handler, with the device and the body. -/
inductive MethodCall where
  | onHeartbeat (device : String) (body : Heartbeat)
  | onStatus (device : String) (body : StatusReport)
  | onEvent (device : String) (body : EventReport)
  | onAck (device : String) (body : Ack)

/-- The method that a message goes to. -/
def Message.call (m : Message) : MethodCall :=
  match m.report with
  | .heartbeat body => .onHeartbeat m.device body
  | .status body => .onStatus m.device body
  | .event body => .onEvent m.device body
  | .ack body => .onAck m.device body

/-- The methods of a handler; a call is answered by a handler in a state of `σ`. -/
structure Methods (σ : Type) where
  onHeartbeat : String → Heartbeat → σ
  onStatus : String → StatusReport → σ
  onEvent : String → EventReport → σ
  onAck : String → Ack → σ

def Methods.answer {σ : Type} (h : Methods σ) : MethodCall → σ
  | .onHeartbeat device body => h.onHeartbeat device body
  | .onStatus device body => h.onStatus device body
  | .onEvent device body => h.onEvent device body
  | .onAck device body => h.onAck device body

/-! ### Handlers that keep a journal -/

/-- What a handler does that can be seen from outside. -/
inductive Note where
  | called (c : MethodCall)
  | stepped

/-- What handlers work on, and what they have done. -/
structure Journal (W : Type) where
  notes : List Note
  world : W

/-- A handler: before its method is called, or at work. -/
inductive Invocation (σ : Type) where
  | uncalled (c : MethodCall)
  | working (s : σ)

/-- What the next step of a handler notes. -/
def Invocation.notes {σ : Type} : Invocation σ → List Note
  | uncalled c => [.called c, .stepped]
  | working _ => [.stepped]

/-- What a router works with, whatever its handlers are. -/
structure Handlers (H σ W : Type) where
  router : H
  quality : Quality
  timing : RouterClock
  methods : Methods σ
  turn : Dispatch.Step σ W

namespace Handlers

variable {H σ W : Type}

/-- The handler at work; a method that has not been called is called. -/
def state (h : Handlers H σ W) : Invocation σ → σ
  | .uncalled c => h.methods.answer c
  | .working s => s

/-- A step of a handler, with its notes. -/
def noted (h : Handlers H σ W) : Dispatch.Step (Invocation σ) (Journal W) := fun handler j =>
  let (answer, world) := h.turn (h.state handler) j.world
  (answer.map Invocation.working id, ⟨j.notes ++ handler.notes, world⟩)

def setup (h : Handlers H σ W) : Relay.Setup H (Invocation σ) (Journal W) :=
  ⟨h.router, h.quality, h.timing, fun m => .uncalled m.call, h.noted⟩

theorem notes_noted (h : Handlers H σ W) (handler : Invocation σ) (j : Journal W) :
    (h.noted handler j).2.notes = j.notes ++ handler.notes := rfl

/-- After its first step a handler is at work. -/
theorem working_of_noted {h : Handlers H σ W} {handler handler' : Invocation σ} {j : Journal W}
    (hgoes : (h.noted handler j).1 = .inl handler') : ∃ s, handler' = .working s := by
  change (h.turn (h.state handler) j.world).1.map Invocation.working id = .inl handler' at hgoes
  cases hturn : (h.turn (h.state handler) j.world).1 with
  | inl s =>
    rw [hturn] at hgoes
    cases hgoes
    exact ⟨s, rfl⟩
  | inr result =>
    rw [hturn] at hgoes
    cases hgoes

end Handlers

/-! ### One poll -/

namespace Dispatch

variable {σ W : Type} {v : View} {timing : RouterClock} {current token : Token}
  {start : Message → σ} {turn : Step σ W} {alarm : Alarm} {handler : σ} {w : W}
  {outcome : RouteOutcome} {topic : String} {payload : Bytes}

/-- What decides the outcome of a dispatch at a poll: first the token, then the result of the
handler, then the deadline. -/
inductive Decides (v : View) (turn : Step σ W) (token : Token) (alarm : Alarm) (handler : σ)
    (w : W) : RouteOutcome → Prop where
  | cancelled (hoff : v.isCancelled token = true) : Decides v turn token alarm handler w .cancelled
  | finished {result : Except HandlerError Unit} (hon : v.isCancelled token = false)
      (hdone : (turn handler w).1 = .inr result) :
      Decides v turn token alarm handler w (RouteOutcome.ofResult result)
  | timedOut {handler' : σ} (hon : v.isCancelled token = false)
      (hgoes : (turn handler w).1 = .inl handler') (hdue : alarm.due ≤ v.now) :
      Decides v turn token alarm handler w .timedOut

/-- A poll that decides nothing lets the handler go on. -/
theorem proceed_cases (v : View) (turn : Step σ W) (token : Token) (alarm : Alarm) (handler : σ)
    (w : W) : (∃ outcome, Decides v turn token alarm handler w outcome ∧
        (proceed v turn token alarm handler w).1 = .ended outcome) ∨
      ∃ handler', v.isCancelled token = false ∧ (turn handler w).1 = .inl handler' ∧
        v.now < alarm.due ∧
        (proceed v turn token alarm handler w).1 = .running token alarm handler' := by
  rw [proceed]
  cases hoff : v.isCancelled token with
  | true => exact Or.inl ⟨_, .cancelled hoff, rfl⟩
  | false =>
    rw [if_neg Bool.false_ne_true]
    cases hturn : turn handler w with
    | mk answer w' =>
      cases answer with
      | inr result => exact Or.inl ⟨_, .finished hoff (congrArg Prod.fst hturn), rfl⟩
      | inl handler' =>
        have hgoes : (turn handler w).1 = .inl handler' := congrArg Prod.fst hturn
        dsimp only
        cases hdue : v.isDue alarm with
        | true => exact Or.inl ⟨_, .timedOut hoff hgoes (of_decide_eq_true hdue), rfl⟩
        | false => exact Or.inr ⟨handler', rfl, rfl, Nat.lt_of_not_le (of_decide_eq_false hdue), rfl⟩

/-- At a poll one thing decides at most. -/
theorem Decides.unique {outcome' : RouteOutcome} (h : Decides v turn token alarm handler w outcome)
    (h' : Decides v turn token alarm handler w outcome') : outcome = outcome' := by
  cases h with
  | cancelled hoff =>
    cases h' with
    | cancelled => rfl
    | finished hon => cases hoff.symm.trans hon
    | timedOut hon => cases hoff.symm.trans hon
  | finished hon hdone =>
    cases h' with
    | cancelled hoff => cases hoff.symm.trans hon
    | finished _ hdone' =>
      cases hdone.symm.trans hdone'
      rfl
    | timedOut _ hgoes => cases hdone.symm.trans hgoes
  | timedOut hon hgoes =>
    cases h' with
    | cancelled hoff => cases hoff.symm.trans hon
    | finished _ hdone => cases hdone.symm.trans hgoes
    | timedOut => rfl

/-- **A poll ends a dispatch exactly if something decides.** -/
theorem proceed_ended_iff : (proceed v turn token alarm handler w).1 = .ended outcome ↔
    Decides v turn token alarm handler w outcome := by
  rcases proceed_cases v turn token alarm handler w with
    ⟨outcome', hdecides, hended⟩ | ⟨handler', hon, hgoes, hnow, hruns⟩
  · rw [hended]
    constructor
    · intro heq
      cases heq
      exact hdecides
    · intro h
      rw [hdecides.unique h]
  · rw [hruns]
    constructor
    · intro heq
      cases heq
    · intro h
      cases h with
      | cancelled hoff => cases hoff.symm.trans hon
      | finished _ hdone => cases hdone.symm.trans hgoes
      | timedOut _ _ hdue => exact absurd hdue (Nat.not_le.2 hnow)

/-- What handlers work on is left alone by a poll that finds the token cancelled, and changed by one
step of the handler by any other. -/
theorem proceed_world : (proceed v turn token alarm handler w).2 =
    if v.isCancelled token then w else (turn handler w).2 := by
  rw [proceed]
  split
  · rfl
  · split
    · next hturn => rw [hturn]
    · next hturn =>
      rw [hturn]
      split <;> rfl

end Dispatch

namespace Relay

variable {H L σ W : Type} [DecidableEq H] [Link L] {h : Handlers H σ W}
  {x : Relay H L (Invocation σ) (Journal W)} {e : Event H L (Journal W)}
  {es : List (Event H L (Journal W))} {i : Nat} {m : Message} {topic : String} {payload : Bytes}
  {token : Token} {alarm : Alarm} {handler : Invocation σ} {wall : Moment} {outcome : RouteOutcome}

/-! ### Notes of a dispatch -/

/-- What the handler of a dispatch notes at an event: something only when the dispatch is polled. -/
def notesAt (h : Handlers H σ W) (i : Nat) (x : Relay H L (Invocation σ) (Journal W)) :
    Event H L (Journal W) → List Note
  | .poll j wall =>
    if j = i then (x.step h.setup (.poll j wall)).world.notes.drop x.world.notes.length else []
  | _ => []

/-- What the handler of a dispatch notes in a run. -/
def notes (h : Handlers H σ W) (i : Nat) (x : Relay H L (Invocation σ) (Journal W))
    (es : List (Event H L (Journal W))) : List Note :=
  Run.gather (step h.setup) (notesAt h i) x es

/-- The alarm of a dispatch that begins now. -/
def alarmAt (h : Handlers H σ W) (x : Relay H L (Invocation σ) (Journal W)) : Alarm :=
  Alarm.after h.timing.timer x.now x.polls h.timing.dispatchTimeout

/-- The handler whose turn it is at the next poll of a dispatch of a message. -/
inductive Awaits (h : Handlers H σ W) (x : Relay H L (Invocation σ) (Journal W)) (i : Nat)
    (m : Message) (token : Token) (alarm : Alarm) : Invocation σ → Prop where
  | first {topic : String} {payload : Bytes} (hfresh : x.dispatch? i = some (.fresh topic payload))
      (hm : Message.decode topic payload = .ok m) (htoken : token = x.token)
      (halarm : alarm = alarmAt h x) : Awaits h x i m token alarm (.uncalled m.call)
  | later {handler : Invocation σ} (hrunning : x.dispatch? i = some (.running token alarm handler)) :
      Awaits h x i m token alarm handler

omit [DecidableEq H] [Link L] in
theorem Awaits.unique {handler' : Invocation σ} (ha : Awaits h x i m token alarm handler)
    (ha' : Awaits h x i m token alarm handler') : handler = handler' := by
  cases ha with
  | first hfresh =>
    cases ha' with
    | first => rfl
    | later hrunning => cases hfresh.symm.trans hrunning
  | later hrunning =>
    cases ha' with
    | first hfresh => cases hfresh.symm.trans hrunning
    | later hrunning' =>
      cases hrunning.symm.trans hrunning'
      rfl

omit [DecidableEq H] [Link L] in
theorem Awaits.not_ended (ha : Awaits h x i m token alarm handler) :
    x.dispatch? i ≠ some (.ended outcome) := by
  intro hended
  cases ha with
  | first hfresh => cases hfresh.symm.trans hended
  | later hrunning => cases hrunning.symm.trans hended

/-- A poll of the dispatch is a step of its race. -/
theorem Awaits.poll (ha : Awaits h x i m token alarm handler) (wall : Moment) :
    (x.step h.setup (.poll i wall)).dispatch? i =
        some (Dispatch.proceed (x.view wall) h.noted token alarm handler x.world).1 ∧
      (x.step h.setup (.poll i wall)).world =
        (Dispatch.proceed (x.view wall) h.noted token alarm handler x.world).2 := by
  cases ha with
  | first hfresh hm htoken halarm =>
    have hpoll := dispatch?_poll (r := h.setup) hfresh wall
    rw [Dispatch.poll, Dispatch.begin, hm] at hpoll
    rw [htoken, halarm]
    exact hpoll
  | later hrunning => exact dispatch?_poll hrunning wall

theorem Awaits.notesAt (ha : Awaits h x i m token alarm handler) (wall : Moment) :
    notesAt h i x (.poll i wall) =
      if token.isCancelled x.cancelled then [] else handler.notes := by
  have hworld := (ha.poll wall).2
  rw [Dispatch.proceed_world] at hworld
  rw [Relay.notesAt, if_pos rfl, hworld]
  show List.drop _ (Journal.notes (if token.isCancelled x.cancelled then _ else _)) = _
  split
  · exact List.drop_length
  · rw [h.notes_noted]
    exact List.drop_left

theorem notesAt_of_ended (hended : x.dispatch? i = some (.ended outcome)) :
    notesAt h i x e = [] := by
  cases e with
  | poll j wall =>
    rw [notesAt]
    split
    · next hj =>
      subst hj
      rw [(dispatch?_poll (r := h.setup) hended wall).2]
      exact List.drop_length
    · rfl
  | _ => rfl

theorem notesAt_of_ne (he : ∀ wall, e ≠ .poll i wall) : notesAt h i x e = [] := by
  cases e with
  | poll j wall =>
    rw [notesAt, if_neg]
    rintro rfl
    exact he wall rfl
  | _ => rfl

theorem ended_step (hended : x.dispatch? i = some (.ended outcome)) (e : Event H L (Journal W)) :
    (x.step h.setup e).dispatch? i = some (.ended outcome) := by
  by_cases he : ∃ wall, e = .poll i wall
  · obtain ⟨wall, rfl⟩ := he
    exact (dispatch?_poll hended wall).1
  · exact dispatch?_step hended fun wall hw => he ⟨wall, hw⟩

/-! ### The course of a dispatch -/

/-- Something decides at a poll of a run. -/
def DecidedIn (h : Handlers H σ W) (x : Relay H L (Invocation σ) (Journal W)) (i : Nat)
    (m : Message) (token : Token) (alarm : Alarm) (es : List (Event H L (Journal W)))
    (outcome : RouteOutcome) : Prop :=
  ∃ pre wall handler, Run.Occurs es pre (.poll i wall) ∧
    Awaits h (play h.setup x pre) i m token alarm handler ∧
    Dispatch.Decides ((play h.setup x pre).view wall) h.noted token alarm handler
      (play h.setup x pre).world outcome

theorem decidedIn_snoc : DecidedIn h x i m token alarm (es ++ [e]) outcome ↔
    DecidedIn h x i m token alarm es outcome ∨
      ∃ wall handler, e = .poll i wall ∧ Awaits h (play h.setup x es) i m token alarm handler ∧
        Dispatch.Decides ((play h.setup x es).view wall) h.noted token alarm handler
          (play h.setup x es).world outcome := by
  constructor
  · rintro ⟨pre, wall, handler, ho, ha, hd⟩
    rcases Run.occurs_snoc.1 ho with ho | ⟨rfl, he⟩
    · exact Or.inl ⟨pre, wall, handler, ho, ha, hd⟩
    · exact Or.inr ⟨wall, handler, he.symm, ha, hd⟩
  · rintro (⟨pre, wall, handler, ho, ha, hd⟩ | ⟨wall, handler, rfl, ha, hd⟩)
    · exact ⟨pre, wall, handler, Run.occurs_snoc.2 (Or.inl ho), ha, hd⟩
    · exact ⟨es, wall, handler, Run.occurs_snoc.2 (Or.inr ⟨rfl, rfl⟩), ha, hd⟩

/-- Where the dispatch of a message stands after a run, and what its handler has noted. -/
structure Course (h : Handlers H σ W) (x : Relay H L (Invocation σ) (Journal W)) (i : Nat)
    (m : Message) (es : List (Event H L (Journal W))) : Prop where
  stands : (∃ outcome, (play h.setup x es).dispatch? i = some (.ended outcome)) ∨
    ∃ s, (play h.setup x es).dispatch? i = some (.running x.token (alarmAt h x) (.working s))
  decided : ∀ outcome, (play h.setup x es).dispatch? i = some (.ended outcome) ↔
    DecidedIn h x i m x.token (alarmAt h x) es outcome
  called : x.token.isCancelled x.cancelled = false →
    ∃ n, notes h i x es = .called m.call :: List.replicate n .stepped

theorem Awaits.stands (ha : Awaits h x i m token alarm handler) (wall : Moment) :
    (∃ outcome, (x.step h.setup (.poll i wall)).dispatch? i = some (.ended outcome)) ∨
      ∃ s, (x.step h.setup (.poll i wall)).dispatch? i =
        some (.running token alarm (.working s)) := by
  rw [(ha.poll wall).1]
  rcases Dispatch.proceed_cases (x.view wall) h.noted token alarm handler x.world with
    ⟨outcome, -, hended⟩ | ⟨handler', -, hgoes, -, hruns⟩
  · exact Or.inl ⟨outcome, congrArg some hended⟩
  · obtain ⟨s, rfl⟩ := Handlers.working_of_noted hgoes
    exact Or.inr ⟨s, congrArg some hruns⟩

/-- A dispatch that was open ends at a poll exactly if something decides then. -/
theorem Awaits.decided (ha : Awaits h (play h.setup x es) i m token alarm handler)
    (hopen : ∀ outcome, ¬ DecidedIn h x i m token alarm es outcome) (wall : Moment) :
    (play h.setup x (es ++ [.poll i wall])).dispatch? i = some (.ended outcome) ↔
      DecidedIn h x i m token alarm (es ++ [.poll i wall]) outcome := by
  rw [play_snoc, (ha.poll wall).1, Option.some_inj, Dispatch.proceed_ended_iff, decidedIn_snoc,
    or_iff_right (hopen outcome)]
  constructor
  · intro hdecides
    exact ⟨wall, handler, rfl, ha, hdecides⟩
  · rintro ⟨wall', handler', heq, ha', hdecides⟩
    cases heq
    cases ha.unique ha'
    exact hdecides

theorem notes_snoc (es : List (Event H L (Journal W))) (e : Event H L (Journal W)) :
    notes h i x (es ++ [e]) = notes h i x es ++ notesAt h i (play h.setup x es) e :=
  Run.gather_snoc _ es e

theorem replicate_stepped (n : Nat) :
    List.replicate n Note.stepped ++ [.stepped] = List.replicate (n + 1) .stepped :=
  List.replicate_succ'.symm

namespace Course

/-- The first poll calls the method, unless the token has been cancelled. -/
theorem first (hfresh : x.dispatch? i = some (.fresh topic payload))
    (hm : Message.decode topic payload = .ok m) (wall : Moment) :
    Course h x i m [.poll i wall] := by
  have ha : Awaits h (play h.setup x []) i m x.token (alarmAt h x) (.uncalled m.call) :=
    .first hfresh hm rfl rfl
  refine ⟨ha.stands wall, fun outcome => ?_, fun hon => ⟨1, ?_⟩⟩
  · refine ha.decided (fun outcome hdecided => ?_) wall
    obtain ⟨_, _, _, ho, -⟩ := hdecided
    exact Run.not_occurs_nil ho
  · have hnotes := ha.notesAt wall
    rw [show (play h.setup x []).cancelled = x.cancelled from rfl, hon] at hnotes
    exact congrArg (· ++ []) hnotes

/-- An event that is not a poll of the dispatch changes nothing. -/
theorem other (hc : Course h x i m es) (he : ∀ wall, e ≠ .poll i wall) :
    Course h x i m (es ++ [e]) := by
  have hsame : (play h.setup x (es ++ [e])).dispatch? i = (play h.setup x es).dispatch? i := by
    rw [play_snoc]
    rcases hc.stands with ⟨outcome, hended⟩ | ⟨s, hruns⟩
    · exact (dispatch?_step hended he).trans hended.symm
    · exact (dispatch?_step hruns he).trans hruns.symm
  refine ⟨?_, fun outcome => ?_, fun hon => ?_⟩
  · rw [hsame]
    exact hc.stands
  · rw [hsame, decidedIn_snoc, hc.decided outcome]
    refine (or_iff_left ?_).symm
    rintro ⟨wall, -, hpoll, -⟩
    exact he wall hpoll
  · rw [notes_snoc, notesAt_of_ne he, List.append_nil]
    exact hc.called hon

/-- A poll is a step of the race, or comes too late. -/
theorem poll (hc : Course h x i m es) (wall : Moment) : Course h x i m (es ++ [.poll i wall]) := by
  rcases hc.stands with ⟨outcome, hended⟩ | ⟨s, hruns⟩
  · have hstays : (play h.setup x (es ++ [.poll i wall])).dispatch? i = some (.ended outcome) := by
      rw [play_snoc]
      exact ended_step hended _
    refine ⟨Or.inl ⟨outcome, hstays⟩, fun outcome' => ?_, fun hon => ?_⟩
    · rw [hstays, ← hended, hc.decided outcome', decidedIn_snoc]
      refine (or_iff_left ?_).symm
      rintro ⟨wall', handler, -, ha, -⟩
      exact ha.not_ended hended
    · rw [notes_snoc, notesAt_of_ended hended, List.append_nil]
      exact hc.called hon
  · have ha : Awaits h (play h.setup x es) i m x.token (alarmAt h x) (.working s) := .later hruns
    refine ⟨?_, fun outcome => ha.decided (fun outcome' hdecided => ?_) wall, fun hon => ?_⟩
    · rw [play_snoc]
      exact ha.stands wall
    · exact ha.not_ended ((hc.decided outcome').2 hdecided)
    · obtain ⟨n, hn⟩ := hc.called hon
      rw [notes_snoc, ha.notesAt, hn]
      split
      · exact ⟨n, List.append_nil _⟩
      · exact ⟨n + 1, congrArg _ (replicate_stepped n)⟩

end Course

/-- Every run that begins with the first poll of a dispatch is a course of it. -/
theorem course (hfresh : x.dispatch? i = some (.fresh topic payload))
    (hm : Message.decode topic payload = .ok m) (wall : Moment)
    (es : List (Event H L (Journal W))) : Course h x i m (.poll i wall :: es) := by
  induction es using List.reverseRecOn with
  | nil => exact .first hfresh hm wall
  | append_singleton es e ih =>
    by_cases he : ∃ wall', e = .poll i wall'
    · obtain ⟨wall', rfl⟩ := he
      exact ih.poll wall'
    · exact ih.other fun wall' hw => he ⟨wall', hw⟩

/-! ### After the end -/

/-- The handler of a dispatch takes no further step. -/
def Halted (x : Relay H L (Invocation σ) (Journal W)) (i : Nat) : Prop :=
  (∃ outcome, x.dispatch? i = some (.ended outcome)) ∨
    ∃ token alarm handler, x.dispatch? i = some (.running token alarm handler) ∧
      token.isCancelled x.cancelled = true

theorem Halted.step (hx : Halted x i) (e : Event H L (Journal W)) :
    notesAt h i x e = [] ∧ Halted (x.step h.setup e) i := by
  rcases hx with ⟨outcome, hended⟩ | ⟨token, alarm, handler, hruns, hoff⟩
  · exact ⟨notesAt_of_ended hended, Or.inl ⟨outcome, ended_step hended e⟩⟩
  · by_cases he : ∃ wall, e = .poll i wall
    · obtain ⟨wall, rfl⟩ := he
      have hview : (x.view wall).isCancelled token = true := hoff
      have hpoll := dispatch?_poll (r := h.setup) hruns wall
      rw [Dispatch.poll_cancelled hview] at hpoll
      refine ⟨?_, Or.inl ⟨_, hpoll.1⟩⟩
      rw [notesAt, if_pos rfl, hpoll.2]
      exact List.drop_length
    · have hother : ∀ wall, e ≠ .poll i wall := fun wall hw => he ⟨wall, hw⟩
      exact ⟨notesAt_of_ne hother, Or.inr ⟨token, alarm, handler, dispatch?_step hruns hother,
        Token.isCancelled_of_subset (cancelled_step h.setup x e) hoff⟩⟩

theorem Halted.play (hx : Halted x i) (es : List (Event H L (Journal W))) :
    notes h i x es = [] ∧ Halted (play h.setup x es) i := by
  induction es using List.reverseRecOn with
  | nil => exact ⟨rfl, hx⟩
  | append_singleton es e ih =>
    obtain ⟨hnone, hhalted⟩ := ih
    obtain ⟨hlast, hstep⟩ := hhalted.step (h := h) e
    rw [notes_snoc, play_snoc, hnone, hlast]
    exact ⟨rfl, hstep⟩

/-! ### In time -/

/-- Time passes only while a dispatch has something to wait for, and not beyond its deadline. -/
def DispatchPromptAt (i : Nat) (x : Relay H L (Invocation σ) (Journal W)) :
    Event H L (Journal W) → Prop
  | .pass millis => ∀ d, x.dispatch? i = some d →
      (∀ wall, d.isReady (x.view wall) (fun _ => false) = false) ∧
        ∀ token alarm handler, d = .running token alarm handler → x.now + millis ≤ alarm.due
  | _ => True

theorem now_step (r : Setup H (Invocation σ) (Journal W)) (x : Relay H L (Invocation σ) (Journal W))
    (e : Event H L (Journal W)) : (x.step r e).now = x.now ∨
      ∃ millis, e = .pass millis ∧ (x.step r e).now = x.now + millis := by
  cases e with
  | pass millis => exact Or.inr ⟨millis, rfl, rfl⟩
  | poll i wall =>
    left
    rw [step]
    split <;> rfl
  | _ => exact Or.inl rfl

omit [DecidableEq H] [Link L] in
theorem le_due_alarmAt (h : Handlers H σ W) (x : Relay H L (Invocation σ) (Journal W)) :
    x.now ≤ (alarmAt h x).due :=
  h.timing.timer.le_due x.now _

/-- In a prompt run the deadline of an open dispatch has not passed. -/
theorem open_in_time (hfresh : x.dispatch? i = some (.fresh topic payload))
    (hm : Message.decode topic payload = .ok m)
    (hes : Run.Along (step h.setup) (DispatchPromptAt i) x (.poll i wall :: es))
    (hruns : (play h.setup x (.poll i wall :: es)).dispatch? i =
      some (.running x.token (alarmAt h x) handler)) :
    (play h.setup x (.poll i wall :: es)).now ≤ (alarmAt h x).due := by
  induction es using List.reverseRecOn generalizing handler with
  | nil =>
    rcases now_step h.setup x (.poll i wall) with hnow | ⟨millis, hpass, -⟩
    · exact Nat.le_trans (Nat.le_of_eq hnow) (le_due_alarmAt h x)
    · cases hpass
  | append_singleton es e ih =>
    obtain ⟨hbefore, hprompt⟩ := (Run.along_snoc (.poll i wall :: es) e).1 hes
    rw [← List.cons_append, play_snoc] at hruns ⊢
    rcases (course (h := h) hfresh hm wall es).stands with ⟨outcome, hended⟩ | ⟨s, hopen⟩
    · cases (ended_step hended e).symm.trans hruns
    · rcases now_step h.setup (play h.setup x (.poll i wall :: es)) e with hnow | ⟨millis, rfl, hnow⟩
      · rw [hnow]
        exact ih hbefore hopen
      · rw [hnow]
        exact (hprompt _ hopen).2 _ _ _ rfl

/-- In a prompt run every poll of an open dispatch comes no later than its deadline. -/
theorem polled_in_time (hfresh : x.dispatch? i = some (.fresh topic payload))
    (hm : Message.decode topic payload = .ok m)
    (hes : Run.Along (step h.setup) (DispatchPromptAt i) x (.poll i wall :: es))
    {pre : List (Event H L (Journal W))} (hpre : Run.Occurs (.poll i wall :: es) pre e)
    (ha : Awaits h (play h.setup x pre) i m x.token (alarmAt h x) handler) :
    (play h.setup x pre).now ≤ (alarmAt h x).due := by
  obtain ⟨post, hpost⟩ := hpre
  cases pre with
  | nil => exact le_due_alarmAt h x
  | cons first pre =>
    obtain ⟨rfl, htail⟩ := List.cons.inj hpost
    have hprefix : .poll i wall :: pre <+: .poll i wall :: es := by
      rw [htail]
      exact List.prefix_append (.poll i wall :: pre) (e :: post)
    cases ha with
    | first _ _ _ halarm =>
      rw [halarm]
      exact le_due_alarmAt h _
    | later hruns => exact open_in_time hfresh hm (hes.of_isPrefix hprefix) hruns

/-! ### The outcome -/

/-- What becomes of a report in a run that begins with the first poll of its dispatch.  The token of
the router at that poll and the deadline counted from it stay those of the dispatch. -/
structure Routed (h : Handlers H σ W) (x : Relay H L (Invocation σ) (Journal W)) (i : Nat)
    (topic : String) (payload : Bytes) (wall : Moment) (es : List (Event H L (Journal W))) :
    Prop where
  /-- What cannot be decoded is dropped without a call, whether the token is cancelled or not. -/
  dropped : ∀ fault, Message.decode topic payload = .error fault →
    (play h.setup x (.poll i wall :: es)).dispatch? i = some (.ended .dropped) ∧
      notes h i x (.poll i wall :: es) = []
  /-- Under a cancelled token nothing is called. -/
  refused : ∀ m, Message.decode topic payload = .ok m → x.token.isCancelled x.cancelled = true →
    (play h.setup x (.poll i wall :: es)).dispatch? i = some (.ended .cancelled) ∧
      notes h i x (.poll i wall :: es) = []
  /-- Else one method is called, once: that of the kind, with the device and the body. -/
  called : ∀ m, Message.decode topic payload = .ok m → x.token.isCancelled x.cancelled = false →
    ∃ n, notes h i x (.poll i wall :: es) = .called m.call :: List.replicate n .stepped
  /-- The outcome is what decides at the first poll at which something does: the token before the
  result of the handler, and the result before the deadline. -/
  decided : ∀ m, Message.decode topic payload = .ok m → ∀ outcome,
    (play h.setup x (.poll i wall :: es)).dispatch? i = some (.ended outcome) ↔
      DecidedIn h x i m x.token (alarmAt h x) (.poll i wall :: es) outcome
  /-- It does not change any more. -/
  final : ∀ outcome, (play h.setup x (.poll i wall :: es)).dispatch? i = some (.ended outcome) →
    ∀ more, (play h.setup x (.poll i wall :: (es ++ more))).dispatch? i = some (.ended outcome)
  /-- After the outcome, and once the token is cancelled, the handler takes no further step. -/
  stopped : (∃ outcome, (play h.setup x (.poll i wall :: es)).dispatch? i =
      some (.ended outcome)) ∨
      x.token.isCancelled (play h.setup x (.poll i wall :: es)).cancelled = true →
    ∀ more, notes h i (play h.setup x (.poll i wall :: es)) more = []
  /-- If time passes only while there is something to wait for, nothing is decided after the
  deadline. -/
  inTime : Run.Along (step h.setup) (DispatchPromptAt i) x (.poll i wall :: es) →
    ∀ m, Message.decode topic payload = .ok m → ∀ pre wall' handler,
      Run.Occurs (.poll i wall :: es) pre (.poll i wall') →
      Awaits h (play h.setup x pre) i m x.token (alarmAt h x) handler →
      (play h.setup x pre).now ≤ (alarmAt h x).due
  /-- A dispatch for which nothing is left to do has ended once its token is cancelled or its
  deadline is reached. -/
  settled : (∀ d, (play h.setup x (.poll i wall :: es)).dispatch? i = some d →
      ∀ wall', d.isReady ((play h.setup x (.poll i wall :: es)).view wall') (fun _ => false) =
        false) →
    x.token.isCancelled (play h.setup x (.poll i wall :: es)).cancelled = true ∨
      (alarmAt h x).due ≤ (play h.setup x (.poll i wall :: es)).now →
    ∃ outcome, (play h.setup x (.poll i wall :: es)).dispatch? i = some (.ended outcome)
  /-- The deadline is reached when the timeout has passed, by a timer that keeps the timeout. -/
  deadline : h.timing.timer.Keeps h.timing.dispatchTimeout x.now → ∀ t, (alarmAt h x).due ≤ t ↔
    x.now * Span.nanosPerMilli + h.timing.dispatchTimeout.nanos ≤ t * Span.nanosPerMilli

theorem ended_play (hended : x.dispatch? i = some (.ended outcome))
    (es : List (Event H L (Journal W))) :
    (play h.setup x es).dispatch? i = some (.ended outcome) := by
  induction es using List.reverseRecOn with
  | nil => exact hended
  | append_singleton es e ih =>
    rw [play_snoc]
    exact ended_step ih e

/-- A dispatch that ends at its first poll without a call never calls anything. -/
theorem uncalled_of_first
    (hended : (x.step h.setup (.poll i wall)).dispatch? i = some (.ended outcome))
    (hnone : notesAt h i x (.poll i wall) = []) (es : List (Event H L (Journal W))) :
    (play h.setup x (.poll i wall :: es)).dispatch? i = some (.ended outcome) ∧
      notes h i x (.poll i wall :: es) = [] := by
  refine ⟨ended_play hended es, ?_⟩
  show notesAt h i x (.poll i wall) ++ notes h i (x.step h.setup (.poll i wall)) es = []
  rw [hnone, (Halted.play (Or.inl ⟨outcome, hended⟩) es).1]
  rfl

/-- What cannot be decoded is dropped at the first poll. -/
theorem dropped (hfresh : x.dispatch? i = some (.fresh topic payload)) {fault : DecodeError}
    (hm : Message.decode topic payload = .error fault) (wall : Moment)
    (es : List (Event H L (Journal W))) :
    (play h.setup x (.poll i wall :: es)).dispatch? i = some (.ended .dropped) ∧
      notes h i x (.poll i wall :: es) = [] := by
  have hpoll := dispatch?_poll (r := h.setup) hfresh wall
  rw [Dispatch.poll, Dispatch.begin, hm] at hpoll
  refine uncalled_of_first hpoll.1 ?_ es
  rw [notesAt, if_pos rfl, hpoll.2]
  exact List.drop_length

/-- What comes under a cancelled token is refused at the first poll. -/
theorem refused (hfresh : x.dispatch? i = some (.fresh topic payload))
    (hm : Message.decode topic payload = .ok m) (hoff : x.token.isCancelled x.cancelled = true)
    (wall : Moment) (es : List (Event H L (Journal W))) :
    (play h.setup x (.poll i wall :: es)).dispatch? i = some (.ended .cancelled) ∧
      notes h i x (.poll i wall :: es) = [] := by
  have ha : Awaits h x i m x.token (alarmAt h x) (.uncalled m.call) := .first hfresh hm rfl rfl
  have hview : (x.view wall).isCancelled x.token = true := hoff
  refine uncalled_of_first ?_ ?_ es
  · rw [(ha.poll wall).1, Dispatch.proceed_ended_iff.2 (.cancelled hview)]
  · rw [ha.notesAt, if_pos hoff]

/-- A dispatch has ended, or it runs under the token and the deadline of its first poll. -/
theorem stands_play (hfresh : x.dispatch? i = some (.fresh topic payload)) (wall : Moment)
    (es : List (Event H L (Journal W))) :
    (∃ outcome, (play h.setup x (.poll i wall :: es)).dispatch? i = some (.ended outcome)) ∨
      ∃ s, (play h.setup x (.poll i wall :: es)).dispatch? i =
        some (.running x.token (alarmAt h x) (.working s)) := by
  cases hm : Message.decode topic payload with
  | ok m => exact (course hfresh hm wall es).stands
  | error fault => exact Or.inl ⟨_, (dropped hfresh hm wall es).1⟩

/-- **The outcome of a report**, in every run, whatever its handler does and whenever the token is
cancelled. -/
theorem report_routed (h : Handlers H σ W) (hfresh : x.dispatch? i = some (.fresh topic payload))
    (wall : Moment) (es : List (Event H L (Journal W))) : Routed h x i topic payload wall es where
  dropped _ hm := dropped hfresh hm wall es
  refused _ hm hoff := refused hfresh hm hoff wall es
  called _ hm hon := (course hfresh hm wall es).called hon
  decided _ hm := (course hfresh hm wall es).decided
  final outcome hended more := by
    rw [← List.cons_append, play_append]
    exact ended_play hended more
  stopped hstop more := by
    refine (Halted.play ?_ more).1
    rcases stands_play (h := h) hfresh wall es with hended | ⟨s, hruns⟩
    · exact Or.inl hended
    · rcases hstop with hended | hoff
      · exact Or.inl hended
      · exact Or.inr ⟨_, _, _, hruns, hoff⟩
  inTime hes _ hm _ _ _ hpre ha := polled_in_time hfresh hm hes hpre ha
  settled hready hover := by
    rcases stands_play (h := h) hfresh wall es with hended | ⟨s, hruns⟩
    · exact hended
    · -- a dispatch that runs has neither a cancelled token nor a deadline behind it
      have hnot := hready _ hruns .epoch
      rw [Dispatch.isReady, Bool.or_false, Bool.or_eq_false_iff] at hnot
      rcases hover with hoff | hdue
      · cases hnot.1.symm.trans hoff
      · exact absurd hdue (of_decide_eq_false hnot.2)
  deadline hkeeps t := hkeeps.due_le_iff (Nat.le_refl _) t

/-- A router whose handlers never end, and a heartbeat that it is asked to route. -/
def neverending (timeout : Span) : Handlers String Unit Unit :=
  ⟨"router", .atLeastOnce, ⟨⟨timeout⟩, .precise⟩,
    ⟨fun _ _ => (), fun _ _ => (), fun _ _ => (), fun _ _ => ()⟩, fun _ w => (.inl (), w)⟩

def heartbeatAsked (timeout : Span) : Relay String RecordingLink (Invocation Unit) (Journal Unit) :=
  (Relay.fresh ⟨Settings.standard, Table.empty, true, 4⟩ RecordingLink.empty ⟨[], ()⟩).step
    (neverending timeout).setup (.route "device/lock-1/heartbeat" [0x7B, 0x7D])

theorem report_routed_neverending :
    (heartbeatAsked (Span.ofSeconds 5)).dispatch? 0 =
        some (.fresh "device/lock-1/heartbeat" [0x7B, 0x7D]) ∧
      Routed (neverending (Span.ofSeconds 5)) (heartbeatAsked (Span.ofSeconds 5)) 0
        "device/lock-1/heartbeat" [0x7B, 0x7D] .epoch [.pass 5000, .poll 0 .epoch] ∧
      (play (neverending (Span.ofSeconds 5)).setup (heartbeatAsked (Span.ofSeconds 5))
        [.poll 0 .epoch, .pass 5000, .poll 0 .epoch]).dispatch? 0 = some (.ended .timedOut) ∧
      ∀ present, (neverending (Span.ofSeconds 5)).timing.timer.Keeps
        (neverending (Span.ofSeconds 5)).timing.dispatchTimeout present :=
  ⟨rfl, report_routed _ rfl _ _, rfl, fun _ _ _ => Nat.le_refl _⟩

end Relay

end LockFleet
