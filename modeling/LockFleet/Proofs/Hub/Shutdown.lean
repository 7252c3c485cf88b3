import LockFleet.Proofs.Hub.Answering
import LockFleet.Proofs.Hub.Starting

/-!
# Shutting a hub down

A shutdown has returned only after every periodic task has ended, and it has closed the connection
then, whether or not the link agreed to anything.  From its call on no dispatch gets to its handler.
After its return the store is out of reach of the hub, and nobody but a caller who registers filters
again has anything to ask for.  All this holds however the steps of the shutdown mix with those of
others, and for every further shutdown.

* `Service.Accounted` — the periodic tasks that a shutdown waits for;
* `Service.Closes`, `Service.Parting` — how the connection is closed;
* `Service.Abandoned` — what becomes of a dispatch after the call;
* `Service.Final`, `Service.shutDown_final` — what holds from the return on;
* `Service.exists_stopped`, `Service.exists_closed` — a shutdown left alone gets on and returns;
* `World.shutDown_eq` — the shutdown of a rehearsal.
-/

namespace LockFleet.Hub

open Registry (Operation Returned run)

/-! ### The periodic tasks -/

namespace Closing

variable {c : Closing} {tasks : List Nat} {n : Nat}

/-- The periodic tasks that have yet to be waited for, if these are all that there are. -/
def awaited (tasks : List Nat) : Closing → List Nat
  | unasked => tasks
  | stopping _ => tasks
  | joining tasks => tasks
  | leaving _ => []
  | returned _ => []

theorem awaited_of_hasLeft (h : c.hasLeft = true) : c.awaited tasks = [] := by
  cases c with
  | leaving k => rfl
  | returned r => rfl
  | _ => cases h

theorem mem_of_isResting (h : c.isResting = true) (hn : n ∈ c.awaited tasks) : n ∈ tasks := by
  cases c with
  | unasked => exact hn
  | returned r => cases hn
  | _ => cases h

end Closing

namespace Service

variable {H L S : Type} {s : Equipment H S} {x y : Service H L S} {e : Event H L S} {n : Nat}

/-- Every periodic task has ended, or it has yet to be waited for. -/
def Accounted (x : Service H L S) : Prop := ∀ n r, x.routines[n]? = some r →
  r.stage.hasEnded = true ∨ n ∈ x.closing.awaited x.tasks

theorem Accounted.mono (h : x.Accounted) (hroutines : y.routines = x.routines)
    (hawaited : ∀ n r, x.routines[n]? = some r → n ∈ x.closing.awaited x.tasks →
      r.stage.hasEnded = true ∨ n ∈ y.closing.awaited y.tasks) : y.Accounted := by
  intro n r hr
  rw [hroutines] at hr
  exact (h n r hr).elim Or.inl (hawaited n r hr)

/-- Once the connection is being closed there is nothing left to wait for. -/
theorem Accounted.atRest (h : x.Accounted) (hleft : x.closing.hasLeft = true) : x.AtRest := by
  intro r hr
  obtain ⟨n, hn⟩ := List.mem_iff_getElem?.1 hr
  refine (h n r hn).resolve_right ?_
  rw [Closing.awaited_of_hasLeft hleft]
  exact List.not_mem_nil

/-- A poll does not lose sight of a periodic task. -/
theorem Accounted.tend (h : x.Accounted) {r : Routine} (hr : x.routines[n]? = some r)
    (s : Equipment H S) (wall : Moment) (k : Nat) (heeds : Bool) :
    (x.tend s n wall k heeds r).Accounted := by
  intro m r' hr'
  rcases h n r hr with hended | hawaited
  · rw [tend_of_hasEnded hr hended] at hr' ⊢
    exact h m r' hr'
  · by_cases hmn : n = m
    · subst hmn
      exact Or.inr hawaited
    · exact h m r' ((List.getElem?_set_ne hmn).symm.trans hr')

variable [Link L]

theorem Accounted.proceed (h : x.Accounted) (hy : Proceeds x y) : y.Accounted := by
  refine h.mono hy.spares.routines fun n r hr hmem => ?_
  cases hy with
  | waits => exact Or.inr hmem
  | asks hk => exact Or.inr hmem
  | stops hk hr =>
    rw [hk] at hmem
    exact Or.inr hmem
  | joins hn hended =>
    rw [hn] at hmem
    rcases List.mem_cons.1 hmem with rfl | hmem
    · rw [Service.hasEnded, hr] at hended
      exact Or.inl hended
    · exact Or.inr hmem
  | leaves hjoined =>
    rw [hjoined] at hmem
    cases hmem
  | returns hk hr =>
    rw [hk] at hmem
    cases hmem

/-! ### The connection -/

omit [Link L] in
/-- What is left of a call that closes the connection: it clears the registry, unless nothing is
registered, and it notes that there is no connection, unless this has been noted. -/
structure Closes (b : Broker H) (rest : Operation H Returned) : Prop where
  clears : rest.Ensures (· = .clear) ∨ ∀ p, b.registry.contains p = false
  marks : rest.Ensures (· = .markDisconnected) ∨ b.connected = false

omit [Link L] in
theorem closes_disconnect (b : Broker H) (quality : Quality) :
    Closes b ((Registry.Call.disconnect : Registry.Call H).operation quality) :=
  ⟨Or.inl (Or.inl rfl), Or.inl (Or.inr fun _ => Or.inr fun _ => Or.inl rfl)⟩

/-- A step of the call itself. -/
theorem Closes.serve {b : Broker H} {q : BrokerRequest H} {next : q.Answer → Operation H Returned}
    (h : Closes b (.call q next)) (hq : ∀ p, ¬ q.Registers p) (l : L) :
    Closes (q.serve (b, l)).2.1 (next (q.serve (b, l)).1) where
  clears := by
    rcases h.clears with (rfl | hlater) | hempty
    · exact Or.inr fun p => rfl
    · exact Or.inl (hlater _)
    · exact Or.inr fun p => BrokerRequest.not_contains_serve (hempty p) (hq p)
  marks := by
    rcases h.marks with (rfl | hlater) | hconnected
    · exact Or.inr rfl
    · exact Or.inl (hlater _)
    · exact Or.inr (BrokerRequest.connected_serve hconnected)

/-- A move of somebody else. -/
theorem Closes.other {c : Shared H L} {rest : Operation H Returned} {m : Move H}
    (h : Closes c.broker rest) (hm : ∀ q, c.request? m = some q → ∀ p, ¬ q.Registers p) :
    Closes (c.move m).broker rest where
  clears := h.clears.imp_right fun hempty p =>
    Shared.unregistered_move (hempty p) fun q hq => hm q hq p
  marks := h.marks.imp_right fun hconnected => Shared.connected_move hconnected m

/-- How far the closing of the connection has got. -/
structure Parting (x : Service H L S) : Prop where
  leaving : ∀ k, x.closing = .leaving k →
    ∃ c, x.calls[k]? = some c ∧ Closes x.working.broker c.rest
  returned : ∀ r, x.closing = .returned r →
    (∀ p, x.working.broker.registry.contains p = false) ∧ x.working.broker.connected = false

omit [Link L] in
/-- As long as the connection is not being closed there is nothing to it. -/
theorem parting_of_present (h : x.closing.hasLeft = false) : x.Parting where
  leaving k hk := by
    rw [hk] at h
    cases h
  returned r hr := by
    rw [hr] at h
    cases h

omit [Link L] in
theorem Parting.alike (h : x.Parting) (hclosing : y.closing = x.closing)
    (hsame : x.shared.Alike y.shared) : y.Parting where
  leaving k hk := by
    obtain ⟨c, hc, hcloses⟩ := h.leaving k (hclosing.symm.trans hk)
    refine ⟨c, (congrArg (·[k]?) hsame.calls).trans hc, hcloses.clears.imp_right fun hempty p => ?_,
      hcloses.marks.imp_right hsame.connected.trans⟩
    exact (congrArg (Table.contains · p) hsame.registry).trans (hempty p)
  returned r hr := by
    obtain ⟨hempty, hconnected⟩ := h.returned r (hclosing.symm.trans hr)
    exact ⟨fun p => (congrArg (Table.contains · p) hsame.registry).trans (hempty p),
      hsame.connected.trans hconnected⟩

theorem Parting.line (h : x.Parting) {m : Move H} (hm : x.closing.hasLeft = true →
      ∀ q, x.shared.request? m = some q → ∀ p, ¬ q.Registers p) : (x.line m).Parting where
  leaving k hk := by
    change x.closing = .leaving k at hk
    rw [hk] at hm
    obtain ⟨c, hc, hcloses⟩ := h.leaving k hk
    rcases Shared.call_move (s := x.shared) hc m with
      hsame | ⟨c', q, next, rfl, rfl, hmove, hnext⟩
    · exact ⟨c, hsame, hcloses.other (c := x.shared) (hm rfl)⟩
    · refine ⟨_, hnext, ?_⟩
      show Closes (x.shared.move (.step k)).broker _
      rw [hmove]
      exact hcloses.serve (hm rfl q (Shared.request?_step hc)) x.link
  returned r hr := by
    change x.closing = .returned r at hr
    rw [hr] at hm
    obtain ⟨hempty, hconnected⟩ := h.returned r hr
    exact ⟨fun p => Shared.unregistered_move (s := x.shared) (hempty p) fun q hq => hm rfl q hq p,
      Shared.connected_move (s := x.shared) hconnected m⟩

theorem Parting.proceed (h : x.Parting) (hquiet : x.PartsQuietly) (hy : Proceeds x y) :
    y.Parting := by
  cases hy with
  | waits => exact h
  | asks hk => exact h.line fun _ q hq p => (hquiet.own hk hq).not_registers
  | stops hk hr => exact parting_of_present rfl
  | joins hn hended => exact parting_of_present rfl
  | leaves hjoined =>
    refine ⟨fun k hk => ?_, nofun⟩
    cases hk
    exact ⟨_, List.getElem?_concat_length,
      closes_disconnect x.working.broker x.working.broker.settings.quality⟩
  | returns hk hr =>
    obtain ⟨c, hc, hcloses⟩ := h.leaving _ hk
    obtain ⟨c', hc'⟩ := calls_of_returned? hr
    obtain rfl := Option.some.inj (hc.symm.trans hc')
    exact ⟨nofun, fun r' _ => ⟨hcloses.clears.resolve_left id, hcloses.marks.resolve_left id⟩⟩

variable [DecidableEq H]

/-- **Every periodic task remains accounted for.** -/
theorem accounted_step (h : x.Accounted) (s : Equipment H S) (e : Event H L S) :
    (x.step s e).Accounted := by
  cases e with
  | proceed => exact h.proceed x.proceeds
  | shutDown =>
    refine h.mono (spares_shutDown s x).routines fun n r _ hmem => Or.inr ?_
    rw [step]
    split
    · next hresting => exact Closing.mem_of_isResting hresting hmem
    · exact hmem
  | tend m wall k heeds =>
    rw [step]
    split
    · next r hr => exact h.tend hr s wall k heeds
    · exact h
  | _ => exact h

omit [DecidableEq H] [Link L] in
/-- Once the connection is being closed, nobody registers a filter any more. -/
def Event.Yields (x : Service H L S) (e : Event H L S) : Prop :=
  x.closing.hasLeft = true → ∀ p, ¬ e.Registers p x

/-- **The closing of the connection is not undone.** -/
theorem parting_step (h : x.Parting) (hquiet : x.PartsQuietly) (he : e.Yields x)
    (s : Equipment H S) : (x.step s e).Parting := by
  have hother : x.move? e = none → (x.step s e).closing = x.closing → (x.step s e).Parting := by
    intro hm hclosing
    rcases x.connection_step s e with ⟨m, hm', -⟩ | ⟨-, hsame⟩
    · rw [hm] at hm'
      cases hm'
    · exact h.alike hclosing hsame
  cases e with
  | line m => exact h.line fun hleft q hq p hregisters => he hleft p ⟨q, hq, hregisters⟩
  | proceed => exact h.proceed hquiet x.proceeds
  | shutDown =>
    rw [step]
    split
    · exact parting_of_present rfl
    · exact h
  | tend n wall k heeds =>
    refine hother rfl ?_
    rw [step]
    split <;> rfl
  | _ => exact hother rfl rfl

/-! ### Dispatches -/

/-- A dispatch stays as it is until it is polled. -/
theorem dispatch?_step {d : ReportDispatch} (h : x.dispatch? n = some d)
    (he : ∀ wall k, e ≠ .attend n wall k) (s : Equipment H S) :
    (x.step s e).dispatch? n = some d := by
  have hsame : (x.step s e).working.errands = x.working.errands →
      (x.step s e).dispatch? n = some d := by
    intro herrands
    rw [dispatch?, Working.dispatch?, herrands]
    exact h
  cases e with
  | shutDown => exact hsame (spares_shutDown s x).errands
  | proceed => exact hsame x.proceeds.spares.errands
  | deliver topic payload =>
    refine Working.dispatch?_step (s := s) (e := .deliver topic payload) h fun wall k heq => ?_
    cases heq
  | attend m wall k =>
    refine Working.dispatch?_step (s := s) (e := .attend m wall k) h fun wall' k' heq => ?_
    cases heq
    exact he wall k rfl
  | route topic payload =>
    obtain ⟨a, ha, -⟩ := Option.map_eq_some_iff.1 h
    show ((x.working.errands ++ _)[n]?).map Errand.dispatch = some d
    rw [List.getElem?_append_left (List.getElem?_eq_some_iff.1 ha).1]
    exact h
  | tend m wall k heeds =>
    refine hsame ?_
    rw [step]
    split <;> rfl
  | _ => exact h

/-- A dispatch that ends at its next poll, whenever this is, without a step of its handler. -/
structure Abandoned (s : Equipment H S) (x : Service H L S) (n : Nat) : Prop where
  /-- It stays as it is until it ends. -/
  rests : ∀ es, (play s x es).dispatch? n = x.dispatch? n ∨
    ∃ outcome, (play s x es).dispatch? n = some (.ended outcome)
  /-- Until then it waits for nothing but its poll. -/
  ready : ∀ es d, (play s x es).dispatch? n = some d → d.hasEnded = false →
    ∀ wall handlerReady,
      d.isReady (((play s x es).working.exchange s).view wall) handlerReady = true
  /-- Its poll ends it, and what handlers work on is not touched. -/
  ends : ∀ es wall k,
    (∃ outcome, (play s x (es ++ [.attend n wall k])).dispatch? n = some (.ended outcome)) ∧
      (play s x (es ++ [.attend n wall k])).working.bench = (play s x es).working.bench

/-- A dispatch of a sealed router is abandoned. -/
theorem abandoned (h : x.working.Sealed s) {d : ReportDispatch} (hd : x.dispatch? n = some d) :
    Abandoned s x n := by
  have hends : ∀ es d', (play s x es).dispatch? n = some d' → ∀ wall k,
      (∃ outcome, (play s x (es ++ [.attend n wall k])).dispatch? n = some (.ended outcome)) ∧
        (play s x (es ++ [.attend n wall k])).working.bench = (play s x es).working.bench := by
    intro es d' hd' wall k
    rw [play_snoc]
    exact ((sealed_play h es).attend hd' wall k).symm
  have hrests : ∀ es, (play s x es).dispatch? n = some d ∨
      ∃ outcome, (play s x es).dispatch? n = some (.ended outcome) := by
    intro es
    induction es using List.reverseRecOn with
    | nil => exact Or.inl hd
    | append_singleton es e ih =>
      obtain ⟨d', hd'⟩ : ∃ d', (play s x es).dispatch? n = some d' :=
        ih.elim (fun hsame => ⟨d, hsame⟩) fun ⟨_, hended⟩ => ⟨_, hended⟩
      by_cases he : ∃ wall k, e = .attend n wall k
      · obtain ⟨wall, k, rfl⟩ := he
        exact Or.inr (hends es d' hd' wall k).1
      · have hother : ∀ wall k, e ≠ .attend n wall k := fun wall k hek => he ⟨wall, k, hek⟩
        rw [play_snoc]
        exact ih.imp (fun hsame => dispatch?_step hsame hother s)
          fun ⟨outcome, hended⟩ => ⟨outcome, dispatch?_step hended hother s⟩
  refine ⟨fun es => ?_, fun es d' hd' hended wall handlerReady => ?_, fun es wall k => ?_⟩
  · rw [hd]
    exact hrests es
  · obtain ⟨a, ha, rfl⟩ := Option.map_eq_some_iff.1 hd'
    exact (sealed_play h es).isReady (List.mem_of_getElem? ha) hended wall handlerReady
  · rcases hrests es with hsame | ⟨outcome, hended⟩
    · exact hends es _ hsame wall k
    · exact hends es _ hended wall k

/-! ### From the call on -/

omit [DecidableEq H] [Link L] in
/-- A hub that has been started and not been shut down yet.  Messages may have come in since its
router has begun to listen. -/
structure IsStarted (x : Service H L S) : Prop where
  named : ∃ number, x.working.token.path.head? = some number
  under : x.working.Under
  tasks : x.tasks = List.range x.routines.length
  closing : x.closing = .unasked

omit [DecidableEq H] in
/-- **A start that succeeds gives a hub that has been started.** -/
theorem isStarted_start {watchdog : Option WatchdogTiming} {number : Nat} {b : Broker H} {l : L}
    {bench : Bench S} (h : (start s watchdog number b l bench).1 = .ok ()) :
    IsStarted (start s watchdog number b l bench).2 := by
  obtain ⟨b', l', hstart⟩ := listening_of_start h
  rw [start_ok hstart]
  exact ⟨⟨number + 1, rfl⟩, nofun, rfl, rfl⟩

omit [DecidableEq H] [Link L] in
/-- What holds at every point of a run of a hub that has been started. -/
structure Sound (x : Service H L S) : Prop where
  named : ∃ number, x.working.token.path.head? = some number
  under : x.working.Under
  accounted : x.Accounted
  quiet : x.PartsQuietly

omit [DecidableEq H] [Link L] in
theorem IsStarted.sound (h : IsStarted x) : Sound x where
  named := h.named
  under := h.under
  accounted n r hr := by
    right
    rw [h.closing, h.tasks]
    exact List.mem_range.2 (List.getElem?_eq_some_iff.1 hr).1
  quiet k hk := by
    rw [h.closing] at hk
    cases hk

theorem Sound.step (h : Sound x) (s : Equipment H S) (e : Event H L S) : Sound (x.step s e) where
  named := by
    rw [token_step]
    exact h.named
  under := under_step h.under s e
  accounted := accounted_step h.accounted s e
  quiet := partsQuietly_step h.quiet s e

theorem Sound.play (h : Sound x) (s : Equipment H S) (es : List (Event H L S)) :
    Sound (play s x es) := by
  induction es using List.reverseRecOn with
  | nil => exact h
  | append_singleton es e ih =>
    rw [play_snoc]
    exact ih.step s e

/-- **A shutdown seals the router** at its call. -/
theorem Sound.sealed (h : Sound x) (hresting : x.closing.isResting = true) (s : Equipment H S) :
    (x.step s .shutDown).working.Sealed s := by
  refine ⟨?_, under_step h.under s .shutDown⟩
  obtain ⟨number, hnumber⟩ := h.named
  rw [Service.step, if_pos hresting]
  show x.working.token.isCancelled (Exchange.play s.desk
    (x.working.bench.past ++ [.cancel x.working.token])).cancelled = true
  rw [Exchange.play, Run.after_snoc]
  exact (Token.isCancelled_cancel hnumber _).2 (Or.inl (List.mem_of_mem_head? hnumber))

/-- What a shutdown leaves; the hub is as it is when the shutdown has returned. -/
structure Final (s : Equipment H S) (x : Service H L S) : Prop where
  empty : x.working.broker.topics = []
  /-- No filter is registered unless a caller registers it. -/
  unregistered : ∀ p es, Run.Along (step s) (fun x e => ¬ e.Registers p x) x es →
    p ∉ (play s x es).working.broker.topics
  disconnected : ∀ es, (play s x es).working.broker.connected = false
  /-- The sweep and the watchdog have ended. -/
  atRest : ∀ es, (play s x es).AtRest
  /-- Whatever happens, the hub does not get to the store. -/
  untouched : ∀ es, Run.Along (step s) (fun x e => e.LeavesStore x) x es →
    (play s x es).working.bench.store = x.working.bench.store
  /-- Nobody asks for a filter that no caller registers, but calls that were in progress before. -/
  unasked : ∀ p es, Run.Along (step s) (fun x e => ¬ e.Registers p x) x es →
    ∀ e, ∀ i ∈ (play s x es).issues e, ∀ quality, i.request = .subscribe p quality →
      ∃ k, k < x.calls.length ∧ e = .line (.step k)

/-- What a shutdown does; the hub is as it is when the shutdown has been called. -/
structure ShutsDown (s : Equipment H S) (x : Service H L S) : Prop where
  /-- No dispatch gets to its handler any more. -/
  abandons : ∀ es n d, (play s x es).dispatch? n = some d → Abandoned s (play s x es) n
  /-- When it has returned, in whatever way, this is final. -/
  final : ∀ es r, Run.Along (step s) (fun x e => e.Yields x) x es →
    (play s x es).closing = .returned r → Final s (play s x es)

/-- A filter that no caller registers stays absent from a connection on which nothing is
registered. -/
theorem absent_of_empty (hquiet : x.PartsQuietly)
    (hempty : ∀ p, x.working.broker.registry.contains p = false) {p : String}
    (es : List (Event H L S)) (hes : Run.Along (step s) (fun x e => ¬ e.Registers p x) x es) :
    Shared.Absent p x.calls.length (play s x es).shared :=
  absent_play (Shared.Absent.of_unregistered (s := x.shared) (hempty p)) hquiet hes

/-- A hub is shut down for good if its router is sealed, its periodic tasks have ended, nothing is
registered and there is no connection. -/
theorem final (hsealed : x.working.Sealed s) (hrest : x.AtRest) (hquiet : x.PartsQuietly)
    (hempty : ∀ p, x.working.broker.registry.contains p = false)
    (hconnected : x.working.broker.connected = false) : Final s x where
  empty := List.eq_nil_iff_forall_not_mem.2 fun _ =>
    (absent_of_empty (s := s) hquiet hempty [] True.intro).not_mem_topics
  unregistered _ es hes := (absent_of_empty hquiet hempty es hes).not_mem_topics
  disconnected := connected_play hconnected s
  atRest := atRest_play hrest s
  untouched _ := store_play hsealed hrest
  unasked _ es hes _ _ hi _ :=
    asked_before (absent_of_empty hquiet hempty es hes) (partsQuietly_play hquiet s es) hi

/-- **A shutdown is final.** -/
theorem shutDown_final {x₀ : Service H L S} (hstarted : IsStarted x₀) {es : List (Event H L S)}
    (hresting : (play s x₀ es).closing.isResting = true) :
    ShutsDown s (play s x₀ (es ++ [.shutDown])) := by
  rw [play_snoc]
  have hsound := hstarted.sound.play s es
  have hsealed := hsound.sealed hresting s
  have hcalled := hsound.step s .shutDown
  have hparting : ((play s x₀ es).step s .shutDown).Parting := by
    rw [step, if_pos hresting]
    exact parting_of_present rfl
  generalize (play s x₀ es).step s .shutDown = x at hsealed hcalled hparting
  refine ⟨fun es n d hd => abandoned (sealed_play hsealed es) hd, fun es r hes hreturned => ?_⟩
  have hparted : (play s x es).Parting :=
    hes.invariant (P := fun _ y => y.Parting) hparting fun es e _ hy he =>
      parting_step hy (hcalled.play s es).quiet he s
  obtain ⟨hempty, hconnected⟩ := hparted.returned r hreturned
  have hrest : (play s x es).AtRest :=
    (hcalled.play s es).accounted.atRest (by rw [hreturned]; rfl)
  exact final (sealed_play hsealed es) hrest (hcalled.play s es).quiet hempty hconnected

/-- A hub with a watchdog that has just been started, with one device. -/
def hubWithWatchdog : Service String RecordingLink Store :=
  (start Working.equipment (some .standard) 0 watched RecordingLink.empty
    ⟨[], Store.empty.insert (.fresh 1 "lock-1")⟩).2

/-- A heartbeat comes in, and its handler waits for the store. -/
def heartbeatInFlight : List (Event String RecordingLink Store) :=
  [.deliver "device/lock-1/heartbeat" [0x7B, 0x7D], .attend 0 .epoch 0]

/-- The subscriptions are taken back, the periodic tasks end and are waited for, and the connection
is closed. -/
def untilReturned : List (Event String RecordingLink Store) :=
  List.replicate 6 .proceed ++ [.tend 0 .epoch 0 true, .tend 1 .epoch 0 true] ++
    List.replicate 7 .proceed

theorem shutDown_final_inFlight :
    IsStarted hubWithWatchdog ∧
      (play Working.equipment hubWithWatchdog heartbeatInFlight).closing.isResting = true ∧
      (∃ d, (play Working.equipment hubWithWatchdog heartbeatInFlight).dispatch? 0 = some d ∧
        d.hasEnded = false) ∧
      Run.Along (step Working.equipment) (fun x e => e.Yields x)
        (play Working.equipment hubWithWatchdog (heartbeatInFlight ++ [.shutDown])) untilReturned ∧
      (play Working.equipment (play Working.equipment hubWithWatchdog
        (heartbeatInFlight ++ [.shutDown])) untilReturned).closing =
          .returned (.requested (.ok ())) ∧
      ShutsDown Working.equipment
        (play Working.equipment hubWithWatchdog (heartbeatInFlight ++ [.shutDown])) := by
  have hstarted : IsStarted hubWithWatchdog := isStarted_start rfl
  refine ⟨hstarted, rfl, ⟨_, rfl, rfl⟩, ?_, rfl, shutDown_final hstarted rfl⟩
  -- no event is a step of a caller
  refine Run.along_of_forall fun e he x _ p hregisters => ?_
  simp only [untilReturned, List.mem_append, List.mem_replicate, List.mem_cons,
    List.not_mem_nil, or_false] at he
  rcases he with (⟨-, rfl⟩ | rfl | rfl) | ⟨-, rfl⟩ <;> exact hregisters

/-! ### A shutdown on its own -/

/-- The connection and its link. -/
def connection (x : Service H L S) : Broker H × L := (x.working.broker, x.link)

/-- The hub after steps of its shutdown and nothing else. -/
def carryOn (s : Equipment H S) (x : Service H L S) (n : Nat) : Service H L S :=
  play s x (List.replicate n .proceed)

theorem carryOn_add (s : Equipment H S) (x : Service H L S) (m n : Nat) :
    carryOn s x (m + n) = carryOn s (carryOn s x m) n := by
  rw [carryOn, List.replicate_add, play_append]
  rfl

/-- A call has been carried out by a shutdown, and nothing else has happened. -/
structure CarriedOut (x y : Service H L S) (k : Nat) (op : Operation H Returned) : Prop where
  returned : y.returned? k = some (run op x.working.broker x.link).1
  connection : y.connection = (run op x.working.broker x.link).2
  closing : y.closing = x.closing
  tasks : y.tasks = x.tasks
  routines : y.routines = x.routines

omit [DecidableEq H] in
theorem proceed_of_call {k : Nat} (hk : x.closing.call? = some k) (h : x.returned? k = none) :
    x.proceed = x.line (.step k) := by
  rw [proceed]
  generalize x.closing = c at hk
  cases c with
  | stopping j =>
    cases hk
    dsimp only
    rw [h]
  | leaving j =>
    cases hk
    dsimp only
    rw [h]
  | _ => cases hk

/-- **A shutdown carries out the call that it waits for.** -/
theorem exists_carriedOut (s : Equipment H S) {k : Nat} {c : Registry.Call H}
    {op : Operation H Returned} (hk : x.closing.call? = some k)
    (hc : x.calls[k]? = some ⟨c, op⟩) : ∃ n, CarriedOut x (carryOn s x n) k op := by
  induction op generalizing x with
  | done r =>
    refine ⟨0, ?_, rfl, rfl, rfl, rfl⟩
    show x.returned? k = some r
    rw [returned?, hc]
  | call q next ih =>
    have hwaits : x.returned? k = none := by
      rw [returned?, hc]
    have hmove : x.shared.move (.step k) = x.shared.advance k c q next := by
      rw [Shared.move, show x.shared.calls[k]? = _ from hc]
    have hnext : (x.line (.step k)).calls[k]? =
        some ⟨c, next (q.serve (x.working.broker, x.link)).1⟩ := by
      show (x.shared.move (.step k)).calls[k]? = _
      rw [hmove]
      exact List.getElem?_set_self (List.getElem?_eq_some_iff.1 hc).1
    obtain ⟨n, hn⟩ := ih _ (x := x.line (.step k)) hk hnext
    refine ⟨n + 1, ?_⟩
    have hstep : carryOn s x (n + 1) = carryOn s (x.line (.step k)) n := by
      rw [carryOn, List.replicate_succ, ← proceed_of_call hk hwaits]
      rfl
    have hrun : run (next (q.serve (x.working.broker, x.link)).1)
        (x.line (.step k)).working.broker (x.line (.step k)).link =
          run (.call q next) x.working.broker x.link := by
      show run _ (x.shared.move (.step k)).broker (x.shared.move (.step k)).link = _
      rw [hmove]
      rfl
    rw [hstep]
    exact ⟨hrun ▸ hn.returned, hrun ▸ hn.connection, hn.closing, hn.tasks, hn.routines⟩

/-- A shutdown that is asked for takes the subscriptions back and goes on to the periodic tasks. -/
structure Stopped (x y : Service H L S) : Prop where
  connection : y.connection = (run Listening.stop x.working.broker x.link).2
  closing : y.closing = .joining x.tasks
  routines : y.routines = x.routines

/-- A shutdown closes the connection and returns the answer of the link. -/
structure Closed (x y : Service H L S) : Prop where
  connection : y.connection = (run Registry.disconnect x.working.broker x.link).2
  closing : y.closing =
    .returned (.requested (run Registry.disconnect x.working.broker x.link).1)

/-- **A shutdown gets to the periodic tasks**, whatever the link answers. -/
theorem exists_stopped (s : Equipment H S) (hresting : x.closing.isResting = true) :
    ∃ n, Stopped x (carryOn s (x.step s .shutDown) n) := by
  rw [step, if_pos hresting]
  obtain ⟨n, hn⟩ := exists_carriedOut s (x := x.shutDown) (k := x.calls.length) rfl
    List.getElem?_concat_length
  refine ⟨n + 1, ?_⟩
  have hreturned := hn.returned
  have hclosing : (carryOn s x.shutDown n).closing = .stopping x.calls.length := hn.closing
  rw [carryOn_add]
  show Stopped x (carryOn s x.shutDown n).proceed
  rw [proceed, hclosing]
  dsimp only
  rw [hreturned]
  refine ⟨?_, congrArg Closing.joining hn.tasks, hn.routines⟩
  refine hn.connection.trans ?_
  exact congrArg Prod.snd (Registry.run_map _ _ _ _)

/-- **A shutdown whose periodic tasks have ended returns**, whatever the link answers. -/
theorem exists_closed (s : Equipment H S) {tasks : List Nat} (hjoining : x.closing = .joining tasks)
    (hended : ∀ n ∈ tasks, x.hasEnded n = true) : ∃ n, Closed x (carryOn s x n) := by
  induction tasks generalizing x with
  | cons m rest ih =>
    obtain ⟨n, hn⟩ := ih (x := { x with closing := .joining rest }) rfl
      fun j hj => hended j (List.mem_cons_of_mem m hj)
    refine ⟨1 + n, ?_⟩
    rw [carryOn_add]
    show Closed x (carryOn s x.proceed n)
    rw [proceed, hjoining]
    dsimp only
    rw [if_pos (hended m List.mem_cons_self)]
    exact ⟨hn.connection, hn.closing⟩
  | nil =>
    have hleaves : carryOn s x 1 =
        { x.line (.begin .disconnect) with closing := .leaving x.calls.length } := by
      show x.proceed = _
      rw [proceed, hjoining]
    obtain ⟨n, hn⟩ := exists_carriedOut s
      (x := { x.line (.begin .disconnect) with closing := .leaving x.calls.length })
      (k := x.calls.length) rfl List.getElem?_concat_length
    rw [← hleaves] at hn
    refine ⟨1 + n + 1, ?_⟩
    rw [carryOn_add, carryOn_add]
    have hclosing : (carryOn s (carryOn s x 1) n).closing = .leaving x.calls.length := by
      rw [hn.closing, hleaves]
    show Closed x (carryOn s (carryOn s x 1) n).proceed
    rw [proceed, hclosing]
    dsimp only
    rw [hn.returned]
    refine ⟨?_, ?_⟩
    · refine hn.connection.trans ?_
      rw [hleaves]
      exact congrArg Prod.snd (Registry.run_map _ _ _ _)
    · have hrun := Registry.run_map Registry.disconnect Returned.requested x.working.broker x.link
      rw [hleaves]
      exact congrArg (fun ran => Closing.returned ran.1) hrun

end Service

end LockFleet.Hub

/-! ### The shutdown of a rehearsal -/

namespace LockFleet.Rehearsal.World

open Registry (run)

/-- A rehearsed shutdown takes the subscriptions back, lets the tasks have their turns, and closes
the connection. -/
theorem shutDown_cases (w : World) (h : Hub) :
    ∃ stopped : World, (stopped.broker, stopped.link) = (run Listening.stop w.broker w.link).2 ∧
      ((w.shutDown h).1, (w.shutDown h).2.broker, (w.shutDown h).2.link) =
        run Registry.disconnect stopped.settle.broker stopped.settle.link := by
  cases hrouter : w.router with
  | none =>
    refine ⟨(w.operate Listening.stop).2.cancel h.token, rfl, ?_⟩
    rw [shutDown, hrouter]
    rfl
  | some r =>
    refine ⟨((w.cancel r.token).operate Listening.stop).2.cancel h.token, rfl, ?_⟩
    rw [shutDown, hrouter]
    rfl

/-- **A rehearsal shuts its hub down in this way**: over the same connection it takes the same
subscriptions back, and when the tasks have had their turns it closes the connection with the same
result. -/
theorem shutDown_eq {S : Type} (w : World) (h : Hub) {s : Hub.Equipment Handler S}
    {x : Hub.Service Handler RecordingLink S} (hresting : x.closing.isResting = true)
    (hconnection : x.connection = (w.broker, w.link)) :
    ∃ (n : Nat) (stopped : World),
      (Hub.Service.carryOn s (x.step s .shutDown) n).closing = .joining x.tasks ∧
      (Hub.Service.carryOn s (x.step s .shutDown) n).connection = (stopped.broker, stopped.link) ∧
      ∀ (y : Hub.Service Handler RecordingLink S) tasks, y.closing = .joining tasks →
        (∀ k ∈ tasks, y.hasEnded k = true) →
        y.connection = (stopped.settle.broker, stopped.settle.link) →
          ∃ m, (Hub.Service.carryOn s y m).closing = .returned (.requested (w.shutDown h).1) ∧
            (Hub.Service.carryOn s y m).connection =
              ((w.shutDown h).2.broker, (w.shutDown h).2.link) := by
  obtain ⟨n, hn⟩ := Hub.Service.exists_stopped s hresting
  obtain ⟨stopped, hstopped, hclosed⟩ := w.shutDown_cases h
  refine ⟨n, stopped, hn.closing, ?_, fun y tasks hjoining hended hy => ?_⟩
  · rw [hstopped, hn.connection]
    exact congrArg (fun c : Broker Handler × RecordingLink => (run Listening.stop c.1 c.2).2)
      hconnection
  · obtain ⟨m, hm⟩ := Hub.Service.exists_closed s hjoining hended
    have hran : run Registry.disconnect y.working.broker y.link =
        ((w.shutDown h).1, (w.shutDown h).2.broker, (w.shutDown h).2.link) := by
      rw [hclosed]
      exact congrArg (fun c : Broker Handler × RecordingLink => run Registry.disconnect c.1 c.2) hy
    refine ⟨m, ?_, ?_⟩
    · rw [hm.closing, hran]
    · rw [hm.connection, hran]

end LockFleet.Rehearsal.World
