import LockFleet.Proofs.Device.Handler
import LockFleet.Proofs.Run

/-!
# Handlers at work on one store

An intake is a store and any number of handlers that have been called.  Their requests are served
one at a time in any order; requests may fail, handlers may be cut off, and devices may be inserted.

* `Intake.Event`, `Intake.step` — what can happen, and what comes of it; a request is one step;
* `Intake.play` — the intake after a list of events, from a store without handlers on;
* `Intake.Happens`, `Intake.happens` — all that a step can do;
* `Intake.placed` — every handler stands at one of the positions of its task.
-/

namespace LockFleet

/-- A handler that has been called. -/
structure Call where
  task : Task
  /-- The key of the device that it has found. -/
  found : Option Int64
  /-- What is left of its program.  One that has been cut off has none. -/
  rest : Option (Reconcile (Except HandlerError Unit))

namespace Call

/-- Whether the handler has a request to make. -/
def isRunning (c : Call) : Bool :=
  match c.rest with
  | some (.call _ _) => true
  | _ => false

/-- Whether the handler has ended without an error. -/
def hasSucceeded (c : Call) : Bool :=
  match c.rest with
  | some (.done (.ok _)) => true
  | _ => false

/-- The next request. -/
def request? (c : Call) : Option ReconcileRequest :=
  match c.rest with
  | some (.call q _) => some q
  | _ => none

theorem hasSucceeded_of_isRunning {c : Call} (h : c.isRunning = true) :
    c.hasSucceeded = false := by
  rw [isRunning] at h
  rw [hasSucceeded]
  split at h
  · next hrest => rw [hrest]
  · cases h

theorem rest_of_request? {c : Call} {q : ReconcileRequest} (h : c.request? = some q) :
    ∃ next, c.rest = some (.call q next) := by
  rw [request?] at h
  split at h
  · next q' next hrest =>
    cases h
    exact ⟨next, hrest⟩
  · cases h

end Call

/-- A store and the handlers that have been called, each under its number. -/
structure Intake where
  store : Store
  calls : List Call

namespace Intake

/-! ### Events -/

/-- What can happen at an intake. -/
inductive Event where
  | call (t : Task)
  /-- The next request of a handler is served: by the store, by the clock with this time, or by the
  desk with this answer. -/
  | serve (call : Nat) (time : Moment) (taken : Bool)
  /-- The next request of a handler fails, if it is one to the store. -/
  | fail (call : Nat) (e : StoreError)
  /-- A handler is cut off between two requests. -/
  | cutOff (call : Nat)
  | insert (d : Device)

/-- Whether a request fails or a handler is cut off. -/
def Event.isFault : Event → Bool
  | .fail _ _ => true
  | .cutOff _ => true
  | _ => false

/-- The store before any handler is called. -/
def start (s : Store) : Intake := ⟨s, []⟩

/-- Serves the next request of a handler. -/
def serve (x : Intake) (i : Nat) (c : Call) (time : Moment) (taken : Bool) : Intake :=
  match c.rest with
  | some (.call q next) =>
    let (a, s) := x.store.answer time taken q
    ⟨s, x.calls.set i ⟨c.task, q.found? a <|> c.found, some (next a)⟩⟩
  | _ => x

/-- Fails the next request of a handler. -/
def fail (x : Intake) (i : Nat) (c : Call) (e : StoreError) : Intake :=
  match c.rest with
  | some (.call (.store _) next) =>
    { x with calls := x.calls.set i ⟨c.task, c.found, some (next (.error e))⟩ }
  | _ => x

theorem serve_of_call {x : Intake} {c : Call} {q : ReconcileRequest}
    {next : q.Answer → Reconcile (Except HandlerError Unit)} (h : c.rest = some (.call q next))
    (i : Nat) (time : Moment) (taken : Bool) :
    x.serve i c time taken = ⟨(x.store.answer time taken q).2, x.calls.set i
      ⟨c.task, q.found? (x.store.answer time taken q).1 <|> c.found,
        some (next (x.store.answer time taken q).1)⟩⟩ := by
  rw [serve, h]

theorem serve_of_not_running {x : Intake} {c : Call} (h : c.isRunning = false) (i : Nat)
    (time : Moment) (taken : Bool) : x.serve i c time taken = x := by
  rw [serve]
  split
  · next q next hrest =>
    rw [Call.isRunning, hrest] at h
    cases h
  · rfl

theorem fail_of_call {x : Intake} {c : Call} {q : StoreRequest}
    {next : Except StoreError q.Answer → Reconcile (Except HandlerError Unit)}
    (h : c.rest = some (.call (.store q) next)) (i : Nat) (e : StoreError) :
    x.fail i c e = ⟨x.store, x.calls.set i ⟨c.task, c.found, some (next (.error e))⟩⟩ := by
  rw [fail, h]

theorem fail_of_no_request {x : Intake} {c : Call} (h : ∀ q, c.request? ≠ some (.store q))
    (i : Nat) (e : StoreError) : x.fail i c e = x := by
  rw [fail]
  split
  · next q next hrest => exact absurd (by rw [Call.request?, hrest]) (h q)
  · rfl

/-- What comes of an event.  Handlers that are not there are not served. -/
def step (x : Intake) : Event → Intake
  | .call t => { x with calls := x.calls ++ [⟨t, none, some t.program⟩] }
  | .serve i time taken =>
    match x.calls[i]? with
    | some c => x.serve i c time taken
    | none => x
  | .fail i e =>
    match x.calls[i]? with
    | some c => x.fail i c e
    | none => x
  | .cutOff i => { x with calls := x.calls.modify i fun c => { c with rest := none } }
  | .insert d => { x with store := x.store.insert d }

/-- The intake after a list of events. -/
def play (s : Store) (es : List Event) : Intake := Run.after step (start s) es

theorem play_snoc (s : Store) (es : List Event) (e : Event) :
    play s (es ++ [e]) = (play s es).step e :=
  Run.after_snoc es e

/-! ### Handlers and their positions -/

end Intake

/-- Whether a handler of a task that has found a device, or none so far, can stand at a position. -/
def Position.Fits (t : Task) (found : Option Int64) : Position → Prop
  | .start t' => t' = t ∧ found = none
  | .heartbeatFound id h => (∃ n, t = .report ⟨n, .heartbeat h⟩) ∧ found = some id
  | .heartbeatTimed id h _ => (∃ n, t = .report ⟨n, .heartbeat h⟩) ∧ found = some id
  | .heartbeatStored id _ => (∃ n h, t = .report ⟨n, .heartbeat h⟩) ∧ found = some id
  | .statusFound id r => (∃ n, t = .report ⟨n, .status r⟩) ∧ found = some id
  | .eventFound id kind content =>
    (∃ n e, t = .report ⟨n, .event e⟩ ∧ kind = e.kind ∧ content = e.message) ∧ found = some id
  | .silenceFound id cutoff => (∃ n, t = .offline n cutoff) ∧ found = some id
  | .silenceTimed id _ cutoff => (∃ n, t = .offline n cutoff) ∧ found = some id
  | .unstamped id kind content => t.Leaves kind content ∧ found = some id
  | .unrecorded e => ∃ id kind content time, e = Entry.bySystem id kind content time ∧
      t.Leaves kind content ∧ found = some id
  | .ended _ => True

theorem Position.found_fits (t : Task) (id : Int64) (n : String) (ht : t.number? = some n) :
    (Position.found id t).Fits t (some id) := by
  cases t with
  | offline n' cutoff => exact ⟨⟨n', rfl⟩, rfl⟩
  | report m =>
    obtain ⟨n', r⟩ := m
    cases r with
    | heartbeat h => exact ⟨⟨n', rfl⟩, rfl⟩
    | status r => exact ⟨⟨n', rfl⟩, rfl⟩
    | event e => exact ⟨⟨n', e, rfl, rfl, rfl⟩, rfl⟩
    | ack a => cases ht

/-- A served request leads from one fitting position to another. -/
theorem Position.Serves.fits {s s' : Store} {time : Moment} {taken : Bool} {p p' : Position}
    {q : ReconcileRequest} {f found : Option Int64} {t : Task}
    (h : Serves s time taken p q p' s' f) (hp : p.Fits t found) : p'.Fits t (f <|> found) := by
  cases h with
  | handsOver => trivial
  | unknown => trivial
  | finds ht =>
    obtain ⟨rfl, -⟩ := hp
    exact Position.found_fits _ _ _ ht
  | timesHeartbeat => exact hp
  | storesHeartbeat id h m =>
    obtain ⟨⟨n, rfl⟩, hf⟩ := hp
    exact ⟨⟨n, h, rfl⟩, hf⟩
  | goesOnline =>
    obtain ⟨⟨n, h, rfl⟩, hf⟩ := hp
    exact ⟨⟨rfl, rfl⟩, hf⟩
  | staysOnline => trivial
  | overwrites => trivial
  | unlocks =>
    obtain ⟨⟨n, e, rfl, hk, hc⟩, hf⟩ := hp
    exact ⟨⟨congrArg EntryKind.ofEvent hk, hc⟩, hf⟩
  | locks =>
    obtain ⟨⟨n, e, rfl, hk, hc⟩, hf⟩ := hp
    exact ⟨⟨congrArg EntryKind.ofEvent hk, hc⟩, hf⟩
  | breaks id content hkind =>
    obtain ⟨⟨n, e, rfl, hk, hc⟩, hf⟩ := hp
    refine ⟨⟨?_, hc⟩, hf⟩
    rw [← hk]
    rcases hkind with rfl | rfl <;> rfl
  | notes id name content =>
    obtain ⟨⟨n, e, rfl, hk, hc⟩, hf⟩ := hp
    exact ⟨id, _, _, time, rfl, ⟨congrArg EntryKind.ofEvent hk, hc⟩, hf⟩
  | timesSilence => exact hp
  | goesOffline =>
    obtain ⟨⟨n, rfl⟩, hf⟩ := hp
    exact ⟨⟨rfl, rfl⟩, hf⟩
  | staysAsItIs => trivial
  | stamps id kind content => exact ⟨id, kind, content, time, rfl, hp.1, hp.2⟩
  | records => trivial
  | refused => trivial

/-! ### Devices stay in the store -/

theorem Position.device?_found {t : Task} {id k : Int64}
    (h : (Position.found id t).device? = some k) : k = id := by
  cases t with
  | offline number cutoff =>
    cases h
    rfl
  | report m =>
    obtain ⟨number, r⟩ := m
    cases r <;> cases h <;> rfl

namespace Position.Serves

variable {s s' : Store} {time : Moment} {taken : Bool} {p p' : Position} {q : ReconcileRequest}
  {f : Option Int64} {id : Int64}

/-- A served request keeps every device in the store. -/
theorem contains (h : Serves s time taken p q p' s' f) (hid : s.devices.contains id = true) :
    s'.devices.contains id = true := by
  cases h with
  | storesHeartbeat => rwa [Store.contains_change]
  | goesOnline => rwa [Store.contains_change]
  | overwrites => rwa [Store.contains_change]
  | unlocks => rwa [Store.contains_change]
  | locks => rwa [Store.contains_change]
  | breaks => rwa [Store.contains_change]
  | goesOffline => rwa [Store.contains_change]
  | _ => exact hid

/-- The position reached is about the same device, or about the one that was found. -/
theorem device? (h : Serves s time taken p q p' s' f) (hid : p'.device? = some id) :
    p.device? = some id ∨ s'.devices.contains id = true := by
  cases h with
  | finds _ hd =>
    right
    rw [device?_found hid, Table.contains]
    exact Option.isSome_iff_exists.2 ⟨_, Store.device?_of_find? hd⟩
  | handsOver => cases hid
  | unknown => cases hid
  | staysOnline => cases hid
  | overwrites => cases hid
  | staysAsItIs => cases hid
  | records => cases hid
  | refused => cases hid
  | _ => exact Or.inl hid

end Position.Serves

namespace Call

/-- A handler stands at a position that its task can lead to, with a device that is in the store. -/
structure Stands (s : Store) (c : Call) (p : Position) : Prop where
  rest : c.rest = some p.program
  fits : p.Fits c.task c.found
  known : ∀ id, p.device? = some id → s.devices.contains id = true

theorem stands_start (s : Store) (t : Task) :
    (⟨t, none, some t.program⟩ : Call).Stands s (.start t) :=
  ⟨rfl, ⟨rfl, rfl⟩, fun _ hid => by cases hid⟩

/-- A handler may have ended at any time. -/
theorem stands_ended (s : Store) (t : Task) (found : Option Int64)
    (result : Except HandlerError Unit) :
    (⟨t, found, some (Position.ended result).program⟩ : Call).Stands s (.ended result) :=
  ⟨rfl, trivial, fun _ hid => by cases hid⟩

/-- The next request of a handler is served from the position at which it stands. -/
theorem Stands.request_served {s : Store} {c : Call} {p : Position} {q : ReconcileRequest}
    (h : c.Stands s p) (hq : c.request? = some q) (time : Moment) (taken : Bool) :
    ∃ p', p.Serves s time taken q p' (s.answer time taken q).2
      (q.found? (s.answer time taken q).1) := by
  obtain ⟨next, hrest⟩ := rest_of_request? hq
  have hprog : p.program = .call q next := Option.some.inj (h.rest.symm.trans hrest)
  have hfollows : Position.Follows s time taken p q next := Position.serves hprog
  obtain ⟨p', hserves, -⟩ := hfollows
  exact ⟨p', hserves⟩

/-- A handler whose request has been served stands at the position reached. -/
theorem Stands.served {s s' : Store} {time : Moment} {taken : Bool} {c : Call} {p p' : Position}
    {q : ReconcileRequest} {f : Option Int64} (h : c.Stands s p)
    (hserves : p.Serves s time taken q p' s' f) :
    (⟨c.task, f <|> c.found, some p'.program⟩ : Call).Stands s' p' := by
  refine ⟨rfl, hserves.fits h.fits, fun id hid => ?_⟩
  rcases hserves.device? hid with hid | hid
  · exact hserves.contains (h.known id hid)
  · exact hid

theorem Stands.mono {s s' : Store} {c : Call} {p : Position} (h : c.Stands s p)
    (hs : ∀ id, s.devices.contains id = true → s'.devices.contains id = true) : c.Stands s' p :=
  ⟨h.rest, h.fits, fun id hid => hs id (h.known id hid)⟩

/-- A handler that has not been cut off stands somewhere. -/
def IsPlaced (s : Store) (c : Call) : Prop := c.rest = none ∨ ∃ p, c.Stands s p

theorem IsPlaced.mono {s s' : Store} {c : Call} (h : c.IsPlaced s)
    (hs : ∀ id, s.devices.contains id = true → s'.devices.contains id = true) : c.IsPlaced s' := by
  rcases h with h | ⟨p, hp⟩
  · exact Or.inl h
  · exact Or.inr ⟨p, hp.mono hs⟩

end Call

namespace Intake

variable {s : Store} {x y : Intake} {es : List Event} {e : Event}

/-- What an event can do to the store and to the handlers. -/
inductive Happens (x : Intake) : Event → Intake → Prop where
  /-- Nothing changes. -/
  | nothing {e : Event} : Happens x e x
  | called (t : Task) :
      Happens x (.call t) { x with calls := x.calls ++ [⟨t, none, some t.program⟩] }
  | served {i : Nat} {time : Moment} {taken : Bool} {c c' : Call} {p p' : Position}
      {q : ReconcileRequest} {s' : Store} {f : Option Int64} (call : x.calls[i]? = some c)
      (stands : c.Stands x.store p) (serves : p.Serves x.store time taken q p' s' f)
      (request : c.request? = some q) (call' : c' = ⟨c.task, f <|> c.found, some p'.program⟩) :
      Happens x (.serve i time taken) ⟨s', x.calls.set i c'⟩
  | failed {i : Nat} {e : StoreError} {c : Call} {p : Position} {q : StoreRequest}
      (call : x.calls[i]? = some c) (stands : c.Stands x.store p)
      (request : c.request? = some (.store q)) :
      Happens x (.fail i e) ⟨x.store,
        x.calls.set i ⟨c.task, c.found, some (Position.ended (.error (.store e))).program⟩⟩
  | wasCutOff (i : Nat) :
      Happens x (.cutOff i) { x with calls := x.calls.modify i fun c => { c with rest := none } }
  | inserted (d : Device) : Happens x (.insert d) { x with store := x.store.insert d }

theorem step_serve_of_none {i : Nat} (h : x.calls[i]? = none) (time : Moment) (taken : Bool) :
    x.step (.serve i time taken) = x := by
  rw [step, h]

theorem step_fail_of_none {i : Nat} (h : x.calls[i]? = none) (e : StoreError) :
    x.step (.fail i e) = x := by
  rw [step, h]

/-- A handler that has no request to make is not served. -/
theorem step_serve_of_not_running {i : Nat} {c : Call} (hc : x.calls[i]? = some c)
    (h : c.isRunning = false) (time : Moment) (taken : Bool) :
    x.step (.serve i time taken) = x := by
  have hstep : x.step (.serve i time taken) = x.serve i c time taken := by rw [step, hc]
  rw [hstep]
  exact serve_of_not_running h i time taken

/-- No request fails that is not one to the store. -/
theorem step_fail_of_no_request {i : Nat} {c : Call} (hc : x.calls[i]? = some c)
    (h : ∀ q, c.request? ≠ some (.store q)) (e : StoreError) : x.step (.fail i e) = x := by
  have hstep : x.step (.fail i e) = x.fail i c e := by rw [step, hc]
  rw [hstep]
  exact fail_of_no_request h i e

/-- A handler that has been cut off makes no request. -/
theorem step_of_cutOff {i : Nat} {c : Call} (hc : x.calls[i]? = some c) (h : c.rest = none) :
    (∀ time taken, x.step (.serve i time taken) = x) ∧ ∀ e, x.step (.fail i e) = x := by
  refine ⟨fun time taken => ?_, fun e => ?_⟩
  · exact step_serve_of_not_running hc (by rw [Call.isRunning, h]) time taken
  · refine step_fail_of_no_request hc (fun q hq => ?_) e
    rw [Call.request?, h] at hq
    cases hq

/-- After a cut-off every handler is one that was there, or what is left of one. -/
theorem mem_cutOff {i : Nat} {c : Call} (hc : c ∈ (x.step (.cutOff i)).calls) :
    c ∈ x.calls ∨ ∃ c' ∈ x.calls, c = { c' with rest := none } := by
  obtain ⟨n, hn⟩ := List.mem_iff_getElem?.1 hc
  rw [step, List.getElem?_modify] at hn
  obtain ⟨c', hc', rfl⟩ := Option.map_eq_some_iff.1 hn
  by_cases hi : i = n
  · rw [if_pos hi]
    exact Or.inr ⟨c', List.mem_of_getElem? hc', rfl⟩
  · rw [if_neg hi]
    exact Or.inl (List.mem_of_getElem? hc')

/-- A handler that stands somewhere has ended, or its next request is served and it goes on from
the position reached. -/
theorem step_serve {i : Nat} {c : Call} {p : Position} (hc : x.calls[i]? = some c)
    (hrest : c.rest = some p.program) (time : Moment) (taken : Bool) :
    x.step (.serve i time taken) = x ∨ ∃ q p' s' f, c.request? = some q ∧
      s' = (x.store.answer time taken q).2 ∧ p.Serves x.store time taken q p' s' f ∧
      x.step (.serve i time taken) =
        ⟨s', x.calls.set i ⟨c.task, f <|> c.found, some p'.program⟩⟩ := by
  cases hprog : p.program with
  | done r =>
    left
    exact step_serve_of_not_running hc (by rw [Call.isRunning, hrest, hprog]) time taken
  | call q next =>
    right
    have hstep : x.step (.serve i time taken) = x.serve i c time taken := by rw [step, hc]
    have hcall : c.rest = some (.call q next) := by rw [hrest, hprog]
    have hfollows : Position.Follows x.store time taken p q next := Position.serves hprog
    obtain ⟨p', hserves, hnext⟩ := hfollows
    have hreq : c.request? = some q := by rw [Call.request?, hcall]
    rw [hstep, serve_of_call hcall, hnext]
    exact ⟨q, p', _, _, hreq, rfl, hserves, rfl⟩

/-- A handler whose next request fails ends with this failure; one that has none to the store goes
on unharmed. -/
theorem step_fail {i : Nat} {c : Call} {p : Position} (hc : x.calls[i]? = some c)
    (hrest : c.rest = some p.program) (e : StoreError) :
    x.step (.fail i e) = x ∨ ∃ q, c.request? = some (.store q) ∧ x.step (.fail i e) =
      ⟨x.store, x.calls.set i
        ⟨c.task, c.found, some (Position.ended (.error (.store e))).program⟩⟩ := by
  by_cases hreq : ∃ q, c.request? = some (.store q)
  · right
    obtain ⟨q, hq⟩ := hreq
    have hstep : x.step (.fail i e) = x.fail i c e := by rw [step, hc]
    obtain ⟨next, hcall⟩ := Call.rest_of_request? hq
    have hprog : p.program = .call (.store q) next := Option.some.inj (hrest.symm.trans hcall)
    rw [hstep, fail_of_call hcall, Position.fails hprog e]
    exact ⟨q, hq, rfl⟩
  · left
    exact step_fail_of_no_request hc (fun q hq => hreq ⟨q, hq⟩) e

/-- Every handler stands somewhere. -/
def Placed (x : Intake) : Prop := ∀ c ∈ x.calls, c.IsPlaced x.store

/-- **All that a step can do.** -/
theorem happens_step (hx : x.Placed) (e : Event) : Happens x e (x.step e) := by
  cases e with
  | call t => exact .called t
  | cutOff i => exact .wasCutOff i
  | insert d => exact .inserted d
  | serve i time taken =>
    cases hc : x.calls[i]? with
    | none =>
      rw [step_serve_of_none hc]
      exact .nothing
    | some c =>
      rcases hx c (List.mem_of_getElem? hc) with hrest | ⟨p, hp⟩
      · rw [(step_of_cutOff hc hrest).1]
        exact .nothing
      · rcases step_serve hc hp.rest time taken with hstep | ⟨q, p', s', f, hreq, -, hserves, hstep⟩
        · rw [hstep]
          exact .nothing
        · rw [hstep]
          exact .served hc hp hserves hreq rfl
  | fail i e =>
    cases hc : x.calls[i]? with
    | none =>
      rw [step_fail_of_none hc]
      exact .nothing
    | some c =>
      rcases hx c (List.mem_of_getElem? hc) with hrest | ⟨p, hp⟩
      · rw [(step_of_cutOff hc hrest).2]
        exact .nothing
      · rcases step_fail hc hp.rest e with hstep | ⟨q, hreq, hstep⟩
        · rw [hstep]
          exact .nothing
        · rw [hstep]
          exact .failed hc hp hreq

/-- A step keeps every handler at a position. -/
theorem Placed.step (hx : x.Placed) (h : x.Happens e y) : y.Placed := by
  intro c hc
  cases h with
  | nothing => exact hx c hc
  | called t =>
    rcases List.mem_append.1 hc with hc | hc
    · exact hx c hc
    · obtain rfl := List.mem_singleton.1 hc
      exact Or.inr ⟨.start t, Call.stands_start _ t⟩
  | served call stands serves _ call' =>
    rcases List.mem_or_eq_of_mem_set hc with hc | rfl
    · exact (hx c hc).mono fun id hid => serves.contains hid
    · rw [call']
      exact Or.inr ⟨_, stands.served serves⟩
  | failed call =>
    rcases List.mem_or_eq_of_mem_set hc with hc | rfl
    · exact hx c hc
    · exact Or.inr ⟨_, Call.stands_ended _ _ _ _⟩
  | wasCutOff i =>
    rcases mem_cutOff hc with hc | ⟨c', -, rfl⟩
    · exact hx c hc
    · exact Or.inl rfl
  | inserted d => exact (hx c hc).mono fun id hid => Store.contains_insert hid d

/-- Every handler stands at one of its positions, in every run. -/
theorem placed (s : Store) (es : List Event) : (play s es).Placed := by
  induction es using List.reverseRecOn with
  | nil => exact fun c hc => absurd hc List.not_mem_nil
  | append_singleton es e ih =>
    rw [play_snoc]
    exact ih.step (happens_step ih e)

/-- What an event does to the intake of a run. -/
theorem happens (s : Store) (es : List Event) (e : Event) :
    Happens (play s es) e (play s (es ++ [e])) := by
  rw [play_snoc]
  exact happens_step (placed s es) e

end Intake

end LockFleet
