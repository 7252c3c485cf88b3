import LockFleet.Proofs.Device.Hearing
import LockFleet.Proofs.Device.Transitions

/-!
# The watchdog among handlers

A patrol is an intake and any number of scans by the watchdog, all of them at work on one store.  A
scan looks for silent devices first and takes them offline later, one request at a time, so that
what it knows may be out of date.  It never undoes what a heartbeat has done.

* `Intake.isPeaceful`, `Intake.IsGuarded.step` — handlers that spare devices that have been heard;
* `Patrol.Event`, `Patrol.step` — what can happen at a patrol, and what comes of it;
* `Patrol.IsGuarded.step` — where scans and handlers stand, and what a step does;
* `Patrol.Unbeaten`, `Patrol.unbeaten` — what no scan undoes.
-/

namespace LockFleet

/-! ### Handlers -/

namespace Intake

/-- Nothing takes a device offline but with a cutoff up to a moment, the heartbeats that are written
are not earlier, no status is reported and no device is inserted. -/
def isPeaceful (c : Moment) (x : Intake) : Event → Bool
  | .call t => t.isSparing c
  | .insert _ => false
  | .serve i time taken =>
    !(x.request? (.serve i time taken)).any (ReconcileRequest.isBelated c)
  | _ => true

def IsGuarded (c : Moment) (x : Intake) : Prop := ∀ call ∈ x.calls, call.IsGuarded c x.store

variable {c : Moment} {x y : Intake}

/-- A step spares every device, and the handlers stand guarded after it. -/
structure Keeps (c : Moment) (x y : Intake) : Prop where
  spares : x.store.Spares c y.store
  guarded : y.IsGuarded c

theorem IsGuarded.keeps (hx : x.IsGuarded c) : x.Keeps c x := ⟨.refl c x.store, hx⟩

/-- One handler has gone on and the others stand where they stood. -/
theorem IsGuarded.keeps_set (hx : x.IsGuarded c) {i : Nat} {call : Call} {s : Store}
    (hs : x.store.Spares c s) (hcall : call.IsGuarded c s) : x.Keeps c ⟨s, x.calls.set i call⟩ := by
  refine ⟨hs, fun call' hmem => ?_⟩
  rcases List.mem_or_eq_of_mem_set hmem with hmem | rfl
  · exact (hx call' hmem).mono hs
  · exact hcall

theorem IsGuarded.serve (hx : x.IsGuarded c) {i : Nat} {time : Moment} {taken : Bool}
    (he : x.isPeaceful c (.serve i time taken) = true) :
    x.Keeps c (x.step (.serve i time taken)) := by
  cases hcall : x.calls[i]? with
  | none =>
    rw [step_serve_of_none hcall]
    exact hx.keeps
  | some call =>
    obtain ⟨htask, hrest | ⟨p, hp, hguards⟩⟩ := hx call (List.mem_of_getElem? hcall)
    · rw [(step_of_cutOff hcall hrest).1]
      exact hx.keeps
    · rcases step_serve hcall hp.rest time taken with
        hstep | ⟨q, p', s', f, hreq, hs', hserves, hstep⟩
      · rw [hstep]
        exact hx.keeps
      · have hrequest : x.request? (.serve i time taken) = some q := by
          rw [request?, hcall]
          exact hreq
        have hbelated : q.isBelated c = false := by
          rw [isPeaceful, hrequest, Bool.not_eq_true'] at he
          exact he
        have hspares : x.store.Spares c s' := by
          rw [hs']
          exact Store.answer_spares (hp.spares hserves htask hbelated) x.store time taken
        have hguards' := hguards.served hp hserves hbelated hspares
        rw [hstep]
        exact hx.keeps_set hspares ⟨htask, Or.inr ⟨p', hp.served hserves, hguards'⟩⟩

theorem IsGuarded.fail (hx : x.IsGuarded c) (i : Nat) (e : StoreError) :
    x.Keeps c (x.step (.fail i e)) := by
  cases hcall : x.calls[i]? with
  | none =>
    rw [step_fail_of_none hcall]
    exact hx.keeps
  | some call =>
    obtain ⟨htask, hrest | ⟨p, hp, hguards⟩⟩ := hx call (List.mem_of_getElem? hcall)
    · rw [(step_of_cutOff hcall hrest).2]
      exact hx.keeps
    · rcases step_fail hcall hp.rest e with hstep | ⟨q, -, hstep⟩
      · rw [hstep]
        exact hx.keeps
      · -- A handler that has failed has nothing left to see to.
        have hended : (Position.ended (.error (.store e))).hasStored = false := rfl
        rw [hstep]
        refine hx.keeps_set (.refl c x.store)
          ⟨htask, Or.inr ⟨_, Call.stands_ended _ _ _ _, hguards.number, ?_⟩⟩
        intro _ hstored
        rw [hended] at hstored
        cases hstored

/-- **What a step of a handler does to devices that have been heard of.** -/
theorem IsGuarded.step (hx : x.IsGuarded c) {e : Event} (he : x.isPeaceful c e = true) :
    x.Keeps c (x.step e) := by
  cases e with
  | serve i time taken => exact hx.serve he
  | fail i e => exact hx.fail i e
  | insert d => cases he
  | call t =>
    refine ⟨.refl c x.store, fun call hmem => ?_⟩
    rcases List.mem_append.1 hmem with hmem | hmem
    · exact hx call hmem
    · obtain rfl := List.mem_singleton.1 hmem
      refine ⟨he, Or.inr ⟨.start t, Call.stands_start _ t, ?_, ?_⟩⟩
      · intro k hk
        cases hk
      · intro _ hstored
        cases hstored
  | cutOff i =>
    refine ⟨.refl c x.store, fun call hmem => ?_⟩
    rcases mem_cutOff hmem with hmem | ⟨call', hcall', rfl⟩
    · exact hx call hmem
    · exact ⟨(hx call' hcall').1, Or.inl rfl⟩

/-- A heartbeat that is written has been heard. -/
theorem IsGuarded.hears (hx : x.IsGuarded c) {e : Event} (he : x.isPeaceful c e = true) {k : Int64}
    {u : Update} {m : Moment} (hq : x.request? e = some (.store (.update k u)))
    (hu : u.lastHeartbeat = some m) :
    ∃ d, (x.step e).store.device? k = some d ∧ d.IsHeard c := by
  cases e with
  | serve i time taken =>
    have hbelated : ReconcileRequest.isBelated c (.store (.update k u)) = false := by
      rw [isPeaceful, hq, Bool.not_eq_true'] at he
      exact he
    have hm : ¬ m < c := by
      rw [ReconcileRequest.isBelated, hu] at hbelated
      exact of_decide_eq_false hbelated
    cases hcall : x.calls[i]? with
    | none =>
      rw [request?, hcall] at hq
      cases hq
    | some call =>
      have hreq : call.request? = some (.store (.update k u)) := by
        rw [request?, hcall] at hq
        exact hq
      obtain ⟨next, hrest⟩ := Call.rest_of_request? hreq
      obtain ⟨-, hnone | ⟨p, hp, -⟩⟩ := hx call (List.mem_of_getElem? hcall)
      · rw [hnone] at hrest
        cases hrest
      · obtain ⟨p', hserves⟩ := hp.request_served hreq time taken
        have hstep : x.step (.serve i time taken) = x.serve i call time taken := by
          rw [Intake.step, hcall]
        rw [hstep, serve_of_call hrest]
        exact hp.hears hserves hu hm
  | _ => cases hq

end Intake

/-! ### Scans -/

/-- An intake and the scans that have been started, each under its number. -/
structure Patrol where
  intake : Intake
  scans : List (Reconcile (Except HandlerError Nat))

namespace Patrol

/-- What can happen at a patrol. -/
inductive Event where
  /-- Something happens at the intake. -/
  | handler (e : Intake.Event)
  /-- A scan is started. -/
  | scan (offlineAfter : Span)
  /-- The next request of a scan is served, by the store or by the clock with this time. -/
  | serve (scan : Nat) (time : Moment)
  /-- The next request of a scan fails, if it is one to the store. -/
  | fail (scan : Nat) (e : StoreError)

/-- The store before anything is at work on it. -/
def start (s : Store) : Patrol := ⟨Intake.start s, []⟩

/-- What comes of an event. -/
def step (x : Patrol) : Event → Patrol
  | .handler e => { x with intake := x.intake.step e }
  | .scan offlineAfter => { x with scans := x.scans ++ [(Watchdog.check offlineAfter).run] }
  | .serve j time =>
    match x.scans[j]? with
    | some (.call q next) =>
      let (a, s) := x.intake.store.answer time false q
      ⟨{ x.intake with store := s }, x.scans.set j (next a)⟩
    | _ => x
  | .fail j e =>
    match x.scans[j]? with
    | some (.call (.store _) next) => { x with scans := x.scans.set j (next (.error e)) }
    | _ => x

/-- The patrol after a list of events. -/
def play (s : Store) (es : List Event) : Patrol := Run.after step (start s) es

/-- The next request of a scan. -/
def query? (x : Patrol) (j : Nat) : Option ReconcileRequest :=
  match x.scans[j]? with
  | some (.call q _) => some q
  | _ => none

/-- The handlers are peaceful, and the scans look for devices with cutoffs up to a moment. -/
def Peaceful (c : Moment) (x : Patrol) : Event → Prop
  | .handler e => x.intake.isPeaceful c e = true
  | .serve j _ => (x.query? j).any (ReconcileRequest.isAhead c) = false
  | _ => True

instance (c : Moment) (x : Patrol) : (e : Event) → Decidable (x.Peaceful c e)
  | .handler e => inferInstanceAs (Decidable (x.intake.isPeaceful c e = true))
  | .serve j _ =>
    inferInstanceAs (Decidable ((x.query? j).any (ReconcileRequest.isAhead c) = false))
  | .scan _ => inferInstanceAs (Decidable True)
  | .fail _ _ => inferInstanceAs (Decidable True)

/-- Whether a heartbeat is written for a device. -/
def WritesHeartbeat (k : Int64) (x : Patrol) : Event → Prop
  | .handler e =>
    ∃ u m, x.intake.request? e = some (.store (.update k u)) ∧ u.lastHeartbeat = some m
  | _ => False

/-- Where everything stands that is at work. -/
structure IsGuarded (c : Moment) (x : Patrol) : Prop where
  intake : x.intake.IsGuarded c
  scans : ∀ r ∈ x.scans, Watchdog.Stage c r

/-- A step spares every device, and everything stands guarded after it. -/
structure Keeps (c : Moment) (x y : Patrol) : Prop where
  spares : x.intake.store.Spares c y.intake.store
  guarded : y.IsGuarded c

variable {c : Moment} {s : Store} {x : Patrol} {e : Event} {es pre post : List Event}

theorem isGuarded_start (c : Moment) (s : Store) : (start s).IsGuarded c :=
  ⟨fun _ hcall => absurd hcall List.not_mem_nil, fun _ hr => absurd hr List.not_mem_nil⟩

theorem IsGuarded.keeps (hx : x.IsGuarded c) : x.Keeps c x := ⟨.refl c x.intake.store, hx⟩

/-- One scan has gone on and the others stand where they stood. -/
theorem IsGuarded.keeps_set (hx : x.IsGuarded c) {j : Nat}
    {r : Reconcile (Except HandlerError Nat)} {s : Store} (hs : x.intake.store.Spares c s)
    (hr : Watchdog.Stage c r) : x.Keeps c ⟨⟨s, x.intake.calls⟩, x.scans.set j r⟩ := by
  refine ⟨hs, fun call hmem => (hx.intake call hmem).mono hs, fun r' hmem => ?_⟩
  rcases List.mem_or_eq_of_mem_set hmem with hmem | rfl
  · exact hx.scans r' hmem
  · exact hr

/-- **What a step does to devices that have been heard of.** -/
theorem IsGuarded.step (hx : x.IsGuarded c) (he : x.Peaceful c e) : x.Keeps c (x.step e) := by
  cases e with
  | handler e =>
    obtain ⟨hspares, hguarded⟩ := hx.intake.step he
    exact ⟨hspares, hguarded, hx.scans⟩
  | scan offlineAfter =>
    refine ⟨.refl c x.intake.store, hx.intake, fun r hmem => ?_⟩
    rcases List.mem_append.1 hmem with hmem | hmem
    · exact hx.scans r hmem
    · obtain rfl := List.mem_singleton.1 hmem
      exact .starts offlineAfter
  | serve j time =>
    rw [Patrol.step]
    split
    · next q next hscan =>
      have hstage : Watchdog.Stage c (.call q next) := hx.scans _ (List.mem_of_getElem? hscan)
      have hquery : x.query? j = some q := by rw [query?, hscan]
      have hcutoff : q.isAhead c = false := by
        rw [Peaceful, hquery] at he
        exact he
      exact hx.keeps_set (Store.answer_spares hstage.spares x.intake.store time false)
        (hstage.next hcutoff _)
    · exact hx.keeps
  | fail j e =>
    rw [Patrol.step]
    split
    · next q next hscan =>
      have hstage : Watchdog.Stage c (.call (.store q) next) :=
        hx.scans _ (List.mem_of_getElem? hscan)
      exact hx.keeps_set (.refl c x.intake.store) (hstage.failed e)
    · exact hx.keeps

/-! ### Runs -/

theorem play_snoc (s : Store) (es : List Event) (e : Event) :
    play s (es ++ [e]) = (play s es).step e :=
  Run.after_snoc es e

theorem isGuarded (h : Run.Along step (Peaceful c) (start s) es) : (play s es).IsGuarded c := by
  refine Run.Along.invariant (P := fun _ x => x.IsGuarded c) h (isGuarded_start c s) ?_
  intro es e _ hx he
  exact (hx.step he).guarded

/-- Every device is spared from any point of a run on. -/
theorem spares (h : Run.Along step (Peaceful c) (start s) (pre ++ post)) :
    (play s pre).intake.store.Spares c (play s (pre ++ post)).intake.store := by
  induction post using List.reverseRecOn with
  | nil =>
    rw [List.append_nil]
    exact .refl c _
  | append_singleton post e ih =>
    rw [← List.append_assoc] at h ⊢
    obtain ⟨hpre, he⟩ := (Run.along_snoc (pre ++ post) e).1 h
    rw [play_snoc]
    exact (ih hpre).trans ((isGuarded hpre).step he).spares

theorem spares_of_isPrefix (h : Run.Along step (Peaceful c) (start s) es) (hpre : pre <+: es) :
    (play s pre).intake.store.Spares c (play s es).intake.store := by
  obtain ⟨post, rfl⟩ := hpre
  exact spares h

/-- A device has been heard of when a heartbeat has been written for it. -/
theorem isHeard {k : Int64} (h : Run.Along step (Peaceful c) (start s) es)
    (hpre : Run.Occurs es pre e) (hwrite : (play s pre).WritesHeartbeat k e) :
    ∃ d, (play s (pre ++ [e])).intake.store.device? k = some d ∧ d.IsHeard c := by
  obtain ⟨hbefore, he⟩ := (Run.along_snoc pre e).1 (h.of_isPrefix hpre.isPrefix)
  rw [play_snoc]
  cases e with
  | handler e =>
    obtain ⟨u, m, hq, hu⟩ := hwrite
    exact (isGuarded hbefore).intake.hears he hq hu
  | _ => exact hwrite.elim

/-- What no scan of a run undoes. -/
structure Unbeaten (c : Moment) (s : Store) (es : List Event) : Prop where
  /-- No step takes a device offline once a heartbeat has been written for it. -/
  stays : ∀ (pre : List Event) e pre' e' k d, Run.Occurs es pre e → Run.Occurs pre pre' e' →
    (play s pre').WritesHeartbeat k e' → (play s pre).intake.store.device? k = some d →
    d.isOnline = true →
      ∃ d', (play s (pre ++ [e])).intake.store.device? k = some d' ∧ d'.isOnline = true
  /-- When any handler of a heartbeat has succeeded, its device is online and has been heard of, and
  so it is ever after. -/
  online : ∀ (pre later : List Event) (i : Nat) call number h, pre <+: later → later <+: es →
    (play s pre).intake.calls[i]? = some call → call.task = .report ⟨number, .heartbeat h⟩ →
    call.hasSucceeded = true →
      ∃ k d, call.found = some k ∧ (play s later).intake.store.device? k = some d ∧
        d.number = number ∧ d.isOnline = true ∧ d.isSilentSince c = false

theorem stays_online (h : Run.Along step (Peaceful c) (start s) es) {pre' : List Event}
    {e' : Event} {k : Int64} {d : Device} (hpre : Run.Occurs es pre e)
    (hpre' : Run.Occurs pre pre' e') (hwrite : (play s pre').WritesHeartbeat k e')
    (hd : (play s pre).intake.store.device? k = some d) (hon : d.isOnline = true) :
    ∃ d', (play s (pre ++ [e])).intake.store.device? k = some d' ∧ d'.isOnline = true := by
  have hbefore : Run.Along step (Peaceful c) (start s) pre :=
    h.of_isPrefix ((List.prefix_append pre [e]).trans hpre.isPrefix)
  obtain ⟨d₀, hd₀, hheard⟩ := isHeard hbefore hpre' hwrite
  obtain ⟨d₁, hd₁, hspared⟩ := spares_of_isPrefix hbefore hpre'.isPrefix k d₀ hd₀
  obtain rfl : d₁ = d := Option.some.inj (hd₁.symm.trans hd)
  obtain ⟨d', hd', hspared'⟩ := spares (h.of_isPrefix hpre.isPrefix) k d₁ hd
  exact ⟨d', hd', hspared'.online (hspared.heard hheard) hon⟩

/-- The handler of a heartbeat that has succeeded has seen to everything. -/
theorem online_of_hasSucceeded (h : Run.Along step (Peaceful c) (start s) es) {i : Nat}
    {call : Call} {number : String} {report : Heartbeat}
    (hcall : (play s es).intake.calls[i]? = some call)
    (htask : call.task = .report ⟨number, .heartbeat report⟩) (hdone : call.hasSucceeded = true) :
    ∃ k d, call.found = some k ∧ (play s es).intake.store.device? k = some d ∧
      d.number = number ∧ d.IsHeard c ∧ d.isOnline = true := by
  obtain ⟨-, hrest | ⟨p, hp, hguards⟩⟩ := (isGuarded h).intake call (List.mem_of_getElem? hcall)
  · rw [Call.hasSucceeded, hrest] at hdone
    cases hdone
  · have hend : p.isDone = true := (Call.hasSucceeded_of_rest hp.rest).symm.trans hdone
    obtain ⟨hstored, hmarked⟩ : p.hasStored = true ∧ p.hasMarked = true := by
      cases p with
      | ended r =>
        cases r with
        | ok u => exact ⟨rfl, rfl⟩
        | error e => cases hend
      | _ => cases hend
    have hheartbeat : call.task.isHeartbeat = true := by rw [htask]; rfl
    obtain ⟨k, d, hk, hd, hheard, hon⟩ := hguards.heard hheartbeat hstored
    obtain ⟨d', hd', hnumber⟩ := hguards.number k hk
    obtain rfl : d = d' := Option.some.inj (hd.symm.trans hd')
    rw [htask] at hnumber
    exact ⟨k, d, hk, hd, (Option.some.inj hnumber).symm, hheard, hon hmarked⟩

/-- **The watchdog never beats a heartbeat**, however the requests of scans and of handlers
interleave. -/
theorem unbeaten (h : Run.Along step (Peaceful c) (start s) es) : Unbeaten c s es := by
  refine ⟨fun pre e pre' e' k d hpre hpre' hwrite hd hon => ?_,
    fun pre later i call number report hpre hlater hcall htask hdone => ?_⟩
  · exact stays_online h hpre hpre' hwrite hd hon
  · have hrun : Run.Along step (Peaceful c) (start s) later := h.of_isPrefix hlater
    obtain ⟨k, d, hk, hd, hnumber, hheard, hon⟩ :=
      online_of_hasSucceeded (hrun.of_isPrefix hpre) hcall htask hdone
    obtain ⟨d', hd', hspared⟩ := spares_of_isPrefix hrun hpre k d hd
    exact ⟨k, d', hk, hd', hspared.number.trans hnumber, hspared.online hheard hon,
      hspared.heard hheard⟩

/-- A device that has been silent sends a heartbeat after a scan has found it and before it is taken
offline. -/
def lateHeartbeat (now : Moment) : List Event :=
  [.scan (Span.ofSeconds 180), .serve 0 now, .serve 0 now,
    .handler (.call (.report ⟨"lock-1", .heartbeat ⟨0, .none⟩⟩)), .handler (.serve 0 now true),
    .handler (.serve 0 now true), .serve 0 now, .handler (.serve 0 now true), .serve 0 now,
    .serve 0 now, .handler (.serve 0 now true)]

/-- A store with one device, which is online and has sent no heartbeat. -/
def silentStore : Store :=
  Store.empty.insert { Device.fresh 1 "lock-1" with reachability := .online }

theorem unbeaten_lateHeartbeat :
    Run.Along step (Peaceful (Watchdog.cutoff .epoch (Span.ofSeconds 180))) (start silentStore)
        (lateHeartbeat .epoch) ∧
      Unbeaten (Watchdog.cutoff .epoch (Span.ofSeconds 180)) silentStore
        (lateHeartbeat .epoch) := by
  have hpeaceful : Run.Along step (Peaceful (Watchdog.cutoff .epoch (Span.ofSeconds 180)))
      (start silentStore) (lateHeartbeat .epoch) := by
    decide +kernel
  exact ⟨hpeaceful, unbeaten hpeaceful⟩

end Patrol

end LockFleet
