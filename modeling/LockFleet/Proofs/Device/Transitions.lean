import LockFleet.Proofs.Device.Finding

/-!
# The history of a device

However the requests of handlers interleave, every switch of a device between online and offline
leaves one entry in the history, every event that has been taken in leaves one, and nothing else
does.

* `Intake.switched`, `Intake.takenIn` — what the events of a run do to a device;
* `Intake.eventsOf` — the event reports that handlers have taken in for it so far;
* `Intake.owed` — switches that have been made and are still to be recorded;
* `Intake.Recorded` — what the history says once a device is settled.
-/

namespace LockFleet

/-- The event report of a handler that has found a device and has ended without an error. -/
def Call.eventsOf (k : Int64) (c : Call) : List EventReport :=
  if c.hasSucceeded ∧ c.found = some k then c.task.event?.toList else []

/-- A handler that has a request to make has not ended. -/
theorem Call.eventsOf_of_isRunning {c : Call} (h : c.isRunning = true) (k : Int64) :
    c.eventsOf k = [] := by
  refine if_neg fun hall => ?_
  rw [hasSucceeded_of_isRunning h] at hall
  cases hall.1

namespace Intake

/-! ### What happens to a device -/

/-- The request that is served. -/
def request? (x : Intake) : Event → Option ReconcileRequest
  | .serve i _ _ => x.calls[i]?.bind Call.request?
  | _ => none

/-- Whether an event is a conditional write that switched a device. -/
def switched (r : Reachability) (k : Int64) (x : Intake) (e : Event) : Bool :=
  match x.request? e with
  | some q => q.hasSwitched r k x.store (x.step e).store
  | none => false

/-- The event report of a device whose handler ends without an error. -/
def takenIn (k : Int64) (x : Intake) : Event → List EventReport
  | .serve i time taken =>
    match x.calls[i]?, (x.step (.serve i time taken)).calls[i]? with
    | some c, some c' => if c.isRunning then c'.eventsOf k else []
    | _, _ => []
  | _ => []

/-- The event reports of all handlers that have found a device and have ended without an error. -/
def eventsOf (k : Int64) (x : Intake) : List EventReport := x.calls.flatMap (Call.eventsOf k)

/-- Whether a status report is applied to a device. -/
def appliesStatus (k : Int64) (x : Intake) : Event → Bool
  | .serve i _ _ =>
    match x.calls[i]? with
    | some ⟨.report ⟨_, .status _⟩, _, some (.call (.store (.update id _)) _)⟩ => id = k
    | _ => false
  | _ => false

/-- Nothing but heartbeats and handlers that take devices offline touches the reachability of a
device. -/
def Undisturbed (k : Int64) (x : Intake) (e : Event) : Prop :=
  x.appliesStatus k e = false ∧ ∀ d, e = .insert d → d.id ≠ k

/-- No handler that has found the device is running. -/
def Settled (k : Int64) (x : Intake) : Prop :=
  ∀ c ∈ x.calls, c.found = some k → c.isRunning = false

/-- The switches of a device that have been made and are still to be recorded. -/
def owed (r : Reachability) (k : Int64) (x : Intake) : Nat :=
  x.calls.countP fun c => c.owes? = some (k, .ofSwitch r)

/-! ### What a step does to the history -/

section Steps

variable {k : Int64} {r : Reachability} {x y : Intake} {e : Event}

theorem Happens.history_isPrefix (h : x.Happens e y) :
    x.store.history <+: y.store.history := by
  cases h with
  | served _ _ serves => exact serves.history_isPrefix
  | _ => exact List.prefix_rfl

/-- What a handler owes counts before and after it has gone on. -/
theorem owed_set {i : Nat} {c : Call} (hc : x.calls[i]? = some c) (c' : Call) (s' : Store) :
    (Intake.mk s' (x.calls.set i c')).owed r k +
        (decide (c.owes? = some (k, .ofSwitch r))).toNat =
      x.owed r k + (decide (c'.owes? = some (k, .ofSwitch r))).toNat := by
  have hlt : i < x.calls.length := (List.getElem?_eq_some_iff.1 hc).1
  have hget : x.calls[i] = c := (List.getElem?_eq_some_iff.1 hc).2
  have hcounts : (decide (c.owes? = some (k, .ofSwitch r))).toNat ≤ x.owed r k := by
    cases howes : decide (c.owes? = some (k, .ofSwitch r)) with
    | false => exact Nat.zero_le _
    | true => exact List.countP_pos_iff.2 ⟨c, List.mem_of_getElem? hc, howes⟩
  have htoNat : ∀ b : Bool, (if b = true then 1 else 0) = b.toNat := by
    intro b
    cases b <;> rfl
  rw [owed, List.countP_set hlt, hget, ← owed, htoNat, htoNat]
  omega

/-- What serves no request switches nothing. -/
theorem switched_of_request? (h : x.request? e = none) : x.switched r k e = false := by
  rw [switched, h]

theorem switched_of_same (h : (x.step e).store.reachability? k = x.store.reachability? k) :
    x.switched r k e = false := by
  rw [switched]
  split
  · exact Position.not_hasSwitched _ h
  · rfl

/-- Entries and switches that are still to be recorded keep up with the switches. -/
theorem Happens.books (h : x.Happens e (x.step e)) (hf : e.isFault = false) :
    (x.step e).store.history.countP (Entry.isOf k (.ofSwitch r)) + (x.step e).owed r k =
      x.store.history.countP (Entry.isOf k (.ofSwitch r)) + x.owed r k +
        (x.switched r k e).toNat := by
  generalize hy : x.step e = y at h
  cases h with
  | nothing =>
    rw [switched_of_same (by rw [hy])]
    rfl
  | called t =>
    have howes : ¬ ((⟨t, none, some t.program⟩ : Call).owes? = some (k, EntryKind.ofSwitch r)) := by
      rw [Call.owes?_of_rest (p := .start t) rfl]
      exact fun h => by cases h
    rw [switched_of_request? rfl, owed, owed, List.countP_append, List.countP_singleton,
      if_neg (by rw [decide_eq_true_eq]; exact howes)]
    rfl
  | inserted d =>
    rw [switched_of_request? rfl]
    rfl
  | failed => cases hf
  | wasCutOff => cases hf
  | @served i time taken c c' p p' q s' f call stands serves request call' =>
    have hreq : x.request? (.serve i time taken) = some q := by
      rw [request?, call]
      exact request
    have hswitch : x.switched r k (.serve i time taken) = q.hasSwitched r k x.store s' := by
      rw [switched, hreq, hy]
    have hbooks := serves.books (k := k) (r := r) stands.known
    have howes : c.owes? = p.owes? := Call.owes?_of_rest stands.rest
    have howes' : c'.owes? = p'.owes? := Call.owes?_of_rest (by rw [call'])
    have hset := owed_set (k := k) (r := r) call c' s'
    rw [howes, howes'] at hset
    rw [hswitch]
    rw [Position.account, Position.account] at hbooks
    show s'.history.countP _ + (Intake.mk s' (x.calls.set i c')).owed r k = _
    omega

/-- Where nothing changes no handler ends. -/
theorem takenIn_of_same (h : x.step e = x) : x.takenIn k e = [] := by
  cases e with
  | serve i time taken =>
    rw [takenIn, h]
    cases hc : x.calls[i]? with
    | none => rfl
    | some c =>
      cases hrun : c.isRunning with
      | true => exact (if_pos hrun).trans (Call.eventsOf_of_isRunning hrun k)
      | false => exact if_neg (by rw [hrun]; exact Bool.false_ne_true)
  | _ => rfl

/-- A handler whose request is served has taken its event in if it has ended now. -/
theorem takenIn_serve {i : Nat} {c c' : Call} {q : ReconcileRequest} {s' : Store} {time : Moment}
    {taken : Bool} (hc : x.calls[i]? = some c) (hq : c.request? = some q)
    (hstep : x.step (.serve i time taken) = ⟨s', x.calls.set i c'⟩) :
    x.takenIn k (.serve i time taken) = c'.eventsOf k := by
  obtain ⟨next, hrest⟩ := Call.rest_of_request? hq
  have hlt : i < x.calls.length := (List.getElem?_eq_some_iff.1 hc).1
  rw [takenIn, hstep, hc, List.getElem?_set_self hlt]
  exact if_pos (by rw [Call.isRunning, hrest])

/-- The handlers that end in a step are those whose events are recorded in it. -/
theorem Happens.notes_events (h : x.Happens e (x.step e)) :
    Position.eventNotes k (x.step e).store =
      Position.eventNotes k x.store ++ (x.takenIn k e).map Position.noteOf := by
  generalize hy : x.step e = y at h
  cases h with
  | nothing => rw [takenIn_of_same hy, List.map_nil, List.append_nil]
  | called t => exact (List.append_nil _).symm
  | inserted d => exact (List.append_nil _).symm
  | failed => exact (List.append_nil _).symm
  | wasCutOff => exact (List.append_nil _).symm
  | @served i time taken c c' p p' q s' f call stands serves request call' =>
    have hdone : c'.hasSucceeded = p'.isDone := Call.hasSucceeded_of_rest (by rw [call'])
    have hevents : c'.eventsOf k =
        if p'.isDone ∧ (f <|> c.found) = some k then c.task.event?.toList else [] := by
      rw [Call.eventsOf, hdone, call']
    rw [takenIn_serve call request hy, hevents]
    exact serves.notes_events stands.fits

/-- What has been taken in before and after a handler has gone on. -/
theorem eventsOf_set {i : Nat} {c : Call} (hc : x.calls[i]? = some c)
    (hrun : c.isRunning = true) (c' : Call) (s' : Store) :
    (x.eventsOf k ++ c'.eventsOf k).Perm ((Intake.mk s' (x.calls.set i c')).eventsOf k) := by
  obtain ⟨hlt, hget⟩ := List.getElem?_eq_some_iff.1 hc
  have hsplit : x.calls = x.calls.take i ++ c :: x.calls.drop (i + 1) := by
    rw [← hget, List.getElem_cons_drop hlt, List.take_append_drop]
  have hbefore : x.eventsOf k = (x.calls.take i).flatMap (Call.eventsOf k) ++
      (x.calls.drop (i + 1)).flatMap (Call.eventsOf k) := by
    rw [eventsOf, congrArg (List.flatMap _) hsplit, List.flatMap_append, List.flatMap_cons,
      Call.eventsOf_of_isRunning hrun, List.nil_append]
  have hafter : (Intake.mk s' (x.calls.set i c')).eventsOf k =
      (x.calls.take i).flatMap (Call.eventsOf k) ++
        (c'.eventsOf k ++ (x.calls.drop (i + 1)).flatMap (Call.eventsOf k)) := by
    rw [eventsOf, List.set_eq_take_append_cons_drop, if_pos hlt, List.flatMap_append,
      List.flatMap_cons]
  rw [hbefore, hafter, List.append_assoc]
  exact List.perm_append_comm.append_left _

/-- The handlers that have ended after a step had ended before, or end in it. -/
theorem Happens.takes_in (h : x.Happens e (x.step e)) (hf : e.isFault = false) :
    (x.eventsOf k ++ x.takenIn k e).Perm ((x.step e).eventsOf k) := by
  generalize hy : x.step e = y at h
  cases h with
  | nothing => rw [takenIn_of_same hy, List.append_nil]
  | called t =>
    have hnew : (⟨t, none, some t.program⟩ : Call).eventsOf k = [] := if_neg fun h => by cases h.2
    rw [eventsOf, eventsOf, List.flatMap_append, List.flatMap_singleton, hnew]
    exact List.Perm.refl _
  | inserted d =>
    show (x.eventsOf k ++ []).Perm (x.eventsOf k)
    rw [List.append_nil]
  | failed => cases hf
  | wasCutOff => cases hf
  | served call _ _ request =>
    obtain ⟨next, hrest⟩ := Call.rest_of_request? request
    rw [takenIn_serve call request hy]
    exact eventsOf_set call (by rw [Call.isRunning, hrest]) _ _

/-- A device goes online or offline by a switch, as long as nothing disturbs it. -/
theorem Happens.online_eq (h : x.Happens e (x.step e)) (hu : x.Undisturbed k e) :
    Position.online k (x.step e).store = Position.online k x.store +
      (x.switched .online k e).toNat - (x.switched .offline k e).toNat := by
  have hsame : (x.step e).store.reachability? k = x.store.reachability? k →
      Position.online k (x.step e).store = Position.online k x.store +
        (x.switched .online k e).toNat - (x.switched .offline k e).toNat := by
    intro hr
    rw [switched_of_same hr, switched_of_same hr, Position.online, Position.online, hr]
    simp
  generalize hy : x.step e = y at h hsame ⊢
  cases h with
  | nothing => exact hsame rfl
  | called t => exact hsame rfl
  | failed => exact hsame rfl
  | wasCutOff => exact hsame rfl
  | inserted d =>
    refine hsame ?_
    have hk : k ≠ d.id := Ne.symm (hu.2 d rfl)
    exact congrArg (Option.map Device.reachability) (Table.find?_insert_of_ne _ _ hk)
  | @served i time taken c c' p p' q s' f call stands serves request call' =>
    have hreq : x.request? (.serve i time taken) = some q := by
      rw [request?, call]
      exact request
    have hswitch : ∀ r, x.switched r k (.serve i time taken) = q.hasSwitched r k x.store s' := by
      intro r
      rw [switched, hreq, hy]
    rw [hswitch, hswitch]
    refine serves.online_eq fun report hp => ?_
    subst hp
    obtain ⟨⟨n, ht⟩, -⟩ := stands.fits
    have happlies : x.appliesStatus k (.serve i time taken) = true := by
      rw [appliesStatus, call]
      obtain ⟨task, found, rest⟩ := c
      cases ht
      cases stands.rest
      exact decide_eq_true rfl
    rw [hu.1] at happlies
    cases happlies

end Steps

/-! ### What a run does to the history -/

section Runs

variable {k : Int64} {r : Reachability} {s : Store} {pre post : List Event}

theorem play_append (s : Store) (pre post : List Event) :
    play s (pre ++ post) = Run.after step (play s pre) post :=
  Run.after_append pre post

/-- The history is only ever appended to. -/
theorem history_isPrefix (s : Store) (pre post : List Event) :
    (play s pre).store.history <+: (play s (pre ++ post)).store.history := by
  induction post using List.reverseRecOn with
  | nil => exact (List.append_nil pre).symm ▸ List.prefix_rfl
  | append_singleton post e ih =>
    rw [← List.append_assoc]
    exact ih.trans (happens s (pre ++ post) e).history_isPrefix

theorem books (k : Int64) (r : Reachability) (s : Store) (pre : List Event)
    (h : ∀ e ∈ post, e.isFault = false) :
    (play s (pre ++ post)).store.history.countP (Entry.isOf k (.ofSwitch r)) +
        (play s (pre ++ post)).owed r k =
      (play s pre).store.history.countP (Entry.isOf k (.ofSwitch r)) + (play s pre).owed r k +
        Run.count step (switched r k) (play s pre) post := by
  induction post using List.reverseRecOn with
  | nil =>
    rw [List.append_nil]
    rfl
  | append_singleton post e ih =>
    have hpost := ih fun e he => h e (List.mem_append_left _ he)
    have hstep := (happens_step (placed s (pre ++ post)) e).books (k := k) (r := r)
      (h e (List.mem_append_right _ (List.mem_singleton_self e)))
    rw [← List.append_assoc, play_snoc, Run.count_snoc, ← play_append]
    omega

theorem notes_events (k : Int64) (s : Store) (pre post : List Event) :
    Position.eventNotes k (play s (pre ++ post)).store =
      Position.eventNotes k (play s pre).store ++
        (Run.gather step (takenIn k) (play s pre) post).map Position.noteOf := by
  induction post using List.reverseRecOn with
  | nil =>
    rw [List.append_nil]
    exact (List.append_nil _).symm
  | append_singleton post e ih =>
    rw [← List.append_assoc, play_snoc, (happens_step (placed s (pre ++ post)) e).notes_events, ih,
      Run.gather_snoc, List.map_append, List.append_assoc, ← play_append]

theorem takes_in (k : Int64) (s : Store) (pre : List Event) (h : ∀ e ∈ post, e.isFault = false) :
    ((play s pre).eventsOf k ++ Run.gather step (takenIn k) (play s pre) post).Perm
      ((play s (pre ++ post)).eventsOf k) := by
  induction post using List.reverseRecOn with
  | nil =>
    rw [List.append_nil]
    exact List.Perm.of_eq (List.append_nil _)
  | append_singleton post e ih =>
    have hpost := ih fun e he => h e (List.mem_append_left _ he)
    have hstep := (happens_step (placed s (pre ++ post)) e).takes_in (k := k)
      (h e (List.mem_append_right _ (List.mem_singleton_self e)))
    rw [← List.append_assoc, play_snoc, Run.gather_snoc, ← List.append_assoc, ← play_append]
    exact (hpost.append_right _).trans hstep

theorem online_eq (h : Run.Along step (Undisturbed k) (play s pre) post) :
    Position.online k (play s (pre ++ post)).store = Position.online k (play s pre).store +
      Run.count step (switched .online k) (play s pre) post -
        Run.count step (switched .offline k) (play s pre) post := by
  induction post using List.reverseRecOn with
  | nil =>
    rw [List.append_nil]
    show _ = _ + ((0 : Nat) : Int) - ((0 : Nat) : Int)
    omega
  | append_singleton post e ih =>
    obtain ⟨hpost, he⟩ := (Run.along_snoc post e).1 h
    rw [← play_append] at he
    have hstep := (happens_step (placed s (pre ++ post)) e).online_eq he
    rw [← List.append_assoc, play_snoc, Run.count_snoc, Run.count_snoc, ← play_append, hstep,
      ih hpost]
    omega

/-- A device that no handler is busy with has no switch that is still to be recorded. -/
theorem owed_of_settled {x : Intake} (hx : x.Placed) (h : x.Settled k) : x.owed r k = 0 := by
  refine List.countP_eq_zero.2 fun c hc howes => ?_
  have hne : ∀ name, EntryKind.event name ≠ .ofSwitch r := by
    intro name
    cases r <;> exact EntryKind.noConfusion
  rw [decide_eq_true_eq] at howes
  rcases hx c hc with hrest | ⟨p, hp⟩
  · rw [Call.owes?, hrest] at howes
    cases howes
  · have hstop : ∀ id, c.found = some id → id = k → c.isRunning = false := by
      rintro id hf rfl
      exact h c hc hf
    rw [Call.owes?_of_rest hp.rest] at howes
    obtain ⟨hrest, hfits, -⟩ := hp
    cases p with
    | unstamped id kind content =>
      have hrun := hstop id hfits.2 (congrArg Prod.fst (Option.some.inj howes))
      rw [Call.isRunning, hrest] at hrun
      cases hrun
    | unrecorded e =>
      obtain ⟨id, kind, content, time, rfl, -, hf⟩ := hfits
      have hrun := hstop id hf (congrArg Prod.fst (Option.some.inj howes))
      rw [Call.isRunning, hrest] at hrun
      cases hrun
    | eventFound id kind content =>
      cases kind with
      | other name => exact hne name (congrArg Prod.snd (Option.some.inj howes))
      | _ => cases howes
    | _ => cases howes

/-- What a part of a run appended to the history, by what happened to a device. -/
structure Recorded (k : Int64) (x : Intake) (post : List Event) (appended : List Entry) : Prop where
  /-- Every switch left one entry of its type, and nothing else left one of that type. -/
  switches : ∀ r, appended.countP (Entry.isOf k (.ofSwitch r)) =
    Run.count step (switched r k) x post
  /-- The other entries are those of the events that were taken in, in the order in which their
  handlers ended. -/
  events : (appended.filter (Entry.isEventOf k)).map (fun e => (e.kind, e.content, e.actor)) =
    (Run.gather step (takenIn k) x post).map
      fun e => (EntryKind.ofEvent e.kind, e.message, some systemActor)
  /-- Every handler of an event that has found the device and has ended without an error had done so
  before, or its event was taken in, once. -/
  counted : (x.eventsOf k ++ Run.gather step (takenIn k) x post).Perm
    ((Run.after step x post).eventsOf k)
  /-- If nothing else disturbed the device, the entries say whether it is online. -/
  balance : Run.Along step (Undisturbed k) x post →
    (appended.countP (Entry.isOf k .online) : Int) - appended.countP (Entry.isOf k .offline) =
      (if (Run.after step x post).store.reachability? k = some .online then 1 else 0) -
        (if x.store.reachability? k = some .online then 1 else 0)

/-- **The history is only appended to, and it tells exactly what happened to every device**: between
two points of a run without faults at which no handler is busy with the device.  A handler that has
ended without an error has found the device of its number, so that none is left out. -/
theorem history_recorded (s : Store) (pre post : List Event) :
    (∃ appended, (play s (pre ++ post)).store.history = (play s pre).store.history ++ appended ∧
      ∀ k, (∀ e ∈ post, e.isFault = false) → (play s pre).Settled k →
        (play s (pre ++ post)).Settled k → Recorded k (play s pre) post appended) ∧
    ∀ i c, (play s (pre ++ post)).calls[i]? = some c → Attributed s (pre ++ post) i c := by
  refine ⟨?_, attributed s (pre ++ post)⟩
  obtain ⟨appended, happ⟩ := history_isPrefix s pre post
  refine ⟨appended, happ.symm, fun k hfault hbefore hafter => ?_⟩
  have hswitches : ∀ r, appended.countP (Entry.isOf k (.ofSwitch r)) =
      Run.count step (switched r k) (play s pre) post := by
    intro r
    have hbooks := books k r s pre hfault
    rw [← happ, List.countP_append, owed_of_settled (placed s _) hbefore,
      owed_of_settled (placed s _) hafter] at hbooks
    omega
  refine ⟨hswitches, ?_, ?_, fun hu => ?_⟩
  · have hnotes := notes_events k s pre post
    rw [Position.eventNotes, ← happ, List.filter_append, List.map_append] at hnotes
    exact List.append_cancel_left hnotes
  · rw [← play_append]
    exact takes_in k s pre hfault
  · have honline := online_eq hu
    have hon := hswitches .online
    have hoff := hswitches .offline
    rw [play_append, Position.online, Position.online] at honline
    show ((appended.countP (Entry.isOf k (.ofSwitch .online)) : Nat) : Int) -
      (appended.countP (Entry.isOf k (.ofSwitch .offline)) : Nat) = _
    omega

end Runs

/-- A store with one device, which is offline. -/
def oneLock : Store := Store.empty.insert (.fresh 1 "lock-1")

/-- A device reports that it has been unlocked. -/
def unlocked : EventReport := ⟨0, "unlocked", none⟩

/-- Two heartbeats and an event of one device arrive together, and it is taken offline before any of
their entries is made. -/
def visit : List Event :=
  let heartbeat := Task.report ⟨"lock-1", .heartbeat ⟨0, .none⟩⟩
  [.call heartbeat, .call heartbeat, .call (.report ⟨"lock-1", .event unlocked⟩),
    .serve 0 .epoch true, .serve 1 .epoch true, .serve 2 .epoch true, .serve 0 .epoch true,
    .serve 1 .epoch true, .serve 0 .epoch true, .serve 1 .epoch true, .serve 1 .epoch true,
    .serve 2 .epoch true, .serve 0 .epoch true, .call (.offline "lock-1" none),
    .serve 3 .epoch true, .serve 3 .epoch true, .serve 3 .epoch true, .serve 1 .epoch true,
    .serve 2 .epoch true, .serve 3 .epoch true, .serve 3 .epoch true, .serve 2 .epoch true,
    .serve 1 .epoch true]

theorem history_recorded_visit :
    (∀ e ∈ visit, e.isFault = false) ∧ (play oneLock visit).Settled 1 ∧
      Run.gather step (takenIn 1) (start oneLock) visit = [unlocked] ∧
      Run.count step (switched .online 1) (start oneLock) visit = 1 ∧
      Run.count step (switched .offline 1) (start oneLock) visit = 1 ∧
      (∃ appended, Recorded 1 (play oneLock []) visit appended) ∧
      ∀ i c, (play oneLock visit).calls[i]? = some c → Attributed oneLock visit i c := by
  have hfault : ∀ e ∈ visit, e.isFault = false := by decide
  have hsettled : (play oneLock visit).Settled 1 := by
    unfold Settled
    decide +kernel
  obtain ⟨⟨appended, -, h⟩, hfound⟩ := history_recorded oneLock [] visit
  exact ⟨hfault, hsettled, by rfl, by decide +kernel, by decide +kernel,
    ⟨appended, h 1 hfault (fun c hc => absurd hc List.not_mem_nil) hsettled⟩, hfound⟩

end Intake

end LockFleet
