import LockFleet.Proofs.Device.Intake

/-!
# Switches, entries and events

A device is switched between online and offline by conditional writes.  The handler that made the
switch records it next, so that the entries in the history and those still to be recorded keep up
with the switches.  The entry of an event is the last request of its handler.

* `Position.owes?`, `Call.owes?` — the entry that a handler records next;
* `Position.Serves.books` — entries and switches keep in balance;
* `Position.Serves.notes_events` — entries of events and handlers of events end together;
* `Position.Serves.online_eq` — a device goes online or offline by a switch.
-/

namespace LockFleet

/-- The type of the entry that a switch leaves. -/
def EntryKind.ofSwitch : Reachability → EntryKind
  | .online => .online
  | .offline => .offline

/-- The device that a conditional write takes online or offline. -/
def StoreRequest.switches? : StoreRequest → Reachability → Option Int64
  | .markOnline id _, .online => some id
  | .markOffline id _ _, .offline => some id
  | _, _ => none

/-- Whether an entry is of a device and of a type. -/
def Entry.isOf (k : Int64) (kind : EntryKind) (e : Entry) : Bool := e.device = k ∧ e.kind = kind

/-- Whether an entry is one of a device that no switch leaves. -/
def Entry.isEventOf (k : Int64) (e : Entry) : Bool :=
  e.device = k ∧ e.kind ≠ .online ∧ e.kind ≠ .offline

/-- Whether a device can be reached, if there is one. -/
def Store.reachability? (s : Store) (k : Int64) : Option Reachability :=
  (s.device? k).map Device.reachability

/-- Whether a request is a conditional write that switched a device. -/
def ReconcileRequest.hasSwitched (r : Reachability) (k : Int64) (before after : Store) :
    ReconcileRequest → Bool
  | .store q => q.switches? r = some k ∧ before.reachability? k ≠ some r ∧
      after.reachability? k = some r
  | _ => false

/-! ### What is still to be recorded -/

/-- The device and the type of the entry that is recorded next. -/
def Position.owes? : Position → Option (Int64 × EntryKind)
  | .eventFound id (.other name) _ => some (id, .event name)
  | .unstamped id kind _ => some (id, kind)
  | .unrecorded e => some (e.device, e.kind)
  | _ => none

/-- The device and the type of the entry that a program records next, after a look at the clock or
at once. -/
def Call.owes? (c : Call) : Option (Int64 × EntryKind) :=
  match c.rest with
  | some (.call (.store (.record e)) _) => some (e.device, e.kind)
  | some (.call .clock next) =>
    match next Moment.epoch with
    | .call (.store (.record e)) _ => some (e.device, e.kind)
    | _ => none
  | _ => none

theorem Call.owes?_of_rest {c : Call} {p : Position} (h : c.rest = some p.program) :
    c.owes? = p.owes? := by
  rw [Call.owes?, h]
  cases p with
  | start t =>
    cases t with
    | offline number cutoff => rfl
    | report m =>
      obtain ⟨number, r⟩ := m
      cases r <;> rfl
  | eventFound id kind content => cases kind <;> rfl
  | _ => rfl

/-- Whether the handler has ended without an error. -/
def Position.isDone : Position → Bool
  | ended (.ok _) => true
  | _ => false

theorem Call.hasSucceeded_of_rest {c : Call} {p : Position} (h : c.rest = some p.program) :
    c.hasSucceeded = p.isDone := by
  rw [Call.hasSucceeded, h]
  cases p with
  | ended result => cases result <;> rfl
  | start t =>
    cases t with
    | offline number cutoff => rfl
    | report m =>
      obtain ⟨number, r⟩ := m
      cases r <;> rfl
  | eventFound id kind content => cases kind <;> rfl
  | _ => rfl

/-- A change of other fields leaves the reachability of every device. -/
theorem Store.reachability?_change {s : Store} {id : Int64} {c : Store.Change}
    (hc : ∀ d, (c.apply d).reachability = d.reachability) (k : Int64) :
    (s.change id c).reachability? k = s.reachability? k := by
  rw [reachability?, reachability?, Store.device?_change]
  split
  · next h =>
    rw [h, Option.map_map]
    exact congrArg (fun g => (s.device? id).map g) (funext hc)
  · rfl

theorem Store.reachability?_change_self {s : Store} {id : Int64} {d : Device}
    (hd : s.device? id = some d) (c : Store.Change) :
    (s.change id c).reachability? id = some (c.apply d).reachability := by
  rw [reachability?, Store.device?_change, if_pos rfl, hd]
  rfl

namespace Position

variable {k : Int64} {r : Reachability} {s s' : Store} {time : Moment} {taken : Bool}
  {p p' : Position} {q : ReconcileRequest} {f : Option Int64}

/-- The entry of an event is not that of a switch. -/
theorem owes_ne (id : Int64) {kind : EntryKind} (hon : kind ≠ .online) (hoff : kind ≠ .offline) :
    some (id, kind) ≠ some (k, EntryKind.ofSwitch r) := by
  intro h
  have hkind : kind = .ofSwitch r := congrArg Prod.snd (Option.some.inj h)
  cases r with
  | online => exact hon hkind
  | offline => exact hoff hkind

theorem found_owes_ne (id : Int64) (t : Task) : (found id t).owes? ≠ some (k, .ofSwitch r) := by
  cases t with
  | offline number cutoff => exact fun h => by cases h
  | report m =>
    obtain ⟨number, body⟩ := m
    cases body with
    | heartbeat h => exact fun h => by cases h
    | status r => exact fun h => by cases h
    | ack a => exact fun h => by cases h
    | event e =>
      show (eventFound id e.kind e.message).owes? ≠ _
      cases e.kind with
      | other name => exact owes_ne id (by simp) (by simp)
      | _ => exact fun h => by cases h

/-- Entries of switches and switches that are still to be recorded. -/
def account (k : Int64) (r : Reachability) (s : Store) (p : Position) : Nat :=
  s.history.countP (Entry.isOf k (.ofSwitch r)) +
    (decide (p.owes? = some (k, .ofSwitch r))).toNat

/-- Where no switch is made, recorded or forgotten, the account stays. -/
theorem account_same (hh : s'.history = s.history) (hp : p.owes? ≠ some (k, .ofSwitch r))
    (hp' : p'.owes? ≠ some (k, .ofSwitch r)) (hq : q.hasSwitched r k s s' = false) :
    p'.account k r s' = p.account k r s + (q.hasSwitched r k s s').toNat := by
  rw [account, account, hh, hq, decide_eq_false hp, decide_eq_false hp']
  rfl

/-- A switch is to be recorded as soon as it has been made. -/
theorem account_switch {id : Int64} {d : Device} {c : Store.Change} {q : StoreRequest}
    {r' : Reachability} (hd : s.device? id = some d) (hbefore : d.reachability ≠ r')
    (hafter : (c.apply d).reachability = r')
    (hq : ∀ r, q.switches? r = if r = r' then some id else none) (hp : p.owes? = none) :
    (unstamped id (.ofSwitch r') none).account k r (s.change id c) =
      p.account k r s +
        ((ReconcileRequest.store q).hasSwitched r k s (s.change id c)).toNat := by
  have hno : ¬ none = some (k, EntryKind.ofSwitch r) := fun h => by cases h
  have hh : (s.change id c).history = s.history := rfl
  rw [account, account, hp, hh, decide_eq_false hno, Bool.toNat_false, Nat.add_zero]
  refine congrArg (_ + ·) (congrArg Bool.toNat (decide_eq_decide.2 ?_))
  rw [hq]
  constructor
  · intro h
    obtain ⟨hid, hr⟩ := Prod.mk.inj (Option.some.inj h)
    subst hid
    have hrr : r = r' := by
      cases r with
      | online =>
        cases r' with
        | online => rfl
        | offline => cases hr
      | offline =>
        cases r' with
        | online => cases hr
        | offline => rfl
    subst hrr
    refine ⟨if_pos rfl, fun heq => hbefore ?_, ?_⟩
    · rw [Store.reachability?, hd] at heq
      exact Option.some.inj heq
    · rw [Store.reachability?_change_self hd, hafter]
  · rintro ⟨hid, -, -⟩
    split at hid
    · next hrr =>
      cases hid
      rw [hrr]
      rfl
    · cases hid

/-- A conditional write that finds nothing to do switches nothing. -/
theorem not_hasSwitched_same (q : ReconcileRequest) : q.hasSwitched r k s s = false := by
  cases q with
  | store q => exact decide_eq_false fun h => h.2.1 h.2.2
  | clock => rfl
  | ack a => rfl

theorem Serves.history_isPrefix (h : Serves s time taken p q p' s' f) :
    s.history <+: s'.history := by
  cases h with
  | records e => exact List.prefix_append _ _
  | _ => exact List.prefix_rfl

/-- **A served request keeps the account**: it grows by one with every switch. -/
theorem Serves.books (h : Serves s time taken p q p' s' f)
    (hp : ∀ id, p.device? = some id → s.devices.contains id = true) :
    p'.account k r s' = p.account k r s + (q.hasSwitched r k s s').toNat := by
  cases h with
  | finds =>
    rw [account, account, decide_eq_false (found_owes_ne _ _)]
    rfl
  | goesOnline m hd hoff =>
    refine account_switch hd (of_decide_eq_false hoff) rfl (fun r => ?_) rfl
    cases r <;> rfl
  | goesOffline m cutoff hd hmay =>
    have hon := of_decide_eq_true (Bool.and_eq_true_iff.1 hmay).1
    refine account_switch hd (fun h => ?_) rfl (fun r => ?_) rfl
    · rw [hon] at h
      cases h
    · cases r <;> rfl
  | staysOnline =>
    rw [not_hasSwitched_same]
    rfl
  | staysAsItIs =>
    rw [not_hasSwitched_same]
    rfl
  | unlocks id =>
    refine account_same rfl (fun h => by cases h) (owes_ne id (by simp) (by simp)) ?_
    cases r <;> rfl
  | locks id =>
    refine account_same rfl (fun h => by cases h) (owes_ne id (by simp) (by simp)) ?_
    cases r <;> rfl
  | breaks id content hkind =>
    refine account_same rfl ?_ (owes_ne id (by simp) (by simp)) (by cases r <;> rfl)
    rcases hkind with rfl | rfl
    · exact fun h => by cases h
    · exact fun h => by cases h
  | notes id name =>
    have hne : some (id, EntryKind.event name) ≠ some (k, EntryKind.ofSwitch r) :=
      owes_ne id (by simp) (by simp)
    exact account_same rfl hne hne rfl
  | records e =>
    have hhist : (s.record e).history = s.history ++ [e] := rfl
    have hswitch :
        ReconcileRequest.hasSwitched r k s (s.record e) (.store (.record e)) = false := by
      cases r <;> rfl
    have hentry : Entry.isOf k (.ofSwitch r) e =
        decide ((unrecorded e).owes? = some (k, .ofSwitch r)) := by
      refine decide_eq_decide.2 ?_
      show _ ↔ some (e.device, e.kind) = _
      rw [Option.some.injEq, Prod.mk.injEq]
    have hended : ¬ none = some (k, EntryKind.ofSwitch r) := fun h => by cases h
    rw [account, account, hswitch, hhist, List.countP_append, List.countP_singleton, hentry]
    show _ + (decide (none = _)).toNat = _
    rw [decide_eq_false hended]
    cases decide ((unrecorded e).owes? = some (k, .ofSwitch r)) <;> rfl
  | refused hid hno =>
    rw [hp _ hid] at hno
    cases hno
  | _ => rfl

/-- What the history says about the events of a device. -/
def eventNotes (k : Int64) (s : Store) : List (EntryKind × Option String × Option String) :=
  (s.history.filter (Entry.isEventOf k)).map fun e => (e.kind, e.content, e.actor)

/-- What an event report leaves in the history. -/
def noteOf (e : EventReport) : EntryKind × Option String × Option String :=
  (EntryKind.ofEvent e.kind, e.message, some systemActor)

/-- The entry of an event report is not that of a switch. -/
theorem ofEvent_ne (kind : EventKind) :
    EntryKind.ofEvent kind ≠ .online ∧ EntryKind.ofEvent kind ≠ .offline := by
  cases kind <;> exact ⟨EntryKind.noConfusion, EntryKind.noConfusion⟩

/-- **A served request records an event of a device just if it ends the handler of one.** -/
theorem Serves.notes_events {t : Task} {found : Option Int64}
    (h : Serves s time taken p q p' s' f) (hp : p.Fits t found) :
    eventNotes k s' = eventNotes k s ++
      (if p'.isDone ∧ (f <|> found) = some k then t.event?.toList else []).map noteOf := by
  have hquiet : s'.history = s.history → (p'.isDone = true → t.event? = none) →
      eventNotes k s' = eventNotes k s ++
        (if p'.isDone ∧ (f <|> found) = some k then t.event?.toList else []).map noteOf := by
    intro hh ht
    rw [eventNotes, eventNotes, hh]
    split
    · next hd =>
      rw [ht hd.1]
      exact (List.append_nil _).symm
    · exact (List.append_nil _).symm
  cases h with
  | records e =>
    obtain ⟨id, kind, content, m, rfl, hleaves, rfl⟩ := hp
    have hhist : eventNotes k (s.record (Entry.bySystem id kind content m)) = eventNotes k s ++
        ([Entry.bySystem id kind content m].filter (Entry.isEventOf k)).map
          fun e => (e.kind, e.content, e.actor) := by
      rw [eventNotes, eventNotes, ← List.map_append, ← List.filter_append]
      rfl
    rw [hhist]
    refine congrArg (eventNotes k s ++ ·) ?_
    by_cases hid : id = k
    · subst hid
      rw [if_pos ⟨rfl, rfl⟩]
      match t, hleaves with
      | .report ⟨_, .heartbeat _⟩, ⟨hk, _⟩ =>
        subst hk
        simp [Entry.isEventOf, Entry.bySystem, Task.event?]
      | .report ⟨_, .event e⟩, ⟨hk, hc⟩ =>
        subst hk hc
        have hne := ofEvent_ne e.kind
        simp [Entry.isEventOf, Entry.bySystem, Task.event?, noteOf, hne]
      | .offline _ _, ⟨hk, _⟩ =>
        subst hk
        simp [Entry.isEventOf, Entry.bySystem, Task.event?]
    · rw [if_neg fun h => hid (Option.some.inj h.2)]
      simp [Entry.isEventOf, Entry.bySystem, hid]
  | handsOver =>
    obtain ⟨rfl, -⟩ := hp
    exact hquiet rfl fun _ => rfl
  | staysOnline =>
    obtain ⟨⟨n, h, rfl⟩, -⟩ := hp
    exact hquiet rfl fun _ => rfl
  | overwrites =>
    obtain ⟨⟨n, rfl⟩, -⟩ := hp
    exact hquiet rfl fun _ => rfl
  | staysAsItIs =>
    obtain ⟨⟨n, rfl⟩, -⟩ := hp
    exact hquiet rfl fun _ => rfl
  | finds ht =>
    refine hquiet rfl fun hd => ?_
    cases t with
    | offline number cutoff => rfl
    | report m =>
      obtain ⟨number, r⟩ := m
      obtain ⟨rfl, -⟩ := hp
      cases r with
      | event e => cases hd
      | _ => rfl
  | _ => exact hquiet rfl fun hd => by cases hd

/-- One if a device is online. -/
def online (k : Int64) (s : Store) : Int := if s.reachability? k = some .online then 1 else 0

/-- What leaves the reachability of a device has not switched it. -/
theorem not_hasSwitched (q : ReconcileRequest) (h : s'.reachability? k = s.reachability? k) :
    q.hasSwitched r k s s' = false := by
  cases q with
  | store q => exact decide_eq_false fun hs => hs.2.1 (h.symm.trans hs.2.2)
  | clock => rfl
  | ack a => rfl

/-- **A served request other than that of a status report makes a device go online or offline by a
switch only.** -/
theorem Serves.online_eq (h : Serves s time taken p q p' s' f) (hp : ∀ r, p ≠ statusFound k r) :
    online k s' = online k s + (q.hasSwitched .online k s s').toNat -
      (q.hasSwitched .offline k s s').toNat := by
  have hquiet : s'.reachability? k = s.reachability? k → online k s' = online k s +
      (q.hasSwitched .online k s s').toNat - (q.hasSwitched .offline k s s').toNat := by
    intro hr
    rw [not_hasSwitched q hr, not_hasSwitched q hr, online, online, hr]
    simp
  have hother : ∀ id c, k ≠ id → (s.change id c).reachability? k = s.reachability? k := by
    intro id c hk
    rw [Store.reachability?, Store.device?_change, if_neg hk]
    rfl
  cases h with
  | goesOnline m hd hoff =>
    rename_i id d
    by_cases hk : k = id
    · subst hk
      have hbefore : s.reachability? k = some d.reachability := by
        rw [Store.reachability?, hd]
        rfl
      have hafter : (s.change k (Store.goOnline m)).reachability? k = some .online :=
        Store.reachability?_change_self hd _
      have hne : d.reachability ≠ .online := of_decide_eq_false hoff
      simp [online, ReconcileRequest.hasSwitched, StoreRequest.switches?, hbefore, hafter, hne]
    · exact hquiet (hother id _ hk)
  | goesOffline m cutoff hd hmay =>
    rename_i id d
    by_cases hk : k = id
    · subst hk
      have hon : d.reachability = .online := of_decide_eq_true (Bool.and_eq_true_iff.1 hmay).1
      have hbefore : s.reachability? k = some .online := by
        rw [Store.reachability?, hd, ← hon]
        rfl
      have hafter : (s.change k (Store.goOffline m)).reachability? k = some .offline :=
        Store.reachability?_change_self hd _
      simp [online, ReconcileRequest.hasSwitched, StoreRequest.switches?, hbefore, hafter]
    · exact hquiet (hother id _ hk)
  | overwrites id report =>
    have hk : k ≠ id := fun hk => hp report (by rw [hk])
    exact hquiet (hother id _ hk)
  | storesHeartbeat => exact hquiet (Store.reachability?_change (fun d => rfl) k)
  | unlocks => exact hquiet (Store.reachability?_change (fun d => rfl) k)
  | locks => exact hquiet (Store.reachability?_change (fun d => rfl) k)
  | breaks => exact hquiet (Store.reachability?_change (fun d => rfl) k)
  | _ => exact hquiet rfl

end Position

end LockFleet
