import LockFleet.Proofs.Device.Intake
import LockFleet.Proofs.Hub.Fleet

/-!
# Taking one report in

A handler that runs to its end, without a failure and without other handlers in between, does to the
store what the message does to the fleet.

* `Surroundings`, `Surroundings.serve` — what a handler works on, and how its requests are served;
* `Store.Turned` — a store with one device turned into another, and with more history;
* `Position.finish` — the surroundings after a handler has gone on from a position to its end;
* `Surroundings.takeIn`, `Surroundings.fleet_takeIn` — a handler and the step of a fleet agree.
-/

namespace LockFleet

/-- What a handler works on. -/
structure Surroundings where
  store : Store
  desk : Desk
  /-- How often the clock on the wall has been read. -/
  read : Nat

/-- Serves a request; `clock` are the readings of the clock on the wall, the first one first. -/
def Surroundings.serve (clock : Nat → Moment) :
    (q : ReconcileRequest) → Surroundings → q.Answer × Surroundings
  | .store q, w => ((w.store.serve q).1, { w with store := (w.store.serve q).2 })
  | .clock, w => (clock w.read, { w with read := w.read + 1 })
  | .ack a, w => ((w.desk.handleAck a).1, { w with desk := (w.desk.handleAck a).2 })

/-! ### Stores with one device turned into another -/

namespace Store

/-- No two devices have the same number. -/
def Numbered (s : Store) : Prop := (s.devices.values.map Device.number).Nodup

/-- A store in which a device has been turned into another one of its key, and entries have been
added to the history. -/
structure Turned (s : Store) (d d' : Device) (es : List Entry) (s' : Store) : Prop where
  key : d'.id = d.id
  stored : s'.device? d.id = some d'
  values : s'.devices.values = s.devices.values.map fun e => if e.id = d.id then d' else e
  history : s'.history = s.history ++ es

variable {s s' : Store} {d d' : Device} {es : List Entry} {k : Int64}

theorem find?_of_device? (hs : s.Numbered) (hd : s.device? d.id = some d) :
    s.find? d.number = some d := by
  have hmem := (device?_eq_some_iff.1 hd).1
  cases hfind : s.find? d.number with
  | none => exact absurd (decide_eq_true rfl) (List.find?_eq_none.1 hfind d hmem)
  | some e =>
    obtain ⟨he, hnumber⟩ := find?_eq_some hfind
    rw [List.inj_on_of_nodup_map hs he hmem hnumber]

namespace Turned

theorem refl (hd : s.device? d.id = some d) : s.Turned d d [] s where
  key := rfl
  stored := hd
  values := by
    refine (List.map_congr_left fun e he => ?_).trans (List.map_id _) |>.symm
    split
    · next hid => exact (eq_of_id_eq he (mem_of_device? hd) hid).symm
    · rfl
  history := (List.append_nil _).symm

theorem contains (h : s.Turned d d' es s') : s'.devices.contains d.id = true :=
  Option.isSome_iff_exists.2 ⟨d', h.stored⟩

theorem change (h : s.Turned d d' es s') (c : Change) :
    s.Turned d (c.apply d') es (s'.change d.id c) where
  key := (c.id_apply d').trans h.key
  stored := by
    rw [device?_change, if_pos rfl, h.stored]
    rfl
  values := by
    rw [values_change, h.values, List.map_map]
    refine List.map_congr_left fun e _ => ?_
    rw [Function.comp_apply]
    by_cases hid : e.id = d.id
    · rw [if_pos hid, if_pos hid, if_pos h.key]
    · rw [if_neg hid, if_neg hid, if_neg hid]
  history := h.history

theorem record (h : s.Turned d d' es s') (e : Entry) : s.Turned d d' (es ++ [e]) (s'.record e) where
  key := h.key
  stored := h.stored
  values := h.values
  history := by
    show s'.history ++ [e] = _
    rw [h.history, List.append_assoc]

theorem numbered (h : s.Turned d d' es s') (hd : s.device? d.id = some d)
    (hnumber : d'.number = d.number) (hs : s.Numbered) : s'.Numbered := by
  have hnumbers : s'.devices.values.map Device.number = s.devices.values.map Device.number := by
    rw [h.values, List.map_map]
    refine List.map_congr_left fun e he => ?_
    rw [Function.comp_apply]
    split
    · next hid => rw [hnumber, eq_of_id_eq he (mem_of_device? hd) hid]
    · rfl
  rw [Numbered, hnumbers]
  exact hs

theorem device?_of_ne (h : s.Turned d d' es s') (hk : k ≠ d.id) : s'.device? k = s.device? k := by
  refine Option.ext fun e => ?_
  rw [device?_eq_some_iff, device?_eq_some_iff, h.values, List.mem_map]
  constructor
  · rintro ⟨⟨x, hx, rfl⟩, hid⟩
    split at hid
    · exact absurd (hid.symm.trans h.key) hk
    · next hne =>
      rw [if_neg hne]
      exact ⟨hx, hid⟩
  · rintro ⟨he, rfl⟩
    exact ⟨⟨e, he, if_neg hk⟩, rfl⟩

end Turned

end Store

/-! ### A handler that runs to its end -/

namespace Position

variable {clock : Nat → Moment} {desk : Desk} {n : Nat} {s s' : Store} {d d' : Device}
  {es : List Entry}

/-- The surroundings after a handler has gone on to its end. -/
def finish (clock : Nat → Moment) (p : Position) (w : Surroundings) : Surroundings :=
  (p.program.run (Surroundings.serve clock) w).2

/-- A request that the store grants, and the position behind it. -/
theorem finish_serve {p p' : Position} {q : StoreRequest}
    {next : Except StoreError q.Answer → Reconcile (Except HandlerError Unit)} {a : q.Answer}
    (hp : p.program = .call (.store q) next) (hq : s.serve q = (.ok a, s'))
    (hn : next (.ok a) = p'.program) :
    finish clock p ⟨s, desk, n⟩ = finish clock p' ⟨s', desk, n⟩ := by
  rw [finish, hp]
  show ((next (s.serve q).1).run (Surroundings.serve clock) ⟨(s.serve q).2, desk, n⟩).2 = _
  rw [hq, hn]
  rfl

theorem finish_unstamped (h : s.Turned d d' es s') (kind : EntryKind) (content : Option String) :
    s.Turned d d' (es ++ [Entry.bySystem d.id kind content (clock n)])
      (finish clock (unstamped d.id kind content) ⟨s', desk, n⟩).store :=
  h.record _

theorem finish_heartbeatStored (h : s.Turned d d' es s') (time : Moment) :
    if d'.isOnline then
      s.Turned d d' es (finish clock (heartbeatStored d.id time) ⟨s', desk, n⟩).store
    else
      s.Turned d ((Store.goOnline time).apply d')
        (es ++ [Entry.bySystem d.id .online none (clock n)])
        (finish clock (heartbeatStored d.id time) ⟨s', desk, n⟩).store := by
  have hmark := Store.settled_modifyIf (fun d => !d.isOnline) (Store.goOnline time) h.stored
  cases hon : d'.isOnline with
  | true =>
    rw [hon, Bool.not_true, if_neg Bool.false_ne_true] at hmark
    have hstays : finish clock (heartbeatStored d.id time) ⟨s', desk, n⟩ =
        finish clock (ended (.ok ())) ⟨s', desk, n⟩ := finish_serve rfl hmark rfl
    rw [if_pos rfl, hstays]
    exact h
  | false =>
    rw [hon, Bool.not_false, if_pos rfl] at hmark
    have hgoes : finish clock (heartbeatStored d.id time) ⟨s', desk, n⟩ =
        finish clock (unstamped d.id .online none) ⟨_, desk, n⟩ := finish_serve rfl hmark rfl
    rw [if_neg Bool.false_ne_true, hgoes]
    exact finish_unstamped (h.change _) _ _

theorem finish_heartbeat (hd : s.device? d.id = some d) (b : Heartbeat) :
    s.Turned d (d.hear clock (.heartbeat b)) (d.entries clock (.heartbeat b))
      (finish clock (heartbeatFound d.id b) ⟨s, desk, 0⟩).store := by
  have hnone := Store.Turned.refl hd
  have htimed : finish clock (heartbeatFound d.id b) ⟨s, desk, 0⟩ =
      finish clock (heartbeatTimed d.id b (clock 0)) ⟨s, desk, 1⟩ := rfl
  have hwrite : finish clock (heartbeatTimed d.id b (clock 0)) ⟨s, desk, 1⟩ =
      finish clock (heartbeatStored d.id (clock 0)) ⟨_, desk, 1⟩ :=
    finish_serve rfl (Store.settled_modify hnone.contains) rfl
  have hstored := hnone.change (Store.applyUpdate (Update.ofHeartbeatAt b (clock 0)))
  have hend := @finish_heartbeatStored clock desk 1 s _ d _ [] hstored (clock 0)
  have hsame : ((Store.applyUpdate (Update.ofHeartbeatAt b (clock 0))).apply d).isOnline =
      d.isOnline := rfl
  rw [hsame] at hend
  rw [htimed, hwrite, Device.hear, Device.entries]
  cases hon : d.isOnline with
  | true =>
    have hreach : d.reachability = .online := of_decide_eq_true hon
    rw [hon, if_pos rfl] at hend
    rw [if_pos rfl, if_pos rfl, ← hreach]
    exact hend
  | false =>
    rw [hon, if_neg Bool.false_ne_true] at hend
    exact hend

theorem finish_status (hd : s.device? d.id = some d) (r : StatusReport) :
    s.Turned d (d.hear clock (.status r)) (d.entries clock (.status r))
      (finish clock (statusFound d.id r) ⟨s, desk, n⟩).store := by
  have hnone := Store.Turned.refl hd
  have hwrite : finish clock (statusFound d.id r) ⟨s, desk, n⟩ =
      finish clock (ended (.ok ())) ⟨_, desk, n⟩ :=
    finish_serve rfl (Store.settled_modify hnone.contains) rfl
  rw [hwrite]
  exact hnone.change (Store.applyUpdate (Update.ofStatus r))

theorem finish_event (hd : s.device? d.id = some d) (e : EventReport) :
    s.Turned d (d.hear clock (.event e)) (d.entries clock (.event e))
      (finish clock (eventFound d.id e.kind e.message) ⟨s, desk, 0⟩).store := by
  have hnone := Store.Turned.refl hd
  rw [Device.hear, Device.entries]
  cases e.kind with
  | unlocked =>
    have hwrite : finish clock (eventFound d.id .unlocked e.message) ⟨s, desk, 0⟩ =
        finish clock (unstamped d.id .unlock e.message) ⟨_, desk, 0⟩ :=
      finish_serve rfl (Store.settled_modify hnone.contains) rfl
    rw [hwrite]
    exact finish_unstamped (hnone.change (Store.setLock .unlocked)) _ _
  | locked =>
    have hwrite : finish clock (eventFound d.id .locked e.message) ⟨s, desk, 0⟩ =
        finish clock (unstamped d.id .lock e.message) ⟨_, desk, 0⟩ :=
      finish_serve rfl (Store.settled_modify hnone.contains) rfl
    rw [hwrite]
    exact finish_unstamped (hnone.change (Store.setLock .locked)) _ _
  | error =>
    have hwrite : finish clock (eventFound d.id .error e.message) ⟨s, desk, 0⟩ =
        finish clock (unstamped d.id .error e.message) ⟨_, desk, 0⟩ :=
      finish_serve rfl (Store.settled_modify hnone.contains) rfl
    rw [hwrite]
    exact finish_unstamped (hnone.change (Store.setAvailability .fault)) _ _
  | alarm =>
    have hwrite : finish clock (eventFound d.id .alarm e.message) ⟨s, desk, 0⟩ =
        finish clock (unstamped d.id .error e.message) ⟨_, desk, 0⟩ :=
      finish_serve rfl (Store.settled_modify hnone.contains) rfl
    rw [hwrite]
    exact finish_unstamped (hnone.change (Store.setAvailability .fault)) _ _
  | other name => exact finish_unstamped hnone _ _

/-- **A handler that has found its device** turns it as the report tells. -/
theorem finish_found (hd : s.device? d.id = some d) (m : Message) :
    s.Turned d (d.hear clock m.report) (d.entries clock m.report)
      (finish clock (found d.id (.report m)) ⟨s, desk, 0⟩).store := by
  obtain ⟨number, r⟩ := m
  cases r with
  | heartbeat h => exact finish_heartbeat hd h
  | status r => exact finish_status hd r
  | event e => exact finish_event hd e
  | ack a => exact Store.Turned.refl hd

/-- A handler that looks for a device goes on with the one that is found. -/
theorem finish_start {m : Message} (hm : Task.number? (.report m) = some m.device)
    (hd : s.find? m.device = some d) :
    finish clock (start (.report m)) ⟨s, desk, n⟩ =
      finish clock (found d.id (.report m)) ⟨s, desk, n⟩ := by
  obtain ⟨number, r⟩ := m
  have hfind : s.serve (.find number) = (.ok (some d), s) := by
    show (Except.ok (s.find? number), s) = _
    rw [hd]
    rfl
  cases r with
  | heartbeat h => exact finish_serve rfl hfind rfl
  | status r => exact finish_serve rfl hfind rfl
  | event e => exact finish_serve rfl hfind rfl
  | ack a => cases hm

/-- A handler that finds no device leaves the store alone. -/
theorem finish_start_missing {m : Message} (hm : Task.number? (.report m) = some m.device)
    (hd : s.find? m.device = none) :
    (finish clock (start (.report m)) ⟨s, desk, n⟩).store = s := by
  obtain ⟨number, r⟩ := m
  have hfind : s.serve (.find number) = (.ok none, s) := by
    show (Except.ok (s.find? number), s) = _
    rw [hd]
    rfl
  have hended : finish clock (start (.report ⟨number, r⟩)) ⟨s, desk, n⟩ =
      finish clock (ended (.error (.unknownDevice number))) ⟨s, desk, n⟩ := by
    cases r with
    | heartbeat h => exact finish_serve rfl hfind rfl
    | status r => exact finish_serve rfl hfind rfl
    | event e => exact finish_serve rfl hfind rfl
    | ack a => cases hm
  rw [hended]
  rfl

end Position

/-! ### Handlers and fleets -/

/-- A store in which a device has been turned as a report of it tells is that of the fleet that has
taken the report in. -/
theorem Store.Turned.fleet {s s' : Store} {d : Device} {a : Arrival} {m : Message}
    (hs : s.Numbered) (ha : a.message? = some m) (hd : s.find? m.device = some d)
    (h : s.Turned d (d.hear a.clock m.report) (d.entries a.clock m.report) s') :
    Fleet.ofStore s' = (Fleet.ofStore s).take a := by
  obtain ⟨hmem, hnumber⟩ := Store.find?_eq_some hd
  have hreport : ∀ e : Device,
      a.report? e.number = if m.device = e.number then some m.report else none := by
    intro e
    rw [Arrival.report?, ha]
  have hown : a.report? d.number = some m.report := by
    rw [hreport, if_pos hnumber.symm]
  have hother : ∀ e ∈ s.devices.values, e ≠ d → a.report? e.number = none := by
    intro e he hne
    rw [hreport, if_neg]
    intro heq
    exact hne (List.inj_on_of_nodup_map hs he hmem (heq.symm.trans hnumber.symm))
  have hdevices : s'.devices.values = s.devices.values.map fun e => e.take a := by
    rw [h.values]
    refine List.map_congr_left fun e he => ?_
    by_cases heq : e = d
    · rw [heq, if_pos rfl, Device.take, hown]
    · rw [if_neg fun hid => heq (Store.eq_of_id_eq he hmem hid), Device.take, hother e he heq]
  have hnotes : (s.devices.values.flatMap fun e => e.notes a) = d.entries a.clock m.report := by
    have hsingle := Fleet.flatMap_of_single (List.Nodup.of_map _ hs) hmem
      (g := fun e => e.notes a) fun e he hne => by rw [Device.notes, hother e he hne]
    rw [hsingle, Device.notes, hown]
  rw [Fleet.ofStore, Fleet.take, hdevices, h.history, ← hnotes]
  rfl

namespace Surroundings

/-- The surroundings after a handler has taken a message in. -/
def takeIn (clock : Nat → Moment) (m : Message) (w : Surroundings) : Surroundings :=
  ((Task.report m).program.run (serve clock) w).2

/-- **A handler does to the store what the message does to the fleet.** -/
theorem fleet_takeIn {s : Store} (hs : s.Numbered) (desk : Desk) {a : Arrival} {m : Message}
    (ha : a.message? = some m) :
    Fleet.ofStore (takeIn a.clock m ⟨s, desk, 0⟩).store = (Fleet.ofStore s).take a := by
  have hreport : ∀ e : Device,
      a.report? e.number = if m.device = e.number then some m.report else none := by
    intro e
    rw [Arrival.report?, ha]
  by_cases hm : Task.number? (.report m) = some m.device
  · cases hd : s.find? m.device with
    | none =>
      have hstore : (takeIn a.clock m ⟨s, desk, 0⟩).store = s :=
        Position.finish_start_missing hm hd
      rw [hstore]
      refine (Fleet.take_of_quiet fun d hmem => ?_).symm
      have hne : m.device ≠ d.number := fun heq =>
        List.find?_eq_none.1 hd d hmem (decide_eq_true heq.symm)
      rw [Device.take, Device.notes, hreport, if_neg hne]
      exact ⟨rfl, rfl⟩
    | some d =>
      have hgo : takeIn a.clock m ⟨s, desk, 0⟩ =
          Position.finish a.clock (Position.found d.id (.report m)) ⟨s, desk, 0⟩ :=
        Position.finish_start hm hd
      rw [hgo]
      exact (Position.finish_found (Store.device?_of_find? hd) m).fleet hs ha hd
  · obtain ⟨number, r⟩ := m
    cases r with
    | ack k =>
      refine (Fleet.take_of_quiet fun d _ => ?_).symm
      rw [Device.take, Device.notes, hreport]
      by_cases hd : number = d.number
      · rw [if_pos hd]
        exact ⟨rfl, rfl⟩
      · rw [if_neg hd]
        exact ⟨rfl, rfl⟩
    | _ => exact absurd rfl hm

end Surroundings

end LockFleet
