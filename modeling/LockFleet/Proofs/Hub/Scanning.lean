import LockFleet.Proofs.Device.Hearing
import LockFleet.Proofs.Hub.Taking
import LockFleet.Rehearsal.World

/-!
# One scan of the watchdog

A scan runs to its end without anybody else at work on the store, which may fail for any devices.
Whether a device has been silent for too long is said in whole numbers without bounds; both tests of
the store, that of the query and that of the write, agree with it, though moments have bounds.

* `Moment.position`, `Moment.lt_before_iff` — silence in exact numbers;
* `Device.IsOverdue`, `Device.isStale_cutoff_iff` — the devices that a scan is to take offline;
* `WallClock`, `Outages`, `Watch` — what a scan works on;
* `Device.Fate`, `Watch.tried_takeOffline` — one device;
* `Watch.Sweeps`, `Watch.sweeps_takeAll` — one device after another;
* `Rehearsal.Activity.isSound_after` — programs that take reports in never break off;
* `Watchdog.Leaves`, `Watchdog.ScansExactly`, `Watchdog.scan_exact` — a scan.
-/

namespace LockFleet

/-! ### Silence in exact numbers -/

namespace Moment

/-- The place of a moment among all instants, in nanoseconds since the start of 1970.  A leap second
is over before the second after it begins. -/
def position (m : Moment) : Int := m.second * 1000000000 + min m.nano 999999999

variable {m c now : Moment}

theorem lt_iff_position (hc : c.nano < 1000000000) : m < c ↔ m.position < c.total := by
  rw [lt_def, position, total]
  omega

/-- An instant before the range is taken for the earliest moment, and no moment is before either. -/
theorem lt_ofTotal_iff {nanos : Int} (h : nanos ≤ latest.total) :
    m < ofTotal nanos ↔ m.position < nanos := by
  have hlower := m.lower
  have hupper : nanos / 1000000000 ≤ 8210266876799 := by
    simp only [total, latest] at h
    omega
  by_cases hin : -8334601228800 ≤ nanos / 1000000000
  · have hnano : (nanos % 1000000000).toNat < 1000000000 := by omega
    have hof : ofTotal nanos =
        ⟨nanos / 1000000000, (nanos % 1000000000).toNat, by omega, hin, hupper⟩ := by
      rw [ofTotal, at?, dif_pos ⟨by omega, hin, hupper⟩]
    rw [hof, lt_iff_position hnano, total]
    dsimp only
    omega
  · have hof : ofTotal nanos = earliest := by
      rw [ofTotal, at?, dif_neg fun hrange => hin hrange.2.1]
      exact if_pos (by omega)
    rw [hof, lt_iff_position (by decide)]
    simp only [position, total, earliest]
    omega

theorem lt_before_iff (hnow : now.nano < 1000000000) (silence : Span) :
    m < now.before silence ↔ m.position < now.total - silence.nanos := by
  have hupper := now.upper
  have hle : now.total + -(silence.nanos : Int) ≤ latest.total := by
    simp only [total, latest]
    omega
  rw [before, shift, lt_ofTotal_iff hle, Int.sub_eq_add_neg]

end Moment

namespace Device

/-- Whether a device is online and has sent no heartbeat for longer than a span of silence. -/
def IsOverdue (now : Moment) (silence : Span) (d : Device) : Prop :=
  d.reachability = .online ∧
    ∀ seen, d.lastHeartbeat = some seen → seen.position < now.total - silence.nanos

variable {now : Moment} {silence : Span} {d : Device}

/-- **The query of the store finds the overdue devices**, whatever the span. -/
theorem isStale_cutoff_iff (hnow : now.nano < 1000000000) :
    Store.isStale (Watchdog.cutoff now silence) d = true ↔ d.IsOverdue now silence := by
  rw [Store.isStale, Bool.and_eq_true, isOnline, decide_eq_true_eq, IsOverdue, isSilentSince,
    Watchdog.cutoff]
  refine and_congr_right fun _ => ?_
  cases d.lastHeartbeat with
  | none => simp
  | some seen => simp [Moment.lt_before_iff hnow]

/-- The write of the store takes the same devices offline. -/
theorem mayGoOffline_eq_isStale (c : Moment) (d : Device) :
    Store.mayGoOffline (some c) d = Store.isStale c d := rfl

end Device

/-! ### What a scan works on -/

/-- What a clock on the wall reads, the first reading first.  It shows no leap seconds. -/
structure WallClock where
  reading : Nat → Moment
  ordinary : ∀ n, (reading n).nano < 1000000000

/-- The requests of a scan that fail: the query, lookups by the number of the device, and writes by
its key. -/
structure Outages where
  query : Option StoreError
  lookUp : String → Option StoreError
  mark : Int64 → Option StoreError
  record : Int64 → Option StoreError

namespace Outages

/-- The failure of a request. -/
def of (o : Outages) : StoreRequest → Option StoreError
  | .stale _ => o.query
  | .find number => o.lookUp number
  | .markOffline id _ _ => o.mark id
  | .record e => o.record e.device
  | _ => none

/-- No request about a device fails. -/
structure Spares (o : Outages) (d : Device) : Prop where
  lookUp : o.lookUp d.number = none
  mark : o.mark d.id = none
  record : o.record d.id = none

end Outages

/-- The store that a scan works on, and how often the clock on the wall has been read. -/
structure Watch where
  store : Store
  read : Nat

/-- Serves a request, or lets it fail and leaves the store as it is. -/
def Watch.serve (o : Outages) (clock : WallClock) :
    (q : ReconcileRequest) → Watch → q.Answer × Watch
  | .store q, w =>
    match o.of q with
    | some e => (.error e, w)
    | none => ((w.store.serve q).1, { w with store := (w.store.serve q).2 })
  | .clock, w => (clock.reading w.read, { w with read := w.read + 1 })
  | .ack _, w => (false, w)

/-! ### Programs that may fail -/

namespace Reconciler

variable {α β σ : Type} {serving : (q : ReconcileRequest) → σ → q.Answer × σ} {m : Handling α}
  {g : α → Handling β} {s s' : σ}

/-- A program goes on with the result of its first part. -/
theorem run_bind_ok {a : α} (h : m.run.run serving s = (.ok a, s')) :
    (m >>= g).run.run serving s = (g a).run.run serving s' := by
  have hbind := Program.run_bind serving m.run (ExceptT.bindCont g) s
  rw [h] at hbind
  exact hbind

/-- A program fails where its first part fails. -/
theorem run_bind_error {e : HandlerError} (h : m.run.run serving s = (.error e, s')) :
    (m >>= g).run.run serving s = (.error e, s') := by
  have hbind := Program.run_bind serving m.run (ExceptT.bindCont g) s
  rw [h] at hbind
  exact hbind

end Reconciler

/-! ### One device -/

/-- What becomes of an overdue device, and the entries that it gets.  The clock is read twice: for the
time at which it goes offline, and for the time of the entry. -/
inductive Device.Fate (o : Outages) (clock : WallClock) (d : Device) (n : Nat) :
    Device → List Entry → Prop where
  /-- It is not found, or it cannot be written. -/
  | spared (h : o.lookUp d.number ≠ none ∨ o.mark d.id ≠ none) : Fate o clock d n d []
  /-- It goes offline, but that cannot be recorded. -/
  | unrecorded (hlookUp : o.lookUp d.number = none) (hmark : o.mark d.id = none)
      (hrecord : o.record d.id ≠ none) :
      Fate o clock d n { d with reachability := .offline, lastOffline := some (clock.reading n) } []
  | taken (h : o.Spares d) :
      Fate o clock d n { d with reachability := .offline, lastOffline := some (clock.reading n) }
        [Entry.bySystem d.id .offline none (clock.reading (n + 1))]

namespace Watch

open Reconciler

variable {o : Outages} {clock : WallClock} {c time : Moment} {w : Watch} {s : Store} {n : Nat}
  {d : Device} {e : StoreError}

theorem run_ask_error {q : StoreRequest} (h : o.of q = some e) :
    (ask q).run.run (serve o clock) w = (.error (.store e), w) := by
  have hserve : serve o clock (.store q) w = (.error e, w) := by rw [serve, h]
  show (Except.mapError _ (serve o clock (.store q) w).1, (serve o clock (.store q) w).2) = _
  rw [hserve]
  rfl

theorem run_ask_ok {q : StoreRequest} {a : q.Answer} {s : Store} (h : o.of q = none)
    (ha : w.store.serve q = (.ok a, s)) :
    (ask q).run.run (serve o clock) w = (.ok a, { w with store := s }) := by
  have hserve : serve o clock (.store q) w = (.ok a, { w with store := s }) := by
    rw [serve, h, ha]
  show (Except.mapError _ (serve o clock (.store q) w).1, (serve o clock (.store q) w).2) = _
  rw [hserve]
  rfl

theorem run_device_error {number : String} (h : o.lookUp number = some e) :
    (device number).run.run (serve o clock) w = (.error (.store e), w) :=
  run_bind_error (run_ask_error h)

theorem run_device (h : o.lookUp d.number = none) (hfind : w.store.find? d.number = some d) :
    (device d.number).run.run (serve o clock) w = (.ok d, w) := by
  have hask : (lookUp d.number).run.run (serve o clock) w = (.ok (some d), w) :=
    run_ask_ok h (by rw [Store.serve, hfind])
  exact run_bind_ok hask

theorem run_markOffline (h : o.mark d.id = none) (hdevice : s.device? d.id = some d)
    (hstale : Store.isStale c d = true) :
    (markOffline d.id time (some c)).run.run (serve o clock) ⟨s, n⟩ =
      (.ok true, ⟨s.change d.id (Store.goOffline time), n⟩) := by
  have hmark := Store.settled_modifyIf (Store.mayGoOffline (some c)) (Store.goOffline time) hdevice
  rw [d.mayGoOffline_eq_isStale, hstale, if_pos rfl] at hmark
  exact run_ask_ok h hmark

theorem run_markOffline_error (h : o.mark d.id = some e) :
    (markOffline d.id time (some c)).run.run (serve o clock) w = (.error (.store e), w) :=
  run_ask_error h

theorem run_now :
    now.run.run (serve o clock) w = (.ok (clock.reading w.read), ⟨w.store, w.read + 1⟩) := rfl

/-- An entry is recorded with the next reading of the clock. -/
theorem run_recordNow {id : Int64} {kind : EntryKind} (h : o.record id = none) :
    (recordNow id kind none).run.run (serve o clock) w =
      (.ok (), ⟨w.store.record (Entry.bySystem id kind none (clock.reading w.read)), w.read + 1⟩) := by
  rw [recordNow, run_bind_ok run_now]
  exact run_ask_ok h rfl

theorem run_recordNow_error {id : Int64} {kind : EntryKind} (h : o.record id = some e) :
    (recordNow id kind none).run.run (serve o clock) w =
      (.error (.store e), ⟨w.store, w.read + 1⟩) := by
  rw [recordNow, run_bind_ok run_now]
  exact run_ask_error h

/-- A device has been tried: it has met its fate, and the answer tells whether it has an entry. -/
structure Tried (o : Outages) (clock : WallClock) (d : Device) (w : Watch)
    (result : Except HandlerError Bool × Watch) : Prop where
  read : w.read ≤ result.2.read
  fate : ∃ d' es, d.Fate o clock w.read d' es ∧ w.store.Turned d d' es result.2.store ∧
    (result.1 = .ok true ∧ es.length = 1 ∨ (∃ e, result.1 = .error e) ∧ es = [])

/-- **A device that is overdue meets its fate** when it is tried. -/
theorem tried_takeOffline (hfind : w.store.find? d.number = some d)
    (hstale : Store.isStale c d = true) :
    Tried o clock d w ((takeOffline d.number (some c)).run.run (serve o clock) w) := by
  have hdevice : w.store.device? d.id = some d := Store.device?_of_find? hfind
  have hturned := Store.Turned.refl hdevice
  rw [takeOffline]
  cases hlookUp : o.lookUp d.number with
  | some e =>
    rw [run_bind_error (run_device_error hlookUp)]
    refine ⟨Nat.le_refl _, d, [], .spared (Or.inl ?_), hturned, Or.inr ⟨⟨_, rfl⟩, rfl⟩⟩
    simp [hlookUp]
  | none =>
    rw [run_bind_ok (run_device hlookUp hfind), run_bind_ok run_now]
    cases hmark : o.mark d.id with
    | some e =>
      rw [run_bind_error (run_markOffline_error hmark)]
      refine ⟨Nat.le_succ _, d, [], .spared (Or.inr ?_), hturned, Or.inr ⟨⟨_, rfl⟩, rfl⟩⟩
      simp [hmark]
    | none =>
      rw [run_bind_ok (run_markOffline hmark hdevice hstale), if_pos rfl]
      have hchanged := hturned.change (Store.goOffline (clock.reading w.read))
      cases hrecord : o.record d.id with
      | some e =>
        rw [run_bind_error (run_recordNow_error hrecord)]
        refine ⟨Nat.le_add_right _ 2, _, [], .unrecorded hlookUp hmark ?_, hchanged,
          Or.inr ⟨⟨_, rfl⟩, rfl⟩⟩
        simp [hrecord]
      | none =>
        rw [run_bind_ok (run_recordNow hrecord)]
        exact ⟨Nat.le_add_right _ 2, _, _, .taken ⟨hlookUp, hmark, hrecord⟩, hchanged.record _,
          Or.inl ⟨rfl, rfl⟩⟩

end Watch

/-! ### One device after another -/

/-- The entries about a device. -/
def Entry.about (es : List Entry) (k : Int64) : List Entry := es.filter fun e => e.device = k

theorem Entry.about_append (es es' : List Entry) (k : Int64) :
    about (es ++ es') k = about es k ++ about es' k := List.filter_append ..

namespace Device.Fate

variable {o : Outages} {clock : WallClock} {d d' : Device} {n : Nat} {es : List Entry}

theorem number_eq (h : d.Fate o clock n d' es) : d'.number = d.number := by
  cases h <;> rfl

/-- The entries are about the device, and they tell that it went offline. -/
theorem entries (h : d.Fate o clock n d' es) : ∀ e ∈ es, e.device = d.id ∧ e.kind = .offline := by
  cases h with
  | spared _ => exact List.forall_mem_nil _
  | unrecorded _ _ _ => exact List.forall_mem_nil _
  | taken _ => exact List.forall_mem_singleton.2 ⟨rfl, rfl⟩

/-- A device that no outage is about goes offline, and that is recorded. -/
theorem of_spares (h : d.Fate o clock n d' es) (ho : o.Spares d) :
    d' = { d with reachability := .offline, lastOffline := some (clock.reading n) } ∧
      es = [Entry.bySystem d.id .offline none (clock.reading (n + 1))] := by
  cases h with
  | spared hfails => exact absurd hfails (by simp [ho.lookUp, ho.mark])
  | unrecorded _ _ hrecord => exact absurd ho.record hrecord
  | taken _ => exact ⟨rfl, rfl⟩

theorem about_self (h : d.Fate o clock n d' es) : Entry.about es d.id = es :=
  List.filter_eq_self.2 fun e he => decide_eq_true (h.entries e he).1

theorem about_of_ne (h : d.Fate o clock n d' es) {k : Int64} (hk : k ≠ d.id) :
    Entry.about es k = [] :=
  List.filter_eq_nil_iff.2 fun e he hid =>
    hk ((of_decide_eq_true hid).symm.trans (h.entries e he).1)

end Device.Fate

/-- Devices have been tried one after another, and entries have been added. -/
structure Watch.Sweeps (o : Outages) (clock : WallClock) (ds : List Device) (w w' : Watch)
    (es : List Entry) : Prop where
  history : w'.store.history = w.store.history ++ es
  kinds : ∀ e ∈ es, e.kind = .offline
  /-- Each of the devices has met its fate. -/
  fates : ∀ d ∈ ds, ∃ d' n, w.read ≤ n ∧ w'.store.device? d.id = some d' ∧
    d.Fate o clock n d' (Entry.about es d.id)
  /-- Nothing else has changed. -/
  others : ∀ k, (∀ d ∈ ds, k ≠ d.id) →
    w'.store.device? k = w.store.device? k ∧ Entry.about es k = []

namespace Watch

open Reconciler

variable {o : Outages} {clock : WallClock} {c : Moment} {w w₁ w' : Watch} {d d' : Device}
  {ds : List Device} {es es' : List Entry}

theorem Sweeps.cons (hd : ∀ e ∈ ds, d.id ≠ e.id)
    (hread : w.read ≤ w₁.read) (hfate : d.Fate o clock w.read d' es)
    (hturned : w.store.Turned d d' es w₁.store) (h : Sweeps o clock ds w₁ w' es') :
    Sweeps o clock (d :: ds) w w' (es ++ es') where
  history := by rw [h.history, hturned.history, List.append_assoc]
  kinds := List.forall_mem_append.2 ⟨fun e he => (hfate.entries e he).2, h.kinds⟩
  fates := by
    rw [List.forall_mem_cons]
    constructor
    · obtain ⟨hsame, hnone⟩ := h.others d.id hd
      refine ⟨d', w.read, Nat.le_refl _, hsame.trans hturned.stored, ?_⟩
      rw [Entry.about_append, hfate.about_self, hnone, List.append_nil]
      exact hfate
    · intro e he
      obtain ⟨e', n, hn, hstored, hfate'⟩ := h.fates e he
      refine ⟨e', n, Nat.le_trans hread hn, hstored, ?_⟩
      rw [Entry.about_append, hfate.about_of_ne (hd e he).symm, List.nil_append]
      exact hfate'
  others := by
    intro k hk
    obtain ⟨hkd, hkds⟩ := List.forall_mem_cons.1 hk
    obtain ⟨hsame, hnone⟩ := h.others k hkds
    refine ⟨hsame.trans (hturned.device?_of_ne hkd), ?_⟩
    rw [Entry.about_append, hfate.about_of_ne hkd, hnone, List.append_nil]

/-- A device that has been tried counts if it was taken. -/
def count : Except HandlerError Bool → Nat
  | .ok true => 1
  | _ => 0

theorem run_takeAll_cons :
    (Watchdog.takeAll c (d :: ds)).run (serve o clock) w =
      let tried := (takeOffline d.number (some c)).run.run (serve o clock) w
      let rest := (Watchdog.takeAll c ds).run (serve o clock) tried.2
      (rest.1 + count tried.1, rest.2) := by
  refine (Program.run_bind _ (takeOffline d.number (some c)).run _ w).trans ?_
  refine (Program.run_bind _ (Watchdog.takeAll c ds) _ _).trans ?_
  generalize ((takeOffline d.number (some c)).run.run (serve o clock) w) = tried
  obtain ⟨r, _⟩ := tried
  cases r with
  | error e => rfl
  | ok b => cases b <;> rfl

/-- **Each of the devices meets its own fate**, and the answer is the number of entries. -/
theorem sweeps_takeAll (hs : w.store.Numbered) (hids : (ds.map Device.id).Nodup)
    (hds : ∀ d ∈ ds, w.store.device? d.id = some d ∧ Store.isStale c d = true) :
    ∃ es, ((Watchdog.takeAll c ds).run (serve o clock) w).1 = es.length ∧
      Sweeps o clock ds w ((Watchdog.takeAll c ds).run (serve o clock) w).2 es := by
  induction ds generalizing w with
  | nil =>
    exact ⟨[], rfl, (List.append_nil _).symm, List.forall_mem_nil _, List.forall_mem_nil _,
      fun k _ => ⟨rfl, rfl⟩⟩
  | cons d ds ih =>
    obtain ⟨⟨hdevice, hstale⟩, hrest⟩ := List.forall_mem_cons.1 hds
    obtain ⟨hnotin, hnodup⟩ := List.nodup_cons.1 hids
    have hd : ∀ e ∈ ds, d.id ≠ e.id := fun e he hid =>
      hnotin (List.mem_map.2 ⟨e, he, hid.symm⟩)
    have htried := @tried_takeOffline o clock c w d (Store.find?_of_device? hs hdevice) hstale
    obtain ⟨hread, d', es, hfate, hturned, hresult⟩ := htried
    have hs' := hturned.numbered hdevice hfate.number_eq hs
    have hrest' : ∀ e ∈ ds, _ ∧ Store.isStale c e = true := fun e he =>
      ⟨(hturned.device?_of_ne (hd e he).symm).trans (hrest e he).1, (hrest e he).2⟩
    obtain ⟨es', hcount, hsweeps⟩ := ih hs' hnodup hrest'
    refine ⟨es ++ es', ?_, ?_⟩
    · rw [run_takeAll_cons, List.length_append, Nat.add_comm es.length]
      refine congrArg₂ _ hcount ?_
      obtain ⟨htaken, hlength⟩ | ⟨⟨e, hfailed⟩, hnone⟩ := hresult
      · rw [htaken, hlength]
        rfl
      · rw [hfailed, hnone]
        rfl
    · rw [run_takeAll_cons]
      exact hsweeps.cons hd hread hfate hturned

end Watch

/-! ### Scans that do not break off -/

namespace Rehearsal

/-- Whether a request is served in every world, though it may have to wait. -/
def Effect.IsServed (e : Effect) : Prop :=
  ∀ (w w' : World) (task : Nat) (alarm : Option Alarm) (reason : String),
    w.perform task alarm e ≠ .brokenOff reason w'

namespace Activity

variable {α : Type} {w : World} {task : Nat}

theorem within_ofReconcileRequest (q : ReconcileRequest) :
    (ofReconcileRequest q).Within Effect.IsServed := by
  cases q with
  | store q =>
    refine ⟨fun _ _ _ _ _ h => (nomatch h), fun delay => ?_⟩
    have hstore : (Program.ask (Effect.store q) : Activity _).Within Effect.IsServed :=
      ⟨fun _ _ _ _ _ h => (nomatch h), fun _ => trivial⟩
    cases delay with
    | none => exact hstore
    | some s =>
      refine ⟨fun w _ _ alarm _ h => ?_, fun _ => hstore⟩
      rw [World.perform] at h
      split at h <;> cases h
  | clock => exact ⟨fun _ _ _ _ _ h => (nomatch h), fun _ => trivial⟩
  | ack a => exact ⟨fun _ _ _ _ _ h => (nomatch h), fun _ => trivial⟩

theorem within_ofReconcile (p : Reconcile α) : (ofReconcile p).Within Effect.IsServed := by
  induction p with
  | done a => trivial
  | call q next ih => exact (within_ofReconcileRequest q).bind ih

/-- What is left of an activity after a poll. -/
def polled (task : Nat) : World.Progress α → World → World.Progress α
  | .paused p, w => (w.advance task p.program p.alarm).1
  | r, _ => r

/-- Whether a poll has ended an activity well or has left something that every world serves. -/
def IsSound : World.Progress α → Prop
  | .paused p => p.program.Within Effect.IsServed
  | .finished _ => True
  | .brokenOff _ => False

theorem isSound_advance {p : Activity α} (hp : p.Within Effect.IsServed) (alarm : Option Alarm) :
    IsSound (World.advance task p alarm w).1 := by
  induction p generalizing alarm w with
  | done a => trivial
  | call e next ih =>
    rw [World.advance]
    cases h : w.perform task alarm e with
    | answered a w' => exact ih a (hp.2 a) none
    | waiting alarm w' => exact hp
    | brokenOff reason w' => exact hp.1 w w' task alarm reason h

theorem isSound_polled {r : World.Progress α} (hr : IsSound r) (w : World) :
    IsSound (polled task r w) := by
  cases r with
  | paused p => exact isSound_advance hr p.alarm
  | finished a => trivial
  | brokenOff reason => exact hr

/-- **A program that takes reports in never breaks off**, however often it is polled, and whatever
becomes of the world in between. -/
theorem isSound_after (p : Reconcile α) (task : Nat) (ws : List World) :
    IsSound (Run.after (polled task) (.paused (Paused.start (ofReconcile p))) ws) := by
  have hstart : IsSound (.paused (Paused.start (ofReconcile p))) := within_ofReconcile p
  generalize World.Progress.paused (Paused.start (ofReconcile p)) = r at hstart ⊢
  induction ws generalizing r with
  | nil => exact hstart
  | cons w ws ih => exact ih _ (isSound_polled hstart w)

end Activity

end Rehearsal

/-! ### A scan -/

namespace Watchdog

open Reconciler Watch

variable {silence : Span} {o : Outages} {clock : WallClock} {w : Watch} {e : StoreError}

/-- A scan of a store, with nobody else at work on it. -/
def scan (silence : Span) (o : Outages) (clock : WallClock) (w : Watch) :
    Except HandlerError Nat × Watch :=
  (check silence).run.run (serve o clock) w

/-- What a scan leaves, with the entries that it has added. -/
structure Leaves (silence : Span) (o : Outages) (clock : WallClock) (w : Watch) (s' : Store)
    (es : List Entry) : Prop where
  history : s'.history = w.store.history ++ es
  kinds : ∀ e ∈ es, e.kind = .offline
  /-- An overdue device that no outage is about goes offline, and that is recorded once. -/
  taken : ∀ d, w.store.device? d.id = some d → d.IsOverdue (clock.reading w.read) silence →
    o.Spares d → ∃ n, w.read < n ∧
      s'.device? d.id =
        some { d with reachability := .offline, lastOffline := some (clock.reading n) } ∧
      Entry.about es d.id = [Entry.bySystem d.id .offline none (clock.reading (n + 1))]
  /-- What becomes of an overdue device is up to the outages about it alone. -/
  fates : ∀ d, w.store.device? d.id = some d → d.IsOverdue (clock.reading w.read) silence →
    ∃ d' n, w.read < n ∧ s'.device? d.id = some d' ∧ d.Fate o clock n d' (Entry.about es d.id)
  untouched : ∀ d, w.store.device? d.id = some d → ¬ d.IsOverdue (clock.reading w.read) silence →
    s'.device? d.id = some d ∧ Entry.about es d.id = []
  absent : ∀ k, w.store.device? k = none → s'.device? k = none ∧ Entry.about es k = []

/-- A scan takes the overdue devices offline, answers with their number, and passes over the devices
that fail. -/
structure ScansExactly (silence : Span) (o : Outages) (clock : WallClock) (w : Watch) : Prop where
  /-- It never breaks off, in whatever worlds it is polled. -/
  unbroken : ∀ task ws reason,
    Run.after (Rehearsal.Activity.polled task)
      (.paused (Rehearsal.Paused.start (Rehearsal.Activity.ofReconcile (check silence).run))) ws ≠
        .brokenOff reason
  /-- Both tests of the store find exactly the devices that have been silent for too long. -/
  queried : ∀ d, Store.isStale (cutoff (clock.reading w.read) silence) d = true ↔
    d.IsOverdue (clock.reading w.read) silence
  written : ∀ d, Store.mayGoOffline (some (cutoff (clock.reading w.read) silence)) d = true ↔
    d.IsOverdue (clock.reading w.read) silence
  /-- Without an answer to its query it fails and changes nothing. -/
  refused : ∀ e, o.query = some e → (scan silence o clock w).1 = .error (.store e) ∧
    (scan silence o clock w).2.store = w.store
  /-- Otherwise its answer is the number of the entries that it has added. -/
  scanned : o.query = none → ∃ es, (scan silence o clock w).1 = .ok es.length ∧
    Leaves silence o clock w (scan silence o clock w).2.store es

theorem scan_error (h : o.query = some e) :
    scan silence o clock w = (.error (.store e), ⟨w.store, w.read + 1⟩) := by
  rw [scan, check, run_bind_ok run_now]
  exact run_bind_error (run_ask_error h)

theorem scan_ok (h : o.query = none) :
    scan silence o clock w =
      let c := cutoff (clock.reading w.read) silence
      let taken := (takeAll c (w.store.stale c)).run (serve o clock) ⟨w.store, w.read + 1⟩
      (.ok taken.1, taken.2) := by
  have hquery : ∀ c, (Reconciler.stale c).run.run (serve o clock) ⟨w.store, w.read + 1⟩ =
      (.ok (w.store.stale c), ⟨w.store, w.read + 1⟩) := fun c => run_ask_ok h rfl
  rw [scan, check, run_bind_ok run_now, run_bind_ok (hquery _)]
  exact Program.run_bind ..

theorem leaves_of_sweeps {w' : Watch} {es : List Entry}
    (h : Sweeps o clock (w.store.stale (cutoff (clock.reading w.read) silence))
      ⟨w.store, w.read + 1⟩ w' es) : Leaves silence o clock w w'.store es := by
  have hmem : ∀ d, d ∈ w.store.stale (cutoff (clock.reading w.read) silence) ↔
      w.store.device? d.id = some d ∧ d.IsOverdue (clock.reading w.read) silence := fun d => by
    rw [Store.mem_stale, Device.isStale_cutoff_iff (clock.ordinary _)]
  have hfates : ∀ d, w.store.device? d.id = some d →
      d.IsOverdue (clock.reading w.read) silence → _ := fun d hd ho =>
    h.fates d ((hmem d).2 ⟨hd, ho⟩)
  refine ⟨h.history, h.kinds, fun d hd ho hspares => ?_, hfates, fun d hd ho => ?_, fun k hk => ?_⟩
  · obtain ⟨d', n, hn, hstored, hfate⟩ := hfates d hd ho
    obtain ⟨rfl, hentry⟩ := hfate.of_spares hspares
    exact ⟨n, hn, hstored, hentry⟩
  · have hothers := h.others d.id fun e he hid => by
      obtain ⟨hstored, hoverdue⟩ := (hmem e).1 he
      rw [← hid, hd] at hstored
      exact ho (Option.some.inj hstored ▸ hoverdue)
    exact ⟨hothers.1.trans hd, hothers.2⟩
  · have hothers := h.others k fun e he hid => by
      have hstored := ((hmem e).1 he).1
      rw [← hid, hk] at hstored
      cases hstored
    exact ⟨hothers.1.trans hk, hothers.2⟩

/-- **A scan is exact.** -/
theorem scan_exact (silence : Span) (o : Outages) (clock : WallClock) {w : Watch}
    (hs : w.store.Numbered) : ScansExactly silence o clock w where
  unbroken := by
    intro task ws reason h
    have hsound := Rehearsal.Activity.isSound_after (check silence).run task ws
    rw [h] at hsound
    exact hsound
  queried d := Device.isStale_cutoff_iff (clock.ordinary _)
  written d := Device.isStale_cutoff_iff (clock.ordinary _)
  refused e he := by rw [scan_error he]; exact ⟨rfl, rfl⟩
  scanned hquery := by
    obtain ⟨es, hcount, hsweeps⟩ := @sweeps_takeAll o clock
      (cutoff (clock.reading w.read) silence) ⟨w.store, w.read + 1⟩ _ hs Store.nodup_ids_stale
      fun d hd => Store.mem_stale.1 hd
    rw [scan_ok hquery]
    exact ⟨es, congrArg Except.ok hcount, leaves_of_sweeps hsweeps⟩

/-- A device that is online and has sent no heartbeat. -/
def silentDevice (id : Int64) (number : String) : Device :=
  { Device.fresh id number with reachability := .online }

/-- Three devices that are online; the second one has been heard. -/
def threeDevices : Store :=
  ((Store.empty.insert (silentDevice 1 "lock-1")).insert
    { silentDevice 2 "lock-2" with lastHeartbeat := some .epoch }).insert (silentDevice 3 "lock-3")

/-- The third device cannot be written. -/
def thirdStuck : Outages where
  query := none
  lookUp _ := none
  mark id := if id = 3 then some (.backend "lost") else none
  record _ := none

def stoppedClock : WallClock := ⟨fun _ => .epoch, fun _ => by decide⟩

theorem scan_exact_threeDevices :
    threeDevices.Numbered ∧
      ScansExactly WatchdogTiming.standard.offlineAfter thirdStuck stoppedClock
        ⟨threeDevices, 0⟩ := by
  have hnumbered : threeDevices.Numbered := by
    unfold Store.Numbered
    decide +kernel
  exact ⟨hnumbered, scan_exact _ _ _ hnumbered⟩

end Watchdog

end LockFleet
