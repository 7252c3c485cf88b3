import LockFleet.Proofs.Device.Storage
import LockFleet.Proofs.Device.Updates

/-!
# Writes to a store

Every write to a device is the update of a few fields, made if the device passes a test, and nothing
but this device is written.  The two writes that test the device are switches: they answer whether
they have turned the device, and a device that has been turned does not pass the test again.

* `StoreRequest.write?`, `StoreRequest.admits` — the update that a write makes, and its test;
* `Store.modifyIf_cases`, `Store.serve_write` — a write, served;
* `Store.Framed`, `Store.framed` — what a write changes, and that it changes nothing else;
* `Store.Switches`, `Store.switches_modifyIf` — writes that turn a device and say so;
* `Store.mem_ids_stale_iff` — the test of the query for silent devices;
* `Store.writes_framed` — all writes.
-/

namespace LockFleet

/-! ### Writes as updates -/

namespace StoreRequest

/-- The key of the device that a write is for, and the update that it makes. -/
def write? : StoreRequest → Option (Int64 × Update)
  | update id u => some (id, u)
  | setLock id l => some (id, { Update.none with lock := some l })
  | setAvailability id a => some (id, { Update.none with availability := some a })
  | markOnline id time =>
    some (id, { Update.none with reachability := some .online, lastOnline := some time })
  | markOffline id time _ =>
    some (id, { Update.none with reachability := some .offline, lastOffline := some time })
  | find _ => none
  | record _ => none
  | stale _ => none

/-- The test that a device has to pass for a write to be made. -/
def admits : StoreRequest → Device → Bool
  | markOnline _ _, d => !d.isOnline
  | markOffline _ _ cutoff, d => Store.mayGoOffline cutoff d
  | _, _ => true

end StoreRequest

/-- A device is silent since a moment if every heartbeat that it has sent was before. -/
theorem Device.isSilentSince_iff {d : Device} {c : Moment} :
    d.isSilentSince c = true ↔ ∀ seen, d.lastHeartbeat = some seen → seen < c := by
  rw [isSilentSince]
  cases d.lastHeartbeat with
  | none => simp
  | some seen => simp

namespace Store

open Device (Field)

variable {s : Store} {id : Int64} {q : StoreRequest} {u : Update} {d : Device} {c : Moment}

/-! ### Serving a write -/

/-- A write without a test changes the device. -/
theorem settled_modify_some (hd : s.device? id = some d) (c : Change) :
    (∃ a, (s.settled ((s.modify id c).map ((), ·))).1 = .ok a) ∧
      (s.settled ((s.modify id c).map ((), ·))).2 = s.change id c := by
  have hcontains : s.devices.contains id = true := by
    show (s.device? id).isSome = true
    rw [hd, Option.isSome_some]
  rw [settled_modify hcontains]
  exact ⟨⟨(), rfl⟩, rfl⟩

/-- All that a write with a test can do: it is refused, it changes the device, or it changes
nothing. -/
theorem modifyIf_cases (s : Store) (id : Int64) (test : Device → Bool) (c : Change) :
    (s.device? id = none ∧ s.settled (s.modifyIf id test c) = (.error (.notFound id), s)) ∨
    (∃ d, s.device? id = some d ∧ test d = true ∧
      s.settled (s.modifyIf id test c) = (.ok true, s.change id c)) ∨
    ∃ d, s.device? id = some d ∧ test d = false ∧
      s.settled (s.modifyIf id test c) = (.ok false, s) := by
  cases hd : s.device? id with
  | none => exact Or.inl ⟨rfl, settled_modifyIf_missing hd⟩
  | some d =>
    have hserve := settled_modifyIf test c hd
    cases htest : test d with
    | true =>
      rw [htest, if_pos rfl] at hserve
      exact Or.inr (Or.inl ⟨d, rfl, htest, hserve⟩)
    | false =>
      rw [htest, if_neg Bool.false_ne_true] at hserve
      exact Or.inr (Or.inr ⟨d, rfl, htest, hserve⟩)

/-- A write with a test answers, and changes the device if that passes the test. -/
theorem settled_modifyIf_some (hd : s.device? id = some d) (test : Device → Bool) (c : Change) :
    (∃ a, (s.settled (s.modifyIf id test c)).1 = .ok a) ∧
      (s.settled (s.modifyIf id test c)).2 = if test d then s.change id c else s := by
  rw [settled_modifyIf test c hd]
  split
  · exact ⟨⟨true, rfl⟩, rfl⟩
  · exact ⟨⟨false, rfl⟩, rfl⟩

/-- A write for a device that is not in the store is refused. -/
theorem serve_write_missing (hq : q.write? = some (id, u)) (h : s.device? id = none) :
    s.serve q = (.error (.notFound id), s) := by
  have hmissing := contains_eq_false_of_device? h
  cases q with
  | update =>
    cases hq
    exact settled_modify_missing hmissing
  | setLock =>
    cases hq
    exact settled_modify_missing hmissing
  | setAvailability =>
    cases hq
    exact settled_modify_missing hmissing
  | markOnline =>
    cases hq
    exact settled_modifyIf_missing h
  | markOffline =>
    cases hq
    exact settled_modifyIf_missing h
  | find => cases hq
  | record => cases hq
  | stale => cases hq

/-- **A write for a device of the store succeeds, and makes its update if the device passes the
test.** -/
theorem serve_write (hq : q.write? = some (id, u)) (hd : s.device? id = some d) :
    (∃ a, (s.serve q).1 = .ok a) ∧
      (s.serve q).2 = if q.admits d then s.change id (applyUpdate u) else s := by
  -- What a request changes is, in every field, what its update changes.
  cases q with
  | update id u =>
    cases hq
    exact settled_modify_some hd (applyUpdate u)
  | setLock id l =>
    cases hq
    exact settled_modify_some hd (setLock l)
  | setAvailability id a =>
    cases hq
    exact settled_modify_some hd (setAvailability a)
  | markOnline id time =>
    cases hq
    exact settled_modifyIf_some hd _ (goOnline time)
  | markOffline id time cutoff =>
    cases hq
    exact settled_modifyIf_some hd _ (goOffline time)
  | find => cases hq
  | record => cases hq
  | stale => cases hq

/-! ### Nothing else is written -/

/-- What a write changes in a store. -/
structure Framed (s : Store) (q : StoreRequest) (id : Int64) (u : Update) : Prop where
  /-- It fails exactly if there is no such device, … -/
  failed_iff : ∀ e, (s.serve q).1 = .error e ↔ s.device? id = none ∧ e = .notFound id
  /-- … and then leaves the store as it was. -/
  refused : s.device? id = none → (s.serve q).2 = s
  history : (s.serve q).2.history = s.history
  others : ∀ k, k ≠ id → (s.serve q).2.device? k = s.device? k
  /-- The device takes the update if it passes the test, … -/
  written : ∀ d, s.device? id = some d →
    (s.serve q).2.device? id = some (if q.admits d then d.apply u else d)
  /-- … and keeps what the update does not set. -/
  kept : ∀ d d', s.device? id = some d → (s.serve q).2.device? id = some d' →
    d'.id = d.id ∧ d'.number = d.number ∧ ∀ f, u.content? f = none → d'.content? f = d.content? f

theorem device?_serve_write (hq : q.write? = some (id, u)) (hd : s.device? id = some d) :
    (s.serve q).2.device? id = some (if q.admits d then d.apply u else d) := by
  rw [(serve_write hq hd).2]
  split
  · rw [device?_change, if_pos rfl, hd]
    rfl
  · exact hd

theorem framed (hq : q.write? = some (id, u)) : s.Framed q id u := by
  cases hd : s.device? id with
  | none =>
    have hserve := serve_write_missing hq hd
    refine ⟨fun e => ?_, fun _ => by rw [hserve], by rw [hserve], fun k _ => by rw [hserve],
      fun d hd' => ?_, fun d d' hd' => ?_⟩
    · rw [hserve, Except.error.injEq, eq_comm, and_iff_right hd]
    · rw [hd] at hd'
      cases hd'
    · rw [hd] at hd'
      cases hd'
  | some d =>
    obtain ⟨⟨a, ha⟩, hafter⟩ := serve_write hq hd
    have hdevice := device?_serve_write hq hd
    refine ⟨fun e => ?_, fun hnone => ?_, ?_, fun k hk => ?_, fun d' hd' => ?_,
      fun d₀ d' hd₀ hd' => ?_⟩
    · rw [ha]
      simp [hd]
    · rw [hd] at hnone
      cases hnone
    · rw [hafter]
      split <;> rfl
    · rw [hafter]
      split
      · rw [device?_change, if_neg hk]
      · rfl
    · cases hd.symm.trans hd'
      exact hdevice
    · cases hd.symm.trans hd₀
      cases hdevice.symm.trans hd'
      split
      · exact ⟨rfl, rfl, fun f hf => Device.content?_apply_of_unset hf d⟩
      · exact ⟨rfl, rfl, fun f _ => rfl⟩

/-! ### Switches -/

/-- A write turns the device of a key if it passes a test, and says whether it has done so. -/
structure Switches (s : Store) (id : Int64)
    (mark : Store → Moment → Except StoreError Bool × Store) (test : Device → Prop)
    (turned : Device → Moment → Device) : Prop where
  taken_iff : ∀ time, (mark s time).1 = .ok true ↔ ∃ d, s.device? id = some d ∧ test d
  taken : ∀ d time, s.device? id = some d → (mark s time).1 = .ok true →
    (mark s time).2.device? id = some (turned d time)
  untaken : ∀ time, (mark s time).1 = .ok false → (mark s time).2 = s
  /-- At once a second time it turns nothing. -/
  again : ∀ d time time', s.device? id = some d → (mark (mark s time).2 time').1 = .ok false

/-- **A write whose change fails its own test is a switch.** -/
theorem switches_modifyIf {test : Device → Bool} {passes : Device → Prop} {c : Moment → Change}
    (hpasses : ∀ d, test d = true ↔ passes d) (hturned : ∀ d time, test ((c time).apply d) = false)
    (s : Store) (id : Int64) :
    s.Switches id (fun s time => s.settled (s.modifyIf id test (c time))) passes
      fun d time => (c time).apply d where
  taken_iff time := by
    rcases s.modifyIf_cases id test (c time) with ⟨hd, h⟩ | ⟨d, hd, htest, h⟩ | ⟨d, hd, htest, h⟩
    · simp [h, hd]
    · simp [h, hd, ← hpasses, htest]
    · simp [h, hd, ← hpasses, htest]
  taken d time hd htaken := by
    rcases s.modifyIf_cases id test (c time) with ⟨-, h⟩ | ⟨-, -, -, h⟩ | ⟨-, -, -, h⟩
    · simp [h] at htaken
    · rw [h, device?_change, if_pos rfl, hd]
      rfl
    · simp [h] at htaken
  untaken time huntaken := by
    rcases s.modifyIf_cases id test (c time) with ⟨-, h⟩ | ⟨-, -, -, h⟩ | ⟨-, -, -, h⟩
    · rw [h]
    · simp [h] at huntaken
    · rw [h]
  again d time time' hd := by
    rcases s.modifyIf_cases id test (c time) with ⟨hnone, -⟩ | ⟨d', hd', -, h⟩ | ⟨d', hd', htest, h⟩
    · rw [hnone] at hd
      cases hd
    · have hdevice : (s.change id (c time)).device? id = some ((c time).apply d') := by
        rw [device?_change, if_pos rfl, hd']
        rfl
      rw [h, settled_modifyIf test (c time') hdevice, hturned, if_neg Bool.false_ne_true]
    · rw [h, settled_modifyIf test (c time') hd', htest, if_neg Bool.false_ne_true]

theorem mayGoOffline_iff {cutoff : Option Moment} : mayGoOffline cutoff d = true ↔
    d.reachability = .online ∧
      ∀ c, cutoff = some c → ∀ seen, d.lastHeartbeat = some seen → seen < c := by
  cases cutoff with
  | none => simp [mayGoOffline, Device.isOnline]
  | some c => simp [mayGoOffline, Device.isOnline, Device.isSilentSince_iff]

/-- **The query finds the devices that are online and silent since a moment.** -/
theorem mem_ids_stale_iff : id ∈ (s.stale c).map Device.id ↔ ∃ d, s.device? id = some d ∧
    d.reachability = .online ∧ ∀ seen, d.lastHeartbeat = some seen → seen < c := by
  have hstale : ∀ d, isStale c d = true ↔
      d.reachability = .online ∧ ∀ seen, d.lastHeartbeat = some seen → seen < c := by
    intro d
    rw [isStale, Bool.and_eq_true, Device.isOnline, decide_eq_true_eq, Device.isSilentSince_iff]
  rw [List.mem_map]
  constructor
  · rintro ⟨d, hd, rfl⟩
    obtain ⟨hstored, hd⟩ := mem_stale.1 hd
    exact ⟨d, hstored, (hstale d).1 hd⟩
  · rintro ⟨d, hd, h⟩
    have hid := s.keyed id d hd
    exact ⟨d, mem_stale.2 ⟨hid.symm ▸ hd, (hstale d).2 h⟩, hid⟩

/-! ### All writes -/

/-- The write that takes a device online is a switch. -/
theorem switches_markOnline (s : Store) (id : Int64) :
    s.Switches id (fun s time => s.serve (.markOnline id time)) (·.reachability = .offline)
      fun d time => { d with reachability := .online, lastOnline := some time } := by
  refine switches_modifyIf (c := goOnline) (fun d => ?_) (fun d time => rfl) s id
  rw [Device.isOnline]
  cases d.reachability <;> simp

/-- The write that takes a device offline is a switch. -/
theorem switches_markOffline (s : Store) (id : Int64) (cutoff : Option Moment) :
    s.Switches id (fun s time => s.serve (.markOffline id time cutoff))
      (fun d => d.reachability = .online ∧
        ∀ c, cutoff = some c → ∀ seen, d.lastHeartbeat = some seen → seen < c)
      fun d time => { d with reachability := .offline, lastOffline := some time } :=
  switches_modifyIf (c := goOffline) (fun _ => mayGoOffline_iff) (fun _ _ => rfl) s id

/-- **Writes change one device in the fields that they name, and the test of the write that takes a
device offline is that of the query for silent devices.** -/
theorem writes_framed (s : Store) (id : Int64) :
    (∀ q u, q.write? = some (id, u) → s.Framed q id u) ∧
    s.Switches id (fun s time => s.serve (.markOnline id time)) (·.reachability = .offline)
      (fun d time => { d with reachability := .online, lastOnline := some time }) ∧
    (∀ cutoff, s.Switches id (fun s time => s.serve (.markOffline id time cutoff))
      (fun d => d.reachability = .online ∧
        ∀ c, cutoff = some c → ∀ seen, d.lastHeartbeat = some seen → seen < c)
      fun d time => { d with reachability := .offline, lastOffline := some time }) ∧
    (∀ c time, (s.serve (.markOffline id time (some c))).1 = .ok true ↔
      id ∈ (s.stale c).map Device.id) ∧
    ∀ cutoff time, (s.serve (.markOffline id time cutoff)).1 = .ok true →
      ∀ c, id ∉ ((s.serve (.markOffline id time cutoff)).2.stale c).map Device.id := by
  refine ⟨fun q u hq => framed hq, s.switches_markOnline id, s.switches_markOffline id,
    fun c time => ?_, fun cutoff time h c hmem => ?_⟩
  · refine ((s.switches_markOffline id (some c)).taken_iff time).trans ?_
    rw [mem_ids_stale_iff]
    simp
  · have hswitch := s.switches_markOffline id cutoff
    obtain ⟨d, hd, -⟩ := (hswitch.taken_iff time).1 h
    obtain ⟨d', hd', honline, -⟩ := mem_ids_stale_iff.1 hmem
    cases (hswitch.taken d time hd h).symm.trans hd'
    cases honline

end Store

end LockFleet
