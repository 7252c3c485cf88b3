import LockFleet.Device.Basic

/-!
# Updates

What an update does to a field of a device depends only on what it says about this field: the field
takes what the update sets it to, and stays as it is if the update does not set it.  This one law,
over all fields, carries everything that is said here about updates.

* `Device.Field` — the fields that an update can set;
* `Device.content?`, `Update.content?` — what a device holds in a field, what an update sets it to;
* `Device.content?_apply` — the law;
* `Update.orElse`, `Device.apply_apply` — two updates in one;
* `Device.apply_comm` — updates that set different fields, in either order;
* `Update.isEmpty_iff_apply` — the update that changes no device;
* `Update.LastWriterWins`, `Update.last_writer_wins` — all of it.
-/

namespace LockFleet

/-! ### Fields -/

/-- The fields of a device that an update can set. -/
inductive Device.Field where
  | reachability
  | lock
  | availability
  | freeSlots
  | signal
  | battery
  | temperature
  | humidity
  | firmware
  | lastHeartbeat
  | lastOnline
  | lastOffline
  deriving DecidableEq, Repr

open Device (Field)

/-- What a field holds. -/
abbrev Device.Field.Content : Field → Type
  | reachability => Reachability
  | lock => LockState
  | availability => Availability
  | freeSlots => UInt32
  | signal => Int32
  | battery => Int32
  | temperature => Binary64
  | humidity => Binary64
  | firmware => String
  | lastHeartbeat => Moment
  | lastOnline => Moment
  | lastOffline => Moment

/-- What a device holds in a field. -/
def Device.content? (d : Device) : (f : Field) → Option f.Content
  | .reachability => some d.reachability
  | .lock => some d.lock
  | .availability => some d.availability
  | .freeSlots => some d.freeSlots
  | .signal => d.metrics.signal
  | .battery => d.metrics.battery
  | .temperature => d.metrics.temperature
  | .humidity => d.metrics.humidity
  | .firmware => d.metrics.firmware
  | .lastHeartbeat => d.lastHeartbeat
  | .lastOnline => d.lastOnline
  | .lastOffline => d.lastOffline

/-- What an update sets a field to. -/
def Update.content? (u : Update) : (f : Field) → Option f.Content
  | .reachability => u.reachability
  | .lock => u.lock
  | .availability => u.availability
  | .freeSlots => u.freeSlots
  | .signal => u.metrics.signal
  | .battery => u.metrics.battery
  | .temperature => u.metrics.temperature
  | .humidity => u.metrics.humidity
  | .firmware => u.metrics.firmware
  | .lastHeartbeat => u.lastHeartbeat
  | .lastOnline => u.lastOnline
  | .lastOffline => u.lastOffline

theorem Metrics.ext_parts {m n : Metrics} (hsignal : m.signal = n.signal)
    (hbattery : m.battery = n.battery) (htemperature : m.temperature = n.temperature)
    (hhumidity : m.humidity = n.humidity) (hfirmware : m.firmware = n.firmware) : m = n := by
  cases m
  cases n
  simp only [Metrics.mk.injEq]
  exact ⟨hsignal, hbattery, htemperature, hhumidity, hfirmware⟩

/-- A device is its key, its number and what it holds in its fields. -/
theorem Device.ext_content? {d e : Device} (hid : d.id = e.id) (hnumber : d.number = e.number)
    (h : ∀ f, d.content? f = e.content? f) : d = e := by
  have hmetrics : d.metrics = e.metrics := Metrics.ext_parts (h .signal) (h .battery)
    (h .temperature) (h .humidity) (h .firmware)
  cases d
  cases e
  simp only [Device.mk.injEq]
  exact ⟨hid, hnumber, Option.some.inj (h .reachability), Option.some.inj (h .lock),
    Option.some.inj (h .availability), Option.some.inj (h .freeSlots), hmetrics,
    h .lastHeartbeat, h .lastOnline, h .lastOffline⟩

/-- An update is what it sets the fields to. -/
theorem Update.ext_content? {u v : Update} (h : ∀ f, u.content? f = v.content? f) : u = v := by
  have hmetrics : u.metrics = v.metrics := Metrics.ext_parts (h .signal) (h .battery)
    (h .temperature) (h .humidity) (h .firmware)
  cases u
  cases v
  simp only [Update.mk.injEq]
  exact ⟨h .reachability, h .lock, h .availability, h .freeSlots, hmetrics, h .lastHeartbeat,
    h .lastOnline, h .lastOffline⟩

namespace Device

variable {d : Device} {u v : Update} {f : Field}

@[simp] theorem id_apply (d : Device) (u : Update) : (d.apply u).id = d.id := rfl

@[simp] theorem number_apply (d : Device) (u : Update) : (d.apply u).number = d.number := rfl

/-- **A field takes what the update sets it to, and stays as it is if the update does not set
it.** -/
@[simp] theorem content?_apply (d : Device) (u : Update) (f : Field) :
    (d.apply u).content? f = (u.content? f).or (d.content? f) := by
  cases f <;> simp [content?, Update.content?, apply, Metrics.orElse]

theorem content?_apply_of_set {a : f.Content} (h : u.content? f = some a) (d : Device) :
    (d.apply u).content? f = some a := by
  rw [content?_apply, h, Option.some_or]

theorem content?_apply_of_unset (h : u.content? f = none) (d : Device) :
    (d.apply u).content? f = d.content? f := by
  rw [content?_apply, h, Option.none_or]

end Device

/-! ### Two updates -/

/-- Two updates in one: each field is set as by the new update, or as by the old one if the new one
does not set it. -/
def Update.orElse (new old : Update) : Update where
  reachability := new.reachability <|> old.reachability
  lock := new.lock <|> old.lock
  availability := new.availability <|> old.availability
  freeSlots := new.freeSlots <|> old.freeSlots
  metrics := new.metrics.orElse old.metrics
  lastHeartbeat := new.lastHeartbeat <|> old.lastHeartbeat
  lastOnline := new.lastOnline <|> old.lastOnline
  lastOffline := new.lastOffline <|> old.lastOffline

@[simp] theorem Update.content?_orElse (new old : Update) (f : Field) :
    (new.orElse old).content? f = (new.content? f).or (old.content? f) := by
  cases f <;> simp [content?, orElse, Metrics.orElse]

theorem Update.orElse_self (u : Update) : u.orElse u = u := by
  refine ext_content? fun f => ?_
  rw [content?_orElse, Option.or_self]

namespace Device

variable {d : Device} {u v : Update}

/-- **Two updates, one after the other, are one.** -/
theorem apply_apply (d : Device) (u v : Update) : (d.apply u).apply v = d.apply (v.orElse u) := by
  refine ext_content? rfl rfl fun f => ?_
  simp only [content?_apply, Update.content?_orElse, Option.or_assoc]

/-- An update that is made again changes nothing more. -/
theorem apply_again (d : Device) (u : Update) : (d.apply u).apply u = d.apply u := by
  rw [apply_apply, Update.orElse_self]

/-- Updates that set different fields can be made in either order. -/
theorem apply_comm (h : ∀ f, u.content? f = none ∨ v.content? f = none) (d : Device) :
    (d.apply u).apply v = (d.apply v).apply u := by
  refine ext_content? rfl rfl fun f => ?_
  simp only [content?_apply]
  rcases h f with hu | hv
  · rw [hu, Option.none_or, Option.none_or]
  · rw [hv, Option.none_or, Option.none_or]

end Device

/-! ### The update that sets nothing -/

/-- A device that differs in every field from one of which nothing is known. -/
def Device.known : Device :=
  ⟨0, "", .online, .unlocked, .fault, 1, ⟨some 0, some 0, some ⟨0⟩, some ⟨0⟩, some ""⟩,
    some .epoch, some .epoch, some .epoch⟩

/-- There is no field in which all devices hold the same. -/
theorem Device.content?_fresh_ne_known (f : Field) :
    (fresh 0 "").content? f ≠ known.content? f := by
  cases f <;> simp [content?, fresh, known, Metrics.none]

namespace Update

variable {u : Update}

@[simp] theorem content?_none (f : Field) : none.content? f = .none := by
  cases f <;> rfl

theorem isEmpty_iff_content? : u.isEmpty = true ↔ ∀ f, u.content? f = .none := by
  rw [isEmpty, decide_eq_true_eq]
  constructor
  · rintro rfl f
    exact content?_none f
  · intro h
    refine ext_content? fun f => ?_
    rw [h f, content?_none]

/-- **An update sets nothing exactly if it changes no device.** -/
theorem isEmpty_iff_apply : u.isEmpty = true ↔ ∀ d : Device, d.apply u = d := by
  rw [isEmpty_iff_content?]
  constructor
  · intro h d
    refine Device.ext_content? rfl rfl fun f => ?_
    exact Device.content?_apply_of_unset (h f) d
  · intro h f
    cases ha : u.content? f with
    | none => rfl
    | some a =>
      -- The field would hold the same in all devices, whatever they are.
      have hsame : ∀ d : Device, d.content? f = some a := by
        intro d
        rw [← h d]
        exact Device.content?_apply_of_set ha d
      exact absurd ((hsame _).trans (hsame _).symm) (Device.content?_fresh_ne_known f)

/-! ### Reports -/

/-- A heartbeat, with or without its time, and a status snapshot set different fields. -/
theorem ofHeartbeat_or_ofStatus (h : Heartbeat) (s : StatusReport) (stamp : Option Moment)
    (f : Field) : { ofHeartbeat h with lastHeartbeat := stamp }.content? f = .none ∨
      (ofStatus s).content? f = .none := by
  cases f <;> simp [content?, ofHeartbeat, ofStatus, none, Metrics.none]

/-! ### All laws -/

/-- What is said about two updates: of several writers of a field the last one wins. -/
structure LastWriterWins (u v : Update) : Prop where
  /-- One update after the other is a single update, … -/
  composed : ∀ d : Device, (d.apply u).apply v = d.apply (v.orElse u)
  /-- … which takes each field from the later one if that sets it, and from the earlier one
  otherwise. -/
  combined : ∀ f, (v.orElse u).content? f = (v.content? f).or (u.content? f)
  /-- An update that is made twice does what it does once. -/
  repeated : ∀ d : Device, (d.apply u).apply u = d.apply u
  /-- A device stays the one it is. -/
  identified : ∀ d : Device, (d.apply u).id = d.id ∧ (d.apply u).number = d.number
  written : ∀ (d : Device) f a, u.content? f = some a → (d.apply u).content? f = some a
  kept : ∀ (d : Device) f, u.content? f = .none → (d.apply u).content? f = d.content? f
  /-- The update that is empty is the one that changes no device. -/
  empty : u.isEmpty = true ↔ ∀ d : Device, d.apply u = d

/-- **Updates act on devices, and the last writer of a field wins**; the updates of a heartbeat and
of a status snapshot can be made in either order. -/
theorem last_writer_wins : (∀ u v, LastWriterWins u v) ∧
    ∀ (d : Device) (h : Heartbeat) (s : StatusReport) (stamp : Option Moment),
      (d.apply { ofHeartbeat h with lastHeartbeat := stamp }).apply (ofStatus s) =
        (d.apply (ofStatus s)).apply { ofHeartbeat h with lastHeartbeat := stamp } := by
  refine ⟨fun u v => ⟨fun d => d.apply_apply u v, content?_orElse v u, fun d => d.apply_again u,
    fun d => ⟨d.id_apply u, d.number_apply u⟩, fun d f a ha => ?_, fun d f hf => ?_,
    isEmpty_iff_apply⟩, fun d h s stamp => ?_⟩
  · exact Device.content?_apply_of_set ha d
  · exact Device.content?_apply_of_unset hf d
  · exact Device.apply_comm (ofHeartbeat_or_ofStatus h s stamp) d

end Update

end LockFleet
