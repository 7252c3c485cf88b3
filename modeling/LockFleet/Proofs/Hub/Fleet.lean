import LockFleet.Hub
import LockFleet.Proofs.Run
import Mathlib.Data.List.Nodup

/-!
# Fleets

What reports are about, without stores, programs and tasks: a list of devices and their history.  A
message that arrives changes the device that it names and no other, and it changes it at once.

* `Arrival`, `Arrival.report?` — a message that arrives, and the report of a device that it is;
* `Device.take`, `Device.notes` — what a message does to a device, and what it leaves of it in the
  history;
* `Fleet`, `Fleet.take` — the same for all devices;
* `Fleet.devices_after`, `Fleet.history_after` — a run, seen from one device.
-/

namespace LockFleet

/-! ### Arrivals -/

/-- A message that arrives, with the times that the clock on the wall reads while it is handled. -/
structure Arrival where
  topic : String
  payload : Bytes
  clock : Nat → Moment

namespace Arrival

/-- The report that a message is: it arrives on a topic that is listened to and can be decoded. -/
def message? (a : Arrival) : Option Message :=
  if Listening.patterns.any fun p => Topic.selects p a.topic then
    (Message.decode a.topic a.payload).toOption
  else none

/-- The report of the device of a number that a message is. -/
def report? (number : String) (a : Arrival) : Option Report :=
  match a.message? with
  | some m => if m.device = number then some m.report else none
  | none => none

end Arrival

/-! ### Devices -/

namespace Device

/-- The device after a report of its own. -/
def hear (d : Device) (clock : Nat → Moment) : Report → Device
  | .heartbeat h =>
    { d with
      reachability := .online
      metrics := h.metrics.orElse d.metrics
      lastHeartbeat := some (clock 0)
      lastOnline := if d.isOnline then d.lastOnline else some (clock 0) }
  | .status r =>
    { d with
      reachability := r.reachability
      lock := r.lock
      availability := r.availability
      freeSlots := r.freeSlots }
  | .event e =>
    match e.kind with
    | .unlocked => { d with lock := .unlocked }
    | .locked => { d with lock := .locked }
    | .error => { d with availability := .fault }
    | .alarm => { d with availability := .fault }
    | .other _ => d
  | .ack _ => d

/-- The entries that a report of its own leaves in the history. -/
def entries (d : Device) (clock : Nat → Moment) : Report → List Entry
  | .heartbeat _ => if d.isOnline then [] else [Entry.bySystem d.id .online none (clock 1)]
  | .event e => [Entry.bySystem d.id (EntryKind.ofEvent e.kind) e.message (clock 0)]
  | _ => []

/-- The device after a message. -/
def take (d : Device) (a : Arrival) : Device :=
  match a.report? d.number with
  | some r => d.hear a.clock r
  | none => d

/-- The entries that a message leaves of a device. -/
def notes (d : Device) (a : Arrival) : List Entry :=
  match a.report? d.number with
  | some r => d.entries a.clock r
  | none => []

/-- No report touches the key or the number of a device, or the time at which it went offline. -/
theorem hear_keeps (d : Device) (clock : Nat → Moment) (r : Report) :
    (d.hear clock r).id = d.id ∧ (d.hear clock r).number = d.number ∧
      (d.hear clock r).lastOffline = d.lastOffline := by
  cases r with
  | event e =>
    rw [hear]
    split <;> exact ⟨rfl, rfl, rfl⟩
  | _ => exact ⟨rfl, rfl, rfl⟩

theorem take_keeps (d : Device) (a : Arrival) :
    (d.take a).id = d.id ∧ (d.take a).number = d.number ∧
      (d.take a).lastOffline = d.lastOffline := by
  rw [take]
  split
  · exact hear_keeps d _ _
  · exact ⟨rfl, rfl, rfl⟩

theorem take_id (d : Device) (a : Arrival) : (d.take a).id = d.id := (take_keeps d a).1

theorem take_number (d : Device) (a : Arrival) : (d.take a).number = d.number :=
  (take_keeps d a).2.1

theorem device_of_mem_notes {d : Device} {a : Arrival} {e : Entry} (h : e ∈ d.notes a) :
    e.device = d.id := by
  rw [notes] at h
  split at h
  · next r hr =>
    cases r with
    | heartbeat b =>
      rw [entries] at h
      split at h
      · cases h
      · rw [List.mem_singleton.1 h]
        rfl
    | event b =>
      rw [List.mem_singleton.1 h]
      rfl
    | status b => cases h
    | ack b => cases h
  · cases h

/-- What every message leaves as it is, every run does. -/
theorem after_same {β : Type} {field : Device → β} (h : ∀ d a, field (d.take a) = field d)
    (d : Device) (as : List Arrival) : field (Run.after take d as) = field d := by
  induction as using List.reverseRecOn with
  | nil => rfl
  | append_singleton as a ih => rw [Run.after_snoc, h, ih]

end Device

/-! ### Fleets -/

/-- Devices and their history. -/
structure Fleet where
  devices : List Device
  /-- All entries, oldest first. -/
  history : List Entry
  deriving DecidableEq, Repr

namespace Fleet

variable {f : Fleet} {d : Device}

def ofStore (s : Store) : Fleet := ⟨s.devices.values, s.history⟩

/-- A fleet takes a message in. -/
def take (f : Fleet) (a : Arrival) : Fleet :=
  ⟨f.devices.map fun d => d.take a, f.history ++ f.devices.flatMap fun d => d.notes a⟩

theorem numbers_take (f : Fleet) (a : Arrival) :
    (f.take a).devices.map Device.number = f.devices.map Device.number := by
  rw [take, List.map_map]
  exact List.map_congr_left fun d _ => Device.take_number d a

/-- A message that is for no device changes nothing. -/
theorem take_of_quiet {a : Arrival} (h : ∀ d ∈ f.devices, d.take a = d ∧ d.notes a = []) :
    f.take a = f := by
  have hdevices : f.devices.map (fun d => d.take a) = f.devices :=
    (List.map_congr_left fun d hd => (h d hd).1).trans (List.map_id _)
  have hnotes : f.devices.flatMap (fun d => d.notes a) = [] :=
    List.flatMap_eq_nil_iff.2 fun d hd => (h d hd).2
  rw [take, hdevices, hnotes, List.append_nil]

/-- A message that is no report changes nothing. -/
theorem take_of_message? {a : Arrival} (f : Fleet) (h : a.message? = none) : f.take a = f := by
  refine take_of_quiet fun d _ => ?_
  rw [Device.take, Device.notes, Arrival.report?, h]
  exact ⟨rfl, rfl⟩

/-- **Each device by itself**: a run changes every device by the messages that are for it. -/
theorem devices_after (f : Fleet) (as : List Arrival) :
    (Run.after take f as).devices = f.devices.map fun d => Run.after Device.take d as := by
  induction as using List.reverseRecOn with
  | nil => exact (List.map_id _).symm
  | append_singleton as a ih =>
    rw [Run.after_snoc, take, ih, List.map_map]
    refine List.map_congr_left fun d _ => ?_
    rw [Run.after_snoc]
    rfl

/-- What several devices yield, if all but one of them yield nothing. -/
theorem flatMap_of_single {α : Type} {ds : List Device} (hds : ds.Nodup) (hd : d ∈ ds)
    {g : Device → List α} (h : ∀ e ∈ ds, e ≠ d → g e = []) : ds.flatMap g = g d := by
  induction ds with
  | nil => cases hd
  | cons e ds ih =>
    obtain ⟨hnot, hrest⟩ := List.nodup_cons.1 hds
    rw [List.flatMap_cons]
    rcases List.mem_cons.1 hd with rfl | hmem
    · have hnone : ds.flatMap g = [] := by
        refine List.flatMap_eq_nil_iff.2 fun e he => h e (List.mem_cons_of_mem _ he) ?_
        exact fun heq => hnot (heq ▸ he)
      rw [hnone, List.append_nil]
    · rw [h e List.mem_cons_self fun heq => hnot (heq ▸ hmem), List.nil_append]
      exact ih hrest hmem fun e he => h e (List.mem_cons_of_mem _ he)

/-- Of the entries that a message leaves, those of one device. -/
theorem filter_notes {ds : List Device} (hds : (ds.map Device.id).Nodup) (hd : d ∈ ds)
    (a : Arrival) :
    (ds.flatMap fun d => d.notes a).filter (fun e => e.device = d.id) = d.notes a := by
  rw [List.filter_flatMap, flatMap_of_single (List.Nodup.of_map _ hds) hd fun e he hne => ?_]
  · exact List.filter_eq_self.2 fun e he => decide_eq_true (Device.device_of_mem_notes he)
  · refine List.filter_eq_nil_iff.2 fun n hn => ?_
    rw [decide_eq_true_eq, Device.device_of_mem_notes hn]
    exact fun hid => hne (List.inj_on_of_nodup_map hds he hd hid)

/-- **The history of each device by itself**: a run appends what the messages leave of it. -/
theorem history_after (f : Fleet) (as : List Arrival) (hids : (f.devices.map Device.id).Nodup)
    (hd : d ∈ f.devices) :
    (Run.after take f as).history.filter (fun e => e.device = d.id) =
      f.history.filter (fun e => e.device = d.id) ++ Run.gather Device.take Device.notes d as := by
  induction as using List.reverseRecOn with
  | nil => exact (List.append_nil _).symm
  | append_singleton as a ih =>
    have hid : (Run.after Device.take d as).id = d.id := Device.after_same Device.take_id d as
    have hids' : ((Run.after take f as).devices.map Device.id).Nodup := by
      rw [devices_after, List.map_map]
      rwa [show (Device.id ∘ fun d => Run.after Device.take d as) = Device.id from
        funext fun d => Device.after_same Device.take_id d as]
    have hmem : Run.after Device.take d as ∈ (Run.after take f as).devices := by
      rw [devices_after]
      exact List.mem_map.2 ⟨d, hd, rfl⟩
    have hnotes := filter_notes hids' hmem a
    rw [hid] at hnotes
    rw [Run.after_snoc, take, List.filter_append, ih, hnotes, Run.gather_snoc, List.append_assoc]

end Fleet

end LockFleet
