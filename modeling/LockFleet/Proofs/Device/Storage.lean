import LockFleet.Device.Store
import Mathlib.Data.List.Nodup

/-!
# What is in a store

What a write does is said by what the store answers afterwards, key by key, so that no proof has to
open the table of devices.

* `Store.settled_modify`, `Store.settled_modifyIf` — writes and their answers;
* `Store.device?_change` — the device of a key after a change;
* `Store.device?_eq_some_iff`, `Store.nodup_ids` — every device is there once, under its key;
* `Store.mem_stale` — the devices that are found silent.
-/

namespace LockFleet.Store

/-! ### Writes -/

section Writes

variable {s : Store} {id k : Int64} {c : Change}

theorem settled_modify (h : s.devices.contains id = true) :
    s.settled ((s.modify id c).map ((), ·)) = (.ok (), s.change id c) := by
  rw [modify, if_pos h]
  rfl

theorem settled_modify_missing (h : s.devices.contains id = false) :
    s.settled ((s.modify id c).map ((), ·)) = (.error (.notFound id), s) := by
  rw [modify, h, if_neg Bool.false_ne_true]
  rfl

theorem settled_modifyIf (test : Device → Bool) (c : Change) {d : Device}
    (hd : s.device? id = some d) : s.settled (s.modifyIf id test c) =
      if test d then (.ok true, s.change id c) else (.ok false, s) := by
  rw [modifyIf, hd]
  show s.settled (.ok (if test d = true then _ else _)) = _
  split <;> rfl

theorem settled_modifyIf_missing {test : Device → Bool} (h : s.device? id = none) :
    s.settled (s.modifyIf id test c) = (.error (.notFound id), s) := by
  rw [modifyIf, h]
  rfl

theorem contains_eq_false_of_device? (h : s.device? id = none) : s.devices.contains id = false := by
  rw [Table.contains, show s.devices.find? id = none from h]
  rfl

theorem device?_change (s : Store) (id k : Int64) (c : Change) :
    (s.change id c).device? k = if k = id then (s.device? id).map c.apply else s.device? k := by
  show (s.devices.modify id c.apply).find? k = _
  split
  · next h =>
    rw [h]
    exact Table.find?_modify_self _ _ _
  · next h => exact Table.find?_modify_of_ne _ _ h

theorem contains_change (s : Store) (id k : Int64) (c : Change) :
    (s.change id c).devices.contains k = s.devices.contains k := by
  show ((s.change id c).device? k).isSome = (s.device? k).isSome
  rw [device?_change]
  split
  · next h => rw [h, Option.isSome_map]
  · rfl

theorem contains_insert (h : s.devices.contains k = true) (d : Device) :
    (s.insert d).devices.contains k = true := by
  show ((s.devices.insert d.id d).find? k).isSome = true
  by_cases hk : k = d.id
  · rw [hk, Table.find?_insert_self]
    rfl
  · rw [Table.find?_insert_of_ne _ _ hk]
    exact h

theorem values_change (s : Store) (id : Int64) (c : Change) :
    (s.change id c).devices.values =
      s.devices.values.map fun e => if e.id = id then c.apply e else e := by
  show (modifyEntry id c.apply s.devices.entries).map (·.2) = (s.devices.entries.map (·.2)).map _
  rw [modifyEntry, List.map_map, List.map_map]
  refine List.map_congr_left fun e he => ?_
  have hkey : e.2.id = e.1 := s.keyed e.1 e.2 ((s.devices.mem_entries_iff e.1 e.2).1 he)
  rw [Function.comp_apply, Function.comp_apply, hkey]
  split <;> rfl

end Writes

/-! ### Lookups -/

section Lookups

variable {s : Store} {d d' : Device} {k : Int64} {c : Moment}

/-- Every device is stored under its key. -/
theorem device?_of_mem (h : d ∈ s.devices.values) : s.device? d.id = some d := by
  obtain ⟨⟨k, d'⟩, hmem, rfl⟩ := List.mem_map.1 h
  have hk : s.devices.find? k = some d' := (s.devices.mem_entries_iff k d').1 hmem
  show s.devices.find? d'.id = some d'
  rw [s.keyed k d' hk]
  exact hk

theorem find?_eq_some {number : String} (h : s.find? number = some d) :
    d ∈ s.devices.values ∧ d.number = number := by
  rw [find?] at h
  have hnumber := List.find?_some h
  rw [decide_eq_true_eq] at hnumber
  exact ⟨List.mem_of_find?_eq_some h, hnumber⟩

theorem device?_of_find? {number : String} (h : s.find? number = some d) :
    s.device? d.id = some d :=
  device?_of_mem (find?_eq_some h).1

theorem mem_of_device? {k : Int64} (h : s.device? k = some d) : d ∈ s.devices.values :=
  List.mem_map.2 ⟨(k, d), (s.devices.mem_entries_iff k d).2 h, rfl⟩

theorem eq_of_id_eq (hd : d ∈ s.devices.values) (hd' : d' ∈ s.devices.values)
    (h : d.id = d'.id) : d = d' := by
  have hstored := device?_of_mem hd
  rw [h, device?_of_mem hd'] at hstored
  exact (Option.some.inj hstored).symm

theorem nodup_ids (s : Store) : (s.devices.values.map Device.id).Nodup := by
  have hids : s.devices.values.map Device.id = s.devices.keys := by
    rw [Table.values, Table.keys, List.map_map]
    refine List.map_congr_left fun e he => ?_
    exact s.keyed e.1 e.2 ((s.devices.mem_entries_iff e.1 e.2).1 he)
  rw [hids]
  exact s.devices.nodup_keys

theorem device?_eq_some_iff : s.device? k = some d ↔ d ∈ s.devices.values ∧ d.id = k := by
  constructor
  · intro h
    have hid := s.keyed k d h
    exact ⟨mem_of_device? (hid ▸ h), hid⟩
  · rintro ⟨hmem, rfl⟩
    exact device?_of_mem hmem

theorem mem_stale : d ∈ s.stale c ↔ s.device? d.id = some d ∧ isStale c d = true := by
  rw [stale, byKey, List.mem_mergeSort, List.mem_filter, device?_eq_some_iff, and_iff_left rfl]

theorem nodup_ids_stale : ((s.stale c).map Device.id).Nodup := by
  have hperm := List.mergeSort_perm (s.devices.values.filter (isStale c)) fun a b => a.id ≤ b.id
  refine (hperm.map Device.id).nodup_iff.2 ?_
  exact s.nodup_ids.sublist (List.filter_sublist.map Device.id)

end Lookups

end LockFleet.Store
