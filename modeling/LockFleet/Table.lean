/-!
# Tables

A table maps keys to values.  Its entries are a list in which no key occurs twice, in the order in
which their keys were first set.

* `Table.find?`, `Table.insert`, `Table.erase`, `Table.modify`, `Table.keep`;
* for each of these one lemma that says what `find?` answers afterwards, so that no proof has to
  open the list.
-/

namespace LockFleet

/-! ### Lists of entries -/

/-- The value of a key in a list of entries. -/
def lookupEntry {κ α : Type} [DecidableEq κ] (key : κ) : List (κ × α) → Option α
  | [] => none
  | (k, v) :: rest => if k = key then some v else lookupEntry key rest

/-- Sets the value of a key: in its place if the key is there, at the end otherwise. -/
def setEntry {κ α : Type} [DecidableEq κ] (key : κ) (v : α) : List (κ × α) → List (κ × α)
  | [] => [(key, v)]
  | (k, w) :: rest => if k = key then (k, v) :: rest else (k, w) :: setEntry key v rest

/-- Changes the value of a key. -/
def modifyEntry {κ α : Type} [DecidableEq κ] (key : κ) (f : α → α) (entries : List (κ × α)) :
    List (κ × α) :=
  entries.map fun e => if e.1 = key then (e.1, f e.2) else e

section Lemmas

variable {κ α : Type} [DecidableEq κ]

theorem mem_keys_setEntry {key k : κ} {v : α} {entries : List (κ × α)} :
    k ∈ (setEntry key v entries).map (·.1) ↔ k = key ∨ k ∈ entries.map (·.1) := by
  induction entries with
  | nil => simp [setEntry]
  | cons e rest ih =>
    rw [setEntry]
    split
    · next h => simp [← h]
    · rw [List.map_cons, List.mem_cons, ih, List.map_cons, List.mem_cons]
      exact or_left_comm

theorem nodup_setEntry {key : κ} {v : α} {entries : List (κ × α)}
    (h : (entries.map (·.1)).Nodup) : ((setEntry key v entries).map (·.1)).Nodup := by
  induction entries with
  | nil => simp [setEntry]
  | cons e rest ih =>
    rw [setEntry]
    have hrest := (List.nodup_cons.1 h).2
    have hhead := (List.nodup_cons.1 h).1
    split
    · exact h
    · next hne =>
      refine List.nodup_cons.2 ⟨fun hmem => ?_, ih hrest⟩
      exact (mem_keys_setEntry.1 hmem).elim hne hhead

theorem keys_modifyEntry (key : κ) (f : α → α) (entries : List (κ × α)) :
    (modifyEntry key f entries).map (·.1) = entries.map (·.1) := by
  rw [modifyEntry, List.map_map]
  refine List.map_congr_left fun e _ => ?_
  rw [Function.comp_apply]
  split <;> rfl

theorem lookupEntry_setEntry_self (key : κ) (v : α) (entries : List (κ × α)) :
    lookupEntry key (setEntry key v entries) = some v := by
  induction entries with
  | nil => simp [setEntry, lookupEntry]
  | cons e rest ih => rw [setEntry]; split <;> simp_all [lookupEntry]

theorem lookupEntry_setEntry_of_ne {key k : κ} (v : α) (h : k ≠ key) (entries : List (κ × α)) :
    lookupEntry k (setEntry key v entries) = lookupEntry k entries := by
  induction entries with
  | nil => simp [setEntry, lookupEntry, Ne.symm h]
  | cons e rest ih =>
    rw [setEntry]
    split
    · next heq => simp [lookupEntry, heq, Ne.symm h]
    · simp [lookupEntry, ih]

theorem lookupEntry_modifyEntry_self (key : κ) (f : α → α) (entries : List (κ × α)) :
    lookupEntry key (modifyEntry key f entries) = (lookupEntry key entries).map f := by
  induction entries with
  | nil => rfl
  | cons e rest ih =>
    rw [modifyEntry, List.map_cons]
    by_cases h : e.1 = key
    · simp [lookupEntry, h]
    · simpa [lookupEntry, h, modifyEntry] using ih

theorem lookupEntry_modifyEntry_of_ne {key k : κ} (f : α → α) (h : k ≠ key)
    (entries : List (κ × α)) : lookupEntry k (modifyEntry key f entries) = lookupEntry k entries := by
  induction entries with
  | nil => rfl
  | cons e rest ih =>
    rw [modifyEntry, List.map_cons]
    by_cases hk : e.1 = key
    · simpa [lookupEntry, hk, Ne.symm h, modifyEntry] using ih
    · by_cases hk' : e.1 = k
      · simp [lookupEntry, hk', h]
      · simpa [lookupEntry, hk, hk', modifyEntry] using ih

theorem lookupEntry_filter_of_pos {p : κ → Bool} {k : κ} (h : p k = true)
    (entries : List (κ × α)) :
    lookupEntry k (entries.filter fun e => p e.1) = lookupEntry k entries := by
  induction entries with
  | nil => rfl
  | cons e rest ih =>
    by_cases he : p e.1 = true
    · simp [he, lookupEntry, ih]
    · have hne : e.1 ≠ k := fun hk => he (hk ▸ h)
      simp [he, lookupEntry, ih, hne]

theorem lookupEntry_filter_of_neg {p : κ → Bool} {k : κ} (h : p k = false)
    (entries : List (κ × α)) : lookupEntry k (entries.filter fun e => p e.1) = none := by
  induction entries with
  | nil => rfl
  | cons e rest ih =>
    by_cases he : p e.1 = true
    · have hne : e.1 ≠ k := fun hk => by simp [hk, h] at he
      simp [he, lookupEntry, ih, hne]
    · simp [he, ih]

theorem mem_of_lookupEntry {k : κ} {v : α} {entries : List (κ × α)}
    (h : lookupEntry k entries = some v) : (k, v) ∈ entries := by
  induction entries with
  | nil => simp [lookupEntry] at h
  | cons e rest ih =>
    rw [lookupEntry] at h
    split at h
    · next hk => cases h; simp [← hk]
    · exact List.mem_cons_of_mem _ (ih h)

theorem lookupEntry_of_mem {k : κ} {v : α} {entries : List (κ × α)}
    (hd : (entries.map (·.1)).Nodup) (h : (k, v) ∈ entries) : lookupEntry k entries = some v := by
  induction entries with
  | nil => simp at h
  | cons e rest ih =>
    have hrest := (List.nodup_cons.1 hd).2
    rcases List.mem_cons.1 h with rfl | hmem
    · simp [lookupEntry]
    · have hne : e.1 ≠ k := fun heq =>
        (List.nodup_cons.1 hd).1 (List.mem_map.2 ⟨(k, v), hmem, heq.symm⟩)
      simp [lookupEntry, hne, ih hrest hmem]

end Lemmas

/-! ### Tables -/

/-- Entries with distinct keys. -/
structure Table (κ α : Type) where
  entries : List (κ × α)
  distinct : (entries.map (·.1)).Nodup

namespace Table

variable {κ α : Type} [DecidableEq κ]

/-- The table without entries. -/
def empty : Table κ α := ⟨[], List.nodup_nil⟩

instance : Inhabited (Table κ α) := ⟨empty⟩

/-- The value of a key. -/
def find? (t : Table κ α) (key : κ) : Option α := lookupEntry key t.entries

/-- Whether a key has a value. -/
def contains (t : Table κ α) (key : κ) : Bool := (t.find? key).isSome

def keys (t : Table κ α) : List κ := t.entries.map (·.1)

def values (t : Table κ α) : List α := t.entries.map (·.2)

/-- The number of entries. -/
def size (t : Table κ α) : Nat := t.entries.length

/-- Sets the value of a key. -/
def insert (t : Table κ α) (key : κ) (v : α) : Table κ α :=
  ⟨setEntry key v t.entries, nodup_setEntry t.distinct⟩

/-- Changes the value of a key, if it has one. -/
def modify (t : Table κ α) (key : κ) (f : α → α) : Table κ α :=
  ⟨modifyEntry key f t.entries, keys_modifyEntry key f t.entries ▸ t.distinct⟩

/-- The entries that satisfy a test. -/
def keep (t : Table κ α) (test : κ → α → Bool) : Table κ α :=
  ⟨t.entries.filter fun e => test e.1 e.2,
    t.distinct.sublist ((List.filter_sublist).map _)⟩

/-- Removes a key and its value. -/
def erase (t : Table κ α) (key : κ) : Table κ α := t.keep fun k _ => k ≠ key

/-- The table of a list of entries; of several entries of one key the last one counts. -/
def ofList (entries : List (κ × α)) : Table κ α :=
  entries.foldl (fun t e => t.insert e.1 e.2) empty

@[simp] theorem find?_empty (k : κ) : (empty : Table κ α).find? k = none := rfl

@[simp] theorem find?_insert_self (t : Table κ α) (key : κ) (v : α) :
    (t.insert key v).find? key = some v :=
  lookupEntry_setEntry_self key v t.entries

theorem find?_insert_of_ne (t : Table κ α) {key k : κ} (v : α) (h : k ≠ key) :
    (t.insert key v).find? k = t.find? k :=
  lookupEntry_setEntry_of_ne v h t.entries

@[simp] theorem find?_modify_self (t : Table κ α) (key : κ) (f : α → α) :
    (t.modify key f).find? key = (t.find? key).map f :=
  lookupEntry_modifyEntry_self key f t.entries

theorem find?_modify_of_ne (t : Table κ α) {key k : κ} (f : α → α) (h : k ≠ key) :
    (t.modify key f).find? k = t.find? k :=
  lookupEntry_modifyEntry_of_ne f h t.entries

@[simp] theorem find?_erase_self (t : Table κ α) (key : κ) : (t.erase key).find? key = none :=
  lookupEntry_filter_of_neg (p := fun k => decide (k ≠ key)) (by simp) t.entries

theorem find?_erase_of_ne (t : Table κ α) {key k : κ} (h : k ≠ key) :
    (t.erase key).find? k = t.find? k :=
  lookupEntry_filter_of_pos (p := fun k => decide (k ≠ key)) (by simpa using h) t.entries

omit [DecidableEq κ] in
theorem nodup_keys (t : Table κ α) : t.keys.Nodup := t.distinct

omit [DecidableEq κ] in
theorem length_keys (t : Table κ α) : t.keys.length = t.size := List.length_map _

theorem mem_entries_iff (t : Table κ α) (k : κ) (v : α) :
    (k, v) ∈ t.entries ↔ t.find? k = some v :=
  ⟨lookupEntry_of_mem t.distinct, mem_of_lookupEntry⟩

theorem mem_keys_iff (t : Table κ α) (k : κ) : k ∈ t.keys ↔ t.contains k = true := by
  rw [contains, Option.isSome_iff_exists, keys, List.mem_map]
  constructor
  · rintro ⟨⟨k', v⟩, hmem, rfl⟩
    exact ⟨v, (t.mem_entries_iff k' v).1 hmem⟩
  · rintro ⟨v, hv⟩
    exact ⟨(k, v), (t.mem_entries_iff k v).2 hv, rfl⟩

theorem find?_keep_eq_some_iff (t : Table κ α) (test : κ → α → Bool) (k : κ) (v : α) :
    (t.keep test).find? k = some v ↔ t.find? k = some v ∧ test k v = true := by
  rw [← mem_entries_iff, ← mem_entries_iff]
  exact List.mem_filter

end Table

end LockFleet
