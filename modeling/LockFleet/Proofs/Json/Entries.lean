import LockFleet.Json.Value
import Mathlib.Data.List.Nodup

/-!
# Members by their keys

The members of an object are kept in increasing order of their keys, so that a look at each key
tells all there is to an object: two objects with the same value under every key are one.

* `Json.sortEntries_of_increasing`, `Json.perm_sortEntries` — members in order of their keys;
* `Json.findEntry?_insertEntry` — the value of a key after one has been set;
* `Json.Increasing.ext`, `Json.Object.ext_find?` — one object for one value under each key.
-/

namespace LockFleet.Json

variable {α : Type}

/-! ### Members in order of their keys -/

/-- A key above all others goes to the end. -/
theorem insertEntry_last {key : String} {v : α} {entries : List (String × α)}
    (h : ∀ e ∈ entries, e.1 < key) : insertEntry key v entries = entries ++ [(key, v)] := by
  induction entries with
  | nil => rfl
  | cons head rest ih =>
    have hhead : head.1 < key := h head List.mem_cons_self
    have hnot : ¬ key < head.1 := fun hlt => String.lt_irrefl key (String.lt_trans hlt hhead)
    have hne : key ≠ head.1 := fun heq => String.lt_irrefl key (heq ▸ hhead)
    rw [insertEntry, if_neg hnot, if_neg hne,
      ih fun e he => h e (List.mem_cons_of_mem _ he)]
    rfl

/-- Members in order of their keys stay as they are. -/
theorem sortEntries_of_increasing {entries : List (String × α)} (h : Increasing entries) :
    sortEntries entries = entries := by
  have hfold : ∀ es acc : List (String × α), Increasing (acc ++ es) →
      es.foldl (fun es e => insertEntry e.1 e.2 es) acc = acc ++ es := by
    intro es
    induction es with
    | nil => exact fun acc _ => (List.append_nil acc).symm
    | cons e es ih =>
      intro acc hacc
      have hlast : insertEntry e.1 e.2 acc = acc ++ [e] :=
        insertEntry_last fun e' he' =>
          (List.pairwise_append.1 hacc).2.2 e' he' e List.mem_cons_self
      rw [List.foldl_cons, hlast, ih _ (by rwa [List.append_assoc]), List.append_assoc]
      rfl
  exact hfold entries [] h

theorem perm_insertEntry {key : String} {v : α} {entries : List (String × α)}
    (h : key ∉ entries.map Prod.fst) : (insertEntry key v entries).Perm ((key, v) :: entries) := by
  induction entries with
  | nil => exact .refl _
  | cons head rest ih =>
    have hne : key ≠ head.1 := fun heq => h (heq ▸ List.mem_cons_self)
    rw [insertEntry, if_neg hne]
    split
    · exact .refl _
    · have hrest := ih fun hmem => h (List.mem_cons_of_mem _ hmem)
      exact (hrest.cons head).trans (.swap _ _ _)

/-- Members with distinct keys are all kept when they are put in order. -/
theorem perm_sortEntries {entries : List (String × α)} (h : (entries.map Prod.fst).Nodup) :
    (sortEntries entries).Perm entries := by
  have hfold : ∀ es acc : List (String × α), ((acc ++ es).map Prod.fst).Nodup →
      (es.foldl (fun es e => insertEntry e.1 e.2 es) acc).Perm (acc ++ es) := by
    intro es
    induction es with
    | nil =>
      intro acc _
      rw [List.append_nil]
      exact .refl _
    | cons e es ih =>
      intro acc hacc
      have hmiddle : (e :: acc ++ es).Perm (acc ++ e :: es) := List.perm_middle.symm
      have hnodup : ((e :: acc ++ es).map Prod.fst).Nodup := (hmiddle.map _).nodup_iff.2 hacc
      have hnew : e.1 ∉ acc.map Prod.fst := by
        rw [List.cons_append, List.map_cons, List.nodup_cons, List.map_append, List.mem_append]
          at hnodup
        exact fun hmem => hnodup.1 (Or.inl hmem)
      have hinsert : (insertEntry e.1 e.2 acc ++ es).Perm (e :: acc ++ es) :=
        (perm_insertEntry hnew).append_right es
      rw [List.foldl_cons]
      exact (ih _ ((hinsert.map _).nodup_iff.2 hnodup)).trans (hinsert.trans hmiddle)
  exact hfold entries [] h

/-! ### Looking a key up -/

theorem findEntry?_nil (key : String) : findEntry? key ([] : List (String × α)) = none := rfl

theorem findEntry?_cons (key : String) (e : String × α) (rest : List (String × α)) :
    findEntry? key (e :: rest) = if e.1 = key then some e.2 else findEntry? key rest := by
  by_cases h : e.1 = key
  · simp [h, findEntry?]
  · simp [h, findEntry?]

/-- **The key that is set has its new value, and every other key has the value that it had.** -/
theorem findEntry?_insertEntry (key k : String) (v : α) (entries : List (String × α)) :
    findEntry? k (insertEntry key v entries) =
      if key = k then some v else findEntry? k entries := by
  induction entries with
  | nil => exact findEntry?_cons k (key, v) []
  | cons e rest ih =>
    rw [insertEntry]
    split
    · exact findEntry?_cons k (key, v) (e :: rest)
    · split
      · next heq =>
        rw [findEntry?_cons, findEntry?_cons, ← heq]
        by_cases hk : key = k
        · rw [if_pos hk, if_pos hk]
        · rw [if_neg hk, if_neg hk, if_neg hk]
      · next hne =>
        rw [findEntry?_cons, ih, findEntry?_cons]
        by_cases hk : e.1 = k
        · rw [if_pos hk, if_pos hk, if_neg fun h => hne (h.trans hk.symm)]
        · rw [if_neg hk, if_neg hk]

/-- The members of increasing keys are the values that are found under them. -/
theorem Increasing.mem_iff {entries : List (String × α)} (h : Increasing entries) {key : String}
    {v : α} : (key, v) ∈ entries ↔ findEntry? key entries = some v := by
  induction entries with
  | nil => simp [findEntry?_nil]
  | cons e rest ih =>
    obtain ⟨hhead, hrest⟩ := List.pairwise_cons.1 h
    rw [findEntry?_cons, List.mem_cons]
    by_cases hk : e.1 = key
    · have hnot : (key, v) ∉ rest := by
        intro hmem
        have hlt : e.1 < key := hhead (key, v) hmem
        rw [hk] at hlt
        exact String.lt_irrefl key hlt
      rw [if_pos hk, or_iff_left hnot, Option.some.injEq, Prod.ext_iff]
      exact ⟨fun heq => heq.2.symm, fun heq => ⟨hk.symm, heq.symm⟩⟩
    · have hne : (key, v) ≠ e := fun heq => hk (congrArg Prod.fst heq).symm
      rw [if_neg hk, or_iff_right hne, ih hrest]

theorem Increasing.nodup {entries : List (String × α)} (h : Increasing entries) :
    (entries.map Prod.fst).Nodup := by
  rw [List.Nodup, List.pairwise_map]
  refine h.imp ?_
  intro a b hlt heq
  rw [heq] at hlt
  exact String.lt_irrefl b.1 hlt

/-- **Members of increasing keys are one list if they have the same value under each key.** -/
theorem Increasing.ext {es es' : List (String × α)} (h : Increasing es) (h' : Increasing es')
    (hfind : ∀ key, findEntry? key es = findEntry? key es') : es = es' := by
  have hperm : es.Perm es' := by
    rw [List.perm_ext_iff_of_nodup h.nodup.of_map h'.nodup.of_map]
    intro e
    rw [h.mem_iff, hfind, h'.mem_iff]
  refine hperm.eq_of_pairwise (fun a b _ _ hab hba => ?_) h h'
  exact absurd (String.lt_trans hab hba) (String.lt_irrefl a.1)

namespace Object

variable {o o' : Object}

theorem find?_insert (o : Object) (key k : String) (v : Value) :
    (o.insert key v).find? k = if key = k then some v else o.find? k :=
  findEntry?_insertEntry key k v o.entries

theorem ext_find? (h : ∀ key, o.find? key = o'.find? key) : o = o' := by
  have hentries : o.entries = o'.entries := o.increasing.ext o'.increasing h
  cases o
  cases o'
  cases hentries
  rfl

theorem isEmpty_iff : o.isEmpty = true ↔ ∀ key, o.find? key = none := by
  rw [isEmpty, List.isEmpty_iff]
  constructor
  · intro h key
    rw [find?, h]
    rfl
  · intro h
    refine o.increasing.ext List.Pairwise.nil fun key => ?_
    exact h key

end Object

end LockFleet.Json
