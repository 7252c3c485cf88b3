import LockFleet.Binary64.Basic

/-!
# JSON values

A value is what a free-form part of a message holds.  A number without fraction that fits 64 bits
is a whole number, any other a double-precision number.  The members of an object are kept in
increasing order of their keys.

* `Json.Value`: null, flags, numbers, text, lists and objects;
* `Json.insertEntry`: sets a member, replacing an earlier one of the same key;
* `Json.Object`: the members of an object with the proof that their keys increase.
-/

namespace LockFleet.Json

/-- A number of a JSON text. -/
inductive Number where
  /-- A whole number of 64 bits, with or without sign. -/
  | whole (n : Int)
  /-- Any other number. -/
  | float (x : Binary64)
  deriving DecidableEq, Repr

/-- A JSON value. -/
inductive Value where
  | null
  | flag (b : Bool)
  | number (n : Number)
  | text (s : String)
  | list (items : List Value)
  | object (entries : List (String × Value))
  deriving Repr, Inhabited

/-- A whole number as a value. -/
def Value.int (n : Int) : Value := .number (.whole n)

/-- A natural number as a value. -/
def Value.nat (n : Nat) : Value := .number (.whole n)

/-- A double-precision number as a value; one that is not finite has no numeral and becomes null. -/
def Value.ofFloat (x : Binary64) : Value :=
  if x.isFinite then .number (.float x) else .null

/-- The value, or null. -/
def Value.ofOption : Option Value → Value
  | none => .null
  | some v => v

def Value.text? : Value → Option String
  | .text s => some s
  | _ => none

/-! ### Members in order of their keys -/

/-- Sets the member of a key in a list with increasing keys. -/
def insertEntry {α : Type} (key : String) (v : α) : List (String × α) → List (String × α)
  | [] => [(key, v)]
  | (k, w) :: rest =>
    if key < k then (key, v) :: (k, w) :: rest
    else if key = k then (key, v) :: rest
    else (k, w) :: insertEntry key v rest

/-- The members in order of their keys; of several members of one key the last one counts. -/
def sortEntries {α : Type} (entries : List (String × α)) : List (String × α) :=
  entries.foldl (fun es e => insertEntry e.1 e.2 es) []

/-- The value of a key. -/
def findEntry? {α : Type} (key : String) (entries : List (String × α)) : Option α :=
  (entries.find? (·.1 = key)).map (·.2)

/-- Keys in strictly increasing order. -/
def Increasing {α : Type} (entries : List (String × α)) : Prop :=
  entries.Pairwise (·.1 < ·.1)

theorem mem_insertEntry {α : Type} {key : String} {v : α} {entries : List (String × α)}
    {e : String × α} (h : e ∈ insertEntry key v entries) : e = (key, v) ∨ e ∈ entries := by
  induction entries with
  | nil => simpa [insertEntry] using h
  | cons head rest ih =>
    rw [insertEntry] at h
    split at h
    · simpa using h
    · split at h
      · simp only [List.mem_cons] at h ⊢
        exact h.imp_right .inr
      · simp only [List.mem_cons] at h ⊢
        rcases h with rfl | h
        · exact .inr (.inl rfl)
        · exact (ih h).imp_right .inr

theorem increasing_insertEntry {α : Type} (key : String) (v : α) {entries : List (String × α)}
    (h : Increasing entries) : Increasing (insertEntry key v entries) := by
  induction entries with
  | nil => simp [insertEntry, Increasing]
  | cons head rest ih =>
    obtain ⟨k, w⟩ := head
    have hrest : Increasing rest := h.tail
    have hhead : ∀ e ∈ rest, k < e.1 := fun e he => List.rel_of_pairwise_cons h he
    rw [insertEntry]
    split
    · next hlt =>
      refine List.pairwise_cons.2 ⟨fun e he => ?_, h⟩
      rcases List.mem_cons.1 he with rfl | he
      · exact hlt
      · exact String.lt_trans hlt (hhead e he)
    · next hlt =>
      split
      · next heq => exact List.pairwise_cons.2 ⟨fun e he => heq ▸ hhead e he, hrest⟩
      · next hne =>
        refine List.pairwise_cons.2 ⟨fun e he => ?_, ih hrest⟩
        rcases mem_insertEntry he with rfl | he
        · exact Std.lt_of_le_of_ne (String.not_lt.1 hlt) (Ne.symm hne)
        · exact hhead e he

theorem increasing_sortEntries {α : Type} (entries : List (String × α)) :
    Increasing (sortEntries entries) := by
  suffices h : ∀ (es acc : List (String × α)), Increasing acc →
      Increasing (es.foldl (fun es e => insertEntry e.1 e.2 es) acc) from
    h entries [] List.Pairwise.nil
  intro es
  induction es with
  | nil => exact fun _ h => h
  | cons e es ih => exact fun acc h => ih _ (increasing_insertEntry e.1 e.2 h)

/-! ### Objects -/

/-- The members of an object, their keys increasing. -/
structure Object where
  entries : List (String × Value)
  increasing : Increasing entries

namespace Object

/-- The object without members. -/
def empty : Object := ⟨[], List.Pairwise.nil⟩

instance : Inhabited Object := ⟨empty⟩

/-- The object of the given members; of several members of one key the last one counts. -/
def ofEntries (entries : List (String × Value)) : Object :=
  ⟨sortEntries entries, increasing_sortEntries entries⟩

/-- Sets a member. -/
def insert (o : Object) (key : String) (v : Value) : Object :=
  ⟨insertEntry key v o.entries, increasing_insertEntry key v o.increasing⟩

def find? (o : Object) (key : String) : Option Value := findEntry? key o.entries

/-- Whether the object has no members. -/
def isEmpty (o : Object) : Bool := o.entries.isEmpty

def toValue (o : Object) : Value := .object o.entries

end Object

end LockFleet.Json
