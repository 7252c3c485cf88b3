import LockFleet.Proofs.Json.Text

/-!
# The order of texts

Texts are ordered by their characters.  Their octets are in the same order: of two characters the
smaller one has the smaller octet where their octets first differ, and they differ before either of
them ends, so that nothing that follows them matters.

* `Bytes.Precedes` — two sequences that differ before they end;
* `Bytes.precedes_utf8EncodeChar` — two characters;
* `Bytes.ofText_lt` — two texts.
-/

namespace LockFleet.Bytes

/-- Two sequences differ before either of them ends, and the first one is smaller there. -/
def Precedes : Bytes → Bytes → Prop
  | b :: bs, c :: cs => b < c ∨ b = c ∧ Precedes bs cs
  | _, _ => False

theorem precedes_cons {b c : UInt8} {bs cs : Bytes} :
    Precedes (b :: bs) (c :: cs) ↔ b < c ∨ b = c ∧ Precedes bs cs := Iff.rfl

theorem not_precedes_nil (bs : Bytes) : ¬ Precedes [] bs := id

/-- What follows them does not matter. -/
theorem Precedes.append_lt {bs cs : Bytes} (h : Precedes bs cs) (rest rest' : Bytes) :
    bs ++ rest < cs ++ rest' := by
  induction bs generalizing cs with
  | nil => exact absurd h (not_precedes_nil cs)
  | cons b bs ih =>
    cases cs with
    | nil => exact False.elim h
    | cons c cs =>
      rw [List.cons_append, List.cons_append, List.cons_lt_cons_iff]
      rcases precedes_cons.1 h with hlt | ⟨heq, htail⟩
      · exact Or.inl hlt
      · exact Or.inr ⟨heq, ih htail⟩

/-- **The octets of two characters differ before they end, and are in the order of the
characters.** -/
theorem precedes_utf8EncodeChar {a b : Char} (h : a < b) :
    Precedes (String.utf8EncodeChar a) (String.utf8EncodeChar b) := by
  have hlt : a.val.toNat < b.val.toNat := h
  have hbound : b.val.toNat < 0x110000 := by
    have hvalid := b.valid
    simp only [UInt32.isValidChar, Nat.isValidChar] at hvalid
    omega
  unfold String.utf8EncodeChar
  generalize a.val.toNat = m at *
  generalize b.val.toNat = n at *
  dsimp only
  -- Each of them has one of four forms, by its size; the larger one does not have the shorter form.
  repeat' split
  all_goals
    simp (disch := omega) only [precedes_cons, not_precedes_nil, UInt8.lt_iff_toNat_lt,
      ← UInt8.toNat_inj, UInt8.toNat_ofNat', Nat.reducePow, Nat.mod_eq_of_lt, and_false, or_false]
    omega

theorem flatMap_utf8EncodeChar_lt {cs ds : List Char} (h : cs < ds) :
    cs.flatMap String.utf8EncodeChar < ds.flatMap String.utf8EncodeChar := by
  induction h with
  | nil =>
    rename_i d ds
    obtain ⟨b, bs, hd⟩ := List.exists_cons_of_ne_nil (String.utf8EncodeChar_ne_nil (c := d))
    rw [List.flatMap_nil, List.flatMap_cons, hd]
    exact List.nil_lt_cons b _
  | rel hlt =>
    rw [List.flatMap_cons, List.flatMap_cons]
    exact (precedes_utf8EncodeChar hlt).append_lt _ _
  | cons _ ih =>
    rw [List.flatMap_cons, List.flatMap_cons]
    exact List.append_left_lt ih

/-- **Texts and their octets are in the same order.** -/
theorem ofText_lt {s t : String} (h : s < t) : ofText s < ofText t := by
  rw [ofText_eq, ofText_eq]
  exact flatMap_utf8EncodeChar_lt (String.lt_iff.1 h)

end LockFleet.Bytes
