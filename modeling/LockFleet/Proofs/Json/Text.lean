import LockFleet.Json.Reader

/-!
# Written text, read back

A text is written octet by octet, and what is written for one octet is read back as this octet,
whether it stands for itself or is escaped.  So a whole text is read back as it was, up to the
quotation mark that closes it.

* `Bytes.text?_ofText`, `Bytes.ofText_eq` — octets and texts;
* `Json.Escapes`, `Json.escapes` — the ways in which an octet is written;
* `Json.textOctets_escaped` — the octets of a text, by induction on them;
* `Json.text_writeText` — a whole text.
-/

namespace LockFleet

/-- The UTF-8 form of a text is the form of that text. -/
theorem Bytes.text?_ofText (s : String) : Bytes.text? (Bytes.ofText s) = some s := by
  have harray : (⟨(Bytes.ofText s).toArray⟩ : ByteArray) = s.toByteArray := by
    simp [Bytes.ofText]
  show String.fromUTF8? ⟨(Bytes.ofText s).toArray⟩ = some s
  rw [harray, String.fromUTF8?, dif_pos s.isValidUTF8]
  rfl

/-- The octets of a text are those of its characters, one character after another. -/
theorem Bytes.ofText_eq (s : String) :
    Bytes.ofText s = s.toList.flatMap String.utf8EncodeChar := by
  show s.toByteArray.data.toList = _
  rw [← String.ofList_toList (s := s), String.toByteArray_ofList, List.utf8Encode]
  simp

namespace Json

/-! ### One octet -/

/-- How an octet is written: as itself, or as an escape that is read as this octet. -/
inductive Escapes (b : UInt8) : Bytes → Prop where
  | literal (hquote : b ≠ quote) (hbackslash : b ≠ backslash) (hhigh : ¬ b < 0x20) : Escapes b [b]
  | escaped {tail : Bytes} (h : ∀ rest, escapeSequence (tail ++ rest) = .ok ([b], rest)) :
      Escapes b (backslash :: tail)

/-- The letter of a short escape stands for the octet that is written with it. -/
theorem letterEscape?_of_shortEscape? {b : UInt8} {c : Char} (h : shortEscape? b = some c) :
    letterEscape? (Bytes.ascii c) = some b := by
  unfold shortEscape? at h
  repeat' split at h
  all_goals first | (cases h; subst_vars; decide) | cases h

theorem escapeSequence_of_letter {a b : UInt8} (h : letterEscape? a = some b) (rest : Bytes) :
    escapeSequence (a :: rest) = .ok ([b], rest) := by
  rw [escapeSequence, h]

/-- Four digits spell a control octet. -/
theorem hexFour?_control : ∀ n < 32,
    hexFour? (Bytes.ascii '0') (Bytes.ascii '0') (Bytes.ascii (Bytes.hexDigit (n / 16)))
      (Bytes.ascii (Bytes.hexDigit (n % 16))) = some n := by
  decide

/-- A control octet is a character of its own. -/
theorem utf8EncodeChar_control : ∀ n < 32, String.utf8EncodeChar (Char.ofNat n) = [n.toUInt8] := by
  decide

/-- A control octet that is written by its number is read as this octet. -/
theorem escapeSequence_of_number {b : UInt8} (hb : b < 0x20) (rest : Bytes) :
    escapeSequence (Bytes.ascii 'u' :: Bytes.ascii '0' :: Bytes.ascii '0' ::
      Bytes.ascii (Bytes.hexDigit (b.toNat / 16)) :: Bytes.ascii (Bytes.hexDigit (b.toNat % 16)) ::
      rest) = .ok ([b], rest) := by
  have hlt : b.toNat < 32 := UInt8.lt_iff_toNat_lt.1 hb
  have hfour := hexFour?_control b.toNat hlt
  have hutf8 := utf8EncodeChar_control b.toNat hlt
  have hunit : codeUnit (Bytes.ascii '0' :: Bytes.ascii '0' ::
      Bytes.ascii (Bytes.hexDigit (b.toNat / 16)) :: Bytes.ascii (Bytes.hexDigit (b.toNat % 16)) ::
      rest) = .ok (b.toNat, rest) := by
    rw [codeUnit, hfour]
  -- Control octets are far below the code units that come in pairs.
  have hleading : isLeading b.toNat = false := by
    rw [isLeading, decide_eq_false_iff_not]
    omega
  have htrailing : isTrailing b.toNat = false := by
    rw [isTrailing, decide_eq_false_iff_not]
    omega
  have hchar : escapedChar (Bytes.ascii '0' :: Bytes.ascii '0' ::
      Bytes.ascii (Bytes.hexDigit (b.toNat / 16)) :: Bytes.ascii (Bytes.hexDigit (b.toNat % 16)) ::
      rest) = .ok (Char.ofNat b.toNat, rest) := by
    simp only [escapedChar, bind, StateT.bind, hunit, Except.bind, hleading, htrailing]
    rfl
  have hu : letterEscape? (Bytes.ascii 'u') = none := by decide
  rw [escapeSequence, hu]
  show (if Bytes.ascii 'u' = Bytes.ascii 'u' then _ else _) = _
  rw [if_pos rfl, hchar]
  show Except.ok (String.utf8EncodeChar (Char.ofNat b.toNat), rest) = _
  rw [hutf8]
  show Except.ok ([UInt8.ofNat b.toNat], rest) = _
  rw [UInt8.ofNat_toNat]

/-- **Every octet is written in one of these ways.** -/
theorem escapes (b : UInt8) : Escapes b (escapeOctet b) := by
  by_cases hpunct : b = quote ∨ b = backslash
  · rw [escapeOctet, if_pos hpunct]
    have hletter : letterEscape? b = some b := if_pos (hpunct.imp_right Or.inl)
    exact .escaped (escapeSequence_of_letter hletter)
  · by_cases hlow : b < 0x20
    · rw [escapeOctet, if_neg hpunct, if_pos hlow]
      cases hshort : shortEscape? b with
      | some c =>
        exact .escaped (escapeSequence_of_letter (letterEscape?_of_shortEscape? hshort))
      | none => exact .escaped (escapeSequence_of_number hlow)
    · rw [escapeOctet, if_neg hpunct, if_neg hlow]
      exact .literal (fun h => hpunct (Or.inl h)) (fun h => hpunct (Or.inr h)) hlow

/-! ### All octets -/

/-- The octets of a text are read back one after another. -/
theorem textOctets_escaped (bs rest : Bytes) : ∀ (fuel : Nat) (acc : Bytes), bs.length < fuel →
    textOctets fuel acc (bs.flatMap escapeOctet ++ quote :: rest) =
      .ok (acc.reverse ++ bs, rest) := by
  induction bs with
  | nil =>
    intro fuel acc hfuel
    obtain ⟨fuel, rfl⟩ := Nat.exists_eq_succ_of_ne_zero (Nat.ne_zero_of_lt hfuel)
    show (if quote = quote then _ else _) = _
    rw [if_pos rfl, List.append_nil]
  | cons b bs ih =>
    intro fuel acc hfuel
    obtain ⟨fuel, rfl⟩ := Nat.exists_eq_succ_of_ne_zero (Nat.ne_zero_of_lt hfuel)
    have hfuel' : bs.length < fuel := Nat.lt_of_succ_lt_succ hfuel
    have hacc : (b :: acc).reverse ++ bs = acc.reverse ++ b :: bs := by
      rw [List.reverse_cons, List.append_assoc, List.singleton_append]
    have hb := escapes b
    rw [List.flatMap_cons, List.append_assoc]
    generalize escapeOctet b = written at hb
    cases hb with
    | literal hquote hbackslash hhigh =>
      show (if b = quote then _ else if b = backslash then _ else if b < 0x20 then _ else
        textOctets fuel (b :: acc) (bs.flatMap escapeOctet ++ quote :: rest)) = _
      rw [if_neg hquote, if_neg hbackslash, if_neg hhigh, ih fuel (b :: acc) hfuel', hacc]
    | @escaped tail h =>
      have hne : ¬ backslash = quote := by decide
      show textOctets (fuel + 1) acc (backslash :: (tail ++ _)) = _
      rw [textOctets, if_neg hne, if_pos rfl, h]
      show textOctets fuel (b :: acc) (bs.flatMap escapeOctet ++ quote :: rest) = _
      rw [ih fuel (b :: acc) hfuel', hacc]

theorem length_le_escaped (bs : Bytes) : bs.length ≤ (bs.flatMap escapeOctet).length := by
  induction bs with
  | nil => exact Nat.le_refl 0
  | cons b bs ih =>
    have hpos : 1 ≤ (escapeOctet b).length := by
      have hb := escapes b
      generalize escapeOctet b = written at hb
      cases hb with
      | literal => exact Nat.le_refl 1
      | escaped => exact Nat.le_add_left 1 _
    rw [List.flatMap_cons, List.length_append, List.length_cons]
    omega

/-! ### Whole texts -/

/-- What follows the opening quotation mark of a text is read as this text. -/
theorem scanText_escaped (s : String) (rest : Bytes) :
    scanText ((Bytes.ofText s).flatMap escapeOctet ++ quote :: rest) = .ok (s, rest) := by
  have hfuel : (Bytes.ofText s).length <
      ((Bytes.ofText s).flatMap escapeOctet ++ quote :: rest).length + 1 := by
    have hlen := length_le_escaped (Bytes.ofText s)
    rw [List.length_append]
    omega
  have hoctets := textOctets_escaped (Bytes.ofText s) rest _ [] hfuel
  rw [List.reverse_nil, List.nil_append] at hoctets
  simp only [scanText, hoctets, Bytes.text?_ofText]

/-- **A written text is read back as it was**, whatever follows it. -/
theorem text_writeText (levels : Nat) (s : String) (rest : Bytes) :
    text levels (writeText s ++ rest) = .ok (s, rest) := by
  have hwritten : writeText s ++ rest =
      quote :: ((Bytes.ofText s).flatMap escapeOctet ++ quote :: rest) := by
    rw [writeText, List.append_assoc, List.cons_append, List.singleton_append]
  rw [hwritten]
  exact scanText_escaped s rest

end Json

end LockFleet
