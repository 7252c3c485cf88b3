import LockFleet.Json.Record
import LockFleet.Proofs.Json.Text
import Mathlib.Data.List.Basic

/-!
# Written words and numerals, read back

What is written for a value is followed by a comma, by the end of the list or object around it, or
by nothing.  A reader that is given what was written and any such rest gives the value back and
leaves the rest.

* `Json.Reads` — a reader reads what is written as a value, whatever follows;
* `Json.bind_apply`, `Json.of_bind` — a reader that succeeds hands over to the next one;
* `Json.appendDigits_eq` — digits whose number fits 64 bits are all kept;
* `Json.scanNumber_decimal` — the digits of a natural number, read back after its sign;
* `Json.reads_integer`, `Json.reads_flag`, `Json.reads_text`, `Json.reads_choice` — single values.
-/

namespace LockFleet.Json

variable {α β : Type}

/-- What can follow a value. -/
def Delimited (rest : Bytes) : Prop := ∀ b ∈ rest.head?, b = comma ∨ b = closeList ∨ b = closeObject

/-- A reader reads what is written as a value, whatever follows it. -/
def Reads (read : Reader α) (written : Bytes) (a : α) : Prop :=
  ∀ rest, Delimited rest → read (written ++ rest) = .ok (a, rest)

theorem delimited_nil : Delimited [] := fun _ h => by cases h

theorem delimited_comma (rest : Bytes) : Delimited (comma :: rest) := fun b h => by
  cases h
  exact Or.inl rfl

theorem delimited_closeList (rest : Bytes) : Delimited (closeList :: rest) := fun b h => by
  cases h
  exact Or.inr (Or.inl rfl)

theorem delimited_closeObject (rest : Bytes) : Delimited (closeObject :: rest) := fun b h => by
  cases h
  exact Or.inr (Or.inr rfl)

/-! ### One reader after another -/

/-- A reader that succeeds hands its result and the rest to the next one. -/
theorem bind_apply {x : Reader α} {input rest : Bytes} {a : α} (h : x input = .ok (a, rest))
    (f : α → Reader β) : (x >>= f) input = f a rest := by
  show Except.bind (x input) _ = _
  rw [h]
  rfl

/-- What two readers read one after another, each of them has read. -/
theorem of_bind {x : Reader α} {f : α → Reader β} {input rest : Bytes} {b : β}
    (h : (x >>= f) input = .ok (b, rest)) :
    ∃ a mid, x input = .ok (a, mid) ∧ f a mid = .ok (b, rest) := by
  have hbind : Except.bind (x input) (fun r => f r.1 r.2) = .ok (b, rest) := h
  cases hx : x input with
  | error e =>
    rw [hx] at hbind
    cases hbind
  | ok r =>
    rw [hx] at hbind
    exact ⟨r.1, r.2, rfl, hbind⟩

/-- What is read can be given another form. -/
theorem Reads.map {read : Reader α} {written : Bytes} {a : α} (h : Reads read written a)
    (f : α → β) : Reads (read >>= fun a => pure (f a)) written (f a) := fun rest hrest =>
  bind_apply (h rest hrest) _

theorem peek_cons {b : UInt8} (h : isSpace b = false) (rest : Bytes) :
    peek (b :: rest) = .ok (some b, b :: rest) := by
  rw [peek, List.dropWhile_cons_of_neg (by rw [h]; exact Bool.false_ne_true)]
  rfl

theorem peekValue_cons {b : UInt8} (h : isSpace b = false) (rest : Bytes) :
    peekValue (b :: rest) = .ok (b, b :: rest) :=
  bind_apply (peek_cons h rest) _

theorem advance_cons (b : UInt8) (rest : Bytes) : advance (b :: rest) = .ok ((), rest) := rfl

theorem word_append (w rest : Bytes) : word w (w ++ rest) = .ok ((), rest) := by
  induction w with
  | nil => rfl
  | cons b w ih =>
    show (if b = b then word w (w ++ rest) else _) = _
    rw [if_pos rfl, ih]

/-! ### Digits -/

/-- The octets of the decimal digits of a number. -/
def decimal (n : Nat) : Bytes := (Nat.toDigits 10 n).map Bytes.ascii

/-- A character of ASCII is one octet. -/
theorem ofText_ascii {cs : List Char} (h : ∀ c ∈ cs, c.toNat < 128) :
    Bytes.ofText (String.ofList cs) = cs.map Bytes.ascii := by
  have hone : ∀ c ∈ cs, String.utf8EncodeChar c = [Bytes.ascii c] := by
    intro c hc
    have hle : c.val.toNat ≤ 0x7f := Nat.le_of_lt_succ (h c hc)
    rw [String.utf8EncodeChar, if_pos hle]
    rfl
  rw [Bytes.ofText_eq, String.toList_ofList, List.flatMap_congr hone]
  exact List.map_eq_flatMap.symm

/-- A decimal digit is one octet, of the same value. -/
theorem isDigit_ascii {c : Char} (h : c.isDigit = true) :
    isDigit (Bytes.ascii c) = true ∧ digitValue (Bytes.ascii c) = c.toNat - '0'.toNat := by
  have hrange : 48 ≤ c.toNat ∧ c.toNat ≤ 57 := by
    rw [Char.isDigit, Bool.and_eq_true, decide_eq_true_eq, decide_eq_true_eq] at h
    exact ⟨UInt32.le_iff_toNat_le.1 h.1, UInt32.le_iff_toNat_le.1 h.2⟩
  have hoctet : (Bytes.ascii c).toNat = c.toNat := by
    show c.toNat % 256 = c.toNat
    omega
  refine ⟨decide_eq_true ⟨?_, ?_⟩, ?_⟩
  · rw [UInt8.le_iff_toNat_le, hoctet]
    exact hrange.1
  · rw [UInt8.le_iff_toNat_le, hoctet]
    exact hrange.2
  · rw [digitValue, hoctet]
    rfl

theorem isDigit_of_mem_decimal {n : Nat} {b : UInt8} (h : b ∈ decimal n) : isDigit b = true := by
  obtain ⟨c, hc, rfl⟩ := List.mem_map.1 h
  exact (isDigit_ascii (Nat.isDigit_of_mem_toDigits (by decide) (by decide) hc)).1

/-- The number that digits make up after a number. -/
def numberAfter (n : Nat) (ds : Bytes) : Nat := ds.foldl (fun n b => n * 10 + digitValue b) n

theorem le_numberAfter (ds : Bytes) (n : Nat) : n ≤ numberAfter n ds := by
  induction ds generalizing n with
  | nil => exact Nat.le_refl n
  | cons b ds ih =>
    have hstep : n ≤ n * 10 + digitValue b := by omega
    exact Nat.le_trans hstep (ih _)

/-- Digits whose number fits 64 bits are all kept. -/
theorem appendDigits_eq {ds : Bytes} {n : Nat} (h : numberAfter n ds < significandBound) :
    appendDigits n ds = (numberAfter n ds, []) := by
  induction ds generalizing n with
  | nil => rfl
  | cons b ds ih =>
    have hnext : n * 10 + digitValue b < significandBound :=
      Nat.lt_of_le_of_lt (le_numberAfter ds _) h
    show (if n * 10 + digitValue b < significandBound then appendDigits _ ds else _) = _
    rw [if_pos hnext]
    exact ih h

/-- The decimal digits of a number make up the number. -/
theorem numberAfter_decimal (n : Nat) : numberAfter 0 (decimal n) = n := by
  have hdigits : ∀ cs : List Char, (∀ c ∈ cs, c.isDigit = true) → ∀ m,
      numberAfter m (cs.map Bytes.ascii) = Nat.ofDigitChars 10 cs m := by
    intro cs
    induction cs with
    | nil => exact fun _ m => rfl
    | cons c cs ih =>
      intro h m
      have hc := (isDigit_ascii (h c List.mem_cons_self)).2
      show numberAfter (m * 10 + digitValue (Bytes.ascii c)) (cs.map Bytes.ascii) = _
      rw [hc, Nat.mul_comm, Nat.ofDigitChars_cons]
      exact ih (fun d hd => h d (List.mem_cons_of_mem _ hd)) _
  rw [decimal, hdigits _ (fun c hc => Nat.isDigit_of_mem_toDigits (by decide) (by decide) hc)]
  exact Nat.ofDigitChars_ten_toDigits

theorem digitChar_ne_zero : ∀ n < 10, 0 < n → Bytes.ascii n.digitChar ≠ 0x30 := by decide

/-- The digits of a number begin with a zero only if it is zero. -/
theorem decimal_cases (n : Nat) : (n = 0 ∧ decimal n = [0x30]) ∨
    ∃ b ds, decimal n = b :: ds ∧ b ≠ 0x30 ∧ isDigit b = true := by
  induction n using Nat.strongRecOn with
  | ind n ih =>
    rcases Nat.lt_or_ge n 10 with hlt | hge
    · have hone : decimal n = [Bytes.ascii n.digitChar] := by
        rw [decimal, Nat.toDigits_of_lt_base hlt]
        rfl
      rcases Nat.eq_zero_or_pos n with rfl | hpos
      · exact Or.inl ⟨rfl, rfl⟩
      · have hmem : Bytes.ascii n.digitChar ∈ decimal n := hone ▸ List.mem_singleton_self _
        exact Or.inr ⟨_, [], hone, digitChar_ne_zero n hlt hpos, isDigit_of_mem_decimal hmem⟩
    · have hmore : decimal n = decimal (n / 10) ++ [Bytes.ascii (n % 10).digitChar] := by
        rw [decimal, Nat.toDigits_of_base_le (by decide) hge, List.map_append]
        rfl
      have hpos : 0 < n / 10 := Nat.div_pos hge (by decide)
      rcases ih (n / 10) (Nat.div_lt_self (by omega) (by decide)) with ⟨hzero, -⟩ | ⟨b, ds, h, hb⟩
      · omega
      · exact Or.inr ⟨b, ds ++ [_], by rw [hmore, h, List.cons_append], hb⟩

/-! ### Numerals -/

theorem span_digits {ds rest : Bytes} (hds : ∀ b ∈ ds, isDigit b = true)
    (hrest : ∀ b ∈ rest.head?, isDigit b = false) :
    (ds ++ rest).takeWhile isDigit = ds ∧ (ds ++ rest).dropWhile isDigit = rest := by
  rw [List.takeWhile_append_of_pos hds, List.dropWhile_append_of_pos hds]
  cases rest with
  | nil => exact ⟨List.append_nil ds, rfl⟩
  | cons b rest =>
    have hb := hrest b rfl
    rw [List.takeWhile_cons_of_neg (by rw [hb]; exact Bool.false_ne_true),
      List.dropWhile_cons_of_neg (by rw [hb]; exact Bool.false_ne_true), List.append_nil]
    exact ⟨rfl, rfl⟩

/-- What ends a numeral is neither a digit, nor a point, nor the mark of an exponent. -/
theorem Delimited.not_numeral {rest : Bytes} (h : Delimited rest) : ∀ b ∈ rest.head?,
    isDigit b = false ∧ b ≠ Bytes.ascii '.' ∧ isExponentMark b = false := by
  intro b hb
  rcases h b hb with rfl | rfl | rfl <;> decide

theorem wholeDigits_decimal (n : Nat) {rest : Bytes} (h : Delimited rest) :
    wholeDigits (decimal n ++ rest) = .ok (decimal n, rest) := by
  have hrest : ∀ b ∈ rest.head?, isDigit b = false := fun b hb => (h.not_numeral b hb).1
  have hsplit := span_digits (fun b => isDigit_of_mem_decimal (n := n)) hrest
  rcases decimal_cases n with ⟨rfl, hzero⟩ | ⟨b, ds, hn, hb, hdigit⟩
  · rw [hzero]
    cases rest with
    | nil => rfl
    | cons c rest =>
      show (if isDigit c = true then _ else _) = _
      rw [hrest c rfl, if_neg Bool.false_ne_true]
      rfl
  · rw [hn] at hsplit ⊢
    show (if b = 0x30 then _ else if isDigit b = true then Except.ok
      ((b :: ds ++ rest).takeWhile isDigit, (b :: ds ++ rest).dropWhile isDigit) else _) = _
    rw [if_neg hb, if_pos hdigit, hsplit.1, hsplit.2]

/-- **The digits of a number that fits 64 bits are read as this number**, after its sign. -/
theorem scanNumber_decimal (negative : Bool) {n : Nat} (hn : n < significandBound) {rest : Bytes}
    (h : Delimited rest) :
    scanNumber negative (decimal n ++ rest) = .ok (wholeNumber negative n, rest) := by
  have hdigits : appendDigits 0 (decimal n) = (n, []) := by
    rw [appendDigits_eq (by rwa [numberAfter_decimal]), numberAfter_decimal]
  have hpoint : rest.head? ≠ some (Bytes.ascii '.') := fun hp => (h.not_numeral _ hp).2.1 rfl
  have hmark : rest.head?.any isExponentMark = false := by
    cases hhead : rest.head? with
    | none => rfl
    | some b => exact (h.not_numeral b hhead).2.2
  rw [scanNumber, bind_apply (wholeDigits_decimal n h), hdigits]
  show (peekHere >>= fun next => _) rest = _
  have hpeek : peekHere rest = .ok (rest.head?, rest) := rfl
  rw [bind_apply hpeek, if_neg hpoint, hmark, if_neg Bool.false_ne_true]
  rfl

/-- The whole numbers of 64 bits, with or without sign. -/
def Fits64 (n : Int) : Prop := -Int.ofNat (Nat.pow 2 63) ≤ n ∧ n < Int.ofNat (Nat.pow 2 64)

instance (n : Int) : Decidable (Fits64 n) := inferInstanceAs (Decidable (_ ∧ _))

theorem fits64_int64 (n : Int64) : Fits64 n.toInt :=
  ⟨Int.le_trans (by decide) n.minValue_le_toInt, Int.lt_of_le_of_lt n.toInt_le (by decide)⟩

theorem fits64_int32 (n : Int32) : Fits64 n.toInt :=
  ⟨Int.le_trans (by decide) n.minValue_le_toInt, Int.lt_of_le_of_lt n.toInt_le (by decide)⟩

theorem fits64_uint32 (n : UInt32) : Fits64 n.toNat :=
  ⟨Int.le_trans (by decide) (Int.natCast_nonneg _),
    Int.ofNat_lt.2 (Nat.lt_of_lt_of_le n.toNat_lt (by decide))⟩

/-- What a whole number is written as begins with a minus sign or with a digit, and is read as this
number. -/
theorem scan_whole {n : Int} (h : Fits64 n) :
    (∃ ds, (Number.whole n).write = Bytes.ascii '-' :: ds ∧ Reads (scanNumber true) ds (.whole n)) ∨
    ∃ b ds, (Number.whole n).write = b :: ds ∧ isDigit b = true ∧
      Reads (scanNumber false) (b :: ds) (.whole n) := by
  have hwritten : ∀ m : Nat, Bytes.ofText m.repr = decimal m := by
    intro m
    rw [Nat.repr_eq_ofList_toDigits]
    refine ofText_ascii fun c hc => ?_
    have hdigit := Nat.isDigit_of_mem_toDigits (b := 10) (by decide) (by decide) hc
    rw [Char.isDigit, Bool.and_eq_true, decide_eq_true_eq, decide_eq_true_eq] at hdigit
    exact Nat.lt_of_le_of_lt (UInt32.le_iff_toNat_le.1 hdigit.2) (by decide)
  have hpow : significandBound = Nat.pow 2 64 := rfl
  obtain ⟨hlow, hhigh⟩ := h
  cases n with
  | ofNat m =>
    have hm : m < significandBound := Int.ofNat_lt.1 hhigh
    have hwrite : (Number.whole (Int.ofNat m)).write = decimal m := hwritten m
    rw [hwrite]
    have hread : Reads (scanNumber false) (decimal m) (.whole (Int.ofNat m)) :=
      fun rest hrest => scanNumber_decimal false hm hrest
    right
    rcases decimal_cases m with ⟨-, hzero⟩ | ⟨b, ds, hds, -, hdigit⟩
    · rw [hzero] at hread ⊢
      exact ⟨_, [], rfl, by decide, hread⟩
    · rw [hds] at hread ⊢
      exact ⟨b, ds, rfl, hdigit, hread⟩
  | negSucc m =>
    have hm : m + 1 ≤ Nat.pow 2 63 := by
      rw [Int.negSucc_eq] at hlow
      have hle := Int.neg_le_neg_iff.1 hlow
      exact Int.ofNat_le.1 hle
    have hbound : m + 1 < significandBound :=
      Nat.lt_of_le_of_lt hm (by rw [hpow]; decide)
    have hwrite : (Number.whole (Int.negSucc m)).write = Bytes.ascii '-' :: decimal (m + 1) := by
      show Bytes.ofText ("-" ++ Nat.repr (m + 1)) = _
      rw [← hwritten (m + 1)]
      show ("-" ++ Nat.repr (m + 1)).toByteArray.data.toList = _
      rw [String.toByteArray_append]
      simp
      rfl
    refine Or.inl ⟨_, hwrite, fun rest hrest => ?_⟩
    have hwhole : wholeNumber true (m + 1) = .whole (Int.negSucc m) := by
      show (if m + 1 = 0 ∨ Nat.pow 2 63 < m + 1 then _ else _) = _
      rw [if_neg (by omega)]
      rfl
    rw [scanNumber_decimal true hbound hrest, hwhole]

/-! ### Single values -/

/-- A minus sign and digits are no white space and are none of the other marks that begin a
value. -/
theorem isSpace_of_isDigit {b : UInt8} (h : isDigit b = true) : isSpace b = false := by
  rw [isSpace, decide_eq_false_iff_not]
  rintro (rfl | rfl | rfl | rfl) <;> revert h <;> decide

/-- A whole number is converted as it was written. -/
theorem numberOf_whole {n : Int} (h : Fits64 n) (expected : String) (convert : Number → Reader α)
    {rest : Bytes} (hrest : Delimited rest) :
    numberOf expected convert ((Number.whole n).write ++ rest) = convert (.whole n) rest := by
  rcases scan_whole h with ⟨ds, hwrite, hscan⟩ | ⟨b, ds, hwrite, hdigit, hscan⟩
  · rw [hwrite, List.cons_append, numberOf, bind_apply (peekValue_cons (by decide) _), if_pos rfl,
      bind_apply (advance_cons _ _), bind_apply (hscan rest hrest)]
  · have hminus : b ≠ Bytes.ascii '-' := by
      rintro rfl
      revert hdigit
      decide
    rw [hwrite, List.cons_append, numberOf,
      bind_apply (peekValue_cons (isSpace_of_isDigit hdigit) _), if_neg hminus,
      if_pos hdigit, ← List.cons_append, bind_apply (hscan rest hrest)]

theorem reads_integer {n low high : Int} (h : Fits64 n) (hn : low ≤ n ∧ n ≤ high)
    (expected : String) : Reads (integer expected low high) (Value.int n).write n := by
  intro rest hrest
  show numberOf expected _ ((Number.whole n).write ++ rest) = _
  rw [numberOf_whole h expected _ hrest]
  show (if low ≤ n ∧ n ≤ high then (pure n : Reader Int) else _) rest = _
  rw [if_pos hn]
  rfl

theorem reads_int64 (levels : Nat) (n : Int64) : Reads (int64 levels) (ofInt64 n).write n := by
  intro rest hrest
  have hn : Int64.minValue.toInt ≤ n.toInt ∧ n.toInt ≤ Int64.maxValue.toInt :=
    ⟨n.minValue_le_toInt, n.toInt_le⟩
  have hread := reads_integer (fits64_int64 n) hn "i64" rest hrest
  show (integer "i64" _ _ >>= _) ((Value.int n.toInt).write ++ rest) = _
  rw [bind_apply hread, Int64.ofInt_toInt]
  rfl

theorem reads_int32 (levels : Nat) (n : Int32) : Reads (int32 levels) (ofInt32 n).write n := by
  intro rest hrest
  have hn : Int32.minValue.toInt ≤ n.toInt ∧ n.toInt ≤ Int32.maxValue.toInt :=
    ⟨n.minValue_le_toInt, n.toInt_le⟩
  have hread := reads_integer (fits64_int32 n) hn "i32" rest hrest
  show (integer "i32" _ _ >>= _) ((Value.int n.toInt).write ++ rest) = _
  rw [bind_apply hread, Int32.ofInt_toInt]
  rfl

theorem reads_uint32 (levels : Nat) (n : UInt32) :
    Reads (uint32 levels) (ofUInt32 n).write n := by
  intro rest hrest
  have hlt : n.toNat < UInt32.size := n.toNat_lt
  have hn : (0 : Int) ≤ n.toNat ∧ (n.toNat : Int) ≤ (UInt32.size : Int) - 1 := by omega
  have hread := reads_integer (fits64_uint32 n) hn "u32" rest hrest
  show (integer "u32" _ _ >>= _) ((Value.int n.toNat).write ++ rest) = _
  rw [bind_apply hread, Int.toNat_natCast, UInt32.ofNat_toNat]
  rfl

theorem reads_flag (levels : Nat) (b : Bool) : Reads (flag levels) (Value.flag b).write b := by
  intro rest hrest
  cases b with
  | true =>
    show flag levels (Bytes.ofText "true" ++ rest) = _
    have hword : word (Bytes.ofText "true") (Bytes.ofText "true" ++ rest) = .ok ((), rest) :=
      word_append _ _
    have hpeek : peekValue (Bytes.ofText "true" ++ rest) =
        .ok (Bytes.ascii 't', Bytes.ofText "true" ++ rest) := peekValue_cons (by decide) _
    rw [flag, bind_apply hpeek, if_pos rfl, bind_apply hword]
    rfl
  | false =>
    show flag levels (Bytes.ofText "false" ++ rest) = _
    have hword : word (Bytes.ofText "false") (Bytes.ofText "false" ++ rest) = .ok ((), rest) :=
      word_append _ _
    have hpeek : peekValue (Bytes.ofText "false" ++ rest) =
        .ok (Bytes.ascii 'f', Bytes.ofText "false" ++ rest) := peekValue_cons (by decide) _
    rw [flag, bind_apply hpeek, if_neg (by decide), if_pos rfl, bind_apply hword]
    rfl

theorem reads_text (levels : Nat) (s : String) : Reads (text levels) (Value.text s).write s :=
  fun rest _ => text_writeText levels s rest

/-- A name that is allowed is read as what it means. -/
theorem reads_choice {choices : List (String × α)} {name : String} {a : α}
    (h : findEntry? name choices = some a) (levels : Nat) :
    Reads (choice choices levels) (Value.text name).write a := by
  intro rest hrest
  have hwritten : (Value.text name).write ++ rest =
      quote :: ((Bytes.ofText name).flatMap escapeOctet ++ quote :: rest) := by
    show quote :: _ ++ [quote] ++ rest = _
    rw [List.append_assoc, List.cons_append, List.singleton_append]
  have hchoose : choose choices name rest = .ok (a, rest) := by
    rw [choose, h]
    rfl
  rw [hwritten, choice, bind_apply (peekValue_cons (by decide) _), if_pos rfl,
    bind_apply (advance_cons _ _), bind_apply (scanText_escaped name rest), hchoose]

end LockFleet.Json
