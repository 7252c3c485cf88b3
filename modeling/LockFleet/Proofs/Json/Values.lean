import LockFleet.Proofs.Json.Entries
import LockFleet.Proofs.Json.Reading

/-!
# Written values, read back

A value is read back as it was, provided that no number in it has a fraction and that no more levels
are nested in it than may be opened.  The induction is on the levels that may be opened: the items
of a list and the members of an object are read with one level less.

* `Json.Value.Exact` — the values without fractions;
* `Json.reads_optional` — a value that may be left out;
* `Json.Value.depth` — how many levels are nested in a value;
* `Json.itemsOf_separated`, `Json.membersOf_separated` — items and members, one after another;
* `Json.reads_value`, `Json.reads_object` — values and free-form objects of any form.
-/

namespace LockFleet.Json

variable {α : Type}

/-! ### Values without fractions -/

/-- A value that can be built, without a number that has a fraction: whole numbers fit 64 bits, and
the keys of objects increase. -/
inductive Value.Exact : Value → Prop where
  | null : Exact .null
  | flag (b : Bool) : Exact (.flag b)
  | whole {n : Int} (fits : Fits64 n) : Exact (.number (.whole n))
  | text (s : String) : Exact (.text s)
  | list {items : List Value} (inside : ∀ v ∈ items, Exact v) : Exact (.list items)
  | object {entries : List (String × Value)} (increasing : Increasing entries)
      (inside : ∀ e ∈ entries, Exact e.2) : Exact (.object entries)

mutual

/-- How many levels of lists and objects are nested in a value. -/
def Value.depth : Value → Nat
  | .list items => depthOfAll items + 1
  | .object entries => depthOfEntries entries + 1
  | _ => 0

/-- The depth of the deepest of several values. -/
def depthOfAll : List Value → Nat
  | [] => 0
  | v :: rest => max v.depth (depthOfAll rest)

/-- The depth of the deepest of several members. -/
def depthOfEntries : List (String × Value) → Nat
  | [] => 0
  | (_, v) :: rest => max v.depth (depthOfEntries rest)

end

theorem depth_le_depthOfAll {v : Value} {items : List Value} (h : v ∈ items) :
    v.depth ≤ depthOfAll items := by
  induction items with
  | nil => cases h
  | cons w rest ih =>
    rw [depthOfAll]
    rcases List.mem_cons.1 h with rfl | h
    · exact Nat.le_max_left _ _
    · exact Nat.le_trans (ih h) (Nat.le_max_right _ _)

theorem depth_le_depthOfEntries {e : String × Value} {entries : List (String × Value)}
    (h : e ∈ entries) : e.2.depth ≤ depthOfEntries entries := by
  induction entries with
  | nil => cases h
  | cons f rest ih =>
    rw [depthOfEntries]
    rcases List.mem_cons.1 h with rfl | h
    · exact Nat.le_max_left _ _
    · exact Nat.le_trans (ih h) (Nat.le_max_right _ _)

theorem writeAll_eq (items : List Value) : writeAll items = items.map Value.write := by
  induction items with
  | nil => rfl
  | cons v rest ih => rw [writeAll, ih, List.map_cons]

theorem writeEntries_eq (entries : List (String × Value)) :
    writeEntries entries = entries.map fun e => (e.1, e.2.write) := by
  induction entries with
  | nil => rfl
  | cons e rest ih => rw [writeEntries, ih, List.map_cons]

/-! ### How written values begin -/

/-- A written value begins with a mark of its own, which is no white space and closes no list. -/
def Begins (written : Bytes) : Prop :=
  ∃ b tail, written = b :: tail ∧ isSpace b = false ∧ b ≠ closeList

/-- Only null begins as null does. -/
theorem Value.Exact.first_octet {v : Value} (h : v.Exact) :
    ∃ b tail, v.write = b :: tail ∧ isSpace b = false ∧ b ≠ closeList ∧
      (v ≠ .null → b ≠ Bytes.ascii 'n') := by
  cases h with
  | null => exact ⟨_, _, rfl, by decide, by decide, fun hnull => absurd rfl hnull⟩
  | flag b => cases b <;> exact ⟨_, _, rfl, by decide, by decide, fun _ => by decide⟩
  | text s => exact ⟨_, _, rfl, by decide, by decide, fun _ => by decide⟩
  | list => exact ⟨_, _, rfl, by decide, by decide, fun _ => by decide⟩
  | object => exact ⟨_, _, rfl, by decide, by decide, fun _ => by decide⟩
  | whole fits =>
    rcases scan_whole fits with ⟨ds, hwrite, -⟩ | ⟨b, ds, hwrite, hdigit, -⟩
    · exact ⟨_, _, hwrite, by decide, by decide, fun _ => by decide⟩
    · refine ⟨_, _, hwrite, isSpace_of_isDigit hdigit, ?_, fun _ => ?_⟩ <;>
        · rintro rfl
          revert hdigit
          decide

theorem Value.Exact.begins {v : Value} (h : v.Exact) : Begins v.write := by
  obtain ⟨b, tail, hwrite, hspace, hclose, -⟩ := h.first_octet
  exact ⟨b, tail, hwrite, hspace, hclose⟩

/-- A value that is there is read where it may be left out, if it is not null. -/
theorem reads_optional {read : Leveled α} {levels : Nat} {v : Value} {a : α}
    (h : Reads (read levels) v.write a) (hexact : v.Exact) (hnull : v ≠ .null) :
    Reads (optional read levels) v.write (some a) := by
  intro rest hrest
  have hread := h rest hrest
  obtain ⟨b, tail, hwrite, hspace, -, hb⟩ := hexact.first_octet
  rw [hwrite, List.cons_append] at hread ⊢
  rw [optional, bind_apply (peek_cons hspace _),
    if_neg (fun heq => hb hnull (Option.some.inj heq)), bind_apply hread]
  rfl

/-! ### Items of a list -/

/-- Items after the first one, each with a comma before it. -/
theorem separated_cons (item : Bytes) (rest : List Bytes) :
    separated (item :: rest) = item ++ rest.flatMap (comma :: ·) := by
  induction rest generalizing item with
  | nil => exact (List.append_nil item).symm
  | cons next rest ih =>
    rw [separated, ih, List.flatMap_cons, List.cons_append]
    · exact List.cons_ne_nil next rest

/-- There are no more items than octets, one more for the end counted. -/
theorem length_le_separated (items : List Bytes) :
    items.length ≤ (separated items).length + 1 := by
  induction items with
  | nil => exact Nat.le_add_left 0 _
  | cons item rest ih =>
    cases rest with
    | nil => exact Nat.le_add_left 1 _
    | cons next rest =>
      rw [separated, List.length_append, List.length_cons, List.length_cons (a := comma)]
      · omega
      · exact List.cons_ne_nil next rest

section Items

variable {read : Reader α} {write : α → Bytes} {rest : Bytes}

theorem anotherItem_end (first : Bool) :
    anotherItem first (closeList :: rest) = .ok (false, closeList :: rest) := by
  rw [anotherItem, bind_apply (peek_cons (by decide) _)]
  rfl

theorem anotherItem_first {written : Bytes} (h : Begins written) :
    anotherItem true (written ++ rest) = .ok (true, written ++ rest) := by
  obtain ⟨b, tail, rfl, hspace, hclose⟩ := h
  rw [anotherItem, List.cons_append, bind_apply (peek_cons hspace _)]
  dsimp only
  rw [if_neg hclose]
  rfl

theorem anotherItem_next {written : Bytes} (h : Begins written) :
    anotherItem false (comma :: (written ++ rest)) = .ok (true, written ++ rest) := by
  obtain ⟨b, tail, rfl, hspace, hclose⟩ := h
  rw [anotherItem, bind_apply (peek_cons (by decide) _)]
  show (advance >>= fun _ => _) (comma :: (b :: (tail ++ rest))) = _
  rw [bind_apply (advance_cons _ _), bind_apply (peek_cons hspace _)]
  dsimp only
  rw [if_neg hclose]
  rfl

theorem closing_cons {close : UInt8} (h : isSpace close = false) :
    closing close (close :: rest) = .ok ((), rest) := by
  rw [closing, bind_apply (peek_cons h _)]
  dsimp only
  rw [if_pos rfl, advance_cons]

/-- What follows an item of a list is a comma or the end of the list. -/
theorem delimited_items (items : List Bytes) :
    Delimited (items.flatMap (comma :: ·) ++ closeList :: rest) := by
  cases items with
  | nil => exact delimited_closeList rest
  | cons item items => exact delimited_comma _

theorem itemsUntilEnd_separated {items : List α} (hread : ∀ a ∈ items, Reads read (write a) a)
    (hbegins : ∀ a ∈ items, Begins (write a)) : ∀ (fuel : Nat) (acc : List α),
    items.length < fuel → itemsUntilEnd read fuel false acc
      ((items.map write).flatMap (comma :: ·) ++ closeList :: rest) =
        .ok (acc.reverse ++ items, rest) := by
  induction items with
  | nil =>
    intro fuel acc hfuel
    obtain ⟨fuel, rfl⟩ := Nat.exists_eq_succ_of_ne_zero (Nat.ne_zero_of_lt hfuel)
    show itemsUntilEnd read (fuel + 1) false acc (closeList :: rest) = _
    rw [itemsUntilEnd, bind_apply (anotherItem_end false)]
    show (closing closeList >>= _) (closeList :: rest) = _
    rw [bind_apply (closing_cons (by decide)), List.append_nil]
    rfl
  | cons a items ih =>
    intro fuel acc hfuel
    obtain ⟨fuel, rfl⟩ := Nat.exists_eq_succ_of_ne_zero (Nat.ne_zero_of_lt hfuel)
    have hitem := hread a List.mem_cons_self
    have hrest := ih (fun b hb => hread b (List.mem_cons_of_mem _ hb))
      (fun b hb => hbegins b (List.mem_cons_of_mem _ hb)) fuel (a :: acc)
      (Nat.lt_of_succ_lt_succ hfuel)
    rw [List.map_cons, List.flatMap_cons, List.cons_append, List.cons_append, List.append_assoc,
      itemsUntilEnd, bind_apply (anotherItem_next (hbegins a List.mem_cons_self))]
    show (read >>= fun v => itemsUntilEnd read fuel false (v :: acc)) _ = _
    rw [bind_apply (hitem _ (delimited_items _)), hrest, List.reverse_cons, List.append_assoc]
    rfl

/-- **The items of a list are read back one after another.** -/
theorem itemsOf_separated {items : List α} (hread : ∀ a ∈ items, Reads read (write a) a)
    (hbegins : ∀ a ∈ items, Begins (write a)) :
    itemsOf read (separated (items.map write) ++ closeList :: rest) = .ok (items, rest) := by
  rw [itemsOf]
  show itemsUntilEnd read _ true [] _ = _
  cases items with
  | nil =>
    show itemsUntilEnd read _ true [] (closeList :: rest) = _
    rw [itemsUntilEnd, bind_apply (anotherItem_end true)]
    show (closing closeList >>= _) (closeList :: rest) = _
    rw [bind_apply (closing_cons (by decide))]
    rfl
  | cons a items =>
    have hitem := hread a List.mem_cons_self
    have hfuel : items.length <
        (separated ((a :: items).map write) ++ closeList :: rest).length := by
      have hlen := length_le_separated ((a :: items).map write)
      rw [List.length_map, List.length_cons] at hlen
      rw [List.length_append, List.length_cons]
      omega
    rw [itemsUntilEnd]
    generalize (separated ((a :: items).map write) ++ closeList :: rest).length = fuel at hfuel ⊢
    rw [List.map_cons, separated_cons, List.append_assoc,
      bind_apply (anotherItem_first (hbegins a List.mem_cons_self))]
    show (read >>= fun v => itemsUntilEnd read fuel false [v]) _ = _
    rw [bind_apply (hitem _ (delimited_items _)),
      itemsUntilEnd_separated (fun b hb => hread b (List.mem_cons_of_mem _ hb))
        (fun b hb => hbegins b (List.mem_cons_of_mem _ hb)) fuel [a] hfuel]
    rfl

end Items

/-! ### Members of an object -/

/-- What is written for a text, with its quotation marks apart. -/
theorem writeText_append (s : String) (rest : Bytes) : writeText s ++ rest =
    quote :: ((Bytes.ofText s).flatMap escapeOctet ++ quote :: rest) := by
  rw [writeText, List.append_assoc, List.cons_append, List.singleton_append]

section Members

variable {read : Reader α} {write : α → Bytes} {rest : Bytes}

theorem nextKey_end (first : Bool) :
    nextKey first (closeObject :: rest) = .ok (none, closeObject :: rest) := by
  rw [nextKey, bind_apply (peek_cons (by decide) _)]
  rfl

theorem nextKey_first (key : String) :
    nextKey true (writeText key ++ rest) = .ok (some key, rest) := by
  rw [writeText_append, nextKey, bind_apply (peek_cons (by decide) _)]
  show (advance >>= fun _ => scanText >>= fun s => pure (some s)) _ = _
  rw [bind_apply (advance_cons _ _), bind_apply (scanText_escaped key rest)]
  rfl

theorem nextKey_next (key : String) :
    nextKey false (comma :: (writeText key ++ rest)) = .ok (some key, rest) := by
  rw [writeText_append, nextKey, bind_apply (peek_cons (by decide) _)]
  show (advance >>= fun _ => _) _ = _
  rw [bind_apply (advance_cons _ _), bind_apply (peek_cons (by decide) _)]
  show (advance >>= fun _ => scanText >>= fun s => pure (some s)) _ = _
  rw [bind_apply (advance_cons _ _), bind_apply (scanText_escaped key rest)]
  rfl

theorem readColon_cons : readColon (colon :: rest) = .ok ((), rest) := by
  rw [readColon, bind_apply (peek_cons (by decide) _)]
  rfl

/-- What follows a member of an object is a comma or the end of the object. -/
theorem delimited_members (members : List Bytes) :
    Delimited (members.flatMap (comma :: ·) ++ closeObject :: rest) := by
  cases members with
  | nil => exact delimited_closeObject rest
  | cons member members => exact delimited_comma _

theorem membersUntilEnd_separated {members : List (String × α)}
    (hread : ∀ m ∈ members, Reads read (write m.2) m.2) : ∀ (fuel : Nat) (acc : List (String × α)),
    members.length < fuel → membersUntilEnd read fuel false acc
      ((members.map fun m => writeMember m.1 (write m.2)).flatMap (comma :: ·) ++
        closeObject :: rest) = .ok (acc.reverse ++ members, rest) := by
  induction members with
  | nil =>
    intro fuel acc hfuel
    obtain ⟨fuel, rfl⟩ := Nat.exists_eq_succ_of_ne_zero (Nat.ne_zero_of_lt hfuel)
    show membersUntilEnd read (fuel + 1) false acc (closeObject :: rest) = _
    rw [membersUntilEnd, bind_apply (nextKey_end false)]
    show (closing closeObject >>= _) (closeObject :: rest) = _
    rw [bind_apply (closing_cons (by decide)), List.append_nil]
    rfl
  | cons m members ih =>
    intro fuel acc hfuel
    obtain ⟨fuel, rfl⟩ := Nat.exists_eq_succ_of_ne_zero (Nat.ne_zero_of_lt hfuel)
    have hmember := hread m List.mem_cons_self
    have hrest := ih (fun n hn => hread n (List.mem_cons_of_mem _ hn)) fuel (m :: acc)
      (Nat.lt_of_succ_lt_succ hfuel)
    rw [List.map_cons, List.flatMap_cons, List.cons_append, List.cons_append, List.append_assoc,
      writeMember, List.append_assoc, membersUntilEnd, bind_apply (nextKey_next m.1)]
    show (readColon >>= fun _ => read >>= fun v =>
      membersUntilEnd read fuel false ((m.1, v) :: acc)) (colon :: (write m.2 ++ _)) = _
    rw [bind_apply readColon_cons, bind_apply (hmember _ (delimited_members _)), hrest,
      List.reverse_cons, List.append_assoc]
    rfl

/-- **The members of an object are read back one after another.** -/
theorem membersOf_separated {members : List (String × α)}
    (hread : ∀ m ∈ members, Reads read (write m.2) m.2) :
    membersOf read (separated (members.map fun m => writeMember m.1 (write m.2)) ++
      closeObject :: rest) = .ok (members, rest) := by
  rw [membersOf]
  show membersUntilEnd read _ true [] _ = _
  cases members with
  | nil =>
    show membersUntilEnd read _ true [] (closeObject :: rest) = _
    rw [membersUntilEnd, bind_apply (nextKey_end true)]
    show (closing closeObject >>= _) (closeObject :: rest) = _
    rw [bind_apply (closing_cons (by decide))]
    rfl
  | cons m members =>
    have hmember := hread m List.mem_cons_self
    have hfuel : members.length < (separated ((m :: members).map fun m =>
        writeMember m.1 (write m.2)) ++ closeObject :: rest).length := by
      have hlen := length_le_separated ((m :: members).map fun m => writeMember m.1 (write m.2))
      rw [List.length_map, List.length_cons] at hlen
      rw [List.length_append, List.length_cons]
      omega
    rw [membersUntilEnd]
    generalize (separated ((m :: members).map fun m =>
      writeMember m.1 (write m.2)) ++ closeObject :: rest).length = fuel at hfuel ⊢
    rw [List.map_cons, separated_cons, List.append_assoc, writeMember, List.append_assoc,
      bind_apply (nextKey_first m.1)]
    show (readColon >>= fun _ => read >>= fun v =>
      membersUntilEnd read fuel false [(m.1, v)]) (colon :: (write m.2 ++ _)) = _
    rw [bind_apply readColon_cons, bind_apply (hmember _ (delimited_members _)),
      membersUntilEnd_separated (fun n hn => hread n (List.mem_cons_of_mem _ hn)) fuel [m] hfuel]
    rfl

end Members

/-! ### Values of any form -/

theorem object_write (entries : List (String × Value)) (rest : Bytes) :
    (Value.object entries).write ++ rest = openObject ::
      (separated (entries.map fun e => writeMember e.1 e.2.write) ++ closeObject :: rest) := by
  show writeMembers (writeEntries entries) ++ rest = _
  rw [writeEntries_eq, writeMembers, List.map_map, List.append_assoc, List.cons_append,
    List.singleton_append]
  rfl

/-- A value without items and members is read whatever is read inside. -/
theorem valueWith_number {n : Int} (h : Fits64 n) (inside : Option (Reader Value)) :
    Reads (valueWith inside) (Value.number (.whole n)).write (.number (.whole n)) := by
  intro rest hrest
  show valueWith inside ((Number.whole n).write ++ rest) = _
  have hpure : ∀ negative ds, Reads (scanNumber negative) ds (.whole n) →
      freeNumber negative (ds ++ rest) = .ok (.number (.whole n), rest) := by
    intro negative ds hscan
    rw [freeNumber, bind_apply (hscan rest hrest)]
    rfl
  rcases scan_whole h with ⟨ds, hwrite, hscan⟩ | ⟨b, ds, hwrite, hdigit, hscan⟩
  · rw [hwrite, List.cons_append, valueWith, bind_apply (peekValue_cons (by decide) _),
      if_neg (by decide), if_neg (by decide), if_neg (by decide), if_pos rfl,
      bind_apply (advance_cons _ _), hpure true ds hscan]
  · have hne : ∀ c, isDigit c = false → b ≠ c := by
      rintro c hc rfl
      rw [hdigit] at hc
      cases hc
    rw [hwrite, List.cons_append, valueWith,
      bind_apply (peekValue_cons (isSpace_of_isDigit hdigit) _), if_neg (hne _ (by decide)),
      if_neg (hne _ (by decide)), if_neg (hne _ (by decide)), if_neg (hne _ (by decide)),
      if_pos hdigit, ← List.cons_append, hpure false _ hscan]

/-- One level of a value is read if what is inside it is. -/
theorem reads_valueWith {inside : Option (Reader Value)} {v : Value} (h : v.Exact)
    (hinside : 0 < v.depth → ∃ read, inside = some read ∧
      ∀ w : Value, w.Exact → w.depth < v.depth → Reads read w.write w) :
    Reads (valueWith inside) v.write v := by
  intro rest hrest
  cases h with
  | null =>
    show valueWith inside (Bytes.ofText "null" ++ rest) = _
    have hpeek : peekValue (Bytes.ofText "null" ++ rest) =
        .ok (Bytes.ascii 'n', Bytes.ofText "null" ++ rest) := peekValue_cons (by decide) _
    rw [valueWith, bind_apply hpeek, if_pos rfl, bind_apply (word_append _ _)]
    rfl
  | flag b =>
    cases b with
    | true =>
      show valueWith inside (Bytes.ofText "true" ++ rest) = _
      have hpeek : peekValue (Bytes.ofText "true" ++ rest) =
          .ok (Bytes.ascii 't', Bytes.ofText "true" ++ rest) := peekValue_cons (by decide) _
      rw [valueWith, bind_apply hpeek, if_neg (by decide), if_pos rfl,
        bind_apply (word_append _ _)]
      rfl
    | false =>
      show valueWith inside (Bytes.ofText "false" ++ rest) = _
      have hpeek : peekValue (Bytes.ofText "false" ++ rest) =
          .ok (Bytes.ascii 'f', Bytes.ofText "false" ++ rest) := peekValue_cons (by decide) _
      rw [valueWith, bind_apply hpeek, if_neg (by decide), if_neg (by decide), if_pos rfl,
        bind_apply (word_append _ _)]
      rfl
  | whole fits => exact valueWith_number fits inside rest hrest
  | text s =>
    show valueWith inside (writeText s ++ rest) = _
    rw [writeText_append, valueWith, bind_apply (peekValue_cons (by decide) _),
      if_neg (by decide), if_neg (by decide), if_neg (by decide), if_neg (by decide),
      if_neg (by decide), if_pos rfl, bind_apply (advance_cons _ _),
      bind_apply (scanText_escaped s rest)]
    rfl
  | @list items exact =>
    obtain ⟨read, rfl, hread⟩ := hinside (Nat.succ_pos _)
    have hitems : ∀ w ∈ items, Reads read w.write w := fun w hw =>
      hread w (exact w hw) (Nat.lt_succ_of_le (depth_le_depthOfAll hw))
    have hof : itemsOf read (separated (items.map Value.write) ++ closeList :: rest) =
        .ok (items, rest) := itemsOf_separated hitems fun w hw => (exact w hw).begins
    have hwritten : (Value.list items).write ++ rest =
        openList :: (separated (items.map Value.write) ++ closeList :: rest) := by
      show writeItems (writeAll items) ++ rest = _
      rw [writeAll_eq, writeItems, List.append_assoc, List.cons_append, List.singleton_append]
    rw [hwritten, valueWith, bind_apply (peekValue_cons (by decide) _), if_neg (by decide),
      if_neg (by decide), if_neg (by decide), if_neg (by decide), if_neg (by decide),
      if_neg (by decide)]
    dsimp only
    rw [if_pos rfl, bind_apply (advance_cons _ _), bind_apply hof]
    rfl
  | @object entries increasing exact =>
    obtain ⟨read, rfl, hread⟩ := hinside (Nat.succ_pos _)
    have hmembers : ∀ e ∈ entries, Reads read e.2.write e.2 := fun e he =>
      hread e.2 (exact e he) (Nat.lt_succ_of_le (depth_le_depthOfEntries he))
    have hof : membersOf read (separated (entries.map fun e => writeMember e.1 e.2.write) ++
        closeObject :: rest) = .ok (entries, rest) := membersOf_separated hmembers
    rw [object_write, valueWith, bind_apply (peekValue_cons (by decide) _), if_neg (by decide),
      if_neg (by decide), if_neg (by decide), if_neg (by decide), if_neg (by decide),
      if_neg (by decide)]
    dsimp only
    rw [if_neg (by decide), if_pos rfl, bind_apply (advance_cons _ _), bind_apply hof,
      sortEntries_of_increasing increasing]
    rfl

/-- **A value without fractions is read back as it was**, if its levels may be opened. -/
theorem reads_value {v : Value} (h : v.Exact) {levels : Nat} (hdepth : v.depth ≤ levels) :
    Reads (value levels) v.write v := by
  induction levels generalizing v with
  | zero => exact reads_valueWith h fun hpos => absurd hdepth (Nat.not_le.2 hpos)
  | succ levels ih =>
    exact reads_valueWith h fun _ => ⟨value levels, rfl, fun w hw hlt =>
      ih hw (Nat.le_of_lt_succ (Nat.lt_of_lt_of_le hlt hdepth))⟩

/-- A free-form object is read back as it was. -/
theorem reads_object {o : Object} (h : o.toValue.Exact) {levels : Nat}
    (hdepth : o.toValue.depth ≤ levels) : Reads (object levels) o.toValue.write o := by
  intro rest hrest
  obtain ⟨entries, increasing⟩ := o
  obtain ⟨levels, rfl⟩ := Nat.exists_eq_succ_of_ne_zero
    (Nat.ne_zero_of_lt (Nat.lt_of_lt_of_le (Nat.succ_pos _) hdepth))
  cases h with
  | object _ exact =>
    have hmembers : ∀ e ∈ entries, Reads (value levels) e.2.write e.2 := fun e he =>
      reads_value (exact e he) (Nat.le_trans (depth_le_depthOfEntries he)
        (Nat.le_of_succ_le_succ hdepth))
    have hof : membersOf (value levels) (separated (entries.map fun e =>
        writeMember e.1 e.2.write) ++ closeObject :: rest) = .ok (entries, rest) :=
      membersOf_separated hmembers
    show object (levels + 1) ((Value.object entries).write ++ rest) = _
    rw [object_write, object, bind_apply (peekValue_cons (by decide) _), if_pos rfl]
    show (advance >>= fun _ => membersOf (value levels) >>= fun es => pure (Object.ofEntries es))
      _ = _
    rw [bind_apply (advance_cons _ _), bind_apply hof]
    have hsame : Object.ofEntries entries = ⟨entries, increasing⟩ := by
      simp only [Object.ofEntries, sortEntries_of_increasing increasing]
    rw [hsame]
    rfl

end LockFleet.Json
