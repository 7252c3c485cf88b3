import LockFleet.Proofs.Json.Values
import Mathlib.Data.List.Nodup

/-!
# Written records, read back

A record is written with its members in any order and without those that are left out.  It is read
back as it was if every member that is there is read as the value of its field, and every field that
is not there stands for its value.  After some members have been read, the row holds the values of
exactly these; that is kept by one member more.

* `Json.Fields.Gives` — the members that give the values of the fields;
* `Json.Fields.held` — the row after members of some names have been read;
* `Json.Fields.readMember_held` — one member more;
* `Json.Fields.readMembers_keeps` — a field that has been read is not read again;
* `Json.reads_record` — a record with its members in any order;
* `Json.reads_written` — the two orders in which records are written.
-/

namespace LockFleet.Json

/-- What a field stands for that is not given is this value. -/
def Field.StandsFor {α : Type} (field : Field α) (v : α) : Prop :=
  field.absent = .otherwise v ∨ field.absent = .omitted v

namespace Fields

variable {ts : List Type} {levels : Nat} {keys : List String} {key : String} {w : Value}
  {members : List (String × Value)} {rest : Bytes}

/-- The names of the fields. -/
def names : {ts : List Type} → Fields ts → List String
  | _, .nil => []
  | _, .cons field rest => field.name :: rest.names

/-- Members give the values of fields: every field is there and is read as its value, or it is not
there and stands for its value. -/
def Gives (levels : Nat) (members : List (String × Value)) :
    {ts : List Type} → Fields ts → Values ts → Prop
  | _, .nil, _ => True
  | _, .cons field rest, (v, vs) =>
    ((∃ w, (field.name, w) ∈ members ∧ Reads (field.read levels) w.write v) ∨
      (field.name ∉ members.map Prod.fst ∧ field.StandsFor v)) ∧ rest.Gives levels members vs

/-- The row that holds the values of the fields of some names. -/
def held (keys : List String) : {ts : List Type} → Fields ts → Values ts → Row ts
  | _, .nil, _ => ()
  | _, .cons field rest, (v, vs) =>
    (if field.name ∈ keys then some v else none, rest.held keys vs)

theorem held_congr (fields : Fields ts) (vs : Values ts) {keys keys' : List String}
    (h : ∀ n ∈ fields.names, n ∈ keys ↔ n ∈ keys') :
    fields.held keys vs = fields.held keys' vs := by
  induction fields with
  | nil => rfl
  | cons field fields ih =>
    have hfield := h field.name List.mem_cons_self
    have hrest := ih vs.2 fun n hn => h n (List.mem_cons_of_mem _ hn)
    show (if field.name ∈ keys then some vs.1 else none, fields.held keys vs.2) = _
    rw [hrest]
    by_cases hk : field.name ∈ keys
    · rw [if_pos hk]
      show _ = (if field.name ∈ keys' then some vs.1 else none, _)
      rw [if_pos (hfield.1 hk)]
    · rw [if_neg hk]
      show _ = (if field.name ∈ keys' then some vs.1 else none, _)
      rw [if_neg (fun hk' => hk (hfield.2 hk'))]

theorem held_nil (fields : Fields ts) (vs : Values ts) :
    fields.held [] vs = fields.emptyRow := by
  induction fields with
  | nil => rfl
  | cons field fields ih =>
    show (if field.name ∈ [] then some vs.1 else none, fields.held [] vs.2) = _
    rw [if_neg List.not_mem_nil, ih vs.2]
    rfl

section OneMember

variable {α : Type} {field : Field α} {fields : Fields ts} {row row' : Row ts} {input : Bytes}

/-- The member of the first field is read by it. -/
theorem readMember_self {a : α} (h : field.name = key)
    (hread : field.read levels input = .ok (a, rest)) :
    (cons field fields).readMember key levels ((none : Option α), row) (colon :: input) =
      .ok (((some a : Option α), row), rest) := by
  have hcolon : (readColon >>= fun _ => field.read levels >>= fun a =>
      (pure (some a, row) : Reader (Option α × Row ts))) (colon :: input) =
      .ok ((some a, row), rest) := by
    rw [bind_apply readColon_cons, bind_apply hread]
    rfl
  rw [readMember]
  exact (congrFun (if_pos h) _).trans hcolon

/-- The member of a later field leaves the first one alone. -/
theorem readMember_of_ne (h : field.name ≠ key) (x : Option α)
    (hread : fields.readMember key levels row input = .ok (row', rest)) :
    (cons field fields).readMember key levels (x, row) input = .ok ((x, row'), rest) := by
  have hnext : (fields.readMember key levels row >>= fun row =>
      (pure (x, row) : Reader (Option α × Row ts))) input = .ok ((x, row'), rest) := by
    rw [bind_apply hread]
    rfl
  rw [readMember]
  exact (congrFun (if_neg h) _).trans hnext

end OneMember

/-- **One member more**: its value goes into the row. -/
theorem readMember_held {fields : Fields ts} {vs : Values ts}
    (hgives : fields.Gives levels members vs) (hdistinct : (members.map Prod.fst).Nodup)
    (hnames : fields.names.Nodup) (hmem : (key, w) ∈ members) (hkey : key ∈ fields.names)
    (hnew : key ∉ keys) (hrest : Delimited rest) :
    fields.readMember key levels (fields.held keys vs) (colon :: (w.write ++ rest)) =
      .ok (fields.held (keys ++ [key]) vs, rest) := by
  induction fields with
  | nil => cases hkey
  | @cons α ts field fields ih =>
    obtain ⟨v, vs⟩ := vs
    obtain ⟨hfield, hgives⟩ := hgives
    obtain ⟨hfresh, hnames⟩ := List.nodup_cons.1 hnames
    by_cases hname : field.name = key
    · have hreads : Reads (field.read levels) w.write v := by
        rcases hfield with ⟨w', hmem', hreads⟩ | ⟨hnone, -⟩
        · rw [hname] at hmem'
          have hsame := List.inj_on_of_nodup_map hdistinct hmem' hmem rfl
          rwa [(Prod.mk.inj hsame).2] at hreads
        · exact absurd (List.mem_map.2 ⟨(key, w), hmem, hname.symm⟩) hnone
      have hothers : fields.held keys vs = fields.held (keys ++ [key]) vs := by
        refine held_congr fields vs fun n hn => ?_
        have hne : n ≠ key := fun heq => hfresh (hname ▸ heq ▸ hn)
        rw [List.mem_append, List.mem_singleton]
        exact ⟨Or.inl, fun h => h.resolve_right hne⟩
      have hbefore : (cons field fields).held keys (v, vs) =
          ((none : Option α), fields.held (keys ++ [key]) vs) := by
        rw [held, if_neg (hname ▸ hnew), hothers]
      have hafter : (cons field fields).held (keys ++ [key]) (v, vs) =
          ((some v : Option α), fields.held (keys ++ [key]) vs) := by
        rw [held, if_pos (hname ▸ List.mem_append_right _ (List.mem_singleton_self _))]
      rw [hbefore, hafter]
      exact readMember_self hname (hreads rest hrest)
    · have hkey' : key ∈ fields.names := by
        rcases List.mem_cons.1 hkey with heq | hkey
        · exact absurd heq.symm hname
        · exact hkey
      have hfirst : (cons field fields).held (keys ++ [key]) (v, vs) =
          ((if field.name ∈ keys then some v else none : Option α),
            fields.held (keys ++ [key]) vs) := by
        have hiff : field.name ∈ keys ++ [key] ↔ field.name ∈ keys := by
          rw [List.mem_append, List.mem_singleton]
          exact or_iff_left hname
        simp only [held, hiff]
        rfl
      rw [hfirst]
      exact readMember_of_ne hname _ (ih hgives hnames hkey')

/-- A field that is there, or stands for its value, is complete. -/
theorem complete_cons {α : Type} {field : Field α} {fields : Fields ts} {row : Row ts}
    {x : Option α} {v : α} {vs : Values ts} (hx : x = some v ∨ (x = none ∧ field.StandsFor v))
    (hrest : fields.complete row = .ok vs) :
    (cons field fields).complete (x, row) = .ok (v, vs) := by
  have hgoal : (fields.complete row >>= fun vs => Except.ok (v, vs)) =
      (.ok (v, vs) : Except Fault (α × Values ts)) := by
    rw [hrest]
    rfl
  obtain ⟨name, read, absent⟩ := field
  rcases hx with rfl | ⟨rfl, habsent | habsent⟩
  · exact hgoal
  · obtain rfl : absent = .otherwise v := habsent
    exact hgoal
  · obtain rfl : absent = .omitted v := habsent
    exact hgoal

/-- A row that holds the values of all members that are there is complete. -/
theorem complete_held {fields : Fields ts} {vs : Values ts}
    (hgives : fields.Gives levels members vs) (hkeys : ∀ m ∈ members, m.1 ∈ keys) :
    fields.complete (fields.held keys vs) = .ok vs := by
  induction fields with
  | nil => rfl
  | @cons α ts field fields ih =>
    obtain ⟨v, vs⟩ := vs
    obtain ⟨hfield, hgives⟩ := hgives
    refine complete_cons ?_ (ih hgives)
    by_cases hk : field.name ∈ keys
    · exact Or.inl (if_pos hk)
    · refine Or.inr ⟨if_neg hk, ?_⟩
      rcases hfield with ⟨w, hmem, -⟩ | ⟨-, hstands⟩
      · exact absurd (hkeys _ hmem) hk
      · exact hstands

/-- The members of an object are read into the row one after another. -/
theorem readMembers_held {fields : Fields ts} {vs : Values ts}
    (hgives : fields.Gives levels members vs) (hdistinct : (members.map Prod.fst).Nodup)
    (hnames : fields.names.Nodup) (hknown : ∀ m ∈ members, m.1 ∈ fields.names)
    {ms : List (String × Value)} (hms : ∀ m ∈ ms, m ∈ members) {keys : List String}
    (hkeys : (keys ++ ms.map Prod.fst).Nodup) : ∀ fuel, ms.length < fuel →
    fields.readMembers levels fuel false (fields.held keys vs)
      ((ms.map fun m => writeMember m.1 m.2.write).flatMap (comma :: ·) ++ closeObject :: rest) =
        .ok (fields.held (keys ++ ms.map Prod.fst) vs, closeObject :: rest) := by
  induction ms generalizing keys with
  | nil =>
    intro fuel hfuel
    obtain ⟨fuel, rfl⟩ := Nat.exists_eq_succ_of_ne_zero (Nat.ne_zero_of_lt hfuel)
    show fields.readMembers levels (fuel + 1) false _ (closeObject :: rest) = _
    rw [readMembers, bind_apply (nextKey_end false), List.map_nil, List.append_nil]
    rfl
  | cons m ms ih =>
    intro fuel hfuel
    obtain ⟨fuel, rfl⟩ := Nat.exists_eq_succ_of_ne_zero (Nat.ne_zero_of_lt hfuel)
    have hmem := hms m List.mem_cons_self
    have hnew : m.1 ∉ keys := fun h =>
      (List.nodup_append.1 hkeys).2.2 m.1 h m.1 List.mem_cons_self rfl
    have hassoc : keys ++ (m :: ms).map Prod.fst = keys ++ [m.1] ++ ms.map Prod.fst := by
      rw [List.append_assoc]
      rfl
    have hrest := ih (fun n hn => hms n (List.mem_cons_of_mem _ hn)) (hassoc ▸ hkeys) fuel
      (Nat.lt_of_succ_lt_succ hfuel)
    have hdelimited : Delimited ((ms.map fun m => writeMember m.1 m.2.write).flatMap
        (comma :: ·) ++ closeObject :: rest) := delimited_members _
    have hone := readMember_held hgives hdistinct hnames hmem (hknown m hmem) hnew hdelimited
    rw [List.map_cons, List.flatMap_cons, List.cons_append, List.cons_append, List.append_assoc,
      writeMember, List.append_assoc, readMembers, bind_apply (nextKey_next m.1)]
    show (fields.readMember m.1 levels (fields.held keys vs) >>= fun row =>
      fields.readMembers levels fuel false row) (colon :: (m.2.write ++ _)) = _
    rw [bind_apply hone, hrest, hassoc]

/-- All members of an object are read into the row. -/
theorem readMembers_all {fields : Fields ts} {vs : Values ts}
    (hgives : fields.Gives levels members vs) (hdistinct : (members.map Prod.fst).Nodup)
    (hnames : fields.names.Nodup) (hknown : ∀ m ∈ members, m.1 ∈ fields.names) {fuel : Nat}
    (hfuel : members.length < fuel) :
    fields.readMembers levels fuel true fields.emptyRow
      (separated (members.map fun m => writeMember m.1 m.2.write) ++ closeObject :: rest) =
        .ok (fields.held (members.map Prod.fst) vs, closeObject :: rest) := by
  obtain ⟨fuel, rfl⟩ := Nat.exists_eq_succ_of_ne_zero (Nat.ne_zero_of_lt hfuel)
  rw [← held_nil fields vs]
  cases members with
  | nil =>
    show fields.readMembers levels (fuel + 1) true _ (closeObject :: rest) = _
    rw [readMembers, bind_apply (nextKey_end true)]
    rfl
  | cons m ms =>
    have hdelimited : Delimited ((ms.map fun m => writeMember m.1 m.2.write).flatMap
        (comma :: ·) ++ closeObject :: rest) := delimited_members _
    have hone := readMember_held hgives hdistinct hnames List.mem_cons_self
      (hknown m List.mem_cons_self) List.not_mem_nil hdelimited
    have hothers : fields.readMembers levels fuel false (fields.held [m.1] vs)
        ((ms.map fun m => writeMember m.1 m.2.write).flatMap (comma :: ·) ++
          closeObject :: rest) = .ok (fields.held ([m.1] ++ ms.map Prod.fst) vs,
            closeObject :: rest) :=
      readMembers_held hgives hdistinct hnames hknown (fun n hn => List.mem_cons_of_mem _ hn)
        hdistinct fuel (Nat.lt_of_succ_lt_succ hfuel)
    rw [List.map_cons, separated_cons, List.append_assoc, writeMember, List.append_assoc,
      readMembers, bind_apply (nextKey_first m.1)]
    show (fields.readMember m.1 levels (fields.held [] vs) >>= fun row =>
      fields.readMembers levels fuel false row) (colon :: (m.2.write ++ _)) = _
    rw [bind_apply hone]
    exact hothers

section Keeps

variable {α : Type} {field : Field α} {fields : Fields ts} {a : α} {row : Row ts}
  {row' : Row (α :: ts)} {input : Bytes}

/-- What is read for a later field is read without the first one. -/
theorem of_readMember_ne {x : Option α} (hname : field.name ≠ key)
    (h : (cons field fields).readMember key levels (x, row) input = .ok (row', rest)) :
    row'.1 = x ∧ fields.readMember key levels row input = .ok (row'.2, rest) := by
  rw [readMember] at h
  obtain ⟨row₁, mid, hrow, hpure⟩ := of_bind ((congrFun (if_neg hname) input).symm.trans h)
  cases hpure
  exact ⟨rfl, hrow⟩

/-- What is read for the first field is its member. -/
theorem of_readMember_self {before : Row (α :: ts)} {rest' : Bytes} (hname : field.name = key)
    (hbefore : before.1 = none) (hread : field.read levels input = .ok (a, rest))
    (h : (cons field fields).readMember key levels before (colon :: input) =
      .ok (row', rest')) : row'.1 = some a ∧ rest' = rest := by
  obtain ⟨x, row⟩ := before
  obtain rfl : x = none := hbefore
  cases (readMember_self hname hread).symm.trans h
  exact ⟨rfl, rfl⟩

/-- A field that has been read is not read again. -/
theorem readMember_keeps
    (h : (cons field fields).readMember key levels ((some a : Option α), row) input =
      .ok (row', rest)) : row'.1 = some a := by
  by_cases hname : field.name = key
  · rw [readMember] at h
    cases (congrFun (if_pos hname) input).symm.trans h
  · exact (of_readMember_ne hname h).1

theorem readMembers_keeps {fuel : Nat} {first : Bool} {before : Row (α :: ts)}
    (hbefore : before.1 = some a)
    (h : (cons field fields).readMembers levels fuel first before input = .ok (row', rest)) :
    row'.1 = some a := by
  induction fuel generalizing first before input with
  | zero => cases h
  | succ fuel ih =>
    rw [readMembers] at h
    obtain ⟨key, mid, -, h⟩ := of_bind h
    cases key with
    | none =>
      cases h
      exact hbefore
    | some key =>
      obtain ⟨x, row⟩ := before
      obtain rfl : x = some a := hbefore
      obtain ⟨after, mid', hone, hrest⟩ := of_bind h
      exact ih (readMember_keeps hone) hrest

/-- The first field has the value of its member. -/
theorem first_of_readMembers {fuel : Nat} {first : Bool} {before : Row (α :: ts)} {w : Value}
    {rest' : Bytes} (hkey : nextKey first input = .ok (some field.name, colon :: (w.write ++ rest)))
    (hreads : Reads (field.read levels) w.write a) (hrest : Delimited rest)
    (hbefore : before.1 = none)
    (h : (cons field fields).readMembers levels fuel first before input = .ok (row', rest')) :
    row'.1 = some a := by
  cases fuel with
  | zero => cases h
  | succ fuel =>
    rw [readMembers, bind_apply hkey] at h
    obtain ⟨after, mid, hone, hothers⟩ := of_bind h
    exact readMembers_keeps (of_readMember_self rfl hbefore (hreads rest hrest) hone).1 hothers

theorem complete_keeps {vs : Values (α :: ts)}
    (h : (cons field fields).complete ((some a : Option α), row) = .ok vs) : vs.1 = a := by
  have hcomplete : (fields.complete row >>= fun vs => Except.ok (a, vs)) = .ok vs := h
  cases hrow : fields.complete row with
  | error f =>
    rw [hrow] at hcomplete
    cases hcomplete
  | ok others =>
    rw [hrow] at hcomplete
    cases hcomplete
    rfl

end Keeps

end Fields

/-! ### Whole records -/

theorem remaining_apply (input : Bytes) : remaining input = .ok (input.length + 1, input) := rfl

section Whole

variable {ts : List Type} {α : Type} {name : String} {fields : Fields ts} {build : Values ts → α}
  {members : List (String × Value)} {levels : Nat} {vs : Values ts}

/-- **A record is read back from its members in any order.** -/
theorem reads_record (hgives : fields.Gives levels members vs)
    (hdistinct : (members.map Prod.fst).Nodup) (hnames : fields.names.Nodup)
    (hknown : ∀ m ∈ members, m.1 ∈ fields.names) :
    Reads (record name fields build (levels + 1)) (inOrder members) (build vs) := by
  intro rest _
  have hwritten : inOrder members ++ rest = openObject ::
      (separated (members.map fun m => writeMember m.1 m.2.write) ++ closeObject :: rest) :=
    object_write members rest
  have hcomplete : fields.complete (fields.held (members.map Prod.fst) vs) = .ok vs :=
    Fields.complete_held hgives fun m hm => List.mem_map.2 ⟨m, hm, rfl⟩
  have hfuel : members.length < (separated (members.map fun m => writeMember m.1 m.2.write) ++
      closeObject :: rest).length + 1 := by
    have hlen := length_le_separated (members.map fun m => writeMember m.1 m.2.write)
    rw [List.length_map] at hlen
    rw [List.length_append, List.length_cons]
    omega
  rw [hwritten, record, bind_apply (peekValue_cons (by decide) _), if_pos rfl, nested,
    bind_apply (advance_cons _ _), bind_apply (remaining_apply _),
    bind_apply (Fields.readMembers_all hgives hdistinct hnames hknown hfuel), hcomplete]
  show (closing closeObject >>= _) (closeObject :: rest) = _
  rw [bind_apply (closing_cons (by decide))]
  rfl

/-- What is read as a record from an object comes from the members that are read into a row. -/
theorem of_record {a : α} {input rest : Bytes}
    (h : record name fields build (levels + 1) (openObject :: input) = .ok (a, rest)) :
    ∃ fuel row mid vs, fields.readMembers levels fuel true fields.emptyRow input = .ok (row, mid) ∧
      fields.complete row = .ok vs ∧ a = build vs := by
  rw [record, bind_apply (peekValue_cons (by decide) _), if_pos rfl, nested,
    bind_apply (advance_cons _ _), bind_apply (remaining_apply _)] at h
  obtain ⟨row, mid, hrow, h⟩ := of_bind h
  cases hcomplete : fields.complete row with
  | error f =>
    rw [hcomplete] at h
    cases h
  | ok vs =>
    rw [hcomplete] at h
    obtain ⟨_, _, -, hbuild⟩ := of_bind h
    cases hbuild
    exact ⟨_, row, mid, vs, hrow, hcomplete, rfl⟩

/-- Members in another order give the same values. -/
theorem Fields.Gives.perm {members' : List (String × Value)} (h : fields.Gives levels members vs)
    (hperm : members'.Perm members) : fields.Gives levels members' vs := by
  induction fields with
  | nil => trivial
  | cons field fields ih =>
    obtain ⟨hfield, hrest⟩ := h
    refine ⟨?_, ih hrest⟩
    rcases hfield with ⟨w, hmem, hreads⟩ | ⟨hnone, hstands⟩
    · exact Or.inl ⟨w, hperm.mem_iff.2 hmem, hreads⟩
    · exact Or.inr ⟨fun h => hnone ((hperm.map Prod.fst).mem_iff.1 h), hstands⟩

/-- **A record is read back in either order in which it is written**: that of its fields and that of
its keys. -/
theorem reads_written (hgives : fields.Gives levels members vs)
    (hdistinct : (members.map Prod.fst).Nodup) (hnames : fields.names.Nodup)
    (hknown : ∀ m ∈ members, m.1 ∈ fields.names) :
    Reads (record name fields build (levels + 1)) (inOrder members) (build vs) ∧
      Reads (record name fields build (levels + 1)) (sorted members) (build vs) := by
  have hperm : (sortEntries members).Perm members := perm_sortEntries hdistinct
  refine ⟨reads_record hgives hdistinct hnames hknown, ?_⟩
  exact reads_record (hgives.perm hperm) ((hperm.map Prod.fst).nodup_iff.2 hdistinct) hnames
    fun m hm => hknown m (hperm.mem_iff.1 hm)

/-! ### Pieces, one for each field -/

/-- A piece of the members gives the value of a field: it is the member of the field, or it is empty
and the field stands for its value. -/
def Field.GivenBy {β : Type} (field : Field β) (levels : Nat) (v : β)
    (piece : List (String × Value)) : Prop :=
  (∃ w, piece = [(field.name, w)] ∧ Reads (field.read levels) w.write v) ∨
    (piece = [] ∧ field.StandsFor v)

/-- Pieces in the order of the fields give the values of the fields. -/
inductive Fields.InPieces (levels : Nat) :
    {ts : List Type} → Fields ts → Values ts → List (List (String × Value)) → Prop where
  | nil : InPieces levels .nil () []
  | cons {β : Type} {ts : List Type} {field : Field β} {rest : Fields ts} {v : β} {vs : Values ts}
      {piece : List (String × Value)} {pieces : List (List (String × Value))}
      (first : field.GivenBy levels v piece) (later : InPieces levels rest vs pieces) :
      InPieces levels (.cons field rest) (v, vs) (piece :: pieces)

theorem givenBy_member {β : Type} {field : Field β} {v : β} {w : Value}
    (h : Reads (field.read levels) w.write v) :
    field.GivenBy levels v (member field.name w) := Or.inl ⟨w, rfl, h⟩

/-- A field that may be left out is given by a member, if there is one. -/
theorem givenBy_memberIf {β : Type} {key : String} {read : Leveled β} {toValue : β → Value}
    {x : Option β} (h : ∀ b, x = some b → Reads (optional read levels) (toValue b).write (some b)) :
    (leftOut key read).GivenBy levels x (memberIf key toValue x) := by
  cases x with
  | none => exact Or.inr ⟨rfl, Or.inl rfl⟩
  | some b => exact Or.inl ⟨toValue b, rfl, h b rfl⟩

namespace Fields

variable {pieces : List (List (String × Value))}

/-- Pieces hold some of the names of the fields, in their order. -/
theorem InPieces.keys_sublist (h : fields.InPieces levels vs pieces) :
    (pieces.flatten.map Prod.fst).Sublist fields.names := by
  induction h with
  | nil => exact .slnil
  | cons first later ih =>
    rw [List.flatten_cons, List.map_append]
    rcases first with ⟨w, rfl, -⟩ | ⟨rfl, -⟩
    · exact ih.cons_cons _
    · exact ih.cons _

theorem InPieces.gives (h : fields.InPieces levels vs pieces) (hnames : fields.names.Nodup)
    {before : List (String × Value)} (hbefore : ∀ m ∈ before, m.1 ∉ fields.names) :
    fields.Gives levels (before ++ pieces.flatten) vs := by
  induction h generalizing before with
  | nil => trivial
  | @cons β ts field fields v vs piece pieces first later ih =>
    obtain ⟨hfresh, hnames⟩ := List.nodup_cons.1 hnames
    rw [List.flatten_cons]
    have hpiece : ∀ m ∈ piece, m.1 = field.name := by
      rcases first with ⟨w, rfl, -⟩ | ⟨rfl, -⟩
      · exact fun m hm => congrArg Prod.fst (List.mem_singleton.1 hm)
      · exact fun m hm => absurd hm List.not_mem_nil
    constructor
    · rcases first with ⟨w, rfl, hreads⟩ | ⟨rfl, hstands⟩
      · exact Or.inl ⟨w, List.mem_append_right _ List.mem_cons_self, hreads⟩
      · refine Or.inr ⟨?_, hstands⟩
        rw [List.nil_append, List.map_append, List.mem_append]
        rintro (hmem | hmem)
        · obtain ⟨m, hm, hname⟩ := List.mem_map.1 hmem
          exact hbefore m hm (hname ▸ List.mem_cons_self)
        · exact hfresh (later.keys_sublist.subset hmem)
    · rw [← List.append_assoc]
      refine ih hnames fun m hm => ?_
      rcases List.mem_append.1 hm with hm | hm
      · exact fun hmem => hbefore m hm (List.mem_cons_of_mem _ hmem)
      · exact hpiece m hm ▸ hfresh

end Fields

/-- **A record is read back from its pieces**, in either order in which it is written. -/
theorem reads_pieces {pieces : List (List (String × Value))}
    (h : fields.InPieces levels vs pieces) (hnames : fields.names.Nodup) :
    Reads (record name fields build (levels + 1)) (inOrder pieces.flatten) (build vs) ∧
      Reads (record name fields build (levels + 1)) (sorted pieces.flatten) (build vs) :=
  reads_written (h.gives hnames fun _ hm => absurd hm List.not_mem_nil)
    (hnames.sublist h.keys_sublist) hnames
    fun _ hm => h.keys_sublist.subset (List.mem_map_of_mem hm)

/-! ### Whole texts -/

/-- A text that is read as a whole holds nothing else. -/
theorem parse_of_reads {read : Leveled α} {written : Bytes} {a : α}
    (h : Reads (read levelLimit) written a) : parse read written = .ok a := by
  have hread := h [] delimited_nil
  rw [List.append_nil] at hread
  rw [parse, hread]
  rfl

/-- What is read from a whole text is read from its beginning. -/
theorem of_parse {read : Leveled α} {input : Bytes} {a : α} (h : parse read input = .ok a) :
    ∃ rest, read levelLimit input = .ok (a, rest) := by
  rw [parse] at h
  cases hread : read levelLimit input with
  | error e =>
    rw [hread] at h
    cases h
  | ok r =>
    obtain ⟨a', rest⟩ := r
    rw [hread] at h
    change (if (rest.dropWhile isSpace).isEmpty then Except.ok a' else Except.error Fault.notJson) =
      Except.ok a at h
    split at h
    · cases h
      exact ⟨rest, rfl⟩
    · cases h

end Whole

end LockFleet.Json
