import LockFleet.Proofs.Command.Progress
import Mathlib.Data.List.Basic

/-!
# The life of an entry

The table of waiting commands holds exactly one entry for each sender in progress whose entry has
not been swept, and nothing else, whatever happens in whatever order.

* `Exchange.SweptIn` — a sweep of the run took an entry away;
* `Exchange.Booked` — the invariant: identifiers and channels are told apart, every sender in
  progress has an open channel, and entries and senders in progress belong together;
* `Exchange.booked` — every run keeps it.
-/

namespace LockFleet.Exchange

variable {timing : DeskClock} {es : List Event} {x y : Exchange} {e : Event} {i j : Nat}
  {r r' : Registration}

/-- A sweep of the run took the entry away. -/
def SweptIn (timing : DeskClock) (es : List Event) (r : Registration) : Prop :=
  ∃ pre, Run.Occurs es pre .sweep ∧ (play timing pre).desk.hasEntry r = true ∧
    (play timing (pre ++ [.sweep])).desk.hasEntry r = false

theorem sweptIn_snoc :
    SweptIn timing (es ++ [e]) r ↔ SweptIn timing es r ∨
      (e = .sweep ∧ (play timing es).desk.hasEntry r = true ∧
        (play timing (es ++ [e])).desk.hasEntry r = false) := by
  constructor
  · rintro ⟨pre, ho, hb, ha⟩
    rcases Run.occurs_snoc.1 ho with ho | ⟨rfl, rfl⟩
    · exact Or.inl ⟨pre, ho, hb, ha⟩
    · exact Or.inr ⟨rfl, hb, ha⟩
  · rintro (⟨pre, ho, hb, ha⟩ | ⟨rfl, hb, ha⟩)
    · exact ⟨pre, Run.occurs_snoc.2 (Or.inl ho), hb, ha⟩
    · exact ⟨es, Run.occurs_snoc.2 (Or.inr ⟨rfl, rfl⟩), hb, ha⟩

theorem sweptIn_snoc_of_ne (h : e ≠ .sweep) :
    SweptIn timing (es ++ [e]) r ↔ SweptIn timing es r := by
  rw [sweptIn_snoc]
  exact or_iff_left fun h' => h h'.1

/-! ### The invariant -/

/-- Entries, channels and senders in progress belong together. -/
structure Booked (timing : DeskClock) (es : List Event) (x : Exchange) : Prop where
  ids_apart : ∀ i j r r', x.registration? i = some r → x.registration? j = some r' →
    r.id = r'.id → i = j
  channels_apart : ∀ i j r r', x.registration? i = some r → x.registration? j = some r' →
    r.channel = r'.channel → i = j
  numbered : ∀ i r, x.registration? i = some r → r.channel < x.desk.nextChannel
  isOpen : ∀ i r, x.registration? i = some r → (x.desk.channels.find? r.channel).isSome = true
  entry : ∀ i r, x.registration? i = some r →
    (x.desk.hasEntry r = true ↔ ¬ SweptIn timing es r)
  owned : ∀ id p, x.desk.pending.find? id = some p →
    ∃ i, x.registration? i = some ⟨id, p.channel⟩
  swept_numbered : ∀ r, SweptIn timing es r → r.channel < x.desk.nextChannel

theorem hasEntry_congr {d d' : Desk} (h : d'.pending.find? r.id = d.pending.find? r.id) :
    d'.hasEntry r = d.hasEntry r := by
  rw [Desk.hasEntry, Desk.hasEntry, h]

/-! ### What keeps the invariant -/

namespace Booked

/-- Nothing is lost while the entries and the senders in progress stay the same. -/
theorem of_same (h : Booked timing es x) (hne : e ≠ .sweep)
    (hr : ∀ j, y.registration? j = x.registration? j)
    (hp : ∀ id, y.desk.pending.find? id = x.desk.pending.find? id)
    (hn : x.desk.nextChannel ≤ y.desk.nextChannel)
    (hc : ∀ j r, x.registration? j = some r → (x.desk.channels.find? r.channel).isSome = true →
      (y.desk.channels.find? r.channel).isSome = true) :
    Booked timing (es ++ [e]) y where
  ids_apart i j r r' hi hj := h.ids_apart i j r r' (hr i ▸ hi) (hr j ▸ hj)
  channels_apart i j r r' hi hj := h.channels_apart i j r r' (hr i ▸ hi) (hr j ▸ hj)
  numbered i r hi := Nat.lt_of_lt_of_le (h.numbered i r (hr i ▸ hi)) hn
  isOpen i r hi := hc i r (hr i ▸ hi) (h.isOpen i r (hr i ▸ hi))
  entry i r hi := by
    rw [sweptIn_snoc_of_ne hne, hasEntry_congr (hp r.id)]
    exact h.entry i r (hr i ▸ hi)
  owned id p hid := by
    obtain ⟨i, hi⟩ := h.owned id p (hp id ▸ hid)
    exact ⟨i, (hr i).trans hi⟩
  swept_numbered r hsw :=
    Nat.lt_of_lt_of_le (h.swept_numbered r ((sweptIn_snoc_of_ne hne).1 hsw)) hn

/-- Nothing is lost while the desk and the senders in progress stay the same. -/
theorem of_same_desk (h : Booked timing es x) (hne : e ≠ .sweep)
    (hr : ∀ j, y.registration? j = x.registration? j) (hd : y.desk = x.desk) :
    Booked timing (es ++ [e]) y := by
  refine h.of_same hne hr ?_ ?_ ?_
  · intro id
    rw [hd]
  · exact Nat.le_of_eq (congrArg Desk.nextChannel hd).symm
  · intro j r _ hc
    rw [hd]
    exact hc

/-- The identifier that a new sender draws has no entry. -/
theorem unused (h : Booked timing es x) {draws : Nat → String} {wall : Moment}
    (hf : x.FreshAt (.poll i draws wall)) : x.desk.isPending (draws 0) = false := by
  rw [Desk.isPending_eq_false_iff]
  cases hp : x.desk.pending.find? (draws 0) with
  | none => rfl
  | some p =>
    obtain ⟨j, hj⟩ := h.owned _ p hp
    exact absurd rfl (hf j _ hj)

/-- A sender in progress goes, and its entry with it. -/
theorem close (h : Booked timing es x) (hne : e ≠ .sweep)
    (hi : x.registration? i = some r) (hd : y.desk = x.desk.close r)
    (hri : y.registration? i = none) (hr : ∀ j, j ≠ i → y.registration? j = x.registration? j) :
    Booked timing (es ++ [e]) y := by
  have hback : ∀ j r', y.registration? j = some r' → j ≠ i ∧ x.registration? j = some r' := by
    intro j r' hj
    have hji : j ≠ i := fun hji => by rw [hji, hri] at hj; cases hj
    exact ⟨hji, (hr j hji) ▸ hj⟩
  have hpend : ∀ id, id ≠ r.id → y.desk.pending.find? id = x.desk.pending.find? id := by
    intro id hid
    rw [hd]
    exact x.desk.pending.find?_erase_of_ne hid
  have hnone : y.desk.pending.find? r.id = none := by
    rw [hd]
    exact x.desk.pending.find?_erase_self r.id
  have hid : ∀ j r', j ≠ i → x.registration? j = some r' → r'.id ≠ r.id :=
    fun j r' hji hj heq => hji (h.ids_apart j i r' r hj hi heq)
  refine ⟨?_, ?_, ?_, ?_, ?_, ?_, ?_⟩
  · intro j k r' r'' hj hk
    exact h.ids_apart j k r' r'' (hback j r' hj).2 (hback k r'' hk).2
  · intro j k r' r'' hj hk
    exact h.channels_apart j k r' r'' (hback j r' hj).2 (hback k r'' hk).2
  · intro j r' hj
    rw [hd]
    exact h.numbered j r' (hback j r' hj).2
  · intro j r' hj
    obtain ⟨hji, hj'⟩ := hback j r' hj
    have hne : r'.channel ≠ r.channel := fun heq => hji (h.channels_apart j i r' r hj' hi heq)
    rw [hd]
    show ((x.desk.channels.erase r.channel).find? r'.channel).isSome = true
    rw [x.desk.channels.find?_erase_of_ne hne]
    exact h.isOpen j r' hj'
  · intro j r' hj
    obtain ⟨hji, hj'⟩ := hback j r' hj
    rw [sweptIn_snoc_of_ne hne, hasEntry_congr (hpend r'.id (hid j r' hji hj'))]
    exact h.entry j r' hj'
  · intro id p hp
    have hne : id ≠ r.id := fun heq => by rw [heq, hnone] at hp; cases hp
    obtain ⟨j, hj⟩ := h.owned id p (hpend id hne ▸ hp)
    have hji : j ≠ i := by
      intro hji
      rw [hji, hi] at hj
      cases hj
      exact hne rfl
    exact ⟨j, (hr j hji).trans hj⟩
  · intro r' hsw
    rw [hd]
    exact h.swept_numbered r' ((sweptIn_snoc_of_ne hne).1 hsw)

/-- A sender makes its entry. -/
theorem enter (h : Booked timing es x) (hne : e ≠ .sweep)
    {device : String} {kind : CommandKind} {draws : Nat → String}
    (hfresh : ∀ j r', x.registration? j = some r' → draws 0 ≠ r'.id)
    (hunused : x.desk.isPending (draws 0) = false) (hxi : x.registration? i = none)
    (hreg : x.desk.register x.now device kind draws = (r, y.desk))
    (hri : y.registration? i = some r) (hr : ∀ j, j ≠ i → y.registration? j = x.registration? j) :
    Booked timing (es ++ [e]) y := by
  have hrid : r.id = draws 0 := by
    rw [← Desk.register_id hunused x.now device kind, hreg]
  obtain ⟨hrch, hnext, hpend, hchan⟩ := Desk.of_register hreg
  have hcases : ∀ j r', y.registration? j = some r' →
      (j = i ∧ r' = r) ∨ (j ≠ i ∧ x.registration? j = some r') := by
    intro j r' hj
    by_cases hji : j = i
    · rw [hji, hri] at hj
      exact Or.inl ⟨hji, (Option.some.inj hj).symm⟩
    · exact Or.inr ⟨hji, (hr j hji) ▸ hj⟩
  have hlt : ∀ j r', x.registration? j = some r' → r'.channel < r.channel := by
    intro j r' hj
    rw [hrch]
    exact h.numbered j r' hj
  refine ⟨?_, ?_, ?_, ?_, ?_, ?_, ?_⟩
  · intro j k r' r'' hj hk heq
    rcases hcases j r' hj with ⟨rfl, rfl⟩ | ⟨hji, hj⟩ <;>
      rcases hcases k r'' hk with ⟨rfl, rfl⟩ | ⟨hki, hk⟩
    · rfl
    · exact absurd (hrid ▸ heq) (hfresh k r'' hk)
    · exact absurd (hrid ▸ heq.symm) (hfresh j r' hj)
    · exact h.ids_apart j k r' r'' hj hk heq
  · intro j k r' r'' hj hk heq
    rcases hcases j r' hj with ⟨rfl, rfl⟩ | ⟨hji, hj⟩ <;>
      rcases hcases k r'' hk with ⟨rfl, rfl⟩ | ⟨hki, hk⟩
    · rfl
    · exact absurd heq.symm (Nat.ne_of_lt (hlt k r'' hk))
    · exact absurd heq (Nat.ne_of_lt (hlt j r' hj))
    · exact h.channels_apart j k r' r'' hj hk heq
  · intro j r' hj
    rw [hnext]
    rcases hcases j r' hj with ⟨rfl, rfl⟩ | ⟨hji, hj⟩
    · rw [hrch]
      exact Nat.lt_succ_self _
    · exact Nat.lt_succ_of_lt (h.numbered j r' hj)
  · intro j r' hj
    rw [hchan]
    rcases hcases j r' hj with ⟨rfl, rfl⟩ | ⟨hji, hj⟩
    · rw [Table.find?_insert_self]
      rfl
    · rw [x.desk.channels.find?_insert_of_ne none (Nat.ne_of_lt (hlt j r' hj))]
      exact h.isOpen j r' hj
  · intro j r' hj
    rw [sweptIn_snoc_of_ne hne]
    rcases hcases j r' hj with ⟨rfl, rfl⟩ | ⟨hji, hj⟩
    · -- A channel with this number has never been there before, so no sweep can have met it.
      have hns : ¬ SweptIn timing es r' := fun hsw =>
        absurd (h.swept_numbered r' hsw) (by rw [hrch]; exact Nat.lt_irrefl _)
      refine iff_of_true (Desk.hasEntry_iff.2 ⟨⟨device, kind, x.now, r'.channel⟩, ?_, rfl⟩) hns
      rw [hpend, Table.find?_insert_self]
    · have hid : r'.id ≠ r.id := fun heq => hfresh j r' hj (hrid ▸ heq.symm)
      rw [hasEntry_congr (show y.desk.pending.find? r'.id = x.desk.pending.find? r'.id by
        rw [hpend, x.desk.pending.find?_insert_of_ne _ hid])]
      exact h.entry j r' hj
  · intro id p hp
    rw [hpend] at hp
    by_cases hid : id = r.id
    · rw [hid, Table.find?_insert_self] at hp
      cases hp
      exact ⟨i, by rw [hri, hid]⟩
    · rw [x.desk.pending.find?_insert_of_ne _ hid] at hp
      obtain ⟨j, hj⟩ := h.owned id p hp
      have hji : j ≠ i := fun hji => by rw [hji, hxi] at hj; cases hj
      exact ⟨j, (hr j hji).trans hj⟩
  · intro r' hsw
    rw [hnext]
    exact Nat.lt_succ_of_lt (h.swept_numbered r' ((sweptIn_snoc_of_ne hne).1 hsw))

/-- A sweep takes entries away and nothing else. -/
theorem sweep (h : Booked timing es x) (hx : play timing es = x)
    (hstep : play timing (es ++ [.sweep]) = y) (hd : y.desk = (x.desk.sweep x.now).2)
    (hr : ∀ j, y.registration? j = x.registration? j) : Booked timing (es ++ [.sweep]) y := by
  have hpend : ∀ id p, y.desk.pending.find? id = some p → x.desk.pending.find? id = some p := by
    intro id p hp
    rw [hd] at hp
    exact (Desk.find?_sweep.1 hp).1
  have hlost : ∀ r, y.desk.hasEntry r = true → x.desk.hasEntry r = true := by
    intro r hr
    obtain ⟨p, hp, hc⟩ := Desk.hasEntry_iff.1 hr
    exact Desk.hasEntry_iff.2 ⟨p, hpend r.id p hp, hc⟩
  refine ⟨?_, ?_, ?_, ?_, ?_, ?_, ?_⟩
  · intro j k r r' hj hk
    exact h.ids_apart j k r r' (hr j ▸ hj) (hr k ▸ hk)
  · intro j k r r' hj hk
    exact h.channels_apart j k r r' (hr j ▸ hj) (hr k ▸ hk)
  · intro j r hj
    rw [hd]
    exact h.numbered j r (hr j ▸ hj)
  · intro j r hj
    rw [hd]
    exact h.isOpen j r (hr j ▸ hj)
  · intro j r hj
    have hbefore := h.entry j r (hr j ▸ hj)
    rw [sweptIn_snoc, hstep, hx]
    constructor
    · rintro hy (hsw | ⟨-, -, hgone⟩)
      · exact hbefore.1 (hlost r hy) hsw
      · rw [hy] at hgone
        cases hgone
    · intro hns
      have hxr : x.desk.hasEntry r = true := hbefore.2 fun hsw => hns (Or.inl hsw)
      cases hy : y.desk.hasEntry r with
      | true => rfl
      | false => exact absurd (Or.inr ⟨rfl, hxr, hy⟩) hns
  · intro id p hp
    obtain ⟨j, hj⟩ := h.owned id p (hpend id p hp)
    exact ⟨j, (hr j).trans hj⟩
  · intro r hsw
    rw [hd]
    rcases sweptIn_snoc.1 hsw with hsw | ⟨-, hxr, -⟩
    · exact h.swept_numbered r hsw
    · rw [hx] at hxr
      obtain ⟨p, hp, hc⟩ := Desk.hasEntry_iff.1 hxr
      obtain ⟨j, hj⟩ := h.owned r.id p hp
      rw [hc] at hj
      exact h.numbered j r hj

/-- A sender makes its entry and takes it away again. -/
theorem turnAway (h : Booked timing es x) (hne : e ≠ .sweep) {device : String}
    {kind : CommandKind} {draws : Nat → String} {d : Desk}
    (hunused : x.desk.isPending (draws 0) = false)
    (hreg : x.desk.register x.now device kind draws = (r, d)) (hd : y.desk = d.close r)
    (hr : ∀ j, y.registration? j = x.registration? j) : Booked timing (es ++ [e]) y := by
  have hrid : r.id = draws 0 := by
    rw [← Desk.register_id hunused x.now device kind, hreg]
  cases hreg
  refine h.of_same hne hr ?_ ?_ ?_
  · intro id
    rw [hd]
    show (Table.erase _ _).find? id = _
    by_cases hid : id = draws 0
    · rw [hid, ← hrid, Table.find?_erase_self, hrid]
      exact (Desk.isPending_eq_false_iff.1 hunused).symm
    · rw [← hrid] at hid
      rw [Table.find?_erase_of_ne _ hid]
      exact x.desk.pending.find?_insert_of_ne _ hid
  · rw [hd]
    exact Nat.le_succ x.desk.nextChannel
  · intro j r' hj hopen
    have hlt : r'.channel ≠ x.desk.nextChannel := Nat.ne_of_lt (h.numbered j r' hj)
    rw [hd]
    show ((Table.erase _ _).find? r'.channel).isSome = true
    rw [Table.find?_erase_of_ne _ hlt]
    exact (congrArg Option.isSome (x.desk.channels.find?_insert_of_ne none hlt)).trans hopen

/-- Every step keeps the invariant. -/
theorem step (h : Booked timing es (play timing es)) (hf : (play timing es).FreshAt e) :
    Booked timing (es ++ [e]) (play timing (es ++ [e])) := by
  have hy : ∀ j, (play timing (es ++ [e])).stage? j = (play timing es).stage? j →
      (play timing (es ++ [e])).registration? j = (play timing es).registration? j :=
    fun j hj => registration?_congr hj
  cases happens timing es e with
  | quiet desk stages _ idle =>
    have hne : e ≠ .sweep := fun he => by
      rw [he] at idle
      exact idle
    exact h.of_same_desk hne (fun j => registration?_of_quiet (stages j)) desk
  | @enters i draws wall _ c r call stage desk stage' others =>
    refine h.enter (by simp) hf (h.unused hf) ?_ desk ?_ fun j hj => hy j (others j hj)
    · rw [registration?, stage]
      rfl
    · rw [registration?, stage']
      rfl
  | @turnedAway i draws wall _ c r d call stage _ entry desk stage' others =>
    refine h.turnAway (by simp) (h.unused hf) entry desk fun j => ?_
    by_cases hj : j = i
    · rw [hj, registration?, registration?, stage, stage']
      rfl
    · exact hy j (others j hj)
  | @stays i draws wall _ c s s' r _ stage held desk stage' goesOn others =>
    have hs' : s'.registration? = s.registration? := by
      rcases goesOn with ⟨rfl, -⟩ | ⟨alarm, -, -, -, rfl⟩
      · rfl
      · exact held.symm
    refine h.of_same_desk (by simp) (fun j => ?_) desk
    by_cases hj : j = i
    · rw [hj, registration?, registration?, stage, stage']
      exact hs'
    · exact hy j (others j hj)
  | @returns i draws wall _ c s r result _ stage held _ desk stage' others =>
    refine h.close (i := i) (by simp) ?_ desk ?_ fun j hj => hy j (others j hj)
    · rw [registration?, stage]
      exact held
    · rw [registration?, stage']
      rfl
  | @isGivenUp i _ r held desk stage' others =>
    refine h.close (by simp) held desk ?_ fun j hj => hy j (others j hj)
    rw [registration?, stage']
    rfl
  | @isForgotten i _ held desk stage' others =>
    refine h.of_same_desk (by simp) (fun j => ?_) desk
    by_cases hj : j = i
    · rw [hj, held, registration?, stage']
      rfl
    · exact hy j (others j hj)
  | @acknowledged a _ desk stages =>
    refine h.of_same (by simp) (fun j => hy j (stages j)) ?_ ?_ ?_
    · intro id
      rw [desk, Desk.pending_handleAck]
    · exact Nat.le_of_eq (by rw [desk, Desk.nextChannel_handleAck])
    · intro j r _ hc
      rw [desk, Desk.isSome_channels_handleAck]
      exact hc
  | swept desk stages => exact h.sweep rfl rfl desk fun j => hy j (stages j)

end Booked

/-- Every run keeps the books. -/
theorem booked (h : Run.Along step FreshAt (start timing) es) :
    Booked timing es (play timing es) := by
  induction es using List.reverseRecOn with
  | nil =>
    refine ⟨?_, ?_, ?_, ?_, ?_, ?_, ?_⟩
    · intro i j r r' hi
      cases hi
    · intro i j r r' hi
      cases hi
    · intro i r hi
      cases hi
    · intro i r hi
      cases hi
    · intro i r hi
      cases hi
    · intro id p hp
      cases hp
    · rintro r ⟨pre, ho, -⟩
      exact absurd ho Run.not_occurs_nil
  | append_singleton es e ih =>
    obtain ⟨hes, he⟩ := (Run.along_snoc es e).1 h
    exact (ih hes).step he

/-! ### The table of waiting commands -/

/-- An entry belongs to a sender in progress, under the identifier and with the channel that the
sender holds, and no sweep has taken it away. -/
theorem find?_pending_iff (h : Run.Along step FreshAt (start timing) es) (id : String) (n : Nat) :
    (∃ p, (play timing es).desk.pending.find? id = some p ∧ p.channel = n) ↔
      ∃ i, InProgress timing es i ∧ (play timing es).registration? i = some ⟨id, n⟩ ∧
        ¬ SweptIn timing es ⟨id, n⟩ := by
  have hb := booked h
  constructor
  · rintro ⟨p, hp, rfl⟩
    obtain ⟨i, hi⟩ := hb.owned id p hp
    refine ⟨i, inProgress_iff.2 ⟨_, hi⟩, hi, (hb.entry i _ hi).1 ?_⟩
    exact Desk.hasEntry_iff.2 ⟨p, hp, rfl⟩
  · rintro ⟨i, -, hi, hns⟩
    exact Desk.hasEntry_iff.1 ((hb.entry i _ hi).2 hns)

theorem isPending_iff_held (h : Run.Along step FreshAt (start timing) es) (id : String) :
    (play timing es).desk.isPending id = true ↔
      ∃ i r, (play timing es).registration? i = some r ∧ r.id = id ∧ ¬ SweptIn timing es r := by
  rw [Desk.isPending_iff]
  constructor
  · rintro ⟨p, hp⟩
    obtain ⟨i, -, hi, hns⟩ := (find?_pending_iff h id p.channel).1 ⟨p, hp, rfl⟩
    exact ⟨i, _, hi, rfl, hns⟩
  · rintro ⟨i, r, hi, rfl, hns⟩
    obtain ⟨p, hp, -⟩ :=
      (find?_pending_iff h r.id r.channel).2 ⟨i, inProgress_iff.2 ⟨r, hi⟩, hi, hns⟩
    exact ⟨p, hp⟩

theorem SweptIn.of_isPrefix {pre : List Event} (h : SweptIn timing pre r) (hpre : pre <+: es) :
    SweptIn timing es r := by
  obtain ⟨p, ho, hb, ha⟩ := h
  exact ⟨p, ho.of_isPrefix hpre, hb, ha⟩

/-- When the senders that have come since are gone, every entry is one of the earlier ones. -/
theorem isPending_before (h : Run.Along step FreshAt (start timing) es) {pre : List Event}
    (hpre : pre <+: es) (hgone : ∀ i, InProgress timing es i → InProgress timing pre i)
    {id : String} (hid : (play timing es).desk.isPending id = true) :
    (play timing pre).desk.isPending id = true := by
  obtain ⟨i, r, hi, hrid, hns⟩ := (isPending_iff_held h id).1 hid
  obtain ⟨r', hi'⟩ := inProgress_iff.1 (hgone i (inProgress_iff.2 ⟨r, hi⟩))
  cases registration?_constant hpre hi' hi
  exact (isPending_iff_held (h.of_isPrefix hpre) id).2
    ⟨i, r, hi', hrid, fun hsw => hns (hsw.of_isPrefix hpre)⟩

/-- The table of waiting commands after a run. -/
structure Accounted (timing : DeskClock) (es : List Event) : Prop where
  /-- There is one entry for each sender in progress that no sweep has met, with the identifier and
  the channel of that sender, and there are no other entries. -/
  entries : ∀ id n, (∃ p, (play timing es).desk.pending.find? id = some p ∧ p.channel = n) ↔
    ∃ i, InProgress timing es i ∧ (play timing es).registration? i = some ⟨id, n⟩ ∧
      ¬ SweptIn timing es ⟨id, n⟩
  /-- The identifier of a sender in progress is that of the one envelope that it has published, and
  of no other sender in progress. -/
  keyed : ∀ i, InProgress timing es i → ∃ r c timestamp,
    (play timing es).registration? i = some r ∧ (play timing es).call? i = some c ∧
      (∀ q, (i, q) ∈ (play timing es).posted ↔ q = c.publishing r.id timestamp) ∧
      ∀ j r', (play timing es).registration? j = some r' → r'.id = r.id → j = i
  /-- The channel of every entry is open. -/
  alive : ∀ id p, (play timing es).desk.pending.find? id = some p →
    (play timing es).desk.channels.find? p.channel ≠ none
  /-- A sender that comes now makes a new entry and leaves the others alone. -/
  unharmed : ∀ i draws wall now device kind, (play timing es).FreshAt (.poll i draws wall) →
    ∀ r d, (play timing es).desk.register now device kind draws = (r, d) →
      (play timing es).desk.pending.find? r.id = none ∧
      ∀ id p, (play timing es).desk.pending.find? id = some p → d.pending.find? id = some p
  /-- When the senders that have come since are gone, the count is the earlier one, less the earlier
  entries that are gone as well. -/
  counted : ∀ pre, pre <+: es → (∀ i, InProgress timing es i → InProgress timing pre i) →
    (play timing pre).desk.count = (play timing es).desk.count +
      ((play timing pre).desk.pending.keys.filter
        fun id => !(play timing es).desk.isPending id).length

open List in
/-- **The table of waiting commands is accounted for in every run**, provided that the identifiers
drawn differ from those of the senders in progress. -/
theorem pending_accounted (h : Run.Along step FreshAt (start timing) es) :
    Accounted timing es where
  entries := find?_pending_iff h
  keyed i hi := by
    obtain ⟨r, hr⟩ := inProgress_iff.1 hi
    obtain ⟨c, timestamp, hc, hq⟩ := (filed timing es).one i r hr
    exact ⟨r, c, timestamp, hr, hc, hq, fun j r' hj hid => (booked h).ids_apart j i r' r hj hr hid⟩
  alive id p hp hnone := by
    obtain ⟨i, hi⟩ := (booked h).owned id p hp
    have hopen := (booked h).isOpen i _ hi
    rw [hnone] at hopen
    cases hopen
  unharmed i draws wall now device kind hf r d hreg := by
    have hunused := (booked h).unused hf
    have hid : r.id = draws 0 := by rw [← Desk.register_id hunused now device kind, hreg]
    have hnone : (play timing es).desk.pending.find? r.id = none := by
      rw [hid]
      exact Desk.isPending_eq_false_iff.1 hunused
    refine ⟨hnone, fun id p hp => ?_⟩
    have hne : id ≠ r.id := by
      rintro rfl
      rw [hnone] at hp
      cases hp
    cases hreg
    exact (Table.find?_insert_of_ne _ _ hne).trans hp
  counted pre hpre hgone := by
    have hkeys : (play timing pre).desk.pending.keys.filter
          (fun id => (play timing es).desk.isPending id) ~ (play timing es).desk.pending.keys := by
      refine (List.perm_ext_iff_of_nodup ((Table.nodup_keys _).filter _) (Table.nodup_keys _)).2 ?_
      intro id
      rw [List.mem_filter, Table.mem_keys_iff, Table.mem_keys_iff]
      exact and_iff_right_of_imp (isPending_before h hpre hgone)
    rw [Desk.count, Desk.count, ← Table.length_keys, ← Table.length_keys, ← hkeys.length_eq]
    exact List.length_eq_length_filter_add _

/-- Two senders come, the first is answered and ends, the second is given up. -/
def twoSenders : List Event :=
  [.begin ⟨⟨[1]⟩, "lock-1", .unlock, .empty⟩, .begin ⟨⟨[2]⟩, "lock-2", .lock, .empty⟩,
    .poll 0 (fun _ => "a") .epoch, .poll 1 (fun _ => "b") .epoch, .jobEnds 0 (.finished (.ok ())),
    .acknowledge ⟨"a", true, "opened", 0⟩, .poll 0 (fun _ => "c") .epoch, .giveUp 1]

theorem twoSenders_fresh : Run.Along step FreshAt (start .standard) twoSenders := by
  refine ⟨trivial, trivial, fun i r hr => ?_, fun i r hr => ?_, trivial, trivial,
    fun i r hr => ?_, trivial, trivial⟩
  · match i with
    | 0 | 1 | _ + 2 => cases hr
  · match i with
    | 0 =>
      cases hr
      decide
    | 1 | _ + 2 => cases hr
  · match i with
    | 0 | 1 =>
      cases hr
      decide
    | _ + 2 => cases hr

theorem pending_accounted_twoSenders :
    Run.Along step FreshAt (start .standard) twoSenders ∧ Accounted .standard twoSenders :=
  ⟨twoSenders_fresh, pending_accounted twoSenders_fresh⟩

end LockFleet.Exchange
