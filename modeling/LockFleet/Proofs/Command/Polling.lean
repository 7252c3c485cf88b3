import LockFleet.Command.Send

/-!
# What a poll of a sender can do

The operations of the desk and the poll of a sender, each by all that can come of it, so that no
later proof has to open them.

* `Desk.handleAck_cases` — an acknowledgement is taken by an empty channel, or nothing changes;
* `Desk.register_id`, `Desk.of_register` — an entry is made under an identifier not in use;
* `SendStage.poll_fresh` — the first poll makes the entry and has the envelope published;
* `SendStage.poll_cases` — a later poll waits on, or ends and takes the entry away.
-/

namespace LockFleet

/-- What a sender holds while it is in progress: from its first poll until it ends. -/
def SendStage.registration? : SendStage → Option Registration
  | fresh => none
  | publishing r _ => some r
  | waiting r _ => some r
  | ended _ => none

/-! ### The desk -/

namespace Desk

theorem isPending_iff {d : Desk} {id : String} :
    d.isPending id = true ↔ ∃ p, d.pending.find? id = some p :=
  Option.isSome_iff_exists

theorem isPending_eq_false_iff {d : Desk} {id : String} :
    d.isPending id = false ↔ d.pending.find? id = none := by
  rw [isPending, Table.contains, Option.isSome_eq_false_iff, Option.isNone_iff_eq_none]

theorem hasEntry_iff {d : Desk} {r : Registration} :
    d.hasEntry r = true ↔ ∃ p, d.pending.find? r.id = some p ∧ p.channel = r.channel := by
  rw [hasEntry]
  cases d.pending.find? r.id with
  | none => simp
  | some p => simp

/-- The first drawn identifier is taken if nobody has it. -/
theorem register_id {d : Desk} {draws : Nat → String} (h : d.isPending (draws 0) = false)
    (now : Nat) (device : String) (kind : CommandKind) :
    (d.register now device kind draws).1.id = draws 0 := by
  show Identifier.firstUnused d.isPending draws d.count 0 = draws 0
  cases d.count with
  | zero => rfl
  | succ n => rw [Identifier.firstUnused, h, if_neg Bool.false_ne_true]

/-- What a sender that has made its entry leaves at the desk. -/
theorem of_register {d d' : Desk} {r : Registration} {now : Nat} {device : String}
    {kind : CommandKind} {draws : Nat → String}
    (h : d.register now device kind draws = (r, d')) :
    r.channel = d.nextChannel ∧ d'.nextChannel = d.nextChannel + 1 ∧
      d'.pending = d.pending.insert r.id ⟨device, kind, now, r.channel⟩ ∧
      d'.channels = d.channels.insert r.channel none := by
  cases h
  exact ⟨rfl, rfl, rfl, rfl⟩

theorem find?_channels_register_self (d : Desk) (now : Nat) (device : String) (kind : CommandKind)
    (draws : Nat → String) :
    (d.register now device kind draws).2.channels.find? d.nextChannel = some none :=
  Table.find?_insert_self _ _ _

theorem find?_channels_register_of_ne {d : Desk} {n : Nat} (h : n ≠ d.nextChannel) (now : Nat)
    (device : String) (kind : CommandKind) (draws : Nat → String) :
    (d.register now device kind draws).2.channels.find? n = d.channels.find? n :=
  Table.find?_insert_of_ne _ _ h

theorem find?_channels_close_of_ne {d : Desk} {r : Registration} {n : Nat} (h : n ≠ r.channel) :
    (d.close r).channels.find? n = d.channels.find? n :=
  Table.find?_erase_of_ne _ h

theorem handleAck_cases (d : Desk) (a : Ack) :
    (∃ p, d.pending.find? a.command = some p ∧ d.channels.find? p.channel = some none ∧
      d.handleAck a = (true, { d with channels := d.channels.insert p.channel (some a) })) ∨
    (d.handleAck a = (false, d) ∧
      ∀ p, d.pending.find? a.command = some p → d.channels.find? p.channel ≠ some none) := by
  rw [handleAck]
  cases hp : d.pending.find? a.command with
  | none => exact Or.inr ⟨rfl, fun p h => by simp at h⟩
  | some p =>
    cases hc : d.channels.find? p.channel with
    | none => exact Or.inr ⟨by simp [hc], fun q h => by cases h; simp [hc]⟩
    | some held =>
      cases held with
      | none => exact Or.inl ⟨p, rfl, hc, by simp [hc]⟩
      | some b => exact Or.inr ⟨by simp [hc], fun q h => by cases h; simp [hc]⟩

/-- No entry is touched by an acknowledgement. -/
theorem pending_handleAck (d : Desk) (a : Ack) : (d.handleAck a).2.pending = d.pending := by
  rcases d.handleAck_cases a with ⟨p, -, -, h⟩ | ⟨h, -⟩ <;> rw [h]

theorem nextChannel_handleAck (d : Desk) (a : Ack) :
    (d.handleAck a).2.nextChannel = d.nextChannel := by
  rcases d.handleAck_cases a with ⟨p, -, -, h⟩ | ⟨h, -⟩ <;> rw [h]

theorem timing_handleAck (d : Desk) (a : Ack) : (d.handleAck a).2.timing = d.timing := by
  rcases d.handleAck_cases a with ⟨p, -, -, h⟩ | ⟨h, -⟩ <;> rw [h]

/-- No channel is opened or closed by an acknowledgement. -/
theorem isSome_channels_handleAck (d : Desk) (a : Ack) (n : Nat) :
    ((d.handleAck a).2.channels.find? n).isSome = (d.channels.find? n).isSome := by
  rcases d.handleAck_cases a with ⟨p, -, hp, h⟩ | ⟨h, -⟩
  · rw [h]
    by_cases hn : n = p.channel
    · subst hn
      rw [hp]
      show ((d.channels.insert p.channel (some a)).find? p.channel).isSome = _
      rw [Table.find?_insert_self]
      rfl
    · exact congrArg Option.isSome (d.channels.find?_insert_of_ne (some a) hn)
  · rw [h]

theorem find?_sweep {d : Desk} {now : Nat} {id : String} {p : Pending} :
    (d.sweep now).2.pending.find? id = some p ↔
      d.pending.find? id = some p ∧ d.isExpired now p = false := by
  rw [sweep, Table.find?_keep_eq_some_iff, Bool.not_eq_true']

/-- What a sender finds, by what is in its channel. -/
theorem receive_eq_acknowledged_iff {d : Desk} {r : Registration} {a : Ack} :
    d.receive r = .acknowledged a ↔ d.channels.find? r.channel = some (some a) := by
  rw [receive]
  split
  · next b hb => rw [hb]; simp
  · next h =>
    constructor
    · intro h'
      split at h' <;> simp at h'
    · exact fun h' => absurd h' (h a)

theorem receive_eq_waiting_iff {d : Desk} {r : Registration} :
    d.receive r = .waiting ↔
      (∀ a, d.channels.find? r.channel ≠ some (some a)) ∧ d.hasEntry r = true := by
  rw [receive]
  split
  · next b hb => simp [hb]
  · next h =>
    split
    · next he => simpa [he] using h
    · next he => simp [he]

theorem receive_eq_dropped_iff {d : Desk} {r : Registration} :
    d.receive r = .dropped ↔
      (∀ a, d.channels.find? r.channel ≠ some (some a)) ∧ d.hasEntry r = false := by
  rw [receive]
  split
  · next b hb => simp [hb]
  · next h =>
    split
    · next he => simp [he]
    · next he => simpa [he] using h

end Desk

/-! ### Senders -/

namespace SendStage

/-- The sender waits for its acknowledgement under an alarm: it did before this poll, or its
envelope has been published and the alarm is set now. -/
def WaitsUnder (c : SendCall) (s : SendView) (d : Desk) (r : Registration) (alarm : Alarm)
    (st : SendStage) : Prop :=
  st = waiting r alarm ∨
    ∃ n e u, st = publishing r (.running n) ∧ s.jobs n = some e ∧
      e.requested (c.kind.topic c.device) n = .ok u ∧
      alarm = s.view.alarm d.timing.timer d.timing.ackTimeout

/-- The error of a sender whose envelope could not be published. -/
def unpublished (r : Registration) : TransportError → CommandError
  | .cancelled => .cancelled r.id
  | e => .transport e

/-- The ways in which the poll of a sender in progress ends it. -/
inductive Ends (c : SendCall) (s : SendView) (d : Desk) (r : Registration) (st : SendStage) :
    Except CommandError Reply → Prop where
  | cancelled (h : s.view.isCancelled c.token = true) : Ends c s d r st (.error (.cancelled r.id))
  | unpublished (n : Nat) (e : JobEnd) (t : TransportError) (hst : st = publishing r (.running n))
      (hjob : s.jobs n = some e) (ht : e.requested (c.kind.topic c.device) n = .error t) :
      Ends c s d r st (.error (SendStage.unpublished r t))
  | acknowledged (a : Ack) (h : d.receive r = .acknowledged a) :
      Ends c s d r st (.ok (Reply.ofAck a))
  | expired (h : d.receive r = .dropped) : Ends c s d r st (.error (.expired r.id))
  | timeout (alarm : Alarm) (hw : WaitsUnder c s d r alarm st) (h : d.receive r = .waiting)
      (hdue : s.view.isDue alarm = true) :
      Ends c s d r st (.error (.timeout r.id (reportedMillis d.timing.ackTimeout)))

/-- A sender publishes through a job that has been started. -/
def HasJob (st : SendStage) : Prop := ∀ r g, st = publishing r g → ∃ n, g = .running n

/-- The first poll makes an entry and starts a job, unless the token is cancelled already. -/
theorem poll_fresh {c : SendCall} {s : SendView} {d d' : Desk} {r : Registration}
    (hreg : d.register s.view.now c.device c.kind s.draws = (r, d')) :
    fresh.poll c s d =
      if s.view.isCancelled c.token = true then finish d' r (.error (.cancelled r.id))
      else ⟨publishing r (.running s.nextJob), d',
        some (c.publishing r.id (timestamp s.view))⟩ := by
  rw [poll, hreg]
  show publish c s d' r .fresh = _
  rw [publish, Guarded.poll]
  by_cases hc : s.view.isCancelled c.token = true
  · rw [if_pos hc, if_pos hc]
    rfl
  · rw [if_neg hc, if_neg hc]
    rfl

theorem await_cases {c : SendCall} {s : SendView} {d : Desk} {r : Registration} {alarm : Alarm}
    {st : SendStage} (hw : WaitsUnder c s d r alarm st) :
    (∃ result, Ends c s d r st result ∧ await c s.view d r alarm = finish d r result) ∨
      (d.receive r = .waiting ∧ s.view.isDue alarm = false ∧
        await c s.view d r alarm = ⟨waiting r alarm, d, none⟩) := by
  rw [await]
  by_cases hc : s.view.isCancelled c.token = true
  · rw [if_pos hc]
    exact Or.inl ⟨_, .cancelled hc, rfl⟩
  rw [if_neg hc]
  cases hr : d.receive r with
  | acknowledged a => exact Or.inl ⟨_, .acknowledged a hr, rfl⟩
  | dropped => exact Or.inl ⟨_, .expired hr, rfl⟩
  | waiting =>
    cases hd : s.view.isDue alarm with
    | true => exact Or.inl ⟨_, .timeout alarm hw hr hd, rfl⟩
    | false => exact Or.inr ⟨rfl, rfl, rfl⟩

/-- **All that a later poll can do.**  It ends the sender and takes its entry away, or goes on
waiting for the job or for the acknowledgement and leaves the desk alone. -/
theorem poll_cases {st : SendStage} {r : Registration} (c : SendCall) (s : SendView) (d : Desk)
    (hr : st.registration? = some r) (hj : st.HasJob) :
    (∃ result, Ends c s d r st result ∧ st.poll c s d = finish d r result) ∨
    (∃ n, st = publishing r (.running n) ∧ s.jobs n = none ∧ st.poll c s d = ⟨st, d, none⟩) ∨
    (∃ alarm, WaitsUnder c s d r alarm st ∧ d.receive r = .waiting ∧
      s.view.isDue alarm = false ∧ st.poll c s d = ⟨waiting r alarm, d, none⟩) := by
  cases st with
  | fresh => simp [registration?] at hr
  | ended result => simp [registration?] at hr
  | waiting r' alarm =>
    cases hr
    rcases await_cases (c := c) (s := s) (d := d) (Or.inl rfl) with ⟨result, he, h⟩ | ⟨hw, hd, h⟩
    · exact Or.inl ⟨result, he, h⟩
    · exact Or.inr (Or.inr ⟨alarm, Or.inl rfl, hw, hd, h⟩)
  | publishing r' g =>
    cases hr
    obtain ⟨n, rfl⟩ := hj r g rfl
    show (∃ result, _ ∧ publish c s d r (.running n) = _) ∨
      (∃ n, _ ∧ _ ∧ publish c s d r (.running _) = _) ∨
      (∃ alarm, _ ∧ _ ∧ _ ∧ publish c s d r (.running n) = _)
    rw [publish, Guarded.poll]
    by_cases hc : s.view.isCancelled c.token = true
    · rw [if_pos hc]
      exact Or.inl ⟨_, .cancelled hc, rfl⟩
    rw [if_neg hc]
    cases hjob : s.jobs n with
    | none => exact Or.inr (Or.inl ⟨n, rfl, hjob, rfl⟩)
    | some e =>
      cases hq : e.requested (c.kind.topic c.device) n with
      | error t =>
        refine Or.inl ⟨_, .unpublished n e t rfl hjob hq, ?_⟩
        simp only [hq]
        cases t <;> rfl
      | ok u =>
        have hw : WaitsUnder c s d r (s.view.alarm d.timing.timer d.timing.ackTimeout)
            (publishing r (.running n)) := Or.inr ⟨n, e, u, rfl, hjob, hq, rfl⟩
        simp only [hq]
        rcases await_cases hw with ⟨result, he, h⟩ | ⟨hrec, hd, h⟩
        · exact Or.inl ⟨result, he, h⟩
        · exact Or.inr (Or.inr ⟨_, hw, hrec, hd, h⟩)

end SendStage

end LockFleet
