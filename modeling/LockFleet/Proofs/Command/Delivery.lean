import LockFleet.Proofs.Command.Lifecycle

/-!
# How an acknowledgement reaches its sender

The channel of a sender holds nothing until the first acknowledgement for its identifier comes while
its entry is there, and that acknowledgement ever after.

* `Exchange.Taken` — an acknowledgement of the run that the desk took for a sender;
* `Exchange.Heard` — an acknowledgement for a sender came while its entry was there;
* `Exchange.mailbox` — what the channel of a sender says about the run;
* `Exchange.Taken.unique` — the desk takes one acknowledgement for a sender at most.
-/

namespace LockFleet.Exchange

variable {timing : DeskClock} {es pre : List Event} {x y : Exchange} {e : Event} {i : Nat}
  {r : Registration} {a b : Ack}

/-- The desk took an acknowledgement of the run for a sender in progress. -/
structure Taken (timing : DeskClock) (es pre : List Event) (i : Nat) (r : Registration) (a : Ack) :
    Prop where
  occurs : Run.Occurs es pre (.acknowledge a)
  held : (play timing pre).registration? i = some r
  command : a.command = r.id
  taken : ((play timing pre).desk.handleAck a).1 = true

/-- An acknowledgement for a sender in progress came while its entry was there. -/
def Heard (timing : DeskClock) (es : List Event) (i : Nat) (r : Registration) : Prop :=
  ∃ pre a, Run.Occurs es pre (.acknowledge a) ∧ (play timing pre).registration? i = some r ∧
    (play timing pre).desk.hasEntry r = true ∧ a.command = r.id

theorem heard_snoc : Heard timing (es ++ [e]) i r ↔ Heard timing es i r ∨
    ∃ a, e = .acknowledge a ∧ (play timing es).registration? i = some r ∧
      (play timing es).desk.hasEntry r = true ∧ a.command = r.id := by
  constructor
  · rintro ⟨pre, a, ho, h⟩
    rcases Run.occurs_snoc.1 ho with ho | ⟨rfl, he⟩
    · exact Or.inl ⟨pre, a, ho, h⟩
    · exact Or.inr ⟨a, he.symm, h⟩
  · rintro (⟨pre, a, ho, h⟩ | ⟨a, rfl, h⟩)
    · exact ⟨pre, a, Run.occurs_snoc.2 (Or.inl ho), h⟩
    · exact ⟨es, a, Run.occurs_snoc.2 (Or.inr ⟨rfl, rfl⟩), h⟩

theorem Taken.of_isPrefix {p : List Event} (h : Taken timing pre p i r a) (hpre : pre <+: es) :
    Taken timing es p i r a :=
  ⟨h.occurs.of_isPrefix hpre, h.held, h.command, h.taken⟩

/-- A sender that has not been polled has heard nothing. -/
theorem not_heard_of_fresh (hf : (play timing es).stage? i = some .fresh) :
    ¬ Heard timing es i r := by
  rintro ⟨pre, a, ho, hr, -⟩
  have hpre : pre <+: es := (List.prefix_append pre [.acknowledge a]).trans ho.isPrefix
  exact (tracked timing es i).fresh hf (((tracked timing pre i).held r hr).of_isPrefix hpre)

/-! ### The channel of a sender -/

/-- An entry is that of the sender in progress with its identifier. -/
theorem Booked.hasEntry_of_find? (h : Booked timing es x) (hr : x.registration? i = some r)
    {p : Pending} (hp : x.desk.pending.find? r.id = some p) : p.channel = r.channel := by
  obtain ⟨j, hj⟩ := h.owned r.id p hp
  cases h.ids_apart j i _ r hj hr rfl
  exact congrArg Registration.channel (Option.some.inj (hj.symm.trans hr))

/-- What is in the channel of a sender changes by acknowledgements only. -/
theorem Booked.channel_frame (h : Booked timing es x) (hstep : x.Happens e y)
    (hne : ∀ a, e ≠ .acknowledge a) (hx : x.registration? i = some r)
    (hy : y.registration? i = some r) :
    y.desk.channels.find? r.channel = x.desk.channels.find? r.channel := by
  have hlt : r.channel ≠ x.desk.nextChannel := Nat.ne_of_lt (h.numbered i r hx)
  cases hstep with
  | quiet desk => rw [desk]
  | @enters j draws wall _ c r' _ _ desk =>
    have hd : y.desk = (x.desk.register x.now c.device c.kind draws).2 := by rw [desk]
    rw [hd]
    exact Desk.find?_channels_register_of_ne hlt _ _ _ _
  | @turnedAway j draws wall _ c r' d _ _ _ entry desk =>
    have hr' : r'.channel = x.desk.nextChannel := congrArg (fun q => q.1.channel) entry.symm
    have hd : d = (x.desk.register x.now c.device c.kind draws).2 := by rw [entry]
    rw [desk, Desk.find?_channels_close_of_ne (hr' ▸ hlt), hd]
    exact Desk.find?_channels_register_of_ne hlt _ _ _ _
  | stays _ _ _ desk => rw [desk]
  | @returns j _ _ _ _ s r' result _ stage held _ desk stage' =>
    have hj : x.registration? j = some r' := registration?_eq_some_iff.2 ⟨s, stage, held⟩
    have hij : i ≠ j := fun hij => by rw [registration?, hij, stage'] at hy; cases hy
    rw [desk, Desk.find?_channels_close_of_ne fun hc => hij (h.channels_apart i j r r' hx hj hc)]
  | @isGivenUp j _ r' held desk stage' =>
    have hij : i ≠ j := fun hij => by rw [registration?, hij, stage'] at hy; cases hy
    rw [desk, Desk.find?_channels_close_of_ne fun hc => hij (h.channels_apart i j r r' hx held hc)]
  | isForgotten _ desk => rw [desk]
  | @acknowledged a => exact absurd rfl (hne a)
  | swept desk =>
    rw [desk]
    rfl

/-- What the channel of a sender says about the run. -/
structure Mailbox (timing : DeskClock) (es : List Event) (x : Exchange) (i : Nat)
    (r : Registration) : Prop where
  /-- While it is empty, no acknowledgement has come while the entry was there. -/
  empty : x.desk.channels.find? r.channel = some none → ¬ Heard timing es i r
  /-- It holds the first acknowledgement that has. -/
  full : ∀ a, x.desk.channels.find? r.channel = some (some a) →
    ∃ pre, Taken timing es pre i r a ∧ ¬ Heard timing pre i r

namespace Mailbox

theorem of_same (h : Mailbox timing es x i r) (hne : ∀ a, e ≠ .acknowledge a)
    (hc : y.desk.channels.find? r.channel = x.desk.channels.find? r.channel) :
    Mailbox timing (es ++ [e]) y i r where
  empty hy hh := by
    rcases heard_snoc.1 hh with hh | ⟨a, he, -⟩
    · exact h.empty (hc.symm.trans hy) hh
    · exact hne a he
  full a hy := by
    obtain ⟨pre, ht, hh⟩ := h.full a (hc.symm.trans hy)
    exact ⟨pre, ht.of_isPrefix (List.prefix_append es [e]), hh⟩

/-- A sender that has just made its entry has an empty channel. -/
theorem new (hf : (play timing es).stage? i = some .fresh) (hne : ∀ a, e ≠ .acknowledge a)
    (hc : y.desk.channels.find? r.channel = some none) : Mailbox timing (es ++ [e]) y i r where
  empty _ hh := by
    rcases heard_snoc.1 hh with hh | ⟨a, he, -⟩
    · exact not_heard_of_fresh hf hh
    · exact hne a he
  full a hy := by
    rw [hc] at hy
    cases hy

/-- An acknowledgement goes into the channel of the sender whose entry it finds, if that is
empty. -/
theorem acknowledge (h : Mailbox timing es (play timing es) i r)
    (hb : Booked timing es (play timing es)) (hr : (play timing es).registration? i = some r)
    (hy : y.desk = ((play timing es).desk.handleAck a).2) :
    Mailbox timing (es ++ [.acknowledge a]) y i r := by
  have hold : ∀ b, (play timing es).desk.channels.find? r.channel = some (some b) →
      ∃ pre, Taken timing (es ++ [.acknowledge a]) pre i r b ∧ ¬ Heard timing pre i r := by
    intro b hc
    obtain ⟨pre, ht, hh⟩ := h.full b hc
    exact ⟨pre, ht.of_isPrefix (List.prefix_append es _), hh⟩
  have hentry : ∀ p, (play timing es).desk.pending.find? a.command = some p →
      (play timing es).desk.hasEntry r = true → a.command = r.id → p.channel = r.channel := by
    intro p hp _ hid
    rw [hid] at hp
    exact hb.hasEntry_of_find? hr hp
  rcases (play timing es).desk.handleAck_cases a with ⟨p, hp, hempty, hack⟩ | ⟨hack, hnot⟩
  · rw [hack] at hy
    have hch : y.desk.channels =
        (play timing es).desk.channels.insert p.channel (some a) := by rw [hy]
    by_cases hpc : r.channel = p.channel
    · have hown : a.command = r.id := by
        obtain ⟨j, hj⟩ := hb.owned a.command p hp
        cases hb.channels_apart j i _ r hj hr hpc.symm
        exact congrArg Registration.id (Option.some.inj (hj.symm.trans hr))
      rw [← hpc] at hempty hch
      refine ⟨fun hc => ?_, fun b hc => ?_⟩
      · rw [hch, Table.find?_insert_self] at hc
        cases hc
      · rw [hch, Table.find?_insert_self] at hc
        cases hc
        refine ⟨es, ⟨⟨[], rfl⟩, hr, hown, ?_⟩, h.empty hempty⟩
        rw [hack]
    · have hsame : y.desk.channels.find? r.channel =
          (play timing es).desk.channels.find? r.channel := by
        rw [hch]
        exact Table.find?_insert_of_ne _ _ hpc
      refine ⟨fun hc hh => ?_, fun b hc => hold b (hsame.symm.trans hc)⟩
      rcases heard_snoc.1 hh with hh | ⟨b, he, -, hhas, hid⟩
      · exact h.empty (hsame.symm.trans hc) hh
      · cases he
        exact hpc (hentry p hp hhas hid).symm
  · rw [hack] at hy
    have hsame : y.desk.channels.find? r.channel =
        (play timing es).desk.channels.find? r.channel := by rw [hy]
    refine ⟨fun hc hh => ?_, fun b hc => hold b (hsame.symm.trans hc)⟩
    rcases heard_snoc.1 hh with hh | ⟨b, he, -, hhas, hid⟩
    · exact h.empty (hsame.symm.trans hc) hh
    · cases he
      obtain ⟨p, hp, hpc⟩ := Desk.hasEntry_iff.1 hhas
      rw [← hid] at hp
      exact hnot p hp (hpc ▸ hsame.symm.trans hc)

end Mailbox

/-- **The channel of a sender holds the first acknowledgement that came while its entry was there,
and nothing before that.** -/
theorem mailbox (h : Run.Along step FreshAt (start timing) es)
    (hr : (play timing es).registration? i = some r) :
    Mailbox timing es (play timing es) i r := by
  induction es using List.reverseRecOn with
  | nil => cases hr
  | append_singleton es e ih =>
    obtain ⟨hes, he⟩ := (Run.along_snoc es e).1 h
    have hb := booked hes
    have hstep := happens timing es e
    rcases hstep.registration?_cases hr with hx | ⟨hf, draws, wall, rfl⟩
    · by_cases hack : ∃ a, e = .acknowledge a
      · obtain ⟨a, rfl⟩ := hack
        refine (ih hes hx).acknowledge hb hx ?_
        rw [play_snoc]
        rfl
      · have hne : ∀ a, e ≠ .acknowledge a := fun a ha => hack ⟨a, ha⟩
        exact (ih hes hx).of_same hne (hb.channel_frame hstep hne hx hr)
    · refine Mailbox.new hf (by simp) ?_
      generalize play timing (es ++ [.poll i draws wall]) = y at hr hstep
      cases hstep with
      | quiet _ _ _ idle =>
        obtain ⟨result, hres⟩ := idle .fresh hf
        cases hres
      | @enters _ _ _ _ c r' _ _ desk stage' =>
        rw [registration?, stage'] at hr
        cases hr
        have hch : r.channel = (play timing es).desk.nextChannel :=
          congrArg (fun q => q.1.channel) desk.symm
        have hd : y.desk = ((play timing es).desk.register (play timing es).now c.device c.kind
            draws).2 := by rw [desk]
        rw [hch, hd]
        exact Desk.find?_channels_register_self _ _ _ _ _
      | turnedAway _ _ _ _ _ stage' =>
        rw [registration?, stage'] at hr
        cases hr
      | stays _ stage held =>
        cases hf.symm.trans stage
        cases held
      | returns _ _ _ _ _ stage' =>
        rw [registration?, stage'] at hr
        cases hr

/-! ### Acknowledgements that are taken -/

theorem play_isPrefix (h : Run.Along step FreshAt (start timing) es)
    (ho : Run.Occurs es pre e) : Run.Along step FreshAt (start timing) pre :=
  h.of_isPrefix ((List.prefix_append pre [e]).trans ho.isPrefix)

/-- An acknowledgement that is taken finds the entry of the sender and an empty channel. -/
theorem Taken.finds (h : Run.Along step FreshAt (start timing) es)
    (ht : Taken timing es pre i r a) :
    (play timing pre).desk.hasEntry r = true ∧
      (play timing pre).desk.channels.find? r.channel = some none := by
  have hb := booked (play_isPrefix h ht.occurs)
  rcases (play timing pre).desk.handleAck_cases a with ⟨p, hp, hempty, -⟩ | ⟨hack, -⟩
  · rw [ht.command] at hp
    have hpc : p.channel = r.channel := hb.hasEntry_of_find? ht.held hp
    exact ⟨Desk.hasEntry_iff.2 ⟨p, hp, hpc⟩, hpc ▸ hempty⟩
  · have hno := ht.taken
    rw [hack] at hno
    cases hno

theorem Taken.heard (h : Run.Along step FreshAt (start timing) es)
    (ht : Taken timing es pre i r a) : Heard timing es i r :=
  ⟨pre, a, ht.occurs, ht.held, (ht.finds h).1, ht.command⟩

/-- Nothing is taken for a sender that has heard an acknowledgement already. -/
theorem Taken.first (h : Run.Along step FreshAt (start timing) es)
    (ht : Taken timing es pre i r a) : ¬ Heard timing pre i r :=
  (mailbox (play_isPrefix h ht.occurs) ht.held).empty (ht.finds h).2

/-- **The desk takes one acknowledgement for a sender at most.** -/
theorem Taken.unique {pre' : List Event} (h : Run.Along step FreshAt (start timing) es)
    (ht : Taken timing es pre i r a) (ht' : Taken timing es pre' i r b) : pre = pre' ∧ a = b := by
  rcases ht.occurs.trichotomy ht'.occurs with ho | ⟨hpre, heq⟩ | ho
  · have hpre' := play_isPrefix h ht'.occurs
    have hearly : Taken timing pre' pre i r a := ⟨ho, ht.held, ht.command, ht.taken⟩
    exact absurd (hearly.heard hpre') (ht'.first h)
  · cases heq
    exact ⟨hpre, rfl⟩
  · have hpre := play_isPrefix h ht.occurs
    have hearly : Taken timing pre pre' i r b := ⟨ho, ht'.held, ht'.command, ht'.taken⟩
    exact absurd (hearly.heard hpre) (ht.first h)

/-- An acknowledgement that was taken stays in the channel while the sender is in progress. -/
theorem Taken.delivered (h : Run.Along step FreshAt (start timing) es)
    (ht : Taken timing es pre i r a) (hr : (play timing es).registration? i = some r) :
    (play timing es).desk.receive r = .acknowledged a := by
  rw [Desk.receive_eq_acknowledged_iff]
  have hm := mailbox h hr
  have hopen := (booked h).isOpen i r hr
  cases hc : (play timing es).desk.channels.find? r.channel with
  | none =>
    rw [hc] at hopen
    cases hopen
  | some held =>
    cases held with
    | none => exact absurd (ht.heard h) (hm.empty hc)
    | some b =>
      obtain ⟨pre', ht', -⟩ := hm.full b hc
      rw [(ht.unique h ht').2]

/-- What a sender finds in its channel is the first acknowledgement for it. -/
theorem taken_of_acknowledged (h : Run.Along step FreshAt (start timing) es)
    (hr : (play timing es).registration? i = some r)
    (hd : (play timing es).desk.receive r = .acknowledged a) :
    ∃ pre, Taken timing es pre i r a :=
  ((mailbox h hr).full a (Desk.receive_eq_acknowledged_iff.1 hd)).imp fun _ ht => ht.1

/-- A sender that finds nothing has heard nothing. -/
theorem not_heard_of_empty (h : Run.Along step FreshAt (start timing) es)
    (hr : (play timing es).registration? i = some r)
    (hd : ∀ a, (play timing es).desk.channels.find? r.channel ≠ some (some a)) :
    ¬ Heard timing es i r := by
  have hopen := (booked h).isOpen i r hr
  cases hc : (play timing es).desk.channels.find? r.channel with
  | none =>
    rw [hc] at hopen
    cases hopen
  | some held =>
    cases held with
    | none => exact (mailbox h hr).empty hc
    | some b => exact absurd hc (hd b)

end LockFleet.Exchange
