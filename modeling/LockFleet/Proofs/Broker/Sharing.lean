import LockFleet.Broker.RecordingLink
import LockFleet.Proofs.Broker.Order

/-!
# A connection in use by several callers

Several calls are in progress on one connection.  They take turns, and one turn is one step: one
access to the registry or one request to the link.  Over a link that accepts everything, what is
registered after all calls is also subscribed to.  The converse holds for every filter that no call
unsubscribed from while another subscribed to it or replayed the registry: an unsubscription gives
up the registration after its request, so that a subscription in between is lost to the registry.

* `Shared`, `Shared.play` — calls that take turns;
* `Shared.Settled`, `Shared.settled` — what is registered and not subscribed to is still to come;
* `Shared.Covered`, `Shared.covered` — what is subscribed to is registered, without overlaps;
* `Shared.Held`, `Shared.held` — what has been subscribed to stays registered;
* `Shared.Agreement`, `Shared.agreement` — all calls have completed;
* `Shared.subscription_lost` — overlaps that leave a subscription without a registration.
-/

namespace LockFleet

open Registry (Operation Issued issuedBy brokerSide Call Returned)

variable {H L : Type}

/-! ### Calls that take turns -/

/-- A call in progress, with the steps that are left of it. -/
structure Ongoing (H : Type) where
  call : Call H
  rest : Operation H Returned

namespace Ongoing

/-- A call has completed. -/
def isOver (x : Ongoing H) : Bool :=
  match x.rest with
  | .done _ => true
  | .call _ _ => false

theorem within_of_isOver {x : Ongoing H} (h : x.isOver = true) (P : BrokerRequest H → Prop) :
    x.rest.Within P := by
  obtain ⟨c, rest⟩ := x
  cases rest with
  | done r => trivial
  | call q next => cases h

/-- What is left of a call comes in an order that serves a filter. -/
structure IsOrderly (filter : String) (x : Ongoing H) : Prop where
  requested : x.rest.Follows (BrokerRequest.Registers filter) (BrokerRequest.Subscribes filter)
  pruned : x.rest.Follows (BrokerRequest.Unsubscribes filter) (BrokerRequest.Prunes filter)
  keeps : x.rest.Within (· ≠ .clear)
  ends : ¬ x.call.Ends filter → x.rest.Within fun q => ¬ q.Prunes filter
  requests : ¬ x.call.Requests filter → x.rest.Within fun q => ¬ q.Subscribes filter

variable {filter : String} {c : Call H} {q : BrokerRequest H}
  {rest : q.Answer → Operation H Returned}

theorem IsOrderly.start (quality : Quality) (hc : c ≠ .disconnect) :
    IsOrderly filter ⟨c, c.operation quality⟩ where
  requested := (Call.orderly quality hc).requested
  pruned := (Call.orderly quality hc).pruned
  keeps := (Call.orderly quality hc : Registry.Orderly filter _).keeps
  ends := Call.within_not_prunes quality
  requests := Call.within_not_subscribes quality

theorem IsOrderly.next (h : IsOrderly filter ⟨c, .call q rest⟩) (a : q.Answer) :
    IsOrderly filter ⟨c, rest a⟩ where
  requested := h.requested.2 a
  pruned := h.pruned.2 a
  keeps := h.keeps.2 a
  ends hc := (h.ends hc).2 a
  requests hc := (h.requests hc).2 a

end Ongoing

/-- A connection and its link, the calls in progress, and the requests to the link so far. -/
structure Shared (H L : Type) where
  broker : Broker H
  link : L
  calls : List (Ongoing H)
  issued : List (Issued H)

/-- What happens: a call begins, or a call takes its next step. -/
inductive Move (H : Type) where
  | begin (c : Call H)
  | step (k : Nat)

/-- A call begins that disconnects. -/
def Move.disconnects : Move H → Bool
  | begin .disconnect => true
  | _ => false

namespace Shared

section Moves

variable [Link L]

/-- A call takes a step. -/
def advance (s : Shared H L) (k : Nat) (c : Call H) (q : BrokerRequest H)
    (next : q.Answer → Operation H Returned) : Shared H L :=
  let (x, b, l) := q.serve (s.broker, s.link)
  ⟨b, l, s.calls.set k ⟨c, next x⟩, s.issued ++ issuedBy s.broker q x⟩

/-- What a move does. -/
def move (s : Shared H L) : Move H → Shared H L
  | .begin c => { s with calls := s.calls ++ [⟨c, c.operation s.broker.settings.quality⟩] }
  | .step k =>
    match s.calls[k]? with
    | some ⟨c, .call q next⟩ => s.advance k c q next
    | _ => s

/-- The state after moves, from a connection that is not in use. -/
def play (b : Broker H) (l : L) (ms : List (Move H)) : Shared H L :=
  Run.after move ⟨b, l, [], []⟩ ms

/-- All calls have completed. -/
def Completed (s : Shared H L) : Prop := ∀ x ∈ s.calls, x.isOver = true

/-- A filter is registered. -/
def Registered (s : Shared H L) (filter : String) : Prop :=
  s.broker.registry.contains filter = true

/-- The broker is subscribed to a filter, after the subscriptions that there were at the start. -/
def Subscribed (s : Shared H L) (t : Table String Quality) (filter : String) : Prop :=
  (brokerSide t s.issued).contains filter = true

instance (s : Shared H L) : Decidable s.Completed :=
  inferInstanceAs (Decidable (∀ x ∈ s.calls, _))

instance (s : Shared H L) (filter : String) : Decidable (s.Registered filter) :=
  inferInstanceAs (Decidable (_ = true))

instance (s : Shared H L) (t : Table String Quality) (filter : String) :
    Decidable (s.Subscribed t filter) :=
  inferInstanceAs (Decidable (_ = true))

/-- A call that unsubscribes from a filter is in progress. -/
def Ending (s : Shared H L) (filter : String) : Prop :=
  ∃ x ∈ s.calls, x.isOver = false ∧ x.call.Ends filter

/-- It overlaps a call that subscribes to the filter or replays the registry. -/
def Overlap (s : Shared H L) (filter : String) : Prop :=
  s.Ending filter ∧ ∃ x ∈ s.calls, x.isOver = false ∧ x.call.Requests filter

/-- No call disconnects, and the link accepts every request. -/
def Accepted (s : Shared H L) (m : Move H) : Prop :=
  m.disconnects = false ∧ ∀ x ∈ (s.move m).issued, x.outcome = .ok ()

instance (s : Shared H L) (m : Move H) : Decidable (s.Accepted m) :=
  inferInstanceAs (Decidable (_ ∧ _))

variable {s : Shared H L} {k : Nat} {c : Call H} {q : BrokerRequest H}
  {next : q.Answer → Operation H Returned} {x : Ongoing H} {t : Table String Quality}
  {filter : String} {m : Move H}

/-! ### One move -/

theorem move_cases (s : Shared H L) (m : Move H) :
    (∃ c, m = .begin c ∧ s.move m =
        { s with calls := s.calls ++ [⟨c, c.operation s.broker.settings.quality⟩] }) ∨
      (∃ k c q next, s.calls[k]? = some ⟨c, .call q next⟩ ∧ s.move m = s.advance k c q next) ∨
      s.move m = s := by
  cases m with
  | begin c => exact Or.inl ⟨c, rfl, rfl⟩
  | step k =>
    rw [move]
    split
    · next c q next hk => exact Or.inr (Or.inl ⟨k, c, q, next, hk, rfl⟩)
    · exact Or.inr (Or.inr rfl)

/-- The call that has taken a step, or another call. -/
theorem mem_advance (h : x ∈ (s.advance k c q next).calls) :
    x = ⟨c, next (q.serve (s.broker, s.link)).1⟩ ∨ x ∈ s.calls :=
  (List.mem_or_eq_of_mem_set h).symm

theorem advance_mem (hk : s.calls[k]? = some ⟨c, .call q next⟩) :
    ⟨c, next (q.serve (s.broker, s.link)).1⟩ ∈ (s.advance k c q next).calls := by
  obtain ⟨hlt, -⟩ := List.getElem?_eq_some_iff.1 hk
  exact List.mem_set hlt _

/-- Every call but the one that takes a step stays as it is. -/
theorem eq_or_mem_advance (hk : s.calls[k]? = some ⟨c, .call q next⟩) (hx : x ∈ s.calls) :
    x = ⟨c, .call q next⟩ ∨ x ∈ (s.advance k c q next).calls := by
  obtain ⟨i, hi⟩ := List.mem_iff_getElem?.1 hx
  by_cases h : k = i
  · subst h
    exact Or.inl (Option.some.inj (hi.symm.trans hk))
  · refine Or.inr (List.mem_iff_getElem?.2 ⟨i, ?_⟩)
    rw [advance, List.getElem?_set_ne h, hi]

theorem registered_advance (hq : q ≠ .clear) :
    (s.advance k c q next).Registered filter ↔
      q.Registers filter ∨ (s.Registered filter ∧ ¬ q.Prunes filter) :=
  BrokerRequest.contains_serve hq

theorem subscribed_advance (haccepted : ∀ x ∈ (s.advance k c q next).issued, x.outcome = .ok ()) :
    (s.advance k c q next).Subscribed t filter ↔
      q.Subscribes filter ∨ (s.Subscribed t filter ∧ ¬ q.Unsubscribes filter) := by
  have hside : brokerSide t (s.advance k c q next).issued =
      brokerSide (brokerSide t s.issued)
        (issuedBy s.broker q (q.serve (s.broker, s.link)).1) := List.foldl_append
  rw [Subscribed, hside]
  exact BrokerRequest.contains_applied _ fun x hx => haccepted x (List.mem_append_right _ hx)

/-! ### What is registered -/

/-- A filter that is registered is subscribed to, or a call is bound to subscribe to it or to remove
it. -/
structure Settled (t : Table String Quality) (filter : String) (s : Shared H L) : Prop where
  orderly : ∀ x ∈ s.calls, x.IsOrderly filter
  settled : s.Registered filter → s.Subscribed t filter ∨ ∃ x ∈ s.calls,
    x.rest.Ensures (BrokerRequest.Subscribes filter) ∨
      x.rest.Ensures (BrokerRequest.Prunes filter)

theorem Settled.move (h : Settled t filter s) (hm : s.Accepted m) :
    Settled t filter (s.move m) := by
  obtain ⟨hconnected, haccepted⟩ := hm
  rcases s.move_cases m with ⟨c, rfl, hmove⟩ | ⟨k, c, q, next, hk, hmove⟩ | hmove
  · rw [hmove]
    refine ⟨fun x hx => ?_, fun hregistered => (h.settled hregistered).imp_right ?_⟩
    · rcases List.mem_append.1 hx with hx | hx
      · exact h.orderly x hx
      · obtain rfl := List.mem_singleton.1 hx
        exact .start _ (by rintro rfl; cases hconnected)
    · exact fun ⟨x, hx, hbound⟩ => ⟨x, List.mem_append_left _ hx, hbound⟩
  · rw [hmove] at haccepted ⊢
    have hcall := h.orderly _ (List.mem_of_getElem? hk)
    refine ⟨fun x hx => ?_, fun hregistered => ?_⟩
    · rcases mem_advance hx with rfl | hx
      · exact hcall.next _
      · exact h.orderly x hx
    rw [subscribed_advance haccepted]
    rcases (registered_advance hcall.keeps.1).1 hregistered with hregisters | ⟨hold, hkept⟩
    · exact Or.inr ⟨_, advance_mem hk, Or.inl (hcall.requested.1 hregisters _)⟩
    rcases h.settled hold with hsubscribed | ⟨x, hx, hbound⟩
    · -- if the subscription has been asked to end, the same call removes the filter
      by_cases hends : q.Unsubscribes filter
      · exact Or.inr ⟨_, advance_mem hk, Or.inr (hcall.pruned.1 hends _)⟩
      · exact Or.inl (Or.inr ⟨hsubscribed, hends⟩)
    · rcases eq_or_mem_advance hk hx with rfl | hx
      · rcases hbound with (hnow | hlater) | (hnow | hlater)
        · exact Or.inl (Or.inl hnow)
        · exact Or.inr ⟨_, advance_mem hk, Or.inl (hlater _)⟩
        · exact absurd hnow hkept
        · exact Or.inr ⟨_, advance_mem hk, Or.inr (hlater _)⟩
      · exact Or.inr ⟨x, hx, hbound⟩
  · rw [hmove]
    exact h

/-! ### What is subscribed to -/

/-- A filter that is subscribed to is registered, and what is left of the calls keeps it so. -/
structure Covered (t : Table String Quality) (filter : String) (s : Shared H L) : Prop where
  announced : ∀ x ∈ s.calls, x.rest.Guards (BrokerRequest.Subscribes filter)
    (BrokerRequest.Announces filter) (s.Registered filter)
  withdrawn : ∀ x ∈ s.calls, x.rest.Guards (BrokerRequest.Prunes filter)
    (BrokerRequest.Withdraws filter) (¬ s.Subscribed t filter)
  covered : s.Subscribed t filter → s.Registered filter

omit [Link L] in
/-- If no call that unsubscribes overlaps one that subscribes, then either no call removes the
filter any more or no call requests it any more. -/
theorem apart (horderly : ∀ x ∈ s.calls, x.IsOrderly filter) (h : ¬ s.Overlap filter) :
    (∀ x ∈ s.calls, x.rest.Within fun q => ¬ q.Prunes filter) ∨
      ∀ x ∈ s.calls, x.rest.Within fun q => ¬ q.Subscribes filter := by
  by_cases hending : s.Ending filter
  · refine Or.inr fun x hx => ?_
    cases hover : x.isOver with
    | true => exact Ongoing.within_of_isOver hover _
    | false => exact (horderly x hx).requests fun hrequests => h ⟨hending, x, hx, hover, hrequests⟩
  · refine Or.inl fun x hx => ?_
    cases hover : x.isOver with
    | true => exact Ongoing.within_of_isOver hover _
    | false => exact (horderly x hx).ends fun hends => hending ⟨x, hx, hover, hends⟩

theorem Covered.advance (h : Covered t filter s) (hk : s.calls[k]? = some ⟨c, .call q next⟩)
    (hq : q ≠ .clear) (haccepted : ∀ x ∈ (s.advance k c q next).issued, x.outcome = .ok ())
    (hapart : (∀ x ∈ s.calls, x.rest.Within fun q => ¬ q.Prunes filter) ∨
      ∀ x ∈ s.calls, x.rest.Within fun q => ¬ q.Subscribes filter) :
    Covered t filter (s.advance k c q next) := by
  have hmem := List.mem_of_getElem? hk
  obtain ⟨hannounced, hannounces⟩ := h.announced _ hmem
  obtain ⟨hwithdrawn, hwithdraws⟩ := h.withdrawn _ hmem
  have hregistered : (s.advance k c q next).Registered filter ↔ _ := registered_advance hq
  have hsubscribed : (s.advance k c q next).Subscribed t filter ↔ _ := subscribed_advance haccepted
  refine ⟨fun x hx => ?_, fun x hx => ?_, fun hsub => ?_⟩
  · by_cases hprunes : q.Prunes filter
    · -- while a filter is removed, no call requests it
      have hnone := hapart.resolve_left fun hkept => (hkept _ hmem).1 hprunes
      rcases mem_advance hx with rfl | hx
      · exact .of_within (((hnone _ hmem).2 _).mono fun _ hnot his => absurd his hnot)
      · exact .of_within ((hnone x hx).mono fun _ hnot his => absurd his hnot)
    · have hkeeps : s.Registered filter → (s.advance k c q next).Registered filter :=
        fun hold => hregistered.2 (Or.inr ⟨hold, hprunes⟩)
      rcases mem_advance hx with rfl | hx
      · exact (hannounces _).mono fun hknown =>
          hknown.elim hkeeps BrokerRequest.Announces.contains_serve
      · exact (h.announced x hx).mono hkeeps
  · by_cases hsubscribes : q.Subscribes filter
    · -- while a filter is requested, no call removes it
      have hnone := hapart.resolve_right fun hkept => (hkept _ hmem).1 hsubscribes
      rcases mem_advance hx with rfl | hx
      · exact .of_within (((hnone _ hmem).2 _).mono fun _ hnot his => absurd his hnot)
      · exact .of_within ((hnone x hx).mono fun _ hnot his => absurd his hnot)
    · have hgone : ¬ s.Subscribed t filter ∨ q.Unsubscribes filter →
          ¬ (s.advance k c q next).Subscribed t filter := by
        rintro hgone hnew
        obtain ⟨hold, hnot⟩ := (hsubscribed.1 hnew).resolve_left hsubscribes
        exact hgone.elim (absurd hold) hnot
      rcases mem_advance hx with rfl | hx
      · exact (hwithdraws _).mono hgone
      · exact (h.withdrawn x hx).mono fun hold => hgone (Or.inl hold)
  · rcases hsubscribed.1 hsub with hsubscribes | ⟨hold, -⟩
    · exact hregistered.2 (Or.inr ⟨hannounced hsubscribes, hsubscribes.not_prunes⟩)
    · exact hregistered.2 (Or.inr ⟨h.covered hold, fun hprunes => hwithdrawn hprunes hold⟩)

theorem Covered.move (h : Covered t filter s) (horderly : ∀ x ∈ s.calls, x.IsOrderly filter)
    (hm : s.Accepted m) (hapart : ¬ s.Overlap filter) : Covered t filter (s.move m) := by
  obtain ⟨hconnected, haccepted⟩ := hm
  rcases s.move_cases m with ⟨c, rfl, hmove⟩ | ⟨k, c, q, next, hk, hmove⟩ | hmove
  · have hc : c ≠ .disconnect := by
      rintro rfl
      cases hconnected
    have hstart : Registry.Orderly filter (c.operation s.broker.settings.quality) :=
      Call.orderly _ hc
    rw [hmove]
    refine ⟨fun x hx => ?_, fun x hx => ?_, h.covered⟩
    · rcases List.mem_append.1 hx with hx | hx
      · exact h.announced x hx
      · obtain rfl := List.mem_singleton.1 hx
        exact hstart.announced.mono False.elim
    · rcases List.mem_append.1 hx with hx | hx
      · exact h.withdrawn x hx
      · obtain rfl := List.mem_singleton.1 hx
        exact hstart.withdrawn.mono False.elim
  · rw [hmove] at haccepted ⊢
    exact h.advance hk (horderly _ (List.mem_of_getElem? hk)).keeps.1 haccepted
      (apart horderly hapart)
  · rw [hmove]
    exact h

/-! ### What stays registered -/

/-- A filter is registered, or a call is bound to register it. -/
def Held (filter : String) (s : Shared H L) : Prop :=
  s.Registered filter ∨ ∃ x ∈ s.calls, x.rest.Ensures (BrokerRequest.Registers filter)

/-- Only a call that unsubscribes from a filter gives it up. -/
theorem Held.move (h : s.Held filter) (horderly : ∀ x ∈ s.calls, x.IsOrderly filter)
    (hending : ¬ s.Ending filter) : (s.move m).Held filter := by
  rcases s.move_cases m with ⟨c, rfl, hmove⟩ | ⟨k, c, q, next, hk, hmove⟩ | hmove
  · rw [hmove]
    exact h.imp_right fun ⟨x, hx, hbound⟩ => ⟨x, List.mem_append_left _ hx, hbound⟩
  · rw [hmove]
    have hmem := List.mem_of_getElem? hk
    have hcall := horderly _ hmem
    have hkept : ¬ q.Prunes filter := (hcall.ends fun hends => hending ⟨_, hmem, rfl, hends⟩).1
    rcases h with hold | ⟨x, hx, hbound⟩
    · exact Or.inl ((registered_advance hcall.keeps.1).2 (Or.inr ⟨hold, hkept⟩))
    · rcases eq_or_mem_advance hk hx with rfl | hx
      · rcases hbound with hnow | hlater
        · exact Or.inl ((registered_advance hcall.keeps.1).2 (Or.inl hnow))
        · exact Or.inr ⟨_, advance_mem hk, hlater _⟩
      · exact Or.inr ⟨x, hx, hbound⟩
  · rw [hmove]
    exact h

/-! ### All moves -/

variable {b : Broker H} {l : L} {ms : List (Move H)}

theorem settled (hstart : ∀ filter, b.registry.contains filter = t.contains filter)
    (hrun : Run.Along Shared.move Accepted ⟨b, l, [], []⟩ ms) (filter : String) :
    Settled t filter (play b l ms) := by
  refine hrun.invariant (P := fun _ s => Settled t filter s) ⟨nofun, fun hregistered => ?_⟩
    fun _ _ _ ih hm => ih.move hm
  exact Or.inl ((hstart filter).symm.trans hregistered)

theorem covered (hstart : ∀ filter, b.registry.contains filter = t.contains filter)
    (hrun : Run.Along Shared.move Accepted ⟨b, l, [], []⟩ ms)
    (hapart : Run.Along Shared.move (fun s _ => ¬ s.Overlap filter) ⟨b, l, [], []⟩ ms) :
    Covered t filter (play b l ms) := by
  revert hapart
  refine hrun.invariant (P := fun ms s =>
    Run.Along Shared.move (fun s _ => ¬ s.Overlap filter) ⟨b, l, [], []⟩ ms → Covered t filter s)
    (fun _ => ⟨nofun, nofun, fun hsub => (hstart filter).trans hsub⟩)
    fun ms m hms ih hm hapart => ?_
  obtain ⟨hapart, hnow⟩ := (Run.along_snoc ms m).1 hapart
  exact (ih hapart).move (settled hstart hms filter).orderly hm hnow

/-- A filter that a call has subscribed to is kept until a call unsubscribes from it. -/
theorem held (hstart : ∀ filter, b.registry.contains filter = t.contains filter)
    {pre post : List (Move H)}
    (hrun : Run.Along Shared.move Accepted ⟨b, l, [], []⟩ (pre ++ .begin c :: post))
    (hc : c.Subscribes filter)
    (hkept : Run.Along Shared.move (fun s _ => ¬ s.Ending filter) (play b l pre)
      (.begin c :: post)) : (play b l (pre ++ .begin c :: post)).Held filter := by
  obtain ⟨hpre, hbegin, hpost⟩ := (Run.along_append _ _).1 hrun
  have hsettled : Settled t filter ((play b l pre).move (.begin c)) :=
    (settled hstart hpre filter).move hbegin
  have hheld : ((play b l pre).move (.begin c)).Held filter :=
    Or.inr ⟨_, List.mem_append_right _ (List.mem_singleton_self _), Call.ensures_registers _ hc⟩
  have hplay : play b l (pre ++ .begin c :: post) =
      Run.after Shared.move ((play b l pre).move (.begin c)) post := Run.after_append _ _
  rw [hplay]
  refine (hpost.invariant (P := fun ms s => Settled t filter s ∧
    (Run.Along Shared.move (fun s _ => ¬ s.Ending filter) ((play b l pre).move (.begin c)) ms →
      s.Held filter)) ⟨hsettled, fun _ => hheld⟩ fun ms m _ ih hm => ?_).2 hkept.2
  refine ⟨ih.1.move hm, fun hkept => ?_⟩
  obtain ⟨hkept, hnow⟩ := (Run.along_snoc ms m).1 hkept
  exact (ih.2 hkept).move ih.1.orderly hnow

/-! ### All calls have completed -/

/-- The registry and the broker after calls that took turns. -/
structure Agreement (t : Table String Quality) (b : Broker H) (l : L) (ms : List (Move H)) :
    Prop where
  /-- What is registered is subscribed to. -/
  subscribed : ∀ filter, (play b l ms).Registered filter → (play b l ms).Subscribed t filter
  /-- A filter is registered if and only if it is subscribed to, provided that no call unsubscribed
  from it while another subscribed to it or replayed the registry. -/
  agrees : ∀ filter, Run.Along Shared.move (fun s _ => ¬ s.Overlap filter) ⟨b, l, [], []⟩ ms →
    ((play b l ms).Registered filter ↔ (play b l ms).Subscribed t filter)
  /-- A call's subscription to a filter is there, provided that since the call has begun no call
  that unsubscribes from the filter was in progress. -/
  kept : ∀ filter pre c post, ms = pre ++ .begin c :: post → c.Subscribes filter →
    Run.Along Shared.move (fun s _ => ¬ s.Ending filter) (play b l pre) (.begin c :: post) →
      (play b l ms).Registered filter ∧ (play b l ms).Subscribed t filter

omit [Link L] in
theorem Completed.not_ensures (h : s.Completed) (hx : x ∈ s.calls) (P : BrokerRequest H → Prop) :
    ¬ x.rest.Ensures P := by
  have hover := h x hx
  obtain ⟨c, rest⟩ := x
  cases rest with
  | done r => exact id
  | call q next => cases hover

/-- **What is registered is subscribed to, and conversely but for overlaps,** once all calls have
completed over a link that accepts everything. -/
theorem agreement (hstart : ∀ filter, b.registry.contains filter = t.contains filter)
    (hrun : Run.Along Shared.move Accepted ⟨b, l, [], []⟩ ms)
    (hdone : (play b l ms).Completed) : Agreement t b l ms := by
  have hsubscribed : ∀ filter, (play b l ms).Registered filter →
      (play b l ms).Subscribed t filter := by
    intro filter hregistered
    refine ((settled hstart hrun filter).settled hregistered).resolve_right ?_
    rintro ⟨x, hx, hbound | hbound⟩ <;> exact hdone.not_ensures hx _ hbound
  refine ⟨hsubscribed, fun filter hapart => ?_, fun filter pre c post hms hc hkept => ?_⟩
  · exact ⟨hsubscribed filter, (covered hstart hrun hapart).covered⟩
  · subst hms
    have hregistered : (play b l (pre ++ .begin c :: post)).Registered filter := by
      refine (held hstart hrun hc hkept).resolve_right ?_
      rintro ⟨x, hx, hbound⟩
      exact hdone.not_ensures hx _ hbound
    exact ⟨hregistered, hsubscribed filter hregistered⟩

end Moves

/-! ### Runs -/

/-- A connection that is not subscribed to anything. -/
def fresh : Broker String := ⟨.standard, Table.empty, true, 1⟩

/-- A subscription, a replay and the end of another subscription take turns. -/
def turns : List (Move String) :=
  [.begin (.subscribe "a" "h"), .begin .replay, .step 0, .step 1, .begin (.unsubscribe ["b"]),
    .step 2, .step 0, .step 1, .step 2]

theorem agreement_turns :
    Run.Along move Accepted ⟨fresh, RecordingLink.empty, [], []⟩ turns ∧
      (play fresh RecordingLink.empty turns).Completed ∧
      Agreement Table.empty fresh RecordingLink.empty turns := by
  have hrun : Run.Along move Accepted ⟨fresh, RecordingLink.empty, [], []⟩ turns := by
    decide +kernel
  have hdone : (play fresh RecordingLink.empty turns).Completed := by decide +kernel
  exact ⟨hrun, hdone, agreement (fun _ => rfl) hrun hdone⟩

/-- A filter is unsubscribed from, and between the request and the removal it is subscribed to. -/
def subscribedBetween : List (Move String) :=
  [.begin (.unsubscribe ["a"]), .begin (.subscribe "a" "h"), .step 0, .step 1, .step 1, .step 0]

/-- A filter is unsubscribed from after a replay has read the registry and before it requests. -/
def replayedLate : List (Move String) :=
  [.begin (.subscribe "a" "h"), .step 0, .step 0, .begin .replay, .step 1,
    .begin (.unsubscribe ["a"]), .step 2, .step 2, .step 1]

/-- Calls after which a filter is subscribed to and not registered. -/
structure Lost (filter : String) (ms : List (Move String)) : Prop where
  accepted : Run.Along move Accepted ⟨fresh, RecordingLink.empty, [], []⟩ ms
  completed : (play fresh RecordingLink.empty ms).Completed
  subscribed : (play fresh RecordingLink.empty ms).Subscribed Table.empty filter
  unregistered : ¬ (play fresh RecordingLink.empty ms).Registered filter

/-- **A subscription can be lost to the registry**, be it one that has been answered with success or
one that a replay has renewed. -/
theorem subscription_lost :
    (Lost "a" subscribedBetween ∧
      (play fresh RecordingLink.empty subscribedBetween).calls[1]? =
        some ⟨.subscribe "a" "h", .done (.requested (.ok ()))⟩) ∧
      Lost "a" replayedLate := by
  refine ⟨⟨⟨?_, ?_, ?_, ?_⟩, rfl⟩, ?_, ?_, ?_, ?_⟩ <;> decide +kernel

end Shared

end LockFleet
