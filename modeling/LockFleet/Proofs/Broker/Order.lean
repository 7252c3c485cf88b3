import LockFleet.Proofs.Broker.Session
import LockFleet.Proofs.Program

/-!
# The order of the steps of a call

A step of an operation is one access to the registry or one request to the link.  For any filter the
steps come in an order that serves it: what is registered is then requested, and what is asked to
end is then removed; nothing is requested before it is known to be registered, and nothing is
removed before it has been asked to end.

* `BrokerRequest.contains_serve`, `BrokerRequest.contains_applied` — what a step does to a filter;
* `Registry.Orderly`, `Registry.Call.orderly` — the order of the steps of a call;
* `Registry.Call.within_not_prunes`, `within_not_subscribes`, `ensures_registers` — what a call does
  to the filters that it is about, and to no others.
-/

namespace LockFleet

open Registry (Issued issuedBy brokerSide)

variable {H L α β : Type}

/-! ### Steps -/

namespace BrokerRequest

variable {filter : String} {b : Broker H} {l : L}

/-- A step registers a filter. -/
def Registers (filter : String) : BrokerRequest H → Prop
  | register p _ => p = filter
  | _ => False

/-- A step requests a subscription to a filter. -/
def Subscribes (filter : String) : BrokerRequest H → Prop
  | subscribe p _ => p = filter
  | _ => False

/-- A step requests the end of the subscription to a filter. -/
def Unsubscribes (filter : String) : BrokerRequest H → Prop
  | unsubscribe p => p = filter
  | _ => False

/-- A step removes a filter from the registry. -/
def Prunes (filter : String) : BrokerRequest H → Prop
  | prune filters => filter ∈ filters
  | _ => False

/-- A step tells that a filter is registered. -/
def Announces (filter : String) : (q : BrokerRequest H) → q.Answer → Prop
  | register p _, _ => p = filter
  | snapshot, entries => filter ∈ List.map (fun e : String × Quality => e.1) entries
  | _, _ => False

/-- A step has requested the end of the subscription to a filter. -/
def Withdraws (filter : String) (q : BrokerRequest H) (_ : q.Answer) : Prop :=
  q.Unsubscribes filter

theorem Subscribes.not_prunes {q : BrokerRequest H} (h : q.Subscribes filter) :
    ¬ q.Prunes filter := by
  cases q with
  | subscribe p quality => exact id
  | _ => exact h.elim

/-- **What a step does to what is registered.** -/
theorem contains_serve [Link L] {q : BrokerRequest H} (hq : q ≠ clear) :
    (q.serve (b, l)).2.1.registry.contains filter = true ↔
      q.Registers filter ∨ (b.registry.contains filter = true ∧ ¬ q.Prunes filter) := by
  cases q with
  | register p entry =>
    show (b.registry.insert p entry).contains filter = true ↔ p = filter ∨ _
    by_cases h : p = filter
    · simp [Table.contains, ← h]
    · rw [Table.contains, Table.find?_insert_of_ne _ _ (Ne.symm h)]
      simp [h, Table.contains, Prunes]
  | prune filters =>
    show (b.registry.keep fun k _ => k ∉ filters).contains filter = true ↔
      False ∨ (_ ∧ filter ∉ filters)
    rw [Table.contains, Table.contains, Option.isSome_iff_exists, Option.isSome_iff_exists]
    simp [Table.find?_keep_eq_some_iff]
  | clear => exact absurd rfl hq
  | subscribe p quality => simp [serve, Registers, Prunes]
  | unsubscribe p => simp [serve, Registers, Prunes]
  | snapshot => simp [serve, Registers, Prunes]
  | disconnect => simp [serve, Registers, Prunes]
  | markDisconnected => simp [serve, Registers, Prunes]

/-- **What a step does to the subscriptions of a session,** if the link accepts it. -/
theorem contains_applied (t : Table String Quality) {q : BrokerRequest H} {x : q.Answer}
    (haccepted : ∀ i ∈ issuedBy b q x, i.outcome = .ok ()) :
    (brokerSide t (issuedBy b q x)).contains filter = true ↔
      q.Subscribes filter ∨ (t.contains filter = true ∧ ¬ q.Unsubscribes filter) := by
  cases q with
  | subscribe p quality =>
    obtain rfl : x = .ok () := haccepted _ (List.mem_singleton_self _)
    show (t.insert p quality).contains filter = true ↔ p = filter ∨ _
    by_cases h : p = filter
    · simp [Table.contains, ← h]
    · rw [Table.contains, Table.find?_insert_of_ne _ _ (Ne.symm h)]
      simp [h, Table.contains, Unsubscribes]
  | unsubscribe p =>
    obtain rfl : x = .ok () := haccepted _ (List.mem_singleton_self _)
    show (t.erase p).contains filter = true ↔ False ∨ (_ ∧ ¬ p = filter)
    by_cases h : p = filter
    · simp [Table.contains, h]
    · rw [Table.contains, Table.find?_erase_of_ne _ (Ne.symm h)]
      simp [h, Table.contains]
  | disconnect => simp [issuedBy, brokerSide, Issued.applied, Subscribes, Unsubscribes]
  | register p entry => simp [issuedBy, brokerSide, Subscribes, Unsubscribes]
  | prune filters => simp [issuedBy, brokerSide, Subscribes, Unsubscribes]
  | snapshot => simp [issuedBy, brokerSide, Subscribes, Unsubscribes]
  | clear => simp [issuedBy, brokerSide, Subscribes, Unsubscribes]
  | markDisconnected => simp [issuedBy, brokerSide, Subscribes, Unsubscribes]

/-- What a step tells to be registered is registered. -/
theorem Announces.contains_serve [Link L] {q : BrokerRequest H}
    (h : q.Announces filter (q.serve (b, l)).1) :
    (q.serve (b, l)).2.1.registry.contains filter = true := by
  cases q with
  | register p entry =>
    exact (BrokerRequest.contains_serve (q := register p entry) nofun).2 (Or.inl h)
  | snapshot =>
    have hmem : filter ∈ (b.registry.entries.map fun e => (e.1, e.2.quality)).map (·.1) := h
    rw [List.map_map] at hmem
    exact (b.registry.mem_keys_iff filter).1 hmem
  | _ => exact h.elim

end BrokerRequest

/-! ### The order of steps -/

namespace Registry

open BrokerRequest

variable {filter : String} {known : Prop} {p : Operation H α}

/-- The steps of an operation come in an order that serves a filter. -/
structure Orderly (filter : String) (p : Operation H α) : Prop where
  /-- What has been registered is then requested. -/
  requested : p.Follows (Registers filter) (Subscribes filter)
  /-- What has been asked to end is then removed. -/
  pruned : p.Follows (Unsubscribes filter) (Prunes filter)
  /-- A subscription is requested only if it is known to be registered. -/
  announced : p.Guards (Subscribes filter) (Announces filter) False
  /-- A filter is removed only if its subscription has been asked to end. -/
  withdrawn : p.Guards (Prunes filter) (Withdraws filter) False
  keeps : p.Within (· ≠ .clear)

theorem Orderly.map (h : Orderly filter p) (f : α → β) :
    Orderly filter (p.bind fun a => .done (f a)) where
  requested := h.requested.bind fun _ => trivial
  pruned := h.pruned.bind fun _ => trivial
  announced := h.announced.bind fun _ => trivial
  withdrawn := h.withdrawn.bind fun _ => trivial
  keeps := h.keeps.bind fun _ => trivial

/-! The steps of the loops. -/

theorem registerAll_within (quality : Quality) (list : List (String × H)) :
    (registerAll quality list).Within fun q => ∃ e ∈ list, q = .register e.1 ⟨quality, e.2⟩ := by
  induction list with
  | nil => exact True.intro
  | cons e rest ih =>
    refine ⟨⟨e, List.mem_cons_self .., rfl⟩, fun _ => ih.mono ?_⟩
    rintro q ⟨e', he', rfl⟩
    exact ⟨e', List.mem_cons_of_mem e he', rfl⟩

theorem askAll_within {P : BrokerRequest H → Prop} {requests : List LinkRequest}
    (h : ∀ x ∈ requests, (x.ask : Operation H _).Within P) :
    (askAll requests : Operation H _).Within P := by
  induction requests with
  | nil => exact True.intro
  | cons x rest ih =>
    have hrest := ih fun y hy => h y (List.mem_cons_of_mem x hy)
    exact (h x (List.mem_cons_self ..)).bind fun _ => hrest.bind fun _ => True.intro

theorem requestAll_within (quality : Quality) (filters : List String) :
    (requestAll quality filters : Operation H _).Within fun q =>
      ∃ p ∈ filters, q = .subscribe p quality := by
  rw [requestAll_eq]
  refine askAll_within fun x hx => ?_
  obtain ⟨p, hp, rfl⟩ := List.mem_map.1 hx
  exact ⟨⟨p, hp, rfl⟩, fun _ => True.intro⟩

theorem requestEnds_within (filters : List String) :
    (requestEnds filters : Operation H _).Within fun q => ∃ p ∈ filters, q = .unsubscribe p := by
  rw [requestEnds_eq]
  refine askAll_within fun x hx => ?_
  obtain ⟨p, hp, rfl⟩ := List.mem_map.1 hx
  exact ⟨⟨p, hp, rfl⟩, fun _ => True.intro⟩

theorem replayAll_within (entries : List (String × Quality)) :
    (replayAll entries : Operation H _).Within fun q =>
      ∃ e ∈ entries, q = .subscribe e.1 e.2 := by
  rw [replayAll_eq]
  refine .bind (askAll_within fun x hx => ?_) fun _ => True.intro
  obtain ⟨e, he, rfl⟩ := List.mem_map.1 hx
  exact ⟨⟨e, he, rfl⟩, fun _ => True.intro⟩

theorem requestAll_ensures (quality : Quality) {filters : List String} (h : filter ∈ filters) :
    (requestAll quality filters : Operation H _).Ensures (Subscribes filter) := by
  induction filters with
  | nil => cases h
  | cons p rest ih =>
    rcases List.mem_cons.1 h with rfl | h
    · exact Or.inl rfl
    · exact Or.inr fun _ => (ih h).bind

/-- Handlers that are registered one after another make their filters known. -/
theorem registerAll_guards (quality : Quality) (list : List (String × H))
    {k : Unit → Operation H α}
    (hk : (k ()).Guards (Subscribes filter) (Announces filter)
      (known ∨ filter ∈ list.map (·.1))) :
    ((registerAll quality list).bind k).Guards (Subscribes filter) (Announces filter) known := by
  induction list generalizing known with
  | nil => exact hk.mono (by simp)
  | cons e rest ih =>
    refine ⟨fun h => h.elim, fun _ => ih (hk.mono ?_)⟩
    rw [List.map_cons, List.mem_cons, ← or_assoc]
    exact Or.imp_left (Or.imp_right Eq.symm)

/-- Requests to end subscriptions allow their filters to be removed. -/
theorem requestEnds_guards (filters : List String) {k : List Requested → Operation H α}
    (hk : ∀ rs, (k rs).Guards (Prunes filter) (Withdraws filter)
      (known ∨ filter ∈ filters)) :
    ((requestEnds filters).bind k).Guards (Prunes filter) (Withdraws filter)
      known := by
  induction filters generalizing known k with
  | nil => exact (hk []).mono (by simp)
  | cons p rest ih =>
    have hloop : (requestEnds (p :: rest)).bind k =
        .call (.unsubscribe p) fun r => (requestEnds rest).bind fun rs => k (r :: rs) :=
      congrArg (Program.call (BrokerRequest.unsubscribe p)) (funext fun r =>
        Program.bind_assoc (requestEnds rest) (fun rs => .done (r :: rs)) k)
    rw [hloop]
    refine ⟨fun h => h.elim, fun r => ih fun rs => (hk (r :: rs)).mono ?_⟩
    rw [List.mem_cons, ← or_assoc]
    exact Or.imp_left (Or.imp_right Eq.symm)

/-! The steps of the operations. -/

theorem subscribe_within (quality : Quality) (p : String) (handler : H) :
    (subscribe quality p handler).Within fun q =>
      q = .register p ⟨quality, handler⟩ ∨ q = .subscribe p quality :=
  ⟨Or.inl rfl, fun _ => ⟨Or.inr rfl, fun _ => True.intro⟩⟩

theorem subscribeAll_within (quality : Quality) (list : List (String × H)) :
    (subscribeAll quality list).Within fun q =>
      (∃ e ∈ list, q = .register e.1 ⟨quality, e.2⟩) ∨
        ∃ p ∈ list.map (·.1), q = .subscribe p quality :=
  ((registerAll_within quality list).mono fun _ => Or.inl).bind fun _ =>
    ((requestAll_within quality _).mono fun _ => Or.inr).bind fun _ => True.intro

theorem unsubscribe_within (filters : List String) :
    (unsubscribe filters : Operation H _).Within fun q =>
      (∃ p ∈ filters, q = .unsubscribe p) ∨ q = .prune filters :=
  ((requestEnds_within filters).mono fun _ => Or.inl).bind fun _ =>
    ⟨Or.inr rfl, fun _ => True.intro⟩

theorem replay_within :
    (replay : Operation H _).Within fun q =>
      q = .snapshot ∨ ∃ p quality, q = .subscribe p quality :=
  ⟨Or.inl rfl, fun entries => (replayAll_within entries).mono fun _ ⟨e, _, h⟩ =>
    Or.inr ⟨e.1, e.2, h⟩⟩

/-- An operation that ends no subscription. -/
theorem Orderly.of_within
    (h : p.Within fun q => ¬ q.Unsubscribes filter ∧ ¬ q.Prunes filter ∧ q ≠ .clear)
    (requested : p.Follows (Registers filter) (Subscribes filter))
    (announced : p.Guards (Subscribes filter) (Announces filter) False) : Orderly filter p where
  requested := requested
  pruned := .of_within (h.mono fun _ h => h.1)
  announced := announced
  withdrawn := .of_within (h.mono fun _ h hprunes => absurd hprunes h.2.1)
  keeps := h.mono fun _ h => h.2.2

theorem orderly_subscribe (quality : Quality) (p : String) (handler : H) :
    Orderly filter (subscribe quality p handler) := by
  refine .of_within ((subscribe_within quality p handler).mono ?_) ?_ ?_
  · rintro q (rfl | rfl) <;> exact ⟨id, id, nofun⟩
  · exact ⟨fun h _ => Or.inl h, fun _ => ⟨fun h => h.elim, fun _ => True.intro⟩⟩
  · exact ⟨fun h => h.elim, fun _ => ⟨Or.inr, fun _ => True.intro⟩⟩

theorem orderly_subscribeAll (quality : Quality) (list : List (String × H)) :
    Orderly filter (subscribeAll quality list) := by
  refine .of_within ((subscribeAll_within quality list).mono ?_) ?_ ?_
  · rintro q (⟨e, -, rfl⟩ | ⟨p, -, rfl⟩) <;> exact ⟨id, id, nofun⟩
  · -- a filter of the list is requested after all registrations; others are not registered
    by_cases h : filter ∈ list.map (·.1)
    · refine .of_ensures (fun _ => (requestAll_ensures quality h).bind) fun _ =>
        .bind (.of_within ((requestAll_within quality _).mono ?_)) fun _ => True.intro
      rintro q ⟨p, -, rfl⟩
      exact id
    · refine .of_within ((subscribeAll_within quality list).mono ?_)
      rintro q (⟨e, he, rfl⟩ | ⟨p, -, rfl⟩)
      · rintro rfl
        exact h (List.mem_map_of_mem he)
      · exact id
  · refine registerAll_guards quality list (.bind (.of_within
      ((requestAll_within quality _).mono ?_)) fun _ => True.intro)
    rintro q ⟨p, hp, rfl⟩ rfl
    exact Or.inr hp

theorem orderly_unsubscribe (filters : List String) :
    Orderly filter (unsubscribe filters : Operation H _) where
  requested := .of_within ((unsubscribe_within filters).mono (by
    rintro q (⟨p, -, rfl⟩ | rfl) <;> exact id))
  pruned := by
    by_cases h : filter ∈ filters
    · exact .of_ensures (fun _ => Or.inl h) fun _ => ⟨fun h => h.elim, fun _ => True.intro⟩
    · refine .of_within ((unsubscribe_within filters).mono ?_)
      rintro q (⟨p, hp, rfl⟩ | rfl)
      · rintro rfl
        exact h hp
      · exact id
  announced := .of_within ((unsubscribe_within filters).mono (by
    rintro q (⟨p, -, rfl⟩ | rfl) <;> exact fun h => h.elim))
  withdrawn := requestEnds_guards filters fun _ => ⟨Or.inr, fun _ => True.intro⟩
  keeps := (unsubscribe_within filters).mono (by rintro q (⟨p, -, rfl⟩ | rfl) <;> nofun)

theorem orderly_replay : Orderly filter (replay : Operation H _) := by
  refine .of_within (replay_within.mono ?_) (.of_within (replay_within.mono ?_)) ?_
  · rintro q (rfl | ⟨p, quality, rfl⟩) <;> exact ⟨id, id, nofun⟩
  · rintro q (rfl | ⟨p, quality, rfl⟩) <;> exact id
  · refine ⟨fun h => h.elim, fun entries => .of_within ((replayAll_within entries).mono ?_)⟩
    rintro q ⟨e, he, rfl⟩ rfl
    exact Or.inr (List.mem_map_of_mem he)

namespace Call

/-- A call subscribes to a filter. -/
def Subscribes (filter : String) : Call H → Prop
  | subscribe p _ => p = filter
  | subscribeAll list => filter ∈ list.map (·.1)
  | _ => False

/-- A call may request a subscription to a filter. -/
def Requests (filter : String) : Call H → Prop
  | replay => True
  | c => c.Subscribes filter

/-- A call unsubscribes from a filter. -/
def Ends (filter : String) : Call H → Prop
  | unsubscribe filters => filter ∈ filters
  | _ => False

theorem orderly (quality : Quality) {c : Call H} (hc : c ≠ .disconnect) :
    Orderly filter (c.operation quality) := by
  cases c with
  | subscribe p handler => exact (orderly_subscribe quality p handler).map _
  | subscribeAll list => exact (orderly_subscribeAll quality list).map _
  | unsubscribe filters => exact (orderly_unsubscribe filters).map _
  | disconnect => exact absurd rfl hc
  | replay => exact orderly_replay.map _

/-- A call that does not unsubscribe from a filter does not remove it. -/
theorem within_not_prunes (quality : Quality) {c : Call H} (h : ¬ c.Ends filter) :
    (c.operation quality).Within fun q => ¬ q.Prunes filter := by
  cases c with
  | subscribe p handler => exact ⟨id, fun _ => ⟨id, fun _ => True.intro⟩⟩
  | subscribeAll list =>
    refine .bind ((subscribeAll_within quality list).mono ?_) fun _ => True.intro
    rintro q (⟨e, -, rfl⟩ | ⟨p, -, rfl⟩) <;> exact id
  | unsubscribe filters =>
    refine .bind ((unsubscribe_within filters).mono ?_) fun _ => True.intro
    rintro q (⟨p, -, rfl⟩ | rfl)
    · exact id
    · exact h
  | disconnect => exact ⟨id, fun _ => ⟨id, fun _ => ⟨id, fun _ => True.intro⟩⟩⟩
  | replay =>
    refine .bind (replay_within.mono ?_) fun _ => True.intro
    rintro q (rfl | ⟨p, quality, rfl⟩) <;> exact id

/-- A call that neither subscribes to a filter nor replays the registry does not request it. -/
theorem within_not_subscribes (quality : Quality) {c : Call H} (h : ¬ c.Requests filter) :
    (c.operation quality).Within fun q => ¬ q.Subscribes filter := by
  cases c with
  | subscribe p handler => exact ⟨id, fun _ => ⟨h, fun _ => True.intro⟩⟩
  | subscribeAll list =>
    refine .bind ((subscribeAll_within quality list).mono ?_) fun _ => True.intro
    rintro q (⟨e, -, rfl⟩ | ⟨p, hp, rfl⟩)
    · exact id
    · rintro rfl
      exact h hp
  | unsubscribe filters =>
    refine .bind ((unsubscribe_within filters).mono ?_) fun _ => True.intro
    rintro q (⟨p, -, rfl⟩ | rfl) <;> exact id
  | disconnect => exact ⟨id, fun _ => ⟨id, fun _ => ⟨id, fun _ => True.intro⟩⟩⟩
  | replay => exact absurd trivial h

theorem registerAll_ensures (quality : Quality) {list : List (String × H)}
    (h : filter ∈ list.map (·.1)) : (registerAll quality list).Ensures (Registers filter) := by
  induction list with
  | nil => cases h
  | cons e rest ih =>
    rcases List.mem_cons.1 h with rfl | h
    · exact Or.inl rfl
    · exact Or.inr fun _ => ih h

/-- A call that subscribes to a filter registers it. -/
theorem ensures_registers (quality : Quality) {c : Call H} (h : c.Subscribes filter) :
    (c.operation quality).Ensures (Registers filter) := by
  cases c with
  | subscribe p handler => exact Or.inl h
  | subscribeAll list => exact (registerAll_ensures quality h).bind.bind
  | _ => exact h.elim

end Call

end Registry

end LockFleet
