import LockFleet.Proofs.Broker.Sharing

/-!
# Filters that nobody registers

While a filter is not registered and no step registers it, no call that begins requests a
subscription to it, be it the replay of the registry after a reconnect.  Only calls that have been
in progress before may do so.

* `BrokerRequest.not_contains_serve`, `BrokerRequest.IsQuiet` — steps that register nothing;
* `Shared.request?`, `Shared.issuedAt` — the step of a move, and what it asks of the link;
* `Shared.Absent`, `Shared.Absent.move` — a filter that is not registered and stays so;
* `Shared.Absent.before` — where a request for it can come from.
-/

namespace LockFleet

open Registry (Call Issued LinkRequest Operation Returned issuedBy)

variable {H L : Type} {filter : String}

/-! ### Steps -/

namespace BrokerRequest

variable [Link L] {b : Broker H} {l : L} {q : BrokerRequest H}

/-- A filter that is not registered stays so, unless the step registers it. -/
theorem not_contains_serve (h : b.registry.contains filter = false) (hq : ¬ q.Registers filter) :
    (q.serve (b, l)).2.1.registry.contains filter = false := by
  by_cases hclear : q = .clear
  · subst hclear
    rfl
  · refine Bool.eq_false_iff.2 fun hcontains => ?_
    rcases (contains_serve hclear).1 hcontains with hregisters | ⟨hold, -⟩
    · exact hq hregisters
    · rw [h] at hold
      cases hold

/-- A connection that has been closed stays closed. -/
theorem connected_serve (h : b.connected = false) : (q.serve (b, l)).2.1.connected = false := by
  cases q with
  | markDisconnected => rfl
  | _ => exact h

/-- Nothing is told of a filter that is not registered. -/
theorem not_announces (h : b.registry.contains filter = false) (hq : ¬ q.Registers filter) :
    ¬ q.Announces filter (q.serve (b, l)).1 := by
  intro hannounces
  have hcontains := hannounces.contains_serve
  rw [not_contains_serve h hq] at hcontains
  cases hcontains

/-- What a step that does not request a subscription to a filter asks of the link. -/
theorem subscribes_of_mem {i : Issued H} {x : q.Answer} {quality : Quality}
    (hi : i ∈ issuedBy b q x) (hrequest : i.request = .subscribe filter quality) :
    q.Subscribes filter := by
  cases q with
  | subscribe p quality' =>
    obtain rfl := List.mem_singleton.1 hi
    cases hrequest
    rfl
  | unsubscribe p =>
    obtain rfl := List.mem_singleton.1 hi
    cases hrequest
  | disconnect =>
    obtain rfl := List.mem_singleton.1 hi
    cases hrequest
  | _ => cases hi

omit [Link L] in
/-- A step neither registers a filter nor requests a subscription. -/
def IsQuiet : BrokerRequest H → Prop
  | register _ _ => False
  | subscribe _ _ => False
  | _ => True

omit [Link L] in
theorem IsQuiet.not_registers (h : q.IsQuiet) : ¬ q.Registers filter := by
  cases q with
  | register p entry => exact h.elim
  | _ => exact id

omit [Link L] in
theorem IsQuiet.not_subscribes (h : q.IsQuiet) : ¬ q.Subscribes filter := by
  cases q with
  | subscribe p quality => exact h.elim
  | _ => exact id

end BrokerRequest

namespace Registry.Call

/-- Whatever a call requests is registered as far as it knows. -/
theorem announced (quality : Quality) (c : Call H) :
    (c.operation quality).Guards (BrokerRequest.Subscribes filter)
      (BrokerRequest.Announces filter) False := by
  by_cases hc : c = .disconnect
  · subst hc
    exact .of_within (within_not_subscribes quality id)
  · exact (orderly quality hc).announced

theorem quiet_unsubscribe (quality : Quality) (filters : List String) :
    ((Call.unsubscribe filters : Call H).operation quality).Within BrokerRequest.IsQuiet := by
  refine .bind ((unsubscribe_within filters).mono ?_) fun _ => True.intro
  rintro q (⟨p, -, rfl⟩ | rfl) <;> exact True.intro

theorem quiet_disconnect (quality : Quality) :
    ((Call.disconnect : Call H).operation quality).Within BrokerRequest.IsQuiet :=
  ⟨True.intro, fun _ => ⟨True.intro, fun _ => ⟨True.intro, fun _ => True.intro⟩⟩⟩

end Registry.Call

namespace Shared

variable [Link L] {s s' : Shared H L} {m : Move H} {n : Nat}

/-! ### Moves -/

omit [Link L] in
/-- The step that a move takes. -/
def request? (s : Shared H L) : Move H → Option (BrokerRequest H)
  | .begin _ => none
  | .step k =>
    match s.calls[k]? with
    | some ⟨_, .call q _⟩ => some q
    | _ => none

/-- What a move asks of the link. -/
def issuedAt (s : Shared H L) (m : Move H) : List (Issued H) :=
  match s.request? m with
  | some q => issuedBy s.broker q (q.serve (s.broker, s.link)).1
  | none => []

omit [Link L] in
theorem request?_step {k : Nat} {c : Call H} {q : BrokerRequest H}
    {next : q.Answer → Operation H Returned} (hk : s.calls[k]? = some ⟨c, .call q next⟩) :
    s.request? (.step k) = some q := by
  rw [request?, hk]

theorem issued_move (s : Shared H L) (m : Move H) :
    (s.move m).issued = s.issued ++ s.issuedAt m := by
  cases m with
  | begin c => exact (List.append_nil _).symm
  | step k =>
    match hk : s.calls[k]? with
    | some ⟨c, .call q next⟩ =>
      rw [move, issuedAt, request?_step hk, hk]
      rfl
    | some ⟨c, .done r⟩ =>
      rw [move, issuedAt, request?, hk]
      exact (List.append_nil _).symm
    | none =>
      rw [move, issuedAt, request?, hk]
      exact (List.append_nil _).symm

/-- What becomes of a call that is there: it takes the step, or it stays as it is. -/
theorem call_move {k : Nat} {x : Ongoing H} (hk : s.calls[k]? = some x) (m : Move H) :
    (s.move m).calls[k]? = some x ∨ ∃ c q next, x = ⟨c, .call q next⟩ ∧ m = .step k ∧
      s.move m = s.advance k c q next ∧
      (s.move m).calls[k]? = some ⟨c, next (q.serve (s.broker, s.link)).1⟩ := by
  have hlt : k < s.calls.length := (List.getElem?_eq_some_iff.1 hk).1
  cases m with
  | begin c => exact Or.inl ((List.getElem?_append_left hlt).trans hk)
  | step j =>
    match hj : s.calls[j]? with
    | none =>
      rw [move, hj]
      exact Or.inl hk
    | some ⟨c, .done r⟩ =>
      rw [move, hj]
      exact Or.inl hk
    | some ⟨c, .call q next⟩ =>
      rw [move, hj]
      by_cases hjk : j = k
      · subst hjk
        obtain rfl : ⟨c, .call q next⟩ = x := Option.some.inj (hj.symm.trans hk)
        exact Or.inr ⟨c, q, next, rfl, rfl, rfl, List.getElem?_set_self hlt⟩
      · exact Or.inl ((List.getElem?_set_ne hjk).trans hk)

/-- What becomes of the connection: it serves the step, or it stays as it is. -/
theorem broker_move (s : Shared H L) (m : Move H) : (s.move m).broker = s.broker ∨
    ∃ q, s.request? m = some q ∧ (s.move m).broker = (q.serve (s.broker, s.link)).2.1 := by
  cases m with
  | begin c => exact Or.inl rfl
  | step k =>
    match hk : s.calls[k]? with
    | none =>
      rw [move, hk]
      exact Or.inl rfl
    | some ⟨c, .done r⟩ =>
      rw [move, hk]
      exact Or.inl rfl
    | some ⟨c, .call q next⟩ =>
      rw [move, hk]
      exact Or.inr ⟨q, request?_step hk, rfl⟩

theorem unregistered_move (h : s.broker.registry.contains filter = false)
    (hm : ∀ q, s.request? m = some q → ¬ q.Registers filter) :
    (s.move m).broker.registry.contains filter = false := by
  rcases s.broker_move m with hsame | ⟨q, hq, hserve⟩
  · rw [hsame]
    exact h
  · rw [hserve]
    exact BrokerRequest.not_contains_serve h (hm q hq)

theorem connected_move (h : s.broker.connected = false) (m : Move H) :
    (s.move m).broker.connected = false := by
  rcases s.broker_move m with hsame | ⟨q, -, hserve⟩
  · rw [hsame]
    exact h
  · rw [hserve]
    exact BrokerRequest.connected_serve h

/-- What is left of a call keeps to what it kept to before. -/
theorem within_move {k : Nat} {P : BrokerRequest H → Prop}
    (hk : ∃ x, s.calls[k]? = some x ∧ x.rest.Within P) (m : Move H) :
    ∃ x, (s.move m).calls[k]? = some x ∧ x.rest.Within P := by
  obtain ⟨x, hx, hwithin⟩ := hk
  rcases call_move hx m with hsame | ⟨c, q, next, rfl, -, -, hnext⟩
  · exact ⟨x, hsame, hwithin⟩
  · exact ⟨_, hnext, hwithin.2 _⟩

/-! ### A filter that is absent -/

omit [Link L] in
/-- Two states of a connection that differ at most in its link and its permits. -/
structure Alike (s s' : Shared H L) : Prop where
  registry : s'.broker.registry = s.broker.registry
  connected : s'.broker.connected = s.broker.connected
  calls : s'.calls = s.calls
  issued : s'.issued = s.issued

omit [Link L] in
/-- A filter is not registered, and no call from the one numbered `n` on knows otherwise. -/
structure Absent (filter : String) (n : Nat) (s : Shared H L) : Prop where
  unregistered : s.broker.registry.contains filter = false
  unannounced : ∀ k x, n ≤ k → s.calls[k]? = some x →
    x.rest.Guards (BrokerRequest.Subscribes filter) (BrokerRequest.Announces filter) False

namespace Absent

omit [Link L] in
theorem of_unregistered (h : s.broker.registry.contains filter = false) :
    Absent filter s.calls.length s where
  unregistered := h
  unannounced k x hk hx := by
    rw [List.getElem?_eq_none hk] at hx
    cases hx

omit [Link L] in
theorem not_mem_topics (h : Absent filter n s) : filter ∉ s.broker.topics := by
  intro hmem
  have hcontains := (s.broker.registry.mem_keys_iff filter).1 hmem
  rw [h.unregistered] at hcontains
  cases hcontains

omit [Link L] in
theorem alike (h : Absent filter n s) (hs : s.Alike s') : Absent filter n s' where
  unregistered := by
    rw [hs.registry]
    exact h.unregistered
  unannounced := by
    rw [hs.calls]
    exact h.unannounced

/-- **A filter stays absent** as long as nobody registers it. -/
theorem move (h : Absent filter n s) (hm : ∀ q, s.request? m = some q → ¬ q.Registers filter) :
    Absent filter n (s.move m) := by
  refine ⟨unregistered_move h.unregistered hm, fun k x hn hx => ?_⟩
  cases m with
  | begin c =>
    rcases Nat.lt_or_ge k s.calls.length with hlt | hge
    · exact h.unannounced k x hn ((List.getElem?_append_left hlt).symm.trans hx)
    · have hget : [_][k - s.calls.length]? = some x := (List.getElem?_append_right hge).symm.trans hx
      obtain rfl := List.mem_singleton.1 (List.mem_of_getElem? hget)
      exact c.announced _
  | step j =>
    match hj : s.calls[j]? with
    | none =>
      rw [Shared.move, hj] at hx
      exact h.unannounced k x hn hx
    | some ⟨c, .done r⟩ =>
      rw [Shared.move, hj] at hx
      exact h.unannounced k x hn hx
    | some ⟨c, .call q next⟩ =>
      rw [Shared.move, hj] at hx
      by_cases hkj : j = k
      · subst hkj
        obtain rfl := Option.some.inj
          ((List.getElem?_set_self (List.getElem?_eq_some_iff.1 hj).1).symm.trans hx)
        exact ((h.unannounced j _ hn hj).2 _).mono fun hknown => hknown.elim id
          (BrokerRequest.not_announces h.unregistered (hm q (request?_step hj)))
      · exact h.unannounced k x hn ((List.getElem?_set_ne hkj).symm.trans hx)

/-- **A request for an absent filter comes from a call that has been in progress before.** -/
theorem before (h : Absent filter n s) {i : Issued H} (hi : i ∈ s.issuedAt m) {quality : Quality}
    (hrequest : i.request = .subscribe filter quality) : ∃ k, k < n ∧ m = .step k := by
  cases m with
  | begin c => cases hi
  | step k =>
    refine ⟨k, Nat.lt_of_not_le fun hn => ?_, rfl⟩
    match hk : s.calls[k]? with
    | some ⟨c, .call q next⟩ =>
      rw [issuedAt, request?_step hk] at hi
      exact (h.unannounced k _ hn hk).1 (BrokerRequest.subscribes_of_mem hi hrequest)
    | some ⟨c, .done r⟩ =>
      rw [issuedAt, request?, hk] at hi
      cases hi
    | none =>
      rw [issuedAt, request?, hk] at hi
      cases hi

end Absent

end Shared

end LockFleet
