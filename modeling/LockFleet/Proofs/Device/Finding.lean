import LockFleet.Proofs.Device.Accounts

/-!
# What a handler has found

A handler with a device to see to looks it up under the number of its task before anything else, so
it cannot end well without having found it.

* `Position.Serves.found_of_isDone` — at the end of a handler its device has been found;
* `Position.Serves.finds_number` — a device is found under the number of the task;
* `Intake.Attributed`, `Intake.attributed` — every handler of a run has found what the store had
  under its number.
-/

namespace LockFleet

namespace Position.Serves

variable {s s' : Store} {time : Moment} {taken : Bool} {p p' : Position} {q : ReconcileRequest}
  {f found : Option Int64} {t : Task} {number : String} {k : Int64}

/-- A handler with a device to look up has found it when it ends without an error. -/
theorem found_of_isDone (h : Serves s time taken p q p' s' f) (hp : p.Fits t found)
    (ht : t.number? = some number) (hdone : p'.isDone = true) :
    ∃ k, (f <|> found) = some k := by
  cases h with
  | handsOver =>
    obtain ⟨rfl, -⟩ := hp
    cases ht
  | finds => exact ⟨_, rfl⟩
  | staysOnline => exact ⟨_, hp.2⟩
  | overwrites => exact ⟨_, hp.2⟩
  | staysAsItIs => exact ⟨_, hp.2⟩
  | records =>
    obtain ⟨id, -, -, -, -, -, hfound⟩ := hp
    exact ⟨id, hfound⟩
  | _ => cases hdone

/-- What a handler finds is the device of the number of its task. -/
theorem finds_number (h : Serves s time taken p q p' s' (some k)) (hp : p.Fits t found) :
    ∃ number d, t.number? = some number ∧ s.find? number = some d ∧ d.id = k := by
  cases h with
  | finds ht hd =>
    obtain ⟨rfl, -⟩ := hp
    exact ⟨_, _, ht, hd, rfl⟩

end Position.Serves

namespace Intake

variable {s : Store} {es : List Event} {e : Event} {i : Nat} {c c' : Call}

/-- A handler of a run has found what the store had under the number of its task. -/
structure Attributed (s : Store) (es : List Event) (i : Nat) (c : Call) : Prop where
  /-- A handler with a device to look up has found one when it ends without an error. -/
  found : ∀ number, c.task.number? = some number → c.hasSucceeded = true → ∃ k, c.found = some k
  /-- A device that it has found was the one of that number when a request of it was served. -/
  numbered : ∀ k, c.found = some k → ∃ pre time taken number d,
    Run.Occurs es pre (.serve i time taken) ∧ c.task.number? = some number ∧
      (play s pre).store.find? number = some d ∧ d.id = k

namespace Attributed

theorem snoc (h : Attributed s es i c) (e : Event) : Attributed s (es ++ [e]) i c := by
  refine ⟨h.found, fun k hk => ?_⟩
  obtain ⟨pre, time, taken, number, d, ho, hnumber, hd, hid⟩ := h.numbered k hk
  exact ⟨pre, time, taken, number, d, Run.occurs_snoc.2 (Or.inl ho), hnumber, hd, hid⟩

/-- A handler that is stopped keeps what it has found. -/
theorem stopped (h : Attributed s es i c) (htask : c'.task = c.task) (hfound : c'.found = c.found)
    (hdone : c'.hasSucceeded = false) : Attributed s es i c' := by
  refine ⟨fun number _ hsucceeded => ?_, fun k hk => ?_⟩
  · rw [hdone] at hsucceeded
    cases hsucceeded
  · rw [htask]
    exact h.numbered k (hfound.symm.trans hk)

/-- A handler that has just been called has found nothing. -/
theorem called (s : Store) (es : List Event) (i : Nat) (t : Task) :
    Attributed s es i ⟨t, none, some t.program⟩ := by
  refine ⟨fun number _ hdone => ?_, fun k hk => by cases hk⟩
  have hstart : (⟨t, none, some t.program⟩ : Call).hasSucceeded = (Position.start t).isDone :=
    Call.hasSucceeded_of_rest rfl
  rw [hstart] at hdone
  cases hdone

/-- A handler whose request is served finds its device, or has found it before. -/
theorem served (h : Attributed s es i c) {p p' : Position} {q : ReconcileRequest} {s' : Store}
    {f : Option Int64} {time : Moment} {taken : Bool} (hp : c.Stands (play s es).store p)
    (hserves : p.Serves (play s es).store time taken q p' s' f) :
    Attributed s (es ++ [.serve i time taken]) i ⟨c.task, f <|> c.found, some p'.program⟩ := by
  refine ⟨fun number hnumber hdone => ?_, fun k hk => ?_⟩
  · exact hserves.found_of_isDone hp.fits hnumber ((Call.hasSucceeded_of_rest rfl).symm.trans hdone)
  · cases f with
    | none => exact (h.snoc _).numbered k hk
    | some id =>
      obtain rfl : id = k := Option.some.inj hk
      obtain ⟨number, d, hnumber, hd, hid⟩ := hserves.finds_number hp.fits
      exact ⟨es, time, taken, number, d, Run.occurs_snoc.2 (Or.inr ⟨rfl, rfl⟩), hnumber, hd, hid⟩

end Attributed

/-- When a handler has gone on, the handler under a number is this one, or it is as it was. -/
theorem call?_of_set {calls : List Call} {j : Nat} (h : (calls.set j c')[i]? = some c) :
    (j = i ∧ c' = c) ∨ calls[i]? = some c := by
  by_cases hj : j = i
  · subst hj
    have hlt : j < calls.length := List.length_set ▸ (List.getElem?_eq_some_iff.1 h).1
    exact Or.inl ⟨rfl, Option.some.inj ((List.getElem?_set_self hlt).symm.trans h)⟩
  · exact Or.inr ((List.getElem?_set_ne hj).symm.trans h)

theorem attributed_step (h : ∀ i c, (play s es).calls[i]? = some c → Attributed s es i c)
    (hc : (play s (es ++ [e])).calls[i]? = some c) : Attributed s (es ++ [e]) i c := by
  have hstep := happens s es e
  generalize play s (es ++ [e]) = y at hc hstep
  cases hstep with
  | nothing => exact (h i c hc).snoc _
  | inserted => exact (h i c hc).snoc _
  | called t =>
    rcases Nat.lt_or_ge i (play s es).calls.length with hlt | hge
    · exact (h i c ((List.getElem?_append_left hlt).symm.trans hc)).snoc _
    · have hmem := List.mem_of_getElem? ((List.getElem?_append_right hge).symm.trans hc)
      obtain rfl := List.mem_singleton.1 hmem
      exact .called s _ i t
  | @served j _ _ c₀ _ _ _ _ _ _ call stands serves _ call' =>
    rcases call?_of_set hc with ⟨rfl, rfl⟩ | hold
    · rw [call']
      exact (h j c₀ call).served stands serves
    · exact (h i c hold).snoc _
  | @failed j _ c₀ _ _ call =>
    rcases call?_of_set hc with ⟨rfl, rfl⟩ | hold
    · exact ((h j c₀ call).snoc _).stopped rfl rfl rfl
    · exact (h i c hold).snoc _
  | wasCutOff j =>
    by_cases hj : j = i
    · subst hj
      rw [List.getElem?_modify_eq] at hc
      obtain ⟨c₀, hc₀, rfl⟩ := Option.map_eq_some_iff.1 hc
      exact ((h j c₀ hc₀).snoc _).stopped rfl rfl rfl
    · rw [List.getElem?_modify_ne _ _ hj] at hc
      exact (h i c hc).snoc _

/-- **Every handler of a run has found what the store had under its number**, and one that has ended
without an error has found something. -/
theorem attributed (s : Store) (es : List Event) :
    ∀ i c, (play s es).calls[i]? = some c → Attributed s es i c := by
  induction es using List.reverseRecOn with
  | nil => exact fun i c hc => by cases hc
  | append_singleton es e ih => exact fun i c hc => attributed_step ih hc

end Intake

end LockFleet
