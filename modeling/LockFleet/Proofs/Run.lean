import Mathlib.Data.List.Induction

/-!
# Runs

A system is a step function on states, and a run is a list of events that happen one after another.
What is said about a system is said about every list of events; what the surroundings promise is
said about each event in the state in which it happens.

* `Run.after` — the state after a list of events;
* `Run.Along` — every event of a run satisfies a condition where it happens;
* `Run.Occurs` — an event of a run, with the events before it; of two such events one comes first;
* `Run.count`, `Run.gather` — how often something happens in a run, and what comes of it;
* `Along.invariant` — what holds at the start and is kept by every step holds after every run.
-/

namespace LockFleet.Run

variable {S E : Type} {step : S → E → S} {ok : S → E → Prop} {s : S} {es pre : List E} {e f : E}

/-- The state after a list of events. -/
def after (step : S → E → S) (s : S) (es : List E) : S := es.foldl step s

/-- Every event satisfies a condition in the state in which it happens. -/
def Along (step : S → E → S) (ok : S → E → Prop) : S → List E → Prop
  | _, [] => True
  | s, e :: es => ok s e ∧ Along step ok (step s e) es

instance Along.decidable [∀ s e, Decidable (ok s e)] :
    (s : S) → (es : List E) → Decidable (Along step ok s es)
  | _, [] => inferInstanceAs (Decidable True)
  | s, e :: es =>
    have := Along.decidable (step s e) es
    inferInstanceAs (Decidable (ok s e ∧ Along step ok (step s e) es))

/-- An event of a list, with the events before it. -/
def Occurs (es pre : List E) (e : E) : Prop := ∃ post, es = pre ++ e :: post

/-- How many events of a run are of a kind, each seen in the state in which it happens. -/
def count (step : S → E → S) (f : S → E → Bool) : S → List E → Nat
  | _, [] => 0
  | s, e :: es => (f s e).toNat + count step f (step s e) es

/-- What the events of a run yield, in their order. -/
def gather {α : Type} (step : S → E → S) (f : S → E → List α) : S → List E → List α
  | _, [] => []
  | s, e :: es => f s e ++ gather step f (step s e) es

/-! ### One event more -/

theorem after_append (es es' : List E) :
    after step s (es ++ es') = after step (after step s es) es' :=
  List.foldl_append

theorem after_snoc (es : List E) (e : E) :
    after step s (es ++ [e]) = step (after step s es) e := by
  rw [after_append]
  rfl

theorem along_append (es es' : List E) :
    Along step ok s (es ++ es') ↔
      Along step ok s es ∧ Along step ok (after step s es) es' := by
  induction es generalizing s with
  | nil => simp [Along, after]
  | cons e es ih =>
    rw [List.cons_append, Along, Along, ih, and_assoc]
    rfl

theorem along_snoc (es : List E) (e : E) :
    Along step ok s (es ++ [e]) ↔ Along step ok s es ∧ ok (after step s es) e := by
  rw [along_append, Along, Along, and_true]

theorem count_snoc (f : S → E → Bool) (es : List E) (e : E) :
    count step f s (es ++ [e]) = count step f s es + (f (after step s es) e).toNat := by
  induction es generalizing s with
  | nil =>
    show (f s e).toNat + 0 = 0 + (f s e).toNat
    omega
  | cons e' es ih =>
    rw [List.cons_append, count, count, ih, Nat.add_assoc]
    rfl

theorem gather_append {α : Type} (f : S → E → List α) (es es' : List E) :
    gather step f s (es ++ es') = gather step f s es ++ gather step f (after step s es) es' := by
  induction es generalizing s with
  | nil => rfl
  | cons e es ih =>
    rw [List.cons_append, gather, gather, ih, List.append_assoc]
    rfl

theorem gather_snoc {α : Type} (f : S → E → List α) (es : List E) (e : E) :
    gather step f s (es ++ [e]) = gather step f s es ++ f (after step s es) e := by
  rw [gather_append, gather, gather, List.append_nil]

/-- What a run yields is yielded by one of its events. -/
theorem mem_gather {α : Type} {f : S → E → List α} {a : α} (h : a ∈ gather step f s es) :
    ∃ pre e, pre ++ [e] <+: es ∧ a ∈ f (after step s pre) e := by
  induction es generalizing s with
  | nil => cases h
  | cons e es ih =>
    rcases List.mem_append.1 h with h | h
    · exact ⟨[], e, ⟨es, rfl⟩, h⟩
    · obtain ⟨pre, e', ⟨post, hpost⟩, ha⟩ := ih h
      exact ⟨e :: pre, e', ⟨post, congrArg (e :: ·) hpost⟩, ha⟩

theorem Along.of_isPrefix (h : Along step ok s es) (hpre : pre <+: es) : Along step ok s pre := by
  obtain ⟨post, rfl⟩ := hpre
  exact ((along_append pre post).1 h).1

/-- A condition that events satisfy wherever they happen. -/
theorem along_of_forall (h : ∀ e ∈ es, ∀ s, ok s e) : Along step ok s es := by
  induction es generalizing s with
  | nil => exact True.intro
  | cons e es ih =>
    exact ⟨h e List.mem_cons_self s, ih fun e' he' => h e' (List.mem_cons_of_mem e he')⟩

/-- A condition may be replaced by what follows from it. -/
theorem Along.mono {ok' : S → E → Prop} (h : Along step ok s es) (hok : ∀ s e, ok s e → ok' s e) :
    Along step ok' s es := by
  induction es generalizing s with
  | nil => exact True.intro
  | cons e es ih => exact ⟨hok s e h.1, ih h.2⟩

/-- What follows from the condition wherever an event happens holds of all events. -/
theorem Along.of_mem {p : E → Prop} (h : Along step ok s es) (hok : ∀ s e, ok s e → p e)
    (he : e ∈ es) : p e := by
  induction es generalizing s with
  | nil => cases he
  | cons f es ih =>
    rcases List.mem_cons.1 he with rfl | he
    · exact hok s e h.1
    · exact ih h.2 he

/-- **What every step keeps, every run keeps.** -/
theorem Along.invariant {P : List E → S → Prop} (h : Along step ok s es) (start : P [] s)
    (keep : ∀ es e, Along step ok s es → P es (after step s es) → ok (after step s es) e →
      P (es ++ [e]) (step (after step s es) e)) :
    P es (after step s es) := by
  induction es using List.reverseRecOn with
  | nil => exact start
  | append_singleton es e ih =>
    obtain ⟨hes, he⟩ := (along_snoc es e).1 h
    rw [after_snoc]
    exact keep es e hes (ih hes) he

/-! ### Events of a run -/

theorem not_occurs_nil : ¬ Occurs [] pre e := by
  rintro ⟨post, h⟩
  simp at h

/-- An event of a longer run is one of the shorter run or the last one. -/
theorem occurs_snoc : Occurs (es ++ [e]) pre f ↔ Occurs es pre f ∨ (pre = es ∧ f = e) := by
  constructor
  · rintro ⟨post, h⟩
    rcases List.eq_nil_or_concat post with rfl | ⟨post, g, rfl⟩
    · obtain ⟨rfl, hf⟩ := List.append_inj' h rfl
      exact Or.inr ⟨rfl, (List.singleton_inj.1 hf).symm⟩
    · rw [List.concat_eq_append, ← List.cons_append, ← List.append_assoc] at h
      obtain ⟨rfl, -⟩ := List.append_inj' h rfl
      exact Or.inl ⟨post, rfl⟩
  · rintro (⟨post, rfl⟩ | ⟨rfl, rfl⟩)
    · exact ⟨post ++ [e], by rw [List.append_assoc, List.cons_append]⟩
    · exact ⟨[], rfl⟩

theorem Occurs.isPrefix (h : Occurs es pre e) : pre ++ [e] <+: es := by
  obtain ⟨post, rfl⟩ := h
  exact ⟨post, by rw [List.append_assoc, List.singleton_append]⟩

theorem Occurs.of_isPrefix (h : Occurs pre es e) {l : List E} (hpre : pre <+: l) :
    Occurs l es e := by
  obtain ⟨post, rfl⟩ := h
  obtain ⟨rest, rfl⟩ := hpre
  exact ⟨post ++ rest, by rw [List.append_assoc, List.cons_append]⟩

/-- An event of a run belongs to a given beginning of it, or comes after that. -/
theorem Occurs.within_or_after {start : List E} (h : Occurs es pre e) (hstart : start <+: es) :
    Occurs start pre e ∨ start <+: pre := by
  rcases List.prefix_or_prefix_of_prefix h.isPrefix hstart with hin | hout
  · left
    obtain ⟨post, rfl⟩ := hin
    exact ⟨post, by rw [List.append_assoc, List.singleton_append]⟩
  · rcases List.prefix_concat_iff.1 hout with rfl | hout
    · exact Or.inl ⟨[], rfl⟩
    · exact Or.inr hout

/-- Of two events of a run one comes first, or they are the same. -/
theorem Occurs.trichotomy {pre' : List E} (h : Occurs es pre e) (h' : Occurs es pre' f) :
    Occurs pre' pre e ∨ (pre = pre' ∧ e = f) ∨ Occurs pre pre' f := by
  obtain ⟨post, rfl⟩ := h
  obtain ⟨post', heq⟩ := h'
  rcases List.append_eq_append_iff.1 heq with ⟨mid, rfl, hmid⟩ | ⟨mid, rfl, hmid⟩
  · cases mid with
    | nil =>
      cases hmid
      exact Or.inr (Or.inl ⟨(List.append_nil pre).symm, rfl⟩)
    | cons g mid =>
      cases hmid
      exact Or.inl ⟨mid, rfl⟩
  · cases mid with
    | nil =>
      cases hmid
      exact Or.inr (Or.inl ⟨List.append_nil pre', rfl⟩)
    | cons g mid =>
      cases hmid
      exact Or.inr (Or.inr ⟨mid, rfl⟩)

end LockFleet.Run
