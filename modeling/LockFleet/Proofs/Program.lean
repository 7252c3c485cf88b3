import LockFleet.Program

/-!
# The requests of a program

What a program may come to request and what it is bound to request, whatever it is answered.

* `Program.Within` — every request that it may come to make satisfies a condition;
* `Program.Ensures` — it is bound to make a request that satisfies a condition;
* `Program.Follows` — a request of one kind is followed by a request of another kind;
* `Program.Guards` — a request of some kind is made only once something is known;
* `Program.Relies` — every request and the result are right as long as the answers are.
-/

namespace LockFleet.Program

variable {E : Type} {Answer : E → Type} {α β γ : Type} {P Q : E → Prop}
  {learns : (e : E) → Answer e → Prop} {known known' : Prop}
  {right : (e : E) → Answer e → Prop} {R : α → Prop} {S : β → Prop}
  {p : Program E Answer α} {f : α → Program E Answer β}

theorem bind_assoc (p : Program E Answer α) (f : α → Program E Answer β)
    (g : β → Program E Answer γ) : (p.bind f).bind g = p.bind fun a => (f a).bind g := by
  induction p with
  | done a => rfl
  | call e next ih => exact congrArg (Program.call e) (funext ih)

/-! ### All requests -/

/-- Every request that a program may come to make satisfies a condition. -/
def Within (P : E → Prop) : Program E Answer α → Prop
  | .done _ => True
  | .call e next => P e ∧ ∀ x, (next x).Within P

theorem Within.bind (hp : p.Within P) (hf : ∀ a, (f a).Within P) : (p.bind f).Within P := by
  induction p with
  | done a => exact hf a
  | call e next ih =>
    obtain ⟨he, hnext⟩ := hp
    exact ⟨he, fun x => ih x (hnext x)⟩

theorem Within.mono (hp : p.Within P) (h : ∀ e, P e → Q e) : p.Within Q := by
  induction p with
  | done a => trivial
  | call e next ih => exact ⟨h e hp.1, fun x => ih x (hp.2 x)⟩

/-! ### Requests that are bound to come -/

/-- Whatever it is answered, a program makes a request that satisfies a condition. -/
def Ensures (P : E → Prop) : Program E Answer α → Prop
  | .done _ => False
  | .call e next => P e ∨ ∀ x, (next x).Ensures P

theorem Ensures.bind (hp : p.Ensures P) : (p.bind f).Ensures P := by
  induction p with
  | done a => exact hp.elim
  | call e next ih => exact hp.imp_right fun h x => ih x (h x)

theorem Ensures.after (hf : ∀ a, (f a).Ensures P) : (p.bind f).Ensures P := by
  induction p with
  | done a => exact hf a
  | call e next ih => exact Or.inr ih

/-- After every request of one kind a program is bound to make one of another kind. -/
def Follows (P Q : E → Prop) : Program E Answer α → Prop
  | .done _ => True
  | .call e next => (P e → ∀ x, (next x).Ensures Q) ∧ ∀ x, (next x).Follows P Q

theorem Follows.of_within (hp : p.Within fun e => ¬ P e) : p.Follows P Q := by
  induction p with
  | done a => trivial
  | call e next ih => exact ⟨fun he => absurd he hp.1, fun x => ih x (hp.2 x)⟩

theorem Follows.bind (hp : p.Follows P Q) (hf : ∀ a, (f a).Follows P Q) :
    (p.bind f).Follows P Q := by
  induction p with
  | done a => exact hf a
  | call e next ih =>
    exact ⟨fun he x => (hp.1 he x).bind, fun x => ih x (hp.2 x)⟩

/-- What comes last follows all that comes before it. -/
theorem Follows.of_ensures (hensures : ∀ a, (f a).Ensures Q) (hf : ∀ a, (f a).Follows P Q) :
    (p.bind f).Follows P Q := by
  induction p with
  | done a => exact hf a
  | call e next ih => exact ⟨fun _ x => Ensures.after hensures, ih⟩

/-! ### Requests that have to wait -/

/-- A program makes requests of some kind only once something is known, be it from the start or
through a request and its answer. -/
def Guards (P : E → Prop) (learns : (e : E) → Answer e → Prop) :
    Program E Answer α → Prop → Prop
  | .done _, _ => True
  | .call e next, known =>
    (P e → known) ∧ ∀ x, (next x).Guards P learns (known ∨ learns e x)

theorem Guards.mono (hp : p.Guards P learns known) (h : known → known') :
    p.Guards P learns known' := by
  induction p generalizing known known' with
  | done a => trivial
  | call e next ih => exact ⟨fun he => h (hp.1 he), fun x => ih x (hp.2 x) (Or.imp_left h)⟩

theorem Guards.of_within (hp : p.Within fun e => P e → known) : p.Guards P learns known := by
  induction p with
  | done a => trivial
  | call e next ih => exact ⟨hp.1, fun x => (ih x (hp.2 x)).mono Or.inl⟩

theorem Guards.bind (hp : p.Guards P learns known) (hf : ∀ a, (f a).Guards P learns known) :
    (p.bind f).Guards P learns known := by
  induction p generalizing known with
  | done a => exact hf a
  | call e next ih => exact ⟨hp.1, fun x => ih x (hp.2 x) fun a => (hf a).mono Or.inl⟩

/-! ### Requests that rely on answers -/

/-- Every request that a program makes satisfies a condition, and so does its result, as long as the
answers before it satisfy theirs. -/
def Relies (P : E → Prop) (right : (e : E) → Answer e → Prop) (R : α → Prop) :
    Program E Answer α → Prop
  | .done a => R a
  | .call e next => P e ∧ ∀ x, right e x → (next x).Relies P right R

theorem Relies.bind (hp : p.Relies P right R) (hf : ∀ a, R a → (f a).Relies P right S) :
    (p.bind f).Relies P right S := by
  induction p with
  | done a => exact hf a hp
  | call e next ih => exact ⟨hp.1, fun x hx => ih x (hp.2 x hx)⟩

theorem Relies.imp {R' : α → Prop} (hp : p.Relies P right R) (h : ∀ a, R a → R' a) :
    p.Relies P right R' := by
  induction p with
  | done a => exact h a hp
  | call e next ih => exact ⟨hp.1, fun x hx => ih x (hp.2 x hx)⟩

end LockFleet.Program
