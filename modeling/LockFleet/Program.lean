/-!
# Programs

A program is a finite sequence of requests to its surroundings, each chosen in view of the answers
to the earlier ones, with a result at the end.  What a request does is decided by whoever runs the
program: it can be run at once, or one request at a time between the requests of other programs.

* `Program`, `Program.ask`, and the monad of programs;
* `Program.run`: runs a program to its end on a state;
* `Program.expand`: replaces each request by a program of other requests.
-/

namespace LockFleet

/-- A program that makes requests from `E` and ends with a result from `α`. -/
inductive Program (E : Type) (Answer : E → Type) (α : Type) where
  | done (a : α)
  | call (e : E) (next : Answer e → Program E Answer α)

namespace Program

variable {E F : Type} {Answer : E → Type} {Reply : F → Type} {α β : Type}

/-- One program after another. -/
def bind : Program E Answer α → (α → Program E Answer β) → Program E Answer β
  | .done a, f => f a
  | .call e next, f => .call e fun x => (next x).bind f

instance : Monad (Program E Answer) where
  pure := .done
  bind := bind

/-- The program of a single request. -/
def ask (e : E) : Program E Answer (Answer e) := .call e .done

/-- Runs a program to its end, each request served on the state. -/
def run {σ : Type} (serve : (e : E) → σ → Answer e × σ) : Program E Answer α → σ → α × σ
  | .done a, s => (a, s)
  | .call e next, s =>
    let (x, s') := serve e s
    (next x).run serve s'

/-- The program with every request replaced by a program of other requests. -/
def expand (f : (e : E) → Program F Reply (Answer e)) :
    Program E Answer α → Program F Reply α
  | .done a => .done a
  | .call e next => (f e).bind fun x => (next x).expand f

@[simp] theorem done_bind (a : α) (f : α → Program E Answer β) : (done a).bind f = f a := rfl

theorem run_bind {σ : Type} (serve : (e : E) → σ → Answer e × σ) (p : Program E Answer α)
    (f : α → Program E Answer β) (s : σ) :
    (p.bind f).run serve s = (f (p.run serve s).1).run serve (p.run serve s).2 := by
  induction p generalizing s with
  | done a => rfl
  | call e next ih => exact ih _ _

end Program

end LockFleet
