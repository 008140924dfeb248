import Mathlib.Logic.Basic

/-!
# Computations with calls that can fail

A computation makes calls to its surroundings; the calls are numbered, so that a table of outcomes
says which of them fail.

* `Calls α`: a result, or none, and the number of the next call;
* `call`: one call; `outcome`: go on after a failure, with the failure as a value;
* `bind_eq_some`: a sequence succeeds when its parts do.
-/

/-- a computation from the number of its first call to the number of the call after it -/
def Calls (α : Type) : Type := Nat → Option α × Nat

namespace Calls

variable {α β γ : Type}

instance : Monad Calls where
  pure a n := (some a, n)
  bind x f n :=
    match x n with
    | (some a, n) => f a n
    | (none, n) => (none, n)

/-- one call; its outcome is in a table -/
def call (table : Nat → Option α) : Calls α := fun n => (table n, n + 1)

/-- the computation is given up -/
def fail : Calls α := fun n => (none, n)

/-- the result of a computation that may have failed, to be looked at later -/
def outcome (x : Calls α) : Calls (Option α) := fun n => (some (x n).1, (x n).2)

theorem ext {x y : Calls α} (h : ∀ n, x n = y n) : x = y := funext h

theorem pure_apply (a : α) (n : Nat) : (pure a : Calls α) n = (some a, n) := rfl

theorem bind_apply (x : Calls α) (f : α → Calls β) (n : Nat) :
    (x >>= f) n = match x n with
      | (some a, n) => f a n
      | (none, n) => (none, n) := rfl

theorem bind_some {x : Calls α} {n n' : Nat} {a : α} (h : x n = (some a, n')) (f : α → Calls β) :
    (x >>= f) n = f a n' := by
  rw [bind_apply, h]

theorem bind_none {x : Calls α} {n n' : Nat} (h : x n = (none, n')) (f : α → Calls β) :
    (x >>= f) n = (none, n') := by
  rw [bind_apply, h]

theorem bind_eq_some {x : Calls α} {f : α → Calls β} {n n' : Nat} {b : β} :
    (x >>= f) n = (some b, n') ↔ ∃ a m, x n = (some a, m) ∧ f a m = (some b, n') := by
  rcases hx : x n with ⟨_ | a, m⟩
  · rw [bind_none hx]
    constructor
    · intro h
      cases h
    · rintro ⟨a, m', h, -⟩
      cases h
  · rw [bind_some hx]
    constructor
    · intro h
      exact ⟨a, m, rfl, h⟩
    · rintro ⟨a', m', h, hf⟩
      cases h
      exact hf

theorem bind_assoc (x : Calls α) (f : α → Calls β) (g : β → Calls γ) :
    x >>= f >>= g = x >>= fun a => f a >>= g := by
  apply ext
  intro n
  rcases hx : x n with ⟨_ | a, m⟩
  · rw [bind_none (bind_none hx f), bind_none hx]
  · rw [bind_apply (x >>= f), bind_some hx, bind_some hx, bind_apply (f a)]

theorem pure_bind (a : α) (f : α → Calls β) : (pure a : Calls α) >>= f = f a := rfl

theorem call_eq_some {table : Nat → Option α} {n n' : Nat} {a : α} :
    call table n = (some a, n') ↔ table n = some a ∧ n' = n + 1 := by
  unfold call
  rw [Prod.mk.injEq, eq_comm (a := n')]

end Calls
