import Mathlib.Algebra.Group.Nat.Defs
import Mathlib.Data.Finset.Card
import Mathlib.Order.Defs.Unbundled

/-!
Programs of a transactional host.

A program reads an environment, transforms a state and ends in one of three
ways: it returns, it returns an error value, or it traps. An error keeps the
state reached so far (the caller may inspect it and go on, as `attempt` does);
a trap keeps nothing. Rolling a whole invocation back is the business of the
host, not of the monad, and is defined with the ledger state.
-/

namespace Host

/-- How a program ends. -/
inductive Outcome (ε σ α : Type) where
  | ok (value : α) (state : σ)
  | err (error : ε) (state : σ)
  | trap
  deriving DecidableEq

def Outcome.isOk {ε σ α : Type} : Outcome ε σ α → Bool
  | .ok .. => true
  | .err .. | .trap => false

/-- The value a run returned. -/
def Outcome.value? {ε σ α : Type} : Outcome ε σ α → Option α
  | .ok a _ => some a
  | .err _ _ | .trap => none

/-- What a caller sees of a run: its value or its error, and nothing when it
trapped. -/
def Outcome.result {ε σ α : Type} : Outcome ε σ α → Option (Except ε α)
  | .ok a _ => some (.ok a)
  | .err e _ => some (.error e)
  | .trap => none

theorem Outcome.exists_of_value? {ε σ α : Type} {o : Outcome ε σ α} {a : α}
    (ran : o.value? = some a) : ∃ s, o = .ok a s := by
  cases o with
  | ok b s =>
    cases ran
    exact ⟨s, rfl⟩
  | err e s => cases ran
  | trap => cases ran

/-- A program over environment `ρ`, errors `ε` and state `σ`. -/
def Prog (ρ ε σ α : Type) : Type := ρ → σ → Outcome ε σ α

namespace Prog

variable {ρ ε σ α β γ : Type}

/-- Two programs are equal when they agree on every environment and state. -/
@[ext] theorem ext {m n : Prog ρ ε σ α} (same : ∀ r s, m r s = n r s) : m = n :=
  funext fun r => funext fun s => same r s

instance : Monad (Prog ρ ε σ) where
  pure a := fun _ s => .ok a s
  bind m f := fun r s =>
    match m r s with
    | .ok a s' => f a r s'
    | .err e s' => .err e s'
    | .trap => .trap

/-- Return an error value. -/
def throw (e : ε) : Prog ρ ε σ α := fun _ s => .err e s

/-- Abort the invocation. -/
def trap : Prog ρ ε σ α := fun _ _ => .trap

/-- A value computed from the environment. -/
def asks (f : ρ → α) : Prog ρ ε σ α := fun r s => .ok (f r) s

/-- A value read from the state. -/
def reads (f : σ → α) : Prog ρ ε σ α := fun _ s => .ok (f s) s

/-- A total state update. -/
def update (f : σ → σ) : Prog ρ ε σ Unit := fun _ s => .ok () (f s)

/-- Go on only when `c` holds; otherwise return the error `e`. -/
def require (c : Bool) (e : ε) : Prog ρ ε σ Unit := if c then pure () else throw e

/-- Run `m` only when `c` holds. -/
def whenever (c : Bool) (m : Prog ρ ε σ Unit) : Prog ρ ε σ Unit := if c then m else pure ()

/-- Run `f` on the value of `o`, if there is one. -/
def ifSome (o : Option α) (f : α → Prog ρ ε σ Unit) : Prog ρ ε σ Unit := o.elim (pure ()) f

/-- The value of `o`, or the error `e`. -/
def okOr (o : Option α) (e : ε) : Prog ρ ε σ α := o.elim (throw e) pure

/-- The value of `o`; a missing value traps. -/
def unwrap (o : Option α) : Prog ρ ε σ α := o.elim trap pure

/-- `n` itself when it lies below `bound`; otherwise the arithmetic overflows
and the program traps. -/
def checked (bound n : Nat) : Prog ρ ε σ Nat := if n < bound then pure n else trap

/-- Turn an error of `m` into a value. The state `m` reached is kept. -/
def attempt (m : Prog ρ ε σ α) : Prog ρ ε σ (Except ε α) := fun r s =>
  match m r s with
  | .ok a s' => .ok (.ok a) s'
  | .err e s' => .ok (.error e) s'
  | .trap => .trap

/-- Run `m` and go on with its value or with its error. The state `m` reached is
kept in both cases. -/
def handle (m : Prog ρ ε σ α) (onError : ε → Prog ρ ε σ β) (onOk : α → Prog ρ ε σ β) :
    Prog ρ ε σ β := fun r s =>
  match m r s with
  | .ok a s' => onOk a r s'
  | .err e s' => onError e r s'
  | .trap => .trap

/-- Run `f` on every element of the list, from the left. -/
def each (xs : List α) (f : α → Prog ρ ε σ Unit) : Prog ρ ε σ Unit :=
  match xs with
  | [] => pure ()
  | x :: rest => do f x; each rest f

/-- Run `f` on every element of the list, from the left, passing a value on. -/
def fold (f : β → α → Prog ρ ε σ β) (b : β) : List α → Prog ρ ε σ β
  | [] => pure b
  | x :: rest => do fold f (← f b x) rest

/-- Run `m` for its effect only. -/
abbrev dropResult (m : Prog ρ ε σ α) : Prog ρ ε σ Unit := do
  let _ ← m
  return ()

/-! ### Running the primitives -/

section Run

variable (r : ρ) (s : σ)

@[simp] theorem run_pure (a : α) : (pure a : Prog ρ ε σ α) r s = .ok a s := rfl
@[simp] theorem run_throw (e : ε) : (throw e : Prog ρ ε σ α) r s = .err e s := rfl
@[simp] theorem run_trap : (trap : Prog ρ ε σ α) r s = .trap := rfl
@[simp] theorem run_asks (f : ρ → α) : (asks f : Prog ρ ε σ α) r s = .ok (f r) s := rfl
@[simp] theorem run_reads (f : σ → α) : (reads f : Prog ρ ε σ α) r s = .ok (f s) s := rfl
@[simp] theorem run_update (f : σ → σ) : (update f : Prog ρ ε σ Unit) r s = .ok () (f s) := rfl

theorem run_bind (m : Prog ρ ε σ α) (f : α → Prog ρ ε σ β) :
    (m >>= f) r s = match m r s with
      | .ok a s' => f a r s'
      | .err e s' => .err e s'
      | .trap => .trap := rfl

variable {m : Prog ρ ε σ α} {f : α → Prog ρ ε σ β} {r : ρ} {s s' : σ} {e : ε}

theorem run_bind_of_ok {a : α} (ran : m r s = .ok a s') : (m >>= f) r s = f a r s' := by
  rw [run_bind, ran]

/-- A loop whose rounds all return and change nothing returns and changes nothing. -/
theorem fold_of_total {f : β → α → Prog ρ ε σ β} {r : ρ} {s : σ}
    (total : ∀ b a, ∃ b', f b a r s = .ok b' s) (b : β) (xs : List α) :
    ∃ b', fold f b xs r s = .ok b' s := by
  induction xs generalizing b with
  | nil => exact ⟨b, rfl⟩
  | cons x rest ih =>
    obtain ⟨b', ran⟩ := total b x
    unfold fold
    rw [run_bind_of_ok ran]
    exact ih b'

theorem run_bind_of_err (failed : m r s = .err e s') : (m >>= f) r s = .err e s' := by
  rw [run_bind, failed]

theorem run_bind_of_trap {s : σ} (trapped : m r s = .trap) : (m >>= f) r s = .trap := by
  rw [run_bind, trapped]

end Run

private theorem id_map_run (m : Prog ρ ε σ α) : id <$> m = m := by
  ext r s
  change (m >>= fun a => pure a) r s = m r s
  rw [run_bind]
  cases m r s <;> rfl

private theorem bind_assoc_run (m : Prog ρ ε σ α) (f : α → Prog ρ ε σ β)
    (g : β → Prog ρ ε σ γ) : m >>= f >>= g = m >>= fun a => f a >>= g := by
  ext r s
  simp only [run_bind]
  cases m r s <;> rfl

instance : LawfulMonad (Prog ρ ε σ) :=
  LawfulMonad.mk' _ id_map_run (fun _ _ => rfl) bind_assoc_run

/-! ### Inversion: what a returned value says about the parts -/

section Inversion

variable {r : ρ} {s t : σ}

@[simp] theorem pure_ok {a b : α} : (pure a : Prog ρ ε σ α) r s = .ok b t ↔ a = b ∧ s = t := by
  simp

theorem bind_ok {m : Prog ρ ε σ α} {f : α → Prog ρ ε σ β} {b : β} :
    (m >>= f) r s = .ok b t ↔ ∃ a u, m r s = .ok a u ∧ f a r u = .ok b t := by
  rw [run_bind]
  cases m r s <;> simp

@[simp] theorem require_ok {c : Bool} {e : ε} {u : Unit} :
    (require c e : Prog ρ ε σ Unit) r s = .ok u t ↔ c = true ∧ s = t := by
  cases c <;> simp [require]

theorem require_bind_ok {c : Bool} {e : ε} {f : Unit → Prog ρ ε σ β} {b : β} :
    (require c e >>= f) r s = .ok b t ↔ c = true ∧ f () r s = .ok b t := by
  cases c <;> simp [require, bind_ok]

@[simp] theorem okOr_ok {o : Option α} {e : ε} {a : α} :
    (okOr o e : Prog ρ ε σ α) r s = .ok a t ↔ o = some a ∧ s = t := by
  cases o <;> simp [okOr]

@[simp] theorem unwrap_ok {o : Option α} {a : α} :
    (unwrap o : Prog ρ ε σ α) r s = .ok a t ↔ o = some a ∧ s = t := by
  cases o <;> simp [unwrap]

@[simp] theorem checked_ok {bound n k : Nat} :
    (checked bound n : Prog ρ ε σ Nat) r s = .ok k t ↔ n < bound ∧ n = k ∧ s = t := by
  unfold checked
  split <;> simp [*]

theorem attempt_ok {m : Prog ρ ε σ α} {x : Except ε α} :
    attempt m r s = .ok x t ↔
      (∃ a, m r s = .ok a t ∧ x = .ok a) ∨ ∃ e, m r s = .err e t ∧ x = .error e := by
  unfold attempt
  cases m r s with
  | ok a u => simp [eq_comm, and_comm]
  | err e u => simp [eq_comm, and_comm]
  | trap => simp

theorem handle_ok {m : Prog ρ ε σ α} {onError : ε → Prog ρ ε σ β} {onOk : α → Prog ρ ε σ β}
    {b : β} : handle m onError onOk r s = .ok b t ↔
      (∃ a u, m r s = .ok a u ∧ onOk a r u = .ok b t) ∨
        ∃ e u, m r s = .err e u ∧ onError e r u = .ok b t := by
  unfold handle
  cases m r s <;> simp

end Inversion

end Prog

end Host
