import LedgerLens.Host.Runs

/-!
Temporary storage. An entry there lives until some ledger, which may be put off
while it lives; once that ledger has passed the host drops the entry, whether or
not anyone looks at it.
-/

namespace Host

variable {K : Type} {V : K → Type} {Ev A : Type}

/-- The entries that are left when those temporary ones are dropped. -/
def Ledger.evict (l : Ledger K V) (gone : K → Bool) : Ledger K V where
  entry
    | .temporary, k => if gone k then none else l.entry .temporary k
    | .inst, k => l.entry .inst k
    | .persistent, k => l.entry .persistent k

/-- A world, and the ledger until which each temporary entry lives. -/
structure Perishable (K : Type) (V : K → Type) (Ev : Type) where
  world : World K V Ev
  liveUntil : K → Nat

/-- What a ledger finds of the world. -/
def Perishable.seenAt (p : Perishable K V Ev) (sequence : Nat) : World K V Ev :=
  { p.world with ledger := p.world.ledger.evict fun k => p.liveUntil k < sequence }

/-- The acts a perishable world goes through: the ledger each is made at, and what it makes of
the world it finds and of the lifetimes. -/
structure Upkeep (K : Type) (V : K → Type) (Ev A : Type) where
  sequence : A → Nat
  act : World K V Ev → A → World K V Ev
  lifetimes : World K V Ev → A → (K → Nat) → K → Nat

namespace Perishable

variable {p : Perishable K V Ev} {sequence : Nat}

theorem seenAt_temporary {k : K} (lives : sequence ≤ p.liveUntil k) :
    (p.seenAt sequence).ledger.entry .temporary k = p.world.ledger.entry .temporary k :=
  if_neg (by simpa using lives)

theorem seenAt_past {k : K} (past : ¬ sequence ≤ p.liveUntil k) :
    (p.seenAt sequence).ledger.entry .temporary k = none :=
  if_pos (by simpa using past)

end Perishable

namespace Upkeep

variable (u : Upkeep K V Ev A)

def step (p : Perishable K V Ev) (a : A) : Perishable K V Ev where
  world := u.act (p.seenAt (u.sequence a)) a
  liveUntil := u.lifetimes (p.seenAt (u.sequence a)) a p.liveUntil

def run (p : Perishable K V Ev) (acts : List A) : Perishable K V Ev := acts.foldl u.step p

/-- Every act of the run meets `P` where it is made. -/
def Along (P : Perishable K V Ev → A → Prop) : Perishable K V Ev → List A → Prop
  | _, [] => True
  | p, a :: rest => P p a ∧ Along P (u.step p a) rest

variable {u} {P : Perishable K V Ev → A → Prop} {I : Perishable K V Ev → Prop}
  {p : Perishable K V Ev} {acts : List A}

@[simp] theorem run_cons (a : A) (rest : List A) :
    u.run p (a :: rest) = u.run (u.step p a) rest := rfl

/-- What every act preserves holds at the end of the run. -/
theorem run_invariant (preserved : ∀ p a, I p → P p a → I (u.step p a)) (start : I p)
    (along : u.Along P p acts) : I (u.run p acts) := by
  induction acts generalizing p with
  | nil => exact start
  | cons a rest ih => exact ih (preserved p a start along.1) along.2

theorem Along.of_mem {P : A → Prop} (holds : ∀ a ∈ acts, P a) :
    u.Along (fun _ a => P a) p acts := by
  induction acts generalizing p with
  | nil => trivial
  | cons a rest ih =>
    exact ⟨holds a List.mem_cons_self, ih fun b isLater => holds b (List.mem_cons_of_mem a isLater)⟩

/-- What every act preserves, without a condition on the acts. -/
theorem run_induction (preserved : ∀ p a, I p → I (u.step p a)) (start : I p) :
    I (u.run p acts) := by
  induction acts generalizing p with
  | nil => exact start
  | cons a rest ih => exact ih (preserved p a start)

end Upkeep

end Host
