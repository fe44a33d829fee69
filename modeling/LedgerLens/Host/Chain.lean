import Mathlib.Data.Nat.Find
import Mathlib.Logic.Function.Basic

/-!
Chains of a partial function. Every element has at most one successor, so a
chain is what repeated hops visit. Two things are asked of chains: that they
never come back to where they started, and where along them a value is first
found.
-/

namespace Host.Chain

variable {α β : Type}

/-- Where `n` hops lead, if the chain is that long. -/
def hops (next : α → Option α) : Nat → α → Option α
  | 0, a => some a
  | n + 1, a => (next a).bind (hops next n)

/-- No chain returns to where it started. -/
def Acyclic (next : α → Option α) : Prop := ∀ a n, hops next (n + 1) a ≠ some a

section Hops

variable {next : α → Option α} {a b c : α}

theorem hops_add (m n : Nat) (a : α) :
    hops next (m + n) a = (hops next m a).bind (hops next n) := by
  induction m generalizing a with
  | zero => simp [hops]
  | succ m ih =>
    rw [Nat.succ_add]
    change (next a).bind (hops next (m + n)) = ((next a).bind (hops next m)).bind (hops next n)
    cases next a with
    | none => rfl
    | some b => exact ih b

/-- A chain that has ended stays ended. -/
theorem hops_eq_none_of_le {m n : Nat} (shorter : m ≤ n) (ended : hops next m a = none) :
    hops next n a = none := by
  obtain ⟨k, rfl⟩ := Nat.exists_eq_add_of_le shorter
  rw [hops_add, ended]
  rfl

/-- Every element of a cycle lies on a cycle of the same length. -/
theorem hops_rotate {m n : Nat} (cycle : hops next n a = some a)
    (reached : hops next m a = some b) : hops next n b = some b := by
  have around : hops next (n + m) a = some b := by
    rw [hops_add, cycle]
    exact reached
  rw [Nat.add_comm, hops_add, reached] at around
  exact around

/-- A chain that ends avoids an element as soon as it does so up to its end. -/
theorem hops_ne_of_ended {n : Nat} (ended : hops next n b = none)
    (away : ∀ m < n, hops next m b ≠ some a) (m : Nat) : hops next m b ≠ some a := by
  intro reached
  by_cases before : m < n
  · exact away m before reached
  · rw [hops_eq_none_of_le (Nat.le_of_not_lt before) ended] at reached
    cases reached

variable [DecidableEq α]

/-- Changing the successor of `a` changes no chain before it reaches `a`. -/
theorem hops_update_of_forall_ne {v : Option α} {n : Nat} {b : α}
    (away : ∀ m < n, hops next m b ≠ some a) :
    hops (Function.update next a v) n b = hops next n b := by
  induction n generalizing b with
  | zero => rfl
  | succ n ih =>
    have start : b ≠ a := by
      rintro rfl
      exact away 0 (Nat.succ_pos n) rfl
    unfold hops
    rw [Function.update_of_ne start]
    cases step : next b with
    | none => rfl
    | some c =>
      refine ih fun m shorter reached => ?_
      refine away (m + 1) (Nat.succ_lt_succ shorter) ?_
      unfold hops
      rw [step]
      exact reached

/-- Without a successor of `a` there are only fewer chains. -/
theorem hops_of_update_none {n : Nat} (reached : hops (Function.update next a none) n b = some c) :
    hops next n b = some c := by
  induction n generalizing b with
  | zero => exact reached
  | succ n ih =>
    unfold hops at reached ⊢
    by_cases here : b = a
    · subst here
      simp at reached
    · rw [Function.update_of_ne here] at reached
      cases step : next b with
      | none => simp [step] at reached
      | some d =>
        rw [step] at reached
        exact ih reached

end Hops

section Acyclic

variable {next : α → Option α} {a b : α} [DecidableEq α]

omit [DecidableEq α] in
theorem acyclic_of_forall_eq_none (bare : ∀ a, next a = none) : Acyclic next := by
  intro a n cycle
  unfold hops at cycle
  simp [bare a] at cycle

theorem Acyclic.update_none (acyclic : Acyclic next) : Acyclic (Function.update next a none) :=
  fun c n cycle => acyclic c n (hops_of_update_none cycle)

/-- A new link closes no cycle when the chain from its end does not lead back
to its start. -/
theorem Acyclic.update_some (acyclic : Acyclic next) (away : ∀ n, hops next n b ≠ some a) :
    Acyclic (Function.update next a (some b)) := by
  intro c n cycle
  have same (m : Nat) : hops (Function.update next a (some b)) m b = hops next m b :=
    hops_update_of_forall_ne fun k _ => away k
  by_cases through : ∃ m, hops next m c = some a
  · -- the first visit to `a` is the same in both chains; turned there, the cycle
    -- starts with the new link
    have first := Nat.find_spec through
    rw [← hops_update_of_forall_ne (v := some b) fun k before => Nat.find_min through before]
      at first
    have turned := hops_rotate cycle first
    unfold hops at turned
    rw [Function.update_self, Option.bind_some, same] at turned
    exact away n turned
  · rw [hops_update_of_forall_ne fun m _ reached => through ⟨m, reached⟩] at cycle
    exact acyclic c n cycle

end Acyclic

/-! ### Coming back -/

/-- Fewer than `depth` hops from `a`, the chain comes to an element that was
visited before, or that it has passed itself. -/
def Meets (next : α → Option α) (depth : Nat) (visited : List α) (a : α) : Prop :=
  ∃ j < depth, ∃ b, hops next j a = some b ∧ (b ∈ visited ∨ ∃ i < j, hops next i a = some b)

/-- The chain passes an element twice in fewer than `depth` hops. -/
def Revisits (next : α → Option α) (depth : Nat) (a : α) : Prop :=
  ∃ j < depth, ∃ i < j, ∃ b, hops next j a = some b ∧ hops next i a = some b

section Meets

variable {next : α → Option α} {depth : Nat} {visited : List α} {a : α}

theorem meets_nil_iff : Meets next depth [] a ↔ Revisits next depth a := by
  unfold Meets Revisits
  constructor
  · rintro ⟨j, near, b, reached, listed | ⟨i, before, passed⟩⟩
    · cases listed
    · exact ⟨j, near, i, before, b, reached, passed⟩
  · rintro ⟨j, near, i, before, b, reached, passed⟩
    exact ⟨j, near, b, reached, .inr ⟨i, before, passed⟩⟩

theorem not_meets_zero : ¬ Meets next 0 visited a := by
  rintro ⟨j, near, _⟩
  exact Nat.not_lt_zero j near

/-- Meeting something is meeting it at once or after a hop. -/
theorem meets_succ_iff :
    Meets next (depth + 1) visited a ↔
      a ∈ visited ∨ ∃ c, next a = some c ∧ Meets next depth (visited ++ [a]) c := by
  have hop {c : α} (step : next a = some c) (n : Nat) :
      hops next (n + 1) a = hops next n c := by
    rw [hops, step]
    rfl
  constructor
  · rintro ⟨j, near, b, reached, known⟩
    cases j with
    | zero =>
      cases reached
      rcases known with listed | ⟨i, before, _⟩
      · exact .inl listed
      · exact absurd before (Nat.not_lt_zero i)
    | succ j =>
      cases step : next a with
      | none => simp [hops, step] at reached
      | some c =>
        rw [hop step] at reached
        refine .inr ⟨c, rfl, j, Nat.lt_of_succ_lt_succ near, b, reached, ?_⟩
        rcases known with listed | ⟨i, before, passed⟩
        · exact .inl (List.mem_append_left _ listed)
        · cases i with
          | zero =>
            cases passed
            exact .inl (List.mem_append_right _ List.mem_cons_self)
          | succ i =>
            rw [hop step] at passed
            exact .inr ⟨i, Nat.lt_of_succ_lt_succ before, passed⟩
  · rintro (listed | ⟨c, step, j, near, b, reached, known⟩)
    · exact ⟨0, Nat.succ_pos _, a, rfl, .inl listed⟩
    · refine ⟨j + 1, Nat.succ_lt_succ near, b, (hop step j).trans reached, ?_⟩
      rcases known with listed | ⟨i, before, passed⟩
      · rcases List.mem_append.mp listed with listed | isStart
        · exact .inl listed
        · obtain rfl := List.mem_singleton.mp isStart
          exact .inr ⟨0, Nat.succ_pos j, rfl⟩
      · exact .inr ⟨i + 1, Nat.succ_lt_succ before, (hop step i).trans passed⟩

end Meets

/-! ### The first value along a chain -/

/-- The value `b`, held by `owner`, is the first one along the chain from `a`
and lies `n` hops away. -/
inductive Found (next : α → Option α) (value : α → Option β) : Nat → α → α → β → Prop where
  | here {a : α} {b : β} : value a = some b → Found next value 0 a a b
  | there {n : Nat} {a c owner : α} {b : β} : value a = none → next a = some c →
      Found next value n c owner b → Found next value (n + 1) a owner b

section Found

variable {next : α → Option α} {value : α → Option β} {n : Nat} {a owner : α} {b : β}

/-- There is one first value. -/
theorem Found.unique {n' : Nat} {owner' : α} {b' : β} (found : Found next value n a owner b)
    (other : Found next value n' a owner' b') : n = n' ∧ owner = owner' ∧ b = b' := by
  induction found generalizing n' with
  | here held =>
    cases other with
    | here held' => simp_all
    | there missing _ _ => simp_all
  | there missing step _ ih =>
    cases other with
    | here held => simp_all
    | there _ step' rest =>
      rw [step] at step'
      cases step'
      obtain ⟨rfl, sameOwner, sameValue⟩ := ih rest
      exact ⟨rfl, sameOwner, sameValue⟩

@[simp] theorem found_zero_iff : Found next value 0 a owner b ↔ owner = a ∧ value a = some b := by
  constructor
  · intro found
    cases found with
    | here held => exact ⟨rfl, held⟩
  · rintro ⟨rfl, held⟩
    exact .here held

theorem found_succ_iff :
    Found next value (n + 1) a owner b ↔
      value a = none ∧ ∃ c, next a = some c ∧ Found next value n c owner b := by
  constructor
  · intro found
    cases found with
    | there missing step rest => exact ⟨missing, _, step, rest⟩
  · rintro ⟨missing, c, step, rest⟩
    exact .there missing step rest

end Found

end Host.Chain
