import LedgerLens.Host.Program

/-!
Programs that record what they do. A property of a history says what holds at
each of its events, given the events before it; it is checked as the history
grows, whether the program returns or fails in the end.
-/

namespace Host

/-! ### Histories -/

variable {ι : Type} {P Q : List ι → ι → Prop} {log : List ι} {e : ι}

/-- `P` holds at each event, given those before it. -/
def AtEach (P : List ι → ι → Prop) (log : List ι) : Prop :=
  ∀ before e after, log = before ++ e :: after → P before e

theorem AtEach.nil : AtEach P [] := by
  intro before e after split
  simp at split

theorem atEach_snoc : AtEach P (log ++ [e]) ↔ AtEach P log ∧ P log e := by
  constructor
  · intro holds
    refine ⟨fun before e' after split => ?_, holds log e [] rfl⟩
    exact holds before e' (after ++ [e]) (by simp [split])
  · rintro ⟨earlier, last⟩ before e' after split
    rcases List.eq_nil_or_concat after with rfl | ⟨after', e'', rfl⟩
    · obtain ⟨rfl, same⟩ := List.append_inj' split rfl
      cases same
      exact last
    · have split' : log ++ [e] = (before ++ e' :: after') ++ [e''] := by simpa using split
      obtain ⟨rfl, _⟩ := List.append_inj' split' rfl
      exact earlier before e' after' rfl

theorem atEach_iff_take :
    AtEach P log ↔ ∀ i, (inside : i < log.length) → P (log.take i) log[i] := by
  constructor
  · intro holds i inside
    exact holds (log.take i) log[i] (log.drop (i + 1)) (by simp)
  · rintro holds before e after rfl
    simpa using holds before.length (by simp)

instance AtEach.decidable [∀ before e, Decidable (P before e)] (log : List ι) :
    Decidable (AtEach P log) :=
  decidable_of_iff _ atEach_iff_take.symm

/-- An event of a kind with none of another kind after it. -/
def Pending (opens closes : ι → Prop) (log : List ι) : Prop :=
  ∃ before e after, log = before ++ e :: after ∧ opens e ∧ ∀ later ∈ after, ¬ closes later

theorem not_pending_nil {opens closes : ι → Prop} : ¬ Pending opens closes [] := by
  rintro ⟨before, e, after, split, _⟩
  simp at split

theorem pending_snoc {opens closes : ι → Prop} :
    Pending opens closes (log ++ [e]) ↔ opens e ∨ Pending opens closes log ∧ ¬ closes e := by
  constructor
  · rintro ⟨before, e', after, split, opened, none⟩
    rcases List.eq_nil_or_concat after with rfl | ⟨after', e'', rfl⟩
    · obtain ⟨_, same⟩ := List.append_inj' split rfl
      cases same
      exact .inl opened
    · have split' : log ++ [e] = (before ++ e' :: after') ++ [e''] := by simpa using split
      obtain ⟨rfl, same⟩ := List.append_inj' split' rfl
      cases same
      exact .inr ⟨⟨before, e', after', rfl, opened, fun later listed =>
        none later (by simp [listed])⟩, none e (by simp)⟩
  · rintro (opened | ⟨⟨before, e', after, rfl, opened, none⟩, open'⟩)
    · exact ⟨log, e, [], rfl, opened, nofun⟩
    · refine ⟨before, e', after ++ [e], by simp, opened, fun later listed => ?_⟩
      rcases List.mem_append.mp listed with listed | listed
      · exact none later listed
      · obtain rfl := List.mem_singleton.mp listed
        exact open'

/-! ### Both ways to end -/

namespace Prog

variable {ρ ε σ α β : Type} {r : ρ} {s : σ}

/-- What `m` returns meets `Q`, and the state it fails in meets `E`. -/
def ends (m : Prog ρ ε σ α) (Q : α → σ → Prop) (E : σ → Prop) (r : ρ) (s : σ) : Prop :=
  match m r s with
  | .ok a t => Q a t
  | .err _ t => E t
  | .trap => True

variable {Q : α → σ → Prop} {E : σ → Prop}

theorem ends_mono {m : Prog ρ ε σ α} {Q' : α → σ → Prop} (holds : ends m Q' E r s)
    (weaker : ∀ a t, Q' a t → Q a t) : ends m Q E r s := by
  unfold ends at holds ⊢
  cases run : m r s with
  | ok a t =>
    rw [run] at holds
    exact weaker a t holds
  | err e t =>
    rw [run] at holds
    exact holds
  | trap => trivial

@[simp] theorem ends_pure (a : α) : ends (pure a : Prog ρ ε σ α) Q E r s ↔ Q a s := Iff.rfl

@[simp] theorem ends_throw (e : ε) : ends (throw e : Prog ρ ε σ α) Q E r s ↔ E s := Iff.rfl

@[simp] theorem ends_asks (f : ρ → α) : ends (asks f : Prog ρ ε σ α) Q E r s ↔ Q (f r) s := Iff.rfl

@[simp] theorem ends_update (f : σ → σ) {Q : Unit → σ → Prop} :
    ends (update f : Prog ρ ε σ Unit) Q E r s ↔ Q () (f s) := Iff.rfl

@[simp] theorem ends_bind (m : Prog ρ ε σ β) (f : β → Prog ρ ε σ α) :
    ends (m >>= f) Q E r s ↔ ends m (fun b t => ends (f b) Q E r t) E r s := by
  unfold ends
  cases run : m r s with
  | ok b t => rw [run_bind_of_ok run]
  | err e t => rw [run_bind_of_err run]
  | trap => rw [run_bind_of_trap run]

@[simp] theorem ends_require (c : Bool) (e : ε) {Q : Unit → σ → Prop} :
    ends (require c e : Prog ρ ε σ Unit) Q E r s ↔ if c = true then Q () s else E s := by
  cases c <;> rfl

@[simp] theorem ends_ite (c : Prop) [Decidable c] (m n : Prog ρ ε σ α) :
    ends (if c then m else n) Q E r s ↔ if c then ends m Q E r s else ends n Q E r s := by
  split <;> rfl

/-- The state a run ends in, unless it traps. -/
def Ended (m : Prog ρ ε σ α) (r : ρ) (s t : σ) : Prop :=
  (∃ a, m r s = .ok a t) ∨ ∃ e, m r s = .err e t

/-- On a concrete run this is decided by running it. -/
theorem exists_ended {m : Prog ρ ε σ α} {P : σ → Prop} [DecidablePred P]
    (found : (match m r s with
      | .ok _ t | .err _ t => decide (P t)
      | .trap => false) = true) : ∃ t, Ended m r s t ∧ P t := by
  cases run : m r s with
  | ok a t =>
    rw [run] at found
    exact ⟨t, .inl ⟨a, run⟩, of_decide_eq_true found⟩
  | err e t =>
    rw [run] at found
    exact ⟨t, .inr ⟨e, run⟩, of_decide_eq_true found⟩
  | trap =>
    rw [run] at found
    cases found

theorem ends.ended {m : Prog ρ ε σ α} {t : σ} (holds : ends m (fun _ => E) E r s)
    (ended : Ended m r s t) : E t := by
  unfold ends at holds
  rcases ended with ⟨a, run⟩ | ⟨e, run⟩
  · rwa [run] at holds
  · rwa [run] at holds

end Prog

end Host
