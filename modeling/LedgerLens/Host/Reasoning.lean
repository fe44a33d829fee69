import LedgerLens.Host.Program

/-!
Compositional reasoning about programs.

These classes carry the arguments that every large program needs, so that they
are found by instance search instead of being redone:

* `Keeps R m`: whatever `m` does, the state it ends in is `R`-related to the
  state it started from. With `R` a preorder this composes (frame conditions).
* `Respects E m`: `m` cannot tell `E`-related states apart, and ends in
  `E`-related states (independence of hidden parts of the state).
* `Guarded P m`: `m` only returns when `P` held before it ran (access control).
* `EndsIn R last m`: `m` is `last` after steps that keep `R`.
-/

namespace Host.Prog

variable {ρ ε σ α β γ : Type}

/-! ### Frame conditions -/

/-- Every way `m` can end leaves the state `R`-related to the one before. -/
class Keeps (R : σ → σ → Prop) (m : Prog ρ ε σ α) : Prop where
  ok : ∀ {r s a t}, m r s = .ok a t → R s t
  err : ∀ {r s e t}, m r s = .err e t → R s t

section Keeps

variable {R : σ → σ → Prop}

instance Keeps.instThrow [Std.Refl R] (e : ε) : Keeps R (throw e : Prog ρ ε σ α) where
  ok h := by simp at h
  err h := by
    cases h
    exact Std.Refl.refl _

instance Keeps.instTrap : Keeps R (trap : Prog ρ ε σ α) where
  ok h := by simp at h
  err h := by simp at h

instance Keeps.instPure [Std.Refl R] (a : α) : Keeps R (pure a : Prog ρ ε σ α) where
  ok h := by
    cases h
    exact Std.Refl.refl _
  err h := by simp at h

instance Keeps.instReads [Std.Refl R] (f : σ → α) : Keeps R (reads f : Prog ρ ε σ α) where
  ok h := by
    cases h
    exact Std.Refl.refl _
  err h := by simp at h

instance Keeps.instAsks [Std.Refl R] (f : ρ → α) : Keeps R (asks f : Prog ρ ε σ α) where
  ok h := by
    cases h
    exact Std.Refl.refl _
  err h := by simp at h

theorem Keeps.of_update {f : σ → σ} (step : ∀ s, R s (f s)) :
    Keeps R (update f : Prog ρ ε σ Unit) where
  ok h := by
    cases h
    exact step _
  err h := by simp at h

instance Keeps.instBind [IsTrans σ R] (m : Prog ρ ε σ α) (f : α → Prog ρ ε σ β)
    [first : Keeps R m] [rest : ∀ a, Keeps R (f a)] : Keeps R (m >>= f) where
  ok {r s b t} h := by
    obtain ⟨a, u, head, tail⟩ := bind_ok.mp h
    exact IsTrans.trans _ _ _ (first.ok head) ((rest a).ok tail)
  err {r s e t} h := by
    rw [run_bind] at h
    split at h
    · rename_i a u head
      exact IsTrans.trans _ _ _ (first.ok head) ((rest a).err h)
    · rename_i e' u head
      cases h
      exact first.err head
    · cases h

instance Keeps.instIte (c : Prop) [Decidable c] (m n : Prog ρ ε σ α)
    [yes : Keeps R m] [no : Keeps R n] : Keeps R (if c then m else n) := by
  split
  · exact yes
  · exact no

instance Keeps.instElim (o : Option β) (n : Prog ρ ε σ α) (f : β → Prog ρ ε σ α)
    [no : Keeps R n] [yes : ∀ b, Keeps R (f b)] : Keeps R (o.elim n f) := by
  cases o with
  | none => exact no
  | some b => exact yes b

instance Keeps.instRequire [Std.Refl R] (c : Bool) (e : ε) :
    Keeps R (require c e : Prog ρ ε σ Unit) := by
  unfold require
  infer_instance

instance Keeps.instWhenever [Std.Refl R] (c : Bool) (m : Prog ρ ε σ Unit) [Keeps R m] :
    Keeps R (whenever c m) := by
  unfold whenever
  infer_instance

instance Keeps.instIfSome [Std.Refl R] (o : Option α) (f : α → Prog ρ ε σ Unit)
    [∀ a, Keeps R (f a)] : Keeps R (ifSome o f) := by
  unfold ifSome
  infer_instance

instance Keeps.instOkOr [Std.Refl R] (o : Option α) (e : ε) :
    Keeps R (okOr o e : Prog ρ ε σ α) := by
  unfold okOr
  infer_instance

instance Keeps.instUnwrap [Std.Refl R] (o : Option α) : Keeps R (unwrap o : Prog ρ ε σ α) := by
  unfold unwrap
  infer_instance

instance Keeps.instChecked [Std.Refl R] (bound n : Nat) :
    Keeps R (checked bound n : Prog ρ ε σ Nat) := by
  unfold checked
  infer_instance

instance Keeps.instAttempt (m : Prog ρ ε σ α) [inner : Keeps R m] : Keeps R (attempt m) where
  ok h := by
    rcases attempt_ok.mp h with ⟨a, run, _⟩ | ⟨e, run, _⟩
    · exact inner.ok run
    · exact inner.err run
  err {r s e t} h := by
    unfold attempt at h
    cases run : m r s <;> simp [run] at h

instance Keeps.instHandle [IsTrans σ R] (m : Prog ρ ε σ α) (onError : ε → Prog ρ ε σ β)
    (onOk : α → Prog ρ ε σ β) [first : Keeps R m] [no : ∀ e, Keeps R (onError e)]
    [yes : ∀ a, Keeps R (onOk a)] : Keeps R (handle m onError onOk) where
  ok h := by
    rcases handle_ok.mp h with ⟨a, u, run, rest⟩ | ⟨e, u, run, rest⟩
    · exact IsTrans.trans _ _ _ (first.ok run) ((yes a).ok rest)
    · exact IsTrans.trans _ _ _ (first.err run) ((no e).ok rest)
  err {r s e t} h := by
    unfold handle at h
    cases run : m r s with
    | ok a u => exact IsTrans.trans _ _ _ (first.ok run) ((yes a).err (by simpa [run] using h))
    | err e u => exact IsTrans.trans _ _ _ (first.err run) ((no e).err (by simpa [run] using h))
    | trap => simp [run] at h

instance Keeps.instEach [Std.Refl R] [IsTrans σ R] (xs : List α) (f : α → Prog ρ ε σ Unit)
    [∀ a, Keeps R (f a)] : Keeps R (each xs f) := by
  induction xs with
  | nil =>
    unfold each
    infer_instance
  | cons x rest ih =>
    unfold each
    infer_instance

/-- A loop keeps what each of its rounds keeps. -/
theorem Keeps.fold_of_mem [Std.Refl R] [IsTrans σ R] {f : β → α → Prog ρ ε σ β} {xs : List α}
    (round : ∀ b, ∀ a ∈ xs, Keeps R (f b a)) (b : β) : Keeps R (fold f b xs) := by
  induction xs generalizing b with
  | nil =>
    unfold fold
    infer_instance
  | cons x rest ih =>
    have first : Keeps R (f b x) := round b x List.mem_cons_self
    have others (b : β) : Keeps R (fold f b rest) :=
      ih (fun b a listed => round b a (List.mem_cons_of_mem x listed)) b
    unfold fold
    infer_instance

instance Keeps.instFold [Std.Refl R] [IsTrans σ R] (f : β → α → Prog ρ ε σ β) (b : β)
    (xs : List α) [round : ∀ b a, Keeps R (f b a)] : Keeps R (fold f b xs) :=
  Keeps.fold_of_mem (fun b a _ => round b a) b

end Keeps

/-! ### Independence -/

/-- Two outcomes with the same value (or error) and `E`-related states. -/
inductive SameOutcome (E : σ → σ → Prop) : Outcome ε σ α → Outcome ε σ α → Prop where
  | ok {a : α} {s t : σ} : E s t → SameOutcome E (.ok a s) (.ok a t)
  | err {e : ε} {s t : σ} : E s t → SameOutcome E (.err e s) (.err e t)
  | trap : SameOutcome E .trap .trap

/-- `m` does the same from any two `E`-related states. -/
class Respects (E : σ → σ → Prop) (m : Prog ρ ε σ α) : Prop where
  run : ∀ {r s t}, E s t → SameOutcome E (m r s) (m r t)

section Respects

variable {E : σ → σ → Prop}

/-- A return value seen from one state is returned from every related state. -/
theorem Respects.ok_of_ok {m : Prog ρ ε σ α} [respects : Respects E m] {r : ρ} {s t s' : σ} {a : α}
    (related : E s t) (ran : m r s = .ok a s') : ∃ t', m r t = .ok a t' ∧ E s' t' := by
  have same := respects.run (r := r) related
  rw [ran] at same
  generalize m r t = right at same ⊢
  cases same with
  | ok next => exact ⟨_, rfl, next⟩

instance Respects.instPure (a : α) : Respects E (pure a : Prog ρ ε σ α) :=
  ⟨fun related => .ok related⟩

instance Respects.instThrow (e : ε) : Respects E (throw e : Prog ρ ε σ α) :=
  ⟨fun related => .err related⟩

instance Respects.instTrap : Respects E (trap : Prog ρ ε σ α) := ⟨fun _ => .trap⟩

instance Respects.instAsks (f : ρ → α) : Respects E (asks f : Prog ρ ε σ α) :=
  ⟨fun related => .ok related⟩

theorem Respects.of_reads {f : σ → α} (blind : ∀ s t, E s t → f s = f t) :
    Respects E (reads f : Prog ρ ε σ α) where
  run {r s t} related := by
    rw [run_reads, run_reads, blind s t related]
    exact .ok related

theorem Respects.of_update {f : σ → σ} (monotone : ∀ s t, E s t → E (f s) (f t)) :
    Respects E (update f : Prog ρ ε σ Unit) :=
  ⟨fun related => .ok (monotone _ _ related)⟩

instance Respects.instBind (m : Prog ρ ε σ α) (f : α → Prog ρ ε σ β)
    [first : Respects E m] [rest : ∀ a, Respects E (f a)] : Respects E (m >>= f) where
  run {r s t} related := by
    have same := first.run (r := r) related
    rw [run_bind, run_bind]
    generalize m r s = left at same ⊢
    generalize m r t = right at same ⊢
    cases same with
    | ok next => exact (rest _).run next
    | err next => exact .err next
    | trap => exact .trap

instance Respects.instIte (c : Prop) [Decidable c] (m n : Prog ρ ε σ α)
    [yes : Respects E m] [no : Respects E n] : Respects E (if c then m else n) := by
  split
  · exact yes
  · exact no

instance Respects.instElim (o : Option β) (n : Prog ρ ε σ α) (f : β → Prog ρ ε σ α)
    [no : Respects E n] [yes : ∀ b, Respects E (f b)] : Respects E (o.elim n f) := by
  cases o with
  | none => exact no
  | some b => exact yes b

instance Respects.instRequire (c : Bool) (e : ε) : Respects E (require c e : Prog ρ ε σ Unit) := by
  unfold require
  infer_instance

instance Respects.instUnwrap (o : Option α) : Respects E (unwrap o : Prog ρ ε σ α) := by
  unfold unwrap
  infer_instance

instance Respects.instChecked (bound n : Nat) : Respects E (checked bound n : Prog ρ ε σ Nat) := by
  unfold checked
  infer_instance

instance Respects.instEach (xs : List α) (f : α → Prog ρ ε σ Unit)
    [∀ a, Respects E (f a)] : Respects E (each xs f) := by
  induction xs with
  | nil =>
    unfold each
    infer_instance
  | cons x rest ih =>
    unfold each
    infer_instance

instance Respects.instFold (f : β → α → Prog ρ ε σ β) (b : β) (xs : List α)
    [∀ b a, Respects E (f b a)] : Respects E (fold f b xs) := by
  induction xs generalizing b with
  | nil =>
    unfold fold
    infer_instance
  | cons x rest ih =>
    unfold fold
    infer_instance

end Respects

/-! ### Guards -/

/-- `m` returns only if `P` holds of the environment and state it starts from. -/
class Guarded (P : ρ → σ → Prop) (m : Prog ρ ε σ α) : Prop where
  holds : ∀ {r s a t}, m r s = .ok a t → P r s

/-- `R` reflects `P`: what holds after an `R`-step held before it. -/
class Reflects (P : ρ → σ → Prop) (R : outParam (σ → σ → Prop)) : Prop where
  back : ∀ {r s t}, R s t → P r t → P r s

section Guarded

variable {P : ρ → σ → Prop} {R : σ → σ → Prop}

/-- A guard at the head guards the whole sequence. -/
instance Guarded.instHead (m : Prog ρ ε σ α) (f : α → Prog ρ ε σ β) [first : Guarded P m] :
    Guarded P (m >>= f) where
  holds h := by
    obtain ⟨a, u, head, _⟩ := bind_ok.mp h
    exact first.holds head

/-- A guard further on guards the whole sequence when the steps before it keep
what the guard looks at. -/
instance Guarded.instTail [reflects : Reflects P R] (m : Prog ρ ε σ α) (f : α → Prog ρ ε σ β)
    [first : Keeps R m] [rest : ∀ a, Guarded P (f a)] : Guarded P (m >>= f) where
  holds h := by
    obtain ⟨a, u, head, tail⟩ := bind_ok.mp h
    exact reflects.back (first.ok head) ((rest a).holds tail)

end Guarded

/-! ### Last steps -/

/-- Whatever `m` returns is returned by `last`, from an `R`-related state. -/
class EndsIn (R : σ → σ → Prop) (last m : Prog ρ ε σ α) : Prop where
  ended : ∀ {r s a t}, m r s = .ok a t → ∃ u, R s u ∧ last r u = .ok a t

section EndsIn

variable {R : σ → σ → Prop}

instance EndsIn.instLast [Std.Refl R] (m : Prog ρ ε σ α) : EndsIn R m m :=
  ⟨fun ran => ⟨_, Std.Refl.refl _, ran⟩⟩

instance (priority := low) EndsIn.instBind [IsTrans σ R] (last : Prog ρ ε σ β) (m : Prog ρ ε σ α)
    (f : α → Prog ρ ε σ β) [first : Keeps R m] [rest : ∀ a, EndsIn R last (f a)] :
    EndsIn R last (m >>= f) where
  ended ran := by
    obtain ⟨a, u, head, tail⟩ := bind_ok.mp ran
    obtain ⟨v, kept, ended⟩ := (rest a).ended tail
    exact ⟨v, IsTrans.trans _ _ _ (first.ok head) kept, ended⟩

end EndsIn

end Host.Prog
