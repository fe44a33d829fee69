import LedgerLens.Host.Wp

/-!
Invariants that speak of the environment. `Preserves I m` says that a program
which returns takes `I` from the state before to the state after; it is found by
instance search as `Keeps` is. The steps beside the invariant need no attention:
they are those that keep a relation along which it is carried.
-/

namespace Host.Prog

variable {ρ ε σ α β : Type}

/-- What holds in the environment before `m` holds when it has returned. -/
class Preserves (I : ρ → σ → Prop) (m : Prog ρ ε σ α) : Prop where
  ok : ∀ {r s a t}, m r s = .ok a t → I r s → I r t

/-- `I` is carried along `R`. -/
class CarriedBy (I : ρ → σ → Prop) (R : outParam (σ → σ → Prop)) : Prop where
  forth : ∀ {r s t}, R s t → I r s → I r t

section Preserves

variable {I : ρ → σ → Prop} {R : σ → σ → Prop}

theorem Preserves.of_wlp {m : Prog ρ ε σ α}
    (holds : ∀ r s, I r s → wlp m (fun _ t => I r t) r s) : Preserves I m :=
  ⟨fun ran held => holds _ _ held _ _ ran⟩

/-- A step beside the invariant, in the middle of a program. -/
theorem wlp_carry [carried : CarriedBy I R] {m : Prog ρ ε σ α} {f : α → Prog ρ ε σ β}
    {Q : β → σ → Prop} {r : ρ} {s : σ} [keeps : Keeps R m] (held : I r s)
    (rest : ∀ a t, I r t → wlp (f a) Q r t) : wlp (m >>= f) Q r s :=
  wlp_seq (wlp_of_keeps (R := R)) fun a t kept => rest a t (carried.forth kept held)

/-- A step whose run is known. -/
theorem wlp_bind_of_ok {m : Prog ρ ε σ α} {f : α → Prog ρ ε σ β} {Q : β → σ → Prop} {r : ρ}
    {s t : σ} {a : α} (ran : m r s = .ok a t) : wlp (m >>= f) Q r s ↔ wlp (f a) Q r t := by
  unfold wlp
  rw [run_bind_of_ok ran]

/-- A loop all of whose rounds return. -/
theorem wp_fold {f : α → β → Prog ρ ε σ α} {I : List β → α → σ → Prop} {r : ρ}
    (round : ∀ x rest a t, I (x :: rest) a t → wp (f a x) (I rest) r t) :
    ∀ (xs : List β) (a : α) (s : σ), I xs a s → wp (fold f a xs) (I []) r s
  | [], a, _, start => (wp_pure a).mpr start
  | x :: rest, a, s, start => by
      rw [fold, wp_bind]
      exact wp_mono (fun b t held => wp_fold round rest b t held) (round x rest a s start)

instance (priority := low) Preserves.ofKeeps [carried : CarriedBy I R] (m : Prog ρ ε σ α)
    [keeps : Keeps R m] : Preserves I m :=
  ⟨fun ran => carried.forth (keeps.ok ran)⟩

instance Preserves.instBind (m : Prog ρ ε σ α) (f : α → Prog ρ ε σ β) [first : Preserves I m]
    [rest : ∀ a, Preserves I (f a)] : Preserves I (m >>= f) where
  ok ran held := by
    obtain ⟨a, t, head, tail⟩ := bind_ok.mp ran
    exact (rest a).ok tail (first.ok head held)

instance Preserves.instIte (c : Prop) [Decidable c] (m n : Prog ρ ε σ α)
    [yes : Preserves I m] [no : Preserves I n] : Preserves I (if c then m else n) := by
  split
  · exact yes
  · exact no

/-- A handler runs in the state the error left. -/
instance Preserves.instHandle [carried : CarriedBy I R] (m : Prog ρ ε σ α)
    (onError : ε → Prog ρ ε σ β) (onOk : α → Prog ρ ε σ β) [first : Keeps R m]
    [no : ∀ e, Preserves I (onError e)] [yes : ∀ a, Preserves I (onOk a)] :
    Preserves I (handle m onError onOk) where
  ok ran held := by
    rcases handle_ok.mp ran with ⟨a, t, run, rest⟩ | ⟨e, t, run, rest⟩
    · exact (yes a).ok rest (carried.forth (first.ok run) held)
    · exact (no e).ok rest (carried.forth (first.err run) held)

instance Preserves.instFold (f : β → α → Prog ρ ε σ β) (b : β) (xs : List α)
    [round : ∀ b x, Preserves I (f b x)] : Preserves I (fold f b xs) := by
  refine .of_wlp fun r s held => ?_
  exact wlp_fold (I := fun _ _ t => I r t)
    (fun x _ b _ held _ _ ran => (round b x).ok ran held) xs b s held

end Preserves

end Host.Prog
