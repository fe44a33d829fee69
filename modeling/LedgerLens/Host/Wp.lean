import LedgerLens.Host.Ledger

/-!
Weakest preconditions. `wp m Q r s` says that `m`, run in `r` from `s`, returns
with a value and in a state that satisfy `Q`; a program that fails or traps has
no postcondition. The rules below rewrite `wp` along the structure of a
program, so that a characterisation of when it returns is found by `simp`.

`wlp m Q r s` is the liberal form: if `m` returns, then in `Q`. It describes what
a program leaves behind without saying when it returns.
-/

namespace Host.Prog

variable {ρ ε σ α β : Type}

def wp (m : Prog ρ ε σ α) (Q : α → σ → Prop) (r : ρ) (s : σ) : Prop :=
  ∃ a t, m r s = .ok a t ∧ Q a t

section Rules

variable {Q : α → σ → Prop} {r : ρ} {s t : σ}

theorem ok_iff_wp {m : Prog ρ ε σ α} {a : α} :
    m r s = .ok a t ↔ wp m (fun b u => b = a ∧ u = t) r s := by
  constructor
  · exact fun ran => ⟨a, t, ran, rfl, rfl⟩
  · rintro ⟨_, _, ran, rfl, rfl⟩
    exact ran

theorem isOk_iff_wp {m : Prog ρ ε σ α} : (m r s).isOk = true ↔ wp m (fun _ _ => True) r s := by
  constructor
  · intro ran
    cases outcome : m r s with
    | ok a t => exact ⟨a, t, outcome, trivial⟩
    | err e t => simp [outcome, Outcome.isOk] at ran
    | trap => simp [outcome, Outcome.isOk] at ran
  · rintro ⟨a, t, returned, _⟩
    rw [returned]
    rfl

theorem wp_mono {m : Prog ρ ε σ α} {P : α → σ → Prop} (weaker : ∀ a t, P a t → Q a t)
    (holds : wp m P r s) : wp m Q r s := by
  obtain ⟨a, t, ran, held⟩ := holds
  exact ⟨a, t, ran, weaker a t held⟩

@[simp] theorem wp_pure (a : α) : wp (pure a : Prog ρ ε σ α) Q r s ↔ Q a s := by
  simp [wp]

@[simp] theorem wp_throw (e : ε) : wp (throw e : Prog ρ ε σ α) Q r s ↔ False := by
  simp [wp]

@[simp] theorem wp_trap : wp (trap : Prog ρ ε σ α) Q r s ↔ False := by
  simp [wp]

@[simp] theorem wp_asks (f : ρ → α) : wp (asks f : Prog ρ ε σ α) Q r s ↔ Q (f r) s := by
  simp [wp]

@[simp] theorem wp_reads (f : σ → α) : wp (reads f : Prog ρ ε σ α) Q r s ↔ Q (f s) s := by
  simp [wp]

@[simp] theorem wp_update (f : σ → σ) {Q : Unit → σ → Prop} :
    wp (update f : Prog ρ ε σ Unit) Q r s ↔ Q () (f s) := by
  constructor
  · rintro ⟨⟨⟩, _, ⟨⟩, held⟩
    exact held
  · exact fun held => ⟨(), f s, rfl, held⟩

@[simp] theorem wp_bind (m : Prog ρ ε σ β) (f : β → Prog ρ ε σ α) :
    wp (m >>= f) Q r s ↔ wp m (fun b t => wp (f b) Q r t) r s := by
  simp only [wp, bind_ok]
  constructor
  · rintro ⟨a, t, ⟨b, u, head, tail⟩, held⟩
    exact ⟨b, u, head, a, t, tail, held⟩
  · rintro ⟨b, u, head, a, t, tail, held⟩
    exact ⟨a, t, ⟨b, u, head, tail⟩, held⟩

@[simp] theorem wp_map (f : β → α) (m : Prog ρ ε σ β) :
    wp (f <$> m) Q r s ↔ wp m (fun b t => Q (f b) t) r s := by
  rw [map_eq_pure_bind, wp_bind]
  simp only [wp_pure]

@[simp] theorem wp_require (c : Bool) (e : ε) {Q : Unit → σ → Prop} :
    wp (require c e : Prog ρ ε σ Unit) Q r s ↔ c = true ∧ Q () s := by
  cases c <;> simp [require]

@[simp] theorem wp_whenever (c : Bool) (m : Prog ρ ε σ Unit) {Q : Unit → σ → Prop} :
    wp (whenever c m) Q r s ↔ if c = true then wp m Q r s else Q () s := by
  cases c <;> simp [whenever]

@[simp] theorem wp_ite (c : Prop) [Decidable c] (m n : Prog ρ ε σ α) :
    wp (if c then m else n) Q r s ↔ if c then wp m Q r s else wp n Q r s := by
  split <;> rfl

@[simp] theorem wp_okOr (o : Option α) (e : ε) :
    wp (okOr o e : Prog ρ ε σ α) Q r s ↔ ∃ a, o = some a ∧ Q a s := by
  cases o <;> simp [okOr]

@[simp] theorem wp_unwrap (o : Option α) :
    wp (unwrap o : Prog ρ ε σ α) Q r s ↔ ∃ a, o = some a ∧ Q a s := by
  cases o <;> simp [unwrap]

@[simp] theorem wp_each_require (xs : List β) (c : β → Bool) (e : ε) {Q : Unit → σ → Prop} :
    wp (each xs fun x => require (c x) e : Prog ρ ε σ Unit) Q r s ↔
      (∀ x ∈ xs, c x = true) ∧ Q () s := by
  induction xs with
  | nil => simp [each]
  | cons x rest ih => simp [each, ih, and_assoc]

/-- A loop whose rounds all return returns. -/
theorem wp_each_of_total {f : β → Prog ρ ε σ Unit}
    (round : ∀ x t, wp (f x) (fun _ _ => True) r t) :
    ∀ (xs : List β) (s : σ), wp (each xs f) (fun _ _ => True) r s
  | [], _ => (wp_pure ()).mpr trivial
  | x :: rest, s =>
    (wp_bind _ _).mpr (wp_mono (fun _ t _ => wp_each_of_total round rest t) (round x s))

end Rules

/-! ### Access to the ledger -/

section Ledger

variable {K : Type} {V : K → Type} {Ev X : Type} {r : Env X} {w : World K V Ev}

@[simp] theorem wp_load (d : Durability) (k : K) {Q : Option (V k) → World K V Ev → Prop} :
    wp (load d k : Prog (Env X) ε _ _) Q r w ↔ Q (w.ledger.entry d k) w :=
  wp_reads _

@[simp] theorem wp_loadOr (d : Durability) (k : K) (default : V k)
    {Q : V k → World K V Ev → Prop} :
    wp (loadOr d k default : Prog (Env X) ε _ _) Q r w ↔ Q ((w.ledger.entry d k).getD default) w :=
  wp_reads _

@[simp] theorem wp_has (d : Durability) (k : K) {Q : Bool → World K V Ev → Prop} :
    wp (has d k : Prog (Env X) ε _ _) Q r w ↔ Q (w.ledger.entry d k).isSome w :=
  wp_reads _

variable {Q : Unit → World K V Ev → Prop}

@[simp] theorem wp_save [DecidableEq K] (d : Durability) (k : K) (v : V k) :
    wp (save d k v : Prog (Env X) ε _ _) Q r w ↔
      Q () { w with ledger := w.ledger.put d k (some v) } :=
  wp_update _

@[simp] theorem wp_erase [DecidableEq K] (d : Durability) (k : K) :
    wp (erase d k : Prog (Env X) ε _ _) Q r w ↔ Q () { w with ledger := w.ledger.put d k none } :=
  wp_update _

@[simp] theorem wp_emit (event : Ev) :
    wp (emit event : Prog (Env X) ε _ _) Q r w ↔ Q () { w with events := w.events ++ [event] } :=
  wp_update _

@[simp] theorem wp_requireAuth (a : Address) :
    wp (requireAuth a : Prog (Env X) ε _ _) Q r w ↔
      (r.signed a = true ∧ a ∉ w.authorized) ∧ Q () { w with authorized := a :: w.authorized } := by
  simp only [wp, requireAuth_ok]
  constructor
  · rintro ⟨_, _, ⟨allowed, rfl⟩, held⟩
    exact ⟨allowed, held⟩
  · rintro ⟨allowed, held⟩
    exact ⟨(), _, ⟨allowed, rfl⟩, held⟩

@[simp] theorem wp_transfer (token holder recipient : Address) (amount : Int) :
    wp (transfer token holder recipient amount : Prog (Env X) ε _ _) Q r w ↔
      (0 ≤ amount ∧ amount ≤ w.balance token holder ∧
        (holder = r.self ∨ r.signed holder = true)) ∧
        Q () (w.moved token holder recipient amount) := by
  simp only [wp, transfer_ok]
  constructor
  · rintro ⟨_, _, ⟨allowed, rfl⟩, held⟩
    exact ⟨allowed, held⟩
  · rintro ⟨allowed, held⟩
    exact ⟨(), _, ⟨allowed, rfl⟩, held⟩

end Ledger

/-! ### Partial correctness -/

def wlp (m : Prog ρ ε σ α) (Q : α → σ → Prop) (r : ρ) (s : σ) : Prop :=
  ∀ a t, m r s = .ok a t → Q a t

section Liberal

variable {Q : α → σ → Prop} {r : ρ} {s : σ}

theorem wlp_mono {m : Prog ρ ε σ α} {P : α → σ → Prop} (holds : wlp m P r s)
    (weaker : ∀ a t, P a t → Q a t) : wlp m Q r s :=
  fun a t ran => weaker a t (holds a t ran)

theorem wlp_and {m : Prog ρ ε σ α} {P : α → σ → Prop} (first : wlp m P r s)
    (second : wlp m Q r s) : wlp m (fun a t => P a t ∧ Q a t) r s :=
  fun a t ran => ⟨first a t ran, second a t ran⟩

/-- What is known of the first program is there for the second. -/
theorem wlp_seq {m : Prog ρ ε σ β} {f : β → Prog ρ ε σ α} {P : β → σ → Prop}
    (first : wlp m P r s) (second : ∀ b t, P b t → wlp (f b) Q r t) : wlp (m >>= f) Q r s := by
  intro a u ran
  obtain ⟨b, t, head, tail⟩ := bind_ok.mp ran
  exact second b t (first b t head) a u tail

theorem wlp_of_keeps {R : σ → σ → Prop} {m : Prog ρ ε σ α} [keeps : Keeps R m] :
    wlp m (fun _ t => R s t) r s :=
  fun _ _ ran => keeps.ok ran

@[simp] theorem wlp_bind (m : Prog ρ ε σ β) (f : β → Prog ρ ε σ α) :
    wlp (m >>= f) Q r s ↔ wlp m (fun b t => wlp (f b) Q r t) r s := by
  constructor
  · intro holds b t head a u tail
    exact holds a u (bind_ok.mpr ⟨b, t, head, tail⟩)
  · exact fun holds => wlp_seq holds fun _ _ tail => tail

@[simp] theorem wlp_map (f : β → α) (m : Prog ρ ε σ β) :
    wlp (f <$> m) Q r s ↔ wlp m (fun b t => Q (f b) t) r s := by
  rw [map_eq_pure_bind, wlp_bind]
  simp [wlp]

@[simp] theorem wlp_pure (a : α) : wlp (pure a : Prog ρ ε σ α) Q r s ↔ Q a s := by
  simp [wlp]

@[simp] theorem wlp_asks (f : ρ → α) : wlp (asks f : Prog ρ ε σ α) Q r s ↔ Q (f r) s := by
  simp [wlp]

@[simp] theorem wlp_reads (f : σ → α) : wlp (reads f : Prog ρ ε σ α) Q r s ↔ Q (f s) s := by
  simp [wlp]

@[simp] theorem wlp_throw (e : ε) : wlp (throw e : Prog ρ ε σ α) Q r s ↔ True := by
  simp [wlp]

@[simp] theorem wlp_ite (c : Prop) [Decidable c] (m n : Prog ρ ε σ α) :
    wlp (if c then m else n) Q r s ↔ if c then wlp m Q r s else wlp n Q r s := by
  split <;> rfl

@[simp] theorem wlp_okOr (o : Option α) (e : ε) :
    wlp (okOr o e : Prog ρ ε σ α) Q r s ↔ ∀ a, o = some a → Q a s := by
  cases o <;> simp [okOr]

@[simp] theorem wlp_checked (bound n : Nat) {Q : Nat → σ → Prop} :
    wlp (checked bound n : Prog ρ ε σ Nat) Q r s ↔ (n < bound → Q n s) := by
  simp [wlp]

theorem wlp_handle {m : Prog ρ ε σ β} {onError : ε → Prog ρ ε σ α} {onOk : β → Prog ρ ε σ α}
    (failing : ∀ e t, m r s = .err e t → wlp (onError e) Q r t)
    (returning : wlp m (fun b t => wlp (onOk b) Q r t) r s) :
    wlp (handle m onError onOk) Q r s := by
  intro a t returned
  unfold handle at returned
  split at returned
  · next b u ran => exact returning b u ran a t returned
  · next e u ran => exact failing e u ran a t returned
  · cases returned

/-- The invariant of a loop speaks of the elements that are still to come. -/
theorem wlp_fold {f : α → β → Prog ρ ε σ α} {I : List β → α → σ → Prop}
    (round : ∀ x rest a t, I (x :: rest) a t → wlp (f a x) (I rest) r t) :
    ∀ (xs : List β) (a : α) (s : σ), I xs a s → wlp (fold f a xs) (I []) r s
  | [], a, _, start => (wlp_pure a).mpr start
  | x :: rest, a, s, start =>
    wlp_seq (round x rest a s start) fun b t held => wlp_fold round rest b t held

variable {Q : Unit → σ → Prop}

theorem wlp_each {f : β → Prog ρ ε σ Unit} {I : List β → σ → Prop}
    (round : ∀ x rest t, I (x :: rest) t → wlp (f x) (fun _ => I rest) r t) :
    ∀ (xs : List β) (s : σ), I xs s → wlp (each xs f) (fun _ => I []) r s
  | [], _, start => (wlp_pure ()).mpr start
  | x :: rest, s, start =>
    wlp_seq (round x rest s start) fun _ t held => wlp_each round rest t held

@[simp] theorem wlp_update (f : σ → σ) : wlp (update f : Prog ρ ε σ Unit) Q r s ↔ Q () (f s) := by
  constructor
  · exact fun holds => holds () (f s) rfl
  · rintro held ⟨⟩ _ ⟨⟩
    exact held

@[simp] theorem wlp_require (c : Bool) (e : ε) :
    wlp (require c e : Prog ρ ε σ Unit) Q r s ↔ (c = true → Q () s) := by
  cases c <;> simp [require]

@[simp] theorem wlp_whenever (c : Bool) (m : Prog ρ ε σ Unit) :
    wlp (whenever c m) Q r s ↔ if c = true then wlp m Q r s else Q () s := by
  cases c <;> simp [whenever]

end Liberal

section LiberalLedger

variable {K : Type} {V : K → Type} {Ev X : Type} {r : Env X} {w : World K V Ev}

@[simp] theorem wlp_load (d : Durability) (k : K) {Q : Option (V k) → World K V Ev → Prop} :
    wlp (load d k : Prog (Env X) ε _ _) Q r w ↔ Q (w.ledger.entry d k) w :=
  wlp_reads _

@[simp] theorem wlp_loadOr (d : Durability) (k : K) (default : V k)
    {Q : V k → World K V Ev → Prop} :
    wlp (loadOr d k default : Prog (Env X) ε _ _) Q r w ↔ Q ((w.ledger.entry d k).getD default) w :=
  wlp_reads _

variable {Q : Unit → World K V Ev → Prop}

@[simp] theorem wlp_save [DecidableEq K] (d : Durability) (k : K) (v : V k) :
    wlp (save d k v : Prog (Env X) ε _ _) Q r w ↔
      Q () { w with ledger := w.ledger.put d k (some v) } :=
  wlp_update _

@[simp] theorem wlp_erase [DecidableEq K] (d : Durability) (k : K) :
    wlp (erase d k : Prog (Env X) ε _ _) Q r w ↔ Q () { w with ledger := w.ledger.put d k none } :=
  wlp_update _

@[simp] theorem wlp_emit (event : Ev) :
    wlp (emit event : Prog (Env X) ε _ _) Q r w ↔ Q () { w with events := w.events ++ [event] } :=
  wlp_update _

end LiberalLedger

end Host.Prog
