import LedgerLens.Host.Wp

/-!
Runs of a contract: transactions one after the other, each a call in an
environment of its own. A transaction that does not return leaves no trace.
-/

namespace Host

variable {K : Type} {V : K → Type} {Ev X ε C α : Type}

/-- What an invocation leaves behind: nothing, or the state its program
returned in. -/
theorem invoke_cases (m : Prog (Env X) ε (World K V Ev) α) (env : Env X) (w : World K V Ev) :
    invoke m env w = w ∨ ∃ a, m env { w with authorized := [] } = .ok a (invoke m env w) := by
  unfold invoke
  cases run : m env { w with authorized := [] } with
  | ok a w' => exact .inr ⟨a, rfl⟩
  | err e w' => exact .inl rfl
  | trap => exact .inl rfl

theorem invoke_of_ok {m : Prog (Env X) ε (World K V Ev) α} {env : Env X} {w w' : World K V Ev}
    {a : α} (ran : m env { w with authorized := [] } = .ok a w') : invoke m env w = w' := by
  unfold invoke
  rw [ran]

/-- An invocation leaves every entry outside the footprint of its program. -/
theorem invoke_entry {T : Type} {tag : Place K → T} {ts : List T}
    {m : Prog (Env X) ε (World K V Ev) α} (keeps : Prog.Keeps (Only tag ts) m) (env : Env X)
    (w : World K V Ev) (d : Durability) {k : K} (outside : tag (.entry k) ∉ ts) :
    (invoke m env w).ledger.entry d k = w.ledger.entry d k := by
  rcases invoke_cases m env w with same | ⟨a, ran⟩
  · rw [same]
  · exact (keeps.ok ran).entry d k outside

/-- A call in the environment it is made in. -/
structure Tx (X C : Type) where
  env : Env X
  call : C

section Runs

variable (exec : C → Prog (Env X) ε (World K V Ev) Unit)

def step (w : World K V Ev) (tx : Tx X C) : World K V Ev := invoke (exec tx.call) tx.env w

def run (w : World K V Ev) (txs : List (Tx X C)) : World K V Ev := txs.foldl (step exec) w

/-- The transaction returns. -/
def Returns (w : World K V Ev) (tx : Tx X C) : Prop :=
  Prog.wp (exec tx.call) (fun _ _ => True) tx.env { w with authorized := [] }

/-- Every transaction of the run meets `P` in the state it is made in. -/
def Along (P : World K V Ev → Tx X C → Prop) : World K V Ev → List (Tx X C) → Prop
  | _, [] => True
  | w, tx :: rest => P w tx ∧ Along P (step exec w tx) rest

/-- What is observed of each transaction of the run, in the state it is made in. -/
def trace {β : Type} (observe : World K V Ev → Tx X C → β) : World K V Ev → List (Tx X C) → List β
  | _, [] => []
  | w, tx :: rest => observe w tx :: trace observe (step exec w tx) rest

variable {exec} {P Q : World K V Ev → Tx X C → Prop} {I : World K V Ev → Prop}
  {w : World K V Ev} {txs : List (Tx X C)}

@[simp] theorem run_nil : run exec w [] = w := rfl

@[simp] theorem run_cons (tx : Tx X C) (rest : List (Tx X C)) :
    run exec w (tx :: rest) = run exec (step exec w tx) rest := rfl

theorem run_append (before after : List (Tx X C)) :
    run exec w (before ++ after) = run exec (run exec w before) after :=
  List.foldl_append

theorem along_append {before after : List (Tx X C)} :
    Along exec P w (before ++ after) ↔
      Along exec P w before ∧ Along exec P (run exec w before) after := by
  induction before generalizing w with
  | nil => simp [Along]
  | cons tx rest ih => simp [Along, ih, and_assoc]

theorem Returns.ok {tx : Tx X C} (returns : Returns exec w tx) :
    exec tx.call tx.env { w with authorized := [] } = .ok () (step exec w tx) := by
  obtain ⟨⟨⟩, w', ran, _⟩ := returns
  rw [step, invoke_of_ok ran]
  exact ran

/-- On concrete transactions this is decided by running them. -/
theorem returns_of_isOk {tx : Tx X C}
    (ran : (exec tx.call tx.env { w with authorized := [] }).isOk = true) : Returns exec w tx := by
  cases outcome : exec tx.call tx.env { w with authorized := [] } with
  | ok a w' => exact ⟨a, w', outcome, trivial⟩
  | err e w' =>
    rw [outcome] at ran
    cases ran
  | trap =>
    rw [outcome] at ran
    cases ran

instance (tx : Tx X C) : Decidable (Returns exec w tx) :=
  if ran : (exec tx.call tx.env { w with authorized := [] }).isOk = true then
    .isTrue (returns_of_isOk ran)
  else
    .isFalse fun returns => ran (by rw [returns.ok]; rfl)

theorem step_of_not_returns {tx : Tx X C} (failed : ¬ Returns exec w tx) : step exec w tx = w := by
  rcases invoke_cases (exec tx.call) tx.env w with same | ⟨a, ran⟩
  · exact same
  · exact absurd ⟨a, _, ran, trivial⟩ failed

instance Along.decidable [∀ w tx, Decidable (P w tx)] : ∀ w txs, Decidable (Along exec P w txs)
  | _, [] => .isTrue trivial
  | w, tx :: rest =>
    have := Along.decidable (step exec w tx) rest
    inferInstanceAs (Decidable (P w tx ∧ Along exec P (step exec w tx) rest))

/-- What every step preserves holds at the end of the run. -/
theorem run_invariant (preserved : ∀ w tx, I w → P w tx → I (step exec w tx)) (start : I w)
    (along : Along exec P w txs) : I (run exec w txs) := by
  induction txs generalizing w with
  | nil => exact start
  | cons tx rest ih => exact ih (preserved w tx start along.1) along.2

/-- What every step preserves, without a condition on the steps. -/
theorem run_induction (preserved : ∀ w tx, I w → I (step exec w tx)) (start : I w) :
    I (run exec w txs) := by
  induction txs generalizing w with
  | nil => exact start
  | cons tx rest ih => exact ih (preserved w tx start)

/-- Steps that meet `P` meet `Q` as long as the invariant holds. -/
theorem Along.of_invariant (preserved : ∀ w tx, I w → P w tx → I (step exec w tx))
    (implied : ∀ w tx, I w → P w tx → Q w tx) (start : I w) (along : Along exec P w txs) :
    Along exec Q w txs := by
  induction txs generalizing w with
  | nil => trivial
  | cons tx rest ih =>
    exact ⟨implied w tx start along.1, ih (preserved w tx start along.1) along.2⟩

theorem Along.of_forall (holds : ∀ w tx, P w tx) : Along exec P w txs := by
  induction txs generalizing w with
  | nil => trivial
  | cons tx rest ih => exact ⟨holds w tx, ih⟩

/-- A condition on the transactions alone. -/
theorem Along.of_mem {P : Tx X C → Prop} (holds : ∀ tx ∈ txs, P tx) :
    Along exec (fun _ tx => P tx) w txs := by
  induction txs generalizing w with
  | nil => trivial
  | cons tx rest ih =>
    exact ⟨holds tx List.mem_cons_self, ih fun later isLater =>
      holds later (List.mem_cons_of_mem tx isLater)⟩

/-- A condition on single steps carries over to whole runs. -/
theorem Along.mono (implied : ∀ w tx, P w tx → Q w tx) (along : Along exec P w txs) :
    Along exec Q w txs :=
  Along.of_invariant (I := fun _ => True) (fun _ _ _ _ => trivial) (fun w tx _ => implied w tx)
    trivial along

theorem Along.and (first : Along exec P w txs) (second : Along exec Q w txs) :
    Along exec (fun w tx => P w tx ∧ Q w tx) w txs := by
  induction txs generalizing w with
  | nil => trivial
  | cons tx rest ih => exact ⟨⟨first.1, second.1⟩, ih first.2 second.2⟩

/-- Where the steps that keep an invariant are exactly those that meet `P`, it holds in every
state reached exactly when every step meets `P`. -/
theorem forall_prefix_iff_along (exact_at : ∀ w tx, I w → (I (step exec w tx) ↔ P w tx))
    (start : I w) : (∀ before, before <+: txs → I (run exec w before)) ↔ Along exec P w txs := by
  induction txs generalizing w with
  | nil =>
    refine iff_of_true (fun before isPrefix => ?_) trivial
    rw [List.prefix_nil.mp isPrefix]
    exact start
  | cons tx rest ih =>
    constructor
    · intro held
      have next : I (step exec w tx) := held [tx] (by simp)
      refine ⟨(exact_at w tx start).mp next, (ih next).mp fun before isPrefix => ?_⟩
      exact held (tx :: before) (by simpa using isPrefix)
    · rintro ⟨first, along⟩ before isPrefix
      rcases before with _ | ⟨tx', before⟩
      · exact start
      · obtain ⟨rfl, inRest⟩ := List.cons_prefix_cons.mp isPrefix
        exact (ih ((exact_at w tx' start).mpr first)).mpr along before inRest

/-- What is there at the end of a run and was not at its start came with some transaction and
has stayed since. -/
theorem run_since (absent : ¬ I w) (present : I (run exec w txs)) :
    ∃ before tx after, txs = before ++ tx :: after ∧ ¬ I (run exec w before) ∧
      I (step exec (run exec w before) tx) ∧
      Along exec (fun v tx => I v ∧ I (step exec v tx))
        (step exec (run exec w before) tx) after := by
  induction txs using List.reverseRecOn with
  | nil => exact absurd present absent
  | append_singleton rest last ih =>
    rw [run_append, run_cons, run_nil] at present
    by_cases held : I (run exec w rest)
    · obtain ⟨before, tx, after, rfl, absentBefore, came, stayed⟩ := ih held
      refine ⟨before, tx, after ++ [last], by simp, absentBefore, came, ?_⟩
      rw [run_append, run_cons] at held present
      exact along_append.mpr ⟨stayed, ⟨held, present⟩, trivial⟩
    · exact ⟨rest, last, [], rfl, held, present, trivial⟩

/-- A reading of the state that every step moves as the abstract `move` says is
moved by the whole run as its trace says. -/
theorem run_simulates {S β : Type} (read : World K V Ev → S) (move : S → β → S)
    (observe : World K V Ev → Tx X C → β) (preserved : ∀ w tx, I w → P w tx → I (step exec w tx))
    (simulated : ∀ w tx, I w → P w tx → read (step exec w tx) = move (read w) (observe w tx))
    (start : I w) (along : Along exec P w txs) :
    read (run exec w txs) = (trace exec observe w txs).foldl move (read w) := by
  induction txs generalizing w with
  | nil => rfl
  | cons tx rest ih =>
    rw [run_cons, ih (preserved w tx start along.1) along.2, simulated w tx start along.1]
    rfl

end Runs

end Host
