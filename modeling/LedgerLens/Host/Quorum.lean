import LedgerLens.Host.Ledger

/-!
Quorums. An invocation has a quorum when enough distinct eligible accounts
signed it. A program that asks every account of a list for its authorisation
only returns when the list has no repetitions, because the host traps on the
second demand: so its length counts distinct signers.
-/

namespace Host

variable {K : Type} {V : K → Type} {Ev X ε α : Type}

/-- At least `m` distinct eligible accounts signed the invocation. -/
def Quorum (env : Env X) (eligible : Address → Prop) (m : Nat) : Prop :=
  ∃ signers : Finset Address, m ≤ signers.card ∧ ∀ a ∈ signers, eligible a ∧ env.signed a = true

section

variable {env : Env X} {eligible : Address → Prop} {m : Nat}

theorem Quorum.of_list {signers : List Address} (distinct : signers.Nodup)
    (enough : m ≤ signers.length) (each : ∀ a ∈ signers, eligible a ∧ env.signed a = true) :
    Quorum env eligible m := by
  refine ⟨signers.toFinset, ?_, ?_⟩
  · rw [List.toFinset_card_of_nodup distinct]
    exact enough
  · intro a listed
    exact each a (List.mem_toFinset.mp listed)

/-- One eligible account suffices for a quorum of one. -/
theorem Quorum.of_one {a : Address} (member : eligible a) (signed : env.signed a = true) :
    Quorum env eligible 1 :=
  Quorum.of_list (List.nodup_singleton a) (le_refl 1) fun b listed => by
    rw [List.mem_singleton.mp listed]
    exact ⟨member, signed⟩

/-- With a single signature there is no quorum beyond one. -/
theorem Quorum.of_lone_signer {a : Address} (quorum : Quorum env eligible m) (positive : 0 < m)
    (lone : ∀ b, env.signed b = true → b = a) : m = 1 ∧ eligible a := by
  obtain ⟨signers, enough, each⟩ := quorum
  have within : signers ⊆ {a} := fun b listed =>
    Finset.mem_singleton.mpr (lone b (each b listed).2)
  have atMost : signers.card ≤ 1 := by simpa using Finset.card_le_card within
  obtain ⟨b, listed⟩ := Finset.card_pos.mp (lt_of_lt_of_le positive enough)
  refine ⟨by omega, ?_⟩
  rw [← lone b (each b listed).2]
  exact (each b listed).1

/-- A quorum needs a signature. -/
theorem Quorum.exists_signer (quorum : Quorum env eligible m) (positive : 0 < m) :
    ∃ a, eligible a ∧ env.signed a = true := by
  obtain ⟨signers, enough, each⟩ := quorum
  obtain ⟨a, listed⟩ := Finset.card_pos.mp (lt_of_lt_of_le positive enough)
  exact ⟨a, each a listed⟩

end

/-! ### Programs that demand no authorisation -/

/-- The same accounts have authorised so far. -/
def SameFrame (w w' : World K V Ev) : Prop := w'.authorized = w.authorized

instance : Std.Refl (@SameFrame K V Ev) := ⟨fun _ => rfl⟩

instance : IsTrans (World K V Ev) SameFrame := ⟨fun _ _ _ first second => second.trans first⟩

/-! ### Asking a list of accounts -/

/-- Check each account, then demand its authorisation. -/
def authorizeAll (check : Address → Prog (Env X) ε (World K V Ev) Unit) (signers : List Address) :
    Prog (Env X) ε (World K V Ev) Unit :=
  Prog.each signers fun signer => do
    check signer
    requireAuth signer

section AuthorizeAll

variable {check : Address → Prog (Env X) ε (World K V Ev) Unit} {r : Env X}
  {w w' : World K V Ev} {signers : List Address} {u : Unit}

/-- One step of the loop. -/
theorem authorizeAll_cons_ok {signer : Address} {rest : List Address} :
    authorizeAll check (signer :: rest) r w = .ok u w' ↔
      ∃ w₁, check signer r w = .ok () w₁ ∧ r.signed signer = true ∧ signer ∉ w₁.authorized ∧
        authorizeAll check rest r { w₁ with authorized := signer :: w₁.authorized } = .ok u w' := by
  simp only [authorizeAll, Prog.each, Prog.bind_ok, requireAuth_ok]
  constructor
  · rintro ⟨_, w₂, ⟨⟨⟩, w₁, checked, ⟨signed, fresh⟩, rfl⟩, tail⟩
    exact ⟨w₁, checked, signed, fresh, tail⟩
  · rintro ⟨w₁, checked, signed, fresh, tail⟩
    exact ⟨(), _, ⟨(), w₁, checked, ⟨signed, fresh⟩, rfl⟩, tail⟩

/-- The loop returns only for distinct accounts that all signed and had not yet
authorised anything in this frame. -/
theorem authorizeAll_distinct [∀ a, Prog.Keeps SameFrame (check a)]
    (ran : authorizeAll check signers r w = .ok u w') :
    signers.Nodup ∧ ∀ a ∈ signers, r.signed a = true ∧ a ∉ w.authorized := by
  induction signers generalizing w with
  | nil => simp
  | cons signer rest ih =>
    obtain ⟨w₁, checked, signed, fresh, tail⟩ := authorizeAll_cons_ok.mp ran
    have sameFrame : w₁.authorized = w.authorized := Prog.Keeps.ok (R := SameFrame) checked
    obtain ⟨distinct, each⟩ := ih tail
    refine ⟨List.nodup_cons.mpr ⟨fun listed => ?_, distinct⟩, fun a listed => ?_⟩
    · exact (each signer listed).2 List.mem_cons_self
    · rcases List.mem_cons.mp listed with rfl | listed
      · exact ⟨signed, sameFrame ▸ fresh⟩
      · obtain ⟨signedA, freshA⟩ := each a listed
        refine ⟨signedA, fun before => freshA ?_⟩
        exact List.mem_cons_of_mem _ (sameFrame ▸ before)

/-- The accounts asked are the ones that have authorised afterwards. -/
theorem authorizeAll_authorized [∀ a, Prog.Keeps SameFrame (check a)]
    (ran : authorizeAll check signers r w = .ok u w') :
    w'.authorized = signers.reverse ++ w.authorized := by
  induction signers generalizing w with
  | nil =>
    cases ran
    rfl
  | cons signer rest ih =>
    obtain ⟨w₁, checked, _, _, tail⟩ := authorizeAll_cons_ok.mp ran
    have sameFrame : w₁.authorized = w.authorized := Prog.Keeps.ok (R := SameFrame) checked
    rw [ih tail, sameFrame, List.reverse_cons, List.append_assoc]
    rfl

/-- What every check guarantees of its account holds of all of them, as long
as the loop keeps what the guarantee looks at. -/
theorem authorizeAll_eligible (eligible : World K V Ev → Address → Prop)
    (guarantee : ∀ {a w w'}, check a r w = .ok () w' → eligible w a)
    (stable : ∀ {a w₁ w₂ b}, check a r w₁ = .ok () w₂ →
      eligible { w₂ with authorized := a :: w₂.authorized } b → eligible w₁ b)
    (ran : authorizeAll check signers r w = .ok u w') : ∀ a ∈ signers, eligible w a := by
  induction signers generalizing w with
  | nil => simp
  | cons signer rest ih =>
    obtain ⟨w₁, checked, _, _, tail⟩ := authorizeAll_cons_ok.mp ran
    intro a listed
    rcases List.mem_cons.mp listed with rfl | listed
    · exact guarantee checked
    · exact stable checked (ih tail a listed)

end AuthorizeAll

end Host
