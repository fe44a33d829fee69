import LedgerLens.System.Footprints

/-!
The graph of counterparties. Each of the two ends of a link keeps a list, and a call edits the
lists one after the other; what is not rolled back keeps them in step. The main result is
`links_in_step`.
-/

namespace LedgerLens

open Host Host.Prog Storage

/-- The list of every wallet, for every pair. -/
abbrev Links := Entry → List Address

def linksIn (w : State) : Links := fun i =>
  (w.ledger.entry .persistent (.counterparties i.1 i.2)).getD []

/-- The lists of the two ends are in step. -/
structure WellLinked (links : Links) : Prop where
  symmetric : ∀ a b pair, b ∈ links (a, pair) → a ∈ links (b, pair)
  irreflexive : ∀ a pair, a ∉ links (a, pair)
  nodup : ∀ i, (links i).Nodup
  bounded : ∀ i, (links i).length ≤ maxCounterpartyLinksPerWallet

/-! ### Edits of the lists -/

/-- `other` once at the end of the list of `i`, unless it is in it. -/
def Links.append (links : Links) (i : Entry) (other : Address) : Links :=
  Function.update links i (if other ∈ links i then links i else links i ++ [other])

def Links.drop (links : Links) (i : Entry) (other : Address) : Links :=
  Function.update links i ((links i).erase other)

section Lists

variable {links : Links} {a b : Address} {pair : Symbol}

theorem Links.mem_append {i j : Entry} {other y : Address} :
    y ∈ links.append i other j ↔ y ∈ links j ∨ j = i ∧ y = other := by
  unfold Links.append
  by_cases same : j = i
  · subst same
    rw [Function.update_self]
    split
    · next listed => exact ⟨.inl, Or.rec id fun ⟨_, is⟩ => is ▸ listed⟩
    · simp
  · rw [Function.update_of_ne same]
    simp [same]

theorem Links.mem_drop {i j : Entry} {other y : Address}
    (nodup : ∀ i, (links i).Nodup) :
    y ∈ links.drop i other j ↔ y ∈ links j ∧ ¬ (j = i ∧ y = other) := by
  unfold Links.drop
  by_cases same : j = i
  · subst same
    rw [Function.update_self, (nodup j).mem_erase_iff]
    simp [and_comm]
  · rw [Function.update_of_ne same]
    simp [same]

section

variable {i : Entry} {other : Address} {bound : Nat}

theorem Links.nodup_append (nodup : ∀ i, (links i).Nodup) :
    ∀ j, (links.append i other j).Nodup := by
  refine (Function.forall_update_iff links fun _ l => l.Nodup).mpr ⟨?_, fun j _ => nodup j⟩
  split
  · exact nodup i
  · next absent =>
    rw [← List.concat_eq_append]
    exact (nodup i).concat absent

theorem Links.nodup_drop (nodup : ∀ i, (links i).Nodup) : ∀ j, (links.drop i other j).Nodup :=
  (Function.forall_update_iff links fun _ l => l.Nodup).mpr
    ⟨(nodup i).erase other, fun j _ => nodup j⟩

theorem Links.bounded_append (bounded : ∀ i, (links i).length ≤ bound)
    (room : other ∈ links i ∨ (links i).length < bound) :
    ∀ j, (links.append i other j).length ≤ bound := by
  refine (Function.forall_update_iff links fun _ l => l.length ≤ bound).mpr
    ⟨?_, fun j _ => bounded j⟩
  split
  · exact bounded i
  · next absent =>
    rw [List.length_append]
    exact room.resolve_left absent

theorem Links.bounded_drop (bounded : ∀ i, (links i).length ≤ bound) :
    ∀ j, (links.drop i other j).length ≤ bound :=
  (Function.forall_update_iff links fun _ l => l.length ≤ bound).mpr
    ⟨List.length_erase_le.trans (bounded i), fun j _ => bounded j⟩

end

/-- Both ends of a link, and no other. -/
theorem WellLinked.append (linked : WellLinked links) (distinct : a ≠ b)
    (room : b ∈ links (a, pair) ∨
      (links (a, pair)).length < maxCounterpartyLinksPerWallet)
    (room' : a ∈ links.append (a, pair) b (b, pair) ∨
      (links.append (a, pair) b (b, pair)).length < maxCounterpartyLinksPerWallet) :
    WellLinked ((links.append (a, pair) b).append (b, pair) a) where
  symmetric x y q := by
    have := linked.symmetric x y q
    simp only [Links.mem_append, Prod.mk.injEq]
    tauto
  irreflexive x q := by
    have := linked.irreflexive x q
    simp only [Links.mem_append, Prod.mk.injEq]
    rintro ((old | ⟨⟨rfl, _⟩, rfl⟩) | ⟨⟨rfl, _⟩, rfl⟩)
    · exact this old
    · exact distinct rfl
    · exact distinct rfl
  nodup := Links.nodup_append (Links.nodup_append linked.nodup)
  bounded := Links.bounded_append (Links.bounded_append linked.bounded room) room'

theorem WellLinked.drop (linked : WellLinked links) :
    WellLinked ((links.drop (a, pair) b).drop (b, pair) a) where
  symmetric x y q := by
    have := linked.symmetric x y q
    simp only [Links.mem_drop (Links.nodup_drop linked.nodup), Links.mem_drop linked.nodup,
      Prod.mk.injEq]
    tauto
  irreflexive x q := by
    have := linked.irreflexive x q
    simp only [Links.mem_drop (Links.nodup_drop linked.nodup), Links.mem_drop linked.nodup]
    tauto
  nodup := Links.nodup_drop (Links.nodup_drop linked.nodup)
  bounded := Links.bounded_drop (Links.bounded_drop linked.bounded)

/-- A link that was not there is taken out again. -/
theorem WellLinked.mem_drop_append (linked : WellLinked links) (absent : b ∉ links (a, pair))
    (x y : Address) (q : Symbol) :
    y ∈ ((((links.append (a, pair) b).append (b, pair) a).drop (a, pair) b).drop
        (b, pair) a) (x, q) ↔ y ∈ links (x, q) := by
  have nodup : ∀ j, ((links.append (a, pair) b).append (b, pair) a j).Nodup :=
    Links.nodup_append (Links.nodup_append linked.nodup)
  have absent' : a ∉ links (b, pair) := fun listed => absent (linked.symmetric b a _ listed)
  simp only [Links.mem_drop (Links.nodup_drop nodup), Links.mem_drop nodup, Links.mem_append,
    Prod.mk.injEq]
  constructor
  · tauto
  · intro listed
    refine ⟨⟨.inl (.inl listed), ?_⟩, ?_⟩
    · rintro ⟨⟨rfl, rfl⟩, rfl⟩
      exact absent listed
    · rintro ⟨⟨rfl, rfl⟩, rfl⟩
      exact absent' listed

end Lists

/-! ### The calls -/

section Calls

variable {env : ContractEnv} {w w' : State} {a b : Address} {pair : Symbol}

theorem linksIn_put (l : Option (List Address)) :
    linksIn { w with ledger := w.ledger.put .persistent (.counterparties a pair) l } =
      Function.update (linksIn w) (a, pair) (l.getD []) :=
  w.ledger.family_put .persistent (fun i : Entry => .counterparties i.1 i.2)
    (fun _ _ same => Prod.ext (DataKey.counterparties.inj same).1
      (DataKey.counterparties.inj same).2)
    (fun _ (l : Option (List Address)) => l.getD []) (a, pair) l

theorem linkTo_spec (ran : linkTo a b pair env w = .ok () w') :
    (b ∈ linksIn w (a, pair) ∨
      (linksIn w (a, pair)).length < maxCounterpartyLinksPerWallet) ∧
      linksIn w' = (linksIn w).append (a, pair) b := by
  unfold Links.append
  simp only [ok_iff_wp, linkTo, wp_bind, wp_loadOr, wp_whenever, wp_require, wp_save,
    decide_eq_true_eq] at ran
  split at ran
  · next absent =>
    obtain ⟨room, _, rfl⟩ := ran
    have absent : b ∉ linksIn w (a, pair) := absent
    refine ⟨.inr room, (linksIn_put _).trans ?_⟩
    rw [if_neg absent]
    rfl
  · next listed =>
    obtain ⟨_, rfl⟩ := ran
    have listed : b ∈ linksIn w (a, pair) := not_not.mp listed
    refine ⟨.inl listed, ?_⟩
    rw [if_pos listed, Function.update_eq_self]

theorem unlinkFrom_run (env : ContractEnv) (w : State) (a b : Address) (pair : Symbol) :
    ∃ w', unlinkFrom a b pair env w = .ok (decide (b ∈ linksIn w (a, pair))) w' ∧
      linksIn w' = (linksIn w).drop (a, pair) b := by
  suffices runs : wp (unlinkFrom a b pair) (fun removed w' =>
      removed = decide (b ∈ linksIn w (a, pair)) ∧
        linksIn w' = (linksIn w).drop (a, pair) b) env w by
    obtain ⟨_, w', ran, rfl, links⟩ := runs
    exact ⟨w', ran, links⟩
  unfold Links.drop
  simp only [unlinkFrom, wp_bind, wp_loadOr, wp_whenever, wp_ite, wp_save, wp_erase, wp_pure,
    decide_eq_true_eq]
  split
  · next listed =>
    split
    · next empty =>
      exact ⟨rfl, (linksIn_put none).trans
        (congrArg (Function.update (linksIn w) (a, pair)) (List.isEmpty_iff.mp empty).symm)⟩
    · exact ⟨rfl, linksIn_put _⟩
  · next absent =>
    have absent : b ∉ linksIn w (a, pair) := absent
    refine ⟨rfl, ?_⟩
    rw [List.erase_of_not_mem absent, Function.update_eq_self]

theorem addCounterpartyLink_spec (ran : addCounterpartyLink a b pair env w = .ok () w')
    (linked : WellLinked (linksIn w)) :
    WellLinked (linksIn w') ∧
      linksIn w' = ((linksIn w).append (a, pair) b).append (b, pair) a := by
  obtain ⟨distinct, ran⟩ := require_bind_ok.mp ran
  obtain ⟨_, u, first, ran⟩ := bind_ok.mp ran
  obtain ⟨_, u', second, ran⟩ := bind_ok.mp ran
  obtain ⟨room, isFirst⟩ := linkTo_spec first
  obtain ⟨room', isSecond⟩ := linkTo_spec second
  have same : linksIn w' = linksIn u' := by
    cases ran
    rfl
  rw [isFirst] at isSecond room'
  rw [same, isSecond]
  exact ⟨linked.append (of_decide_eq_true distinct) room room', rfl⟩

theorem removeCounterpartyLink_spec
    (ran : removeCounterpartyLink a b pair env w = .ok () w') :
    linksIn w' = ((linksIn w).drop (a, pair) b).drop (b, pair) a := by
  obtain ⟨u, first, isFirst⟩ := unlinkFrom_run env w a b pair
  obtain ⟨u', second, isSecond⟩ := unlinkFrom_run env u b a pair
  rw [removeCounterpartyLink, run_bind_of_ok first, run_bind_of_ok second] at ran
  obtain ⟨_, ran⟩ := require_bind_ok.mp ran
  have same : linksIn w' = linksIn u' := by
    cases ran
    rfl
  rw [same, isSecond, isFirst]

/-- A link that is there can be removed. -/
theorem removeCounterpartyLink_returns (env : ContractEnv)
    (listed : b ∈ linksIn w (a, pair)) :
    ∃ w', removeCounterpartyLink a b pair env w = .ok () w' := by
  obtain ⟨u, first, isFirst⟩ := unlinkFrom_run env w a b pair
  obtain ⟨u', second, isSecond⟩ := unlinkFrom_run env u b a pair
  rw [removeCounterpartyLink, run_bind_of_ok first, run_bind_of_ok second, decide_eq_true listed]
  exact ⟨_, rfl⟩

end Calls

/-! ### Runs -/

section Runs

/-- Only the two calls touch the lists. -/
theorem step_wellLinked (w : State) (tx : Transaction) (linked : WellLinked (linksIn w)) :
    WellLinked (linksIn (step exec w tx)) := by
  by_cases returns : Returns exec w tx
  swap
  · rwa [step_of_not_returns returns]
  have ran := returns.ok
  obtain ⟨env, call⟩ := tx
  have of_free (free : (footprint call).contains .counterparties = false) :
      WellLinked (linksIn (step exec w ⟨env, call⟩)) := by
    have outside : Tag.counterparties ∉ footprint call := by simpa using free
    have same : linksIn (step exec w ⟨env, call⟩) = linksIn w := funext fun i =>
      congrArg (Option.getD · []) (invoke_entry (exec_keeps call) env w .persistent outside)
    rwa [same]
  rcases call with call | ⟨signers, call⟩ | call
  · cases call
    case addCounterpartyLink a b pair => exact (addCounterpartyLink_spec ran linked).1
    case removeCounterpartyLink a b pair =>
      rw [removeCounterpartyLink_spec ran]
      exact linked.drop
    all_goals exact of_free rfl
  · exact of_free (by cases call <;> rfl)
  · exact of_free (by cases call <;> rfl)

theorem genesis_wellLinked (balance : Balances) : WellLinked (linksIn (genesis balance)) where
  symmetric _ _ _ := nofun
  irreflexive _ _ := nofun
  nodup _ := List.nodup_nil
  bounded _ := Nat.zero_le _

end Runs

/-- In every reachable state the lists are in step, and a link that was not there is gone when it
has been added and removed. -/
theorem links_in_step (balance : Balances) (txs : List Transaction) :
    let w := run exec (genesis balance) txs
    WellLinked (linksIn w) ∧
      ∀ env env' a b pair w', b ∉ linksIn w (a, pair) →
        addCounterpartyLink a b pair env w = .ok () w' →
        ∃ w'', removeCounterpartyLink a b pair env' w' = .ok () w'' ∧
          ∀ x y q, y ∈ linksIn w'' (x, q) ↔ y ∈ linksIn w (x, q) := by
  intro w
  have linked : WellLinked (linksIn w) :=
    run_induction (I := fun w => WellLinked (linksIn w)) step_wellLinked
      (genesis_wellLinked balance)
  refine ⟨linked, fun env env' a b pair w' absent added => ?_⟩
  have isAdded := (addCounterpartyLink_spec added linked).2
  have listed : b ∈ linksIn w' (a, pair) := by
    rw [isAdded, Links.mem_append, Links.mem_append]
    exact .inl (.inr ⟨rfl, rfl⟩)
  obtain ⟨w'', removed⟩ := removeCounterpartyLink_returns env' listed
  refine ⟨w'', removed, fun x y q => ?_⟩
  rw [removeCounterpartyLink_spec removed, isAdded]
  exact linked.mem_drop_append absent x y q

end LedgerLens
