import LedgerLens.System.Upgrades

/-!
The register of parameter proposals: their records, the list of the pending ones
and the counter of their numbers, and what each call does to them. The cleanup of
expired proposals counts records that it does not remove. The main result is
`cleanup_reports_iff`.
-/

namespace LedgerLens

open Host Host.Prog Storage

/-! ### The register of proposals -/

/-- The records of the proposals, the list of the pending ones and the next number. -/
@[ext] structure Register where
  records : Nat → Option ParameterProposalRecord
  pending : List Nat
  next : Nat

def register (w : State) : Register where
  records id := w.ledger.entry .inst (.parameterProposal id)
  pending := (w.ledger.entry .inst .pendingParameterProposalIds).getD []
  next := (w.ledger.entry .inst .parameterProposalNextId).getD 1

namespace Register

variable (s : Register) (time : Nat)

def statusOf (id : Nat) : Option ParameterProposalStatus := (s.records id).map (·.status)

/-- Give a recorded proposal its final status. -/
@[simps] def settle (id : Nat) (record : ParameterProposalRecord)
    (status : ParameterProposalStatus) :
    Register where
  records := Function.update s.records id (some { record with status })
  pending := s.pending.filter (· ≠ id)
  next := s.next

/-- The proposal is pending and past its expiry. -/
def lapsed (id : Nat) : Bool :=
  (s.records id).any fun record =>
    record.status = .pending && isParameterProposalExpired record.proposal time

/-- Settle those of the listed proposals that have lapsed. -/
@[simps] def pruneOver (ids : List Nat) : Register where
  records id :=
    if id ∈ ids ∧ s.lapsed time id = true then
      (s.records id).map fun record => { record with status := .expired }
    else
      s.records id
  pending := s.pending.filter fun id => !(id ∈ ids && s.lapsed time id)
  next := s.next

abbrev prune : Register := s.pruneOver time s.pending

variable {s time}

@[simp] theorem pruneOver_nil : s.pruneOver time [] = s := by
  ext1 <;> simp [pruneOver]

@[simp] theorem lapsed_settle_expired {id : Nat} {record : ParameterProposalRecord} :
    (s.settle id record .expired).lapsed time id = false := by
  simp [lapsed]

theorem lapsed_settle_of_ne {id other : Nat} {record : ParameterProposalRecord}
    {status : ParameterProposalStatus} (differs : other ≠ id) :
    (s.settle id record status).lapsed time other = s.lapsed time other := by
  simp [lapsed, differs]

theorem pruneOver_cons_of_not_lapsed {id : Nat} {rest : List Nat}
    (current : s.lapsed time id = false) :
    s.pruneOver time (id :: rest) = s.pruneOver time rest := by
  ext1
  · funext other
    by_cases same : other = id
    · simp [same, current]
    · simp [same]
  · refine List.filter_congr fun other _ => ?_
    by_cases same : other = id
    · simp [same, current]
    · simp [same]
  · rfl

theorem pruneOver_cons_of_lapsed {id : Nat} {rest : List Nat} {record : ParameterProposalRecord}
    (found : s.records id = some record) (late : s.lapsed time id = true) :
    s.pruneOver time (id :: rest) = (s.settle id record .expired).pruneOver time rest := by
  ext1
  · funext other
    by_cases same : other = id
    · simp [same, late, found]
    · simp [same, lapsed_settle_of_ne]
  · simp only [pruneOver_pending, settle_pending, List.filter_filter]
    refine List.filter_congr fun other _ => ?_
    by_cases same : other = id
    · simp [same, late]
    · simp [same, lapsed_settle_of_ne]
  · rfl

end Register

section Calls

variable {env : ContractEnv} {w w' : State} {call : Call} {signers : List Address} {id : Nat}

theorem register_of_ledger (same : w'.ledger = w.ledger) : register w' = register w := by
  unfold register
  rw [same]

theorem records_put (l : Ledger DataKey Val) (record : Option ParameterProposalRecord) :
    (fun other => (l.put .inst (.parameterProposal id) record).entry .inst
        (.parameterProposal other)) =
      Function.update (fun other => l.entry .inst (.parameterProposal other)) id record :=
  l.family_put .inst .parameterProposal (fun _ _ same => DataKey.parameterProposal.inj same)
    (fun _ (record : Option ParameterProposalRecord) => record) id record

theorem register_mark {record : ParameterProposalRecord} {status : ParameterProposalStatus}
    (found : (register w).records id = some record)
    (marked : markParameterProposalStatus id status env w = .ok () w') :
    register w' = (register w).settle id record status := by
  unfold markParameterProposalStatus at marked
  simp only [register] at found
  simp [ok_iff_wp, found, ifSome] at marked
  subst marked
  ext1
  · refine Eq.trans ?_ (records_put w.ledger (some { record with status }))
    simp [register, Ledger.entry_put_of_ne]
  · simp [register, Ledger.entry_put_of_ne]
  · simp [register, Ledger.entry_put_of_ne]

/-- The loop looks at the proposals that were pending at its start. -/
theorem register_prune : wlp pruneExpiredParameterProposals
    (fun _ w' => register w' = (register w).prune env.timestamp) env w := by
  unfold pruneExpiredParameterProposals
  simp only [wlp_bind, wlp_asks, wlp_loadOr]
  -- what the rest of the list makes of the register is what the whole list makes of the first
  refine wlp_mono (wlp_each (I := fun rest u =>
    (register u).pruneOver env.timestamp rest = (register w).prune env.timestamp) ?_ _ w rfl) ?_
  · intro id rest u same
    rw [wlp_bind, wlp_load]
    cases found : u.ledger.entry .inst (.parameterProposal id) with
    | none =>
      have current : (register u).lapsed env.timestamp id = false := by
        simp [Register.lapsed, register, found]
      rw [Register.pruneOver_cons_of_not_lapsed current] at same
      simpa [ifSome] using same
    | some record =>
      have isLapsed : (register u).lapsed env.timestamp id =
          (record.status = .pending && isParameterProposalExpired record.proposal
            env.timestamp) := by
        simp [Register.lapsed, register, found]
      simp only [ifSome, Option.elim_some, wlp_whenever]
      split
      · next late =>
        rw [Register.pruneOver_cons_of_lapsed found (isLapsed.trans late)] at same
        intro _ v marked
        rwa [register_mark found marked]
      · next current =>
        rw [Register.pruneOver_cons_of_not_lapsed] at same
        · exact same
        · rwa [isLapsed, ← Bool.not_eq_true]
  · intro _ u same
    rwa [Register.pruneOver_nil] at same

/-- The cleanup removes persistent entries; the register is kept in the instance. -/
def SameInstance (w w' : State) : Prop :=
  ∀ k, w'.ledger.entry .inst k = w.ledger.entry .inst k

@[refl] theorem SameInstance.refl (w : State) : SameInstance w w := fun _ => rfl

theorem SameInstance.register (same : SameInstance w w') : register w' = register w := by
  unfold LedgerLens.register
  simp only [same _]

/-- What the cleanup counts: proposals that were marked as expired and lapsed two days ago. -/
def Register.removable (s : Register) (time id : Nat) : Bool :=
  (s.records id).any fun record => record.status = .expired &&
    satAdd64 (satAdd64 record.proposal.proposedAt (satMul64 record.proposal.timeLockSecs 2)) 172800
      < time

theorem cleanupProposal_spec {time : Nat} {progress : Nat × Nat} :
    wlp (cleanupProposal time progress id) (fun after w' =>
      after.1 = progress.1 + ((register w).removable time id).toNat ∧ SameInstance w w' ∧
        ((register w).removable time id = false → w' = w)) env w := by
  unfold cleanupProposal
  rw [wlp_bind, wlp_load]
  cases found : w.ledger.entry .inst (.parameterProposal id) with
  | none => simp [Register.removable, register, found, SameInstance.refl]
  | some record =>
    simp only [Option.elim_some, wlp_ite]
    split
    · next old =>
      have removable : (register w).removable time id = true := by
        simp [Register.removable, register, found, old]
      simp [removable, SameInstance, Ledger.entry_put_of_durability_ne]
    · next recent =>
      have kept : (register w).removable time id = false := by
        simpa [Register.removable, register, found] using recent
      simp [kept, SameInstance.refl]

/-- The loop counts the removable proposals in its range and leaves the instance alone. -/
theorem cleanup_spec {time : Nat} {progress : Nat × Nat} (ids : List Nat) :
    wlp (fold (cleanupProposal time) progress ids) (fun after w' =>
      after.1 = progress.1 + ids.countP ((register w).removable time) ∧ SameInstance w w' ∧
        ((∀ id ∈ ids, (register w).removable time id = false) → w' = w)) env w := by
  refine wlp_mono (wlp_fold (I := fun rest after u =>
    after.1 + rest.countP ((register w).removable time) =
        progress.1 + ids.countP ((register w).removable time) ∧ SameInstance w u ∧
      ((∀ id ∈ ids, (register w).removable time id = false) → u = w) ∧ rest ⊆ ids)
    ?_ ids progress w ⟨rfl, .refl w, fun _ => rfl, List.Subset.refl ids⟩) ?_
  · rintro id rest after u ⟨count, same, untouched, within⟩
    refine wlp_mono cleanupProposal_spec ?_
    rintro next v ⟨counted, kept, unmoved⟩
    rw [same.register] at counted unmoved
    refine ⟨?_, fun k => (kept k).trans (same k), fun none => ?_, ?_⟩
    · rw [← count, counted, List.countP_cons]
      cases (register w).removable time id <;> simp; omega
    · rw [unmoved (none id (within List.mem_cons_self)), untouched none]
    · exact fun other listed => within (List.mem_cons_of_mem id listed)
  · rintro after u ⟨count, same, untouched, _⟩
    exact ⟨by simpa using count, same, untouched⟩

theorem cleanupExpired_spec {count : Nat}
    (ran : cleanupExpiredParamProposals signers env w = .ok count w') :
    count = (List.range' 1 ((register w).next - 1)).countP ((register w).removable env.timestamp) ∧
      SameInstance w w' ∧
      ((∀ id ∈ List.range' 1 ((register w).next - 1),
        (register w).removable env.timestamp id = false) →
          w'.ledger = w.ledger ∧ w'.balance = w.balance) := by
  obtain ⟨_, v, checked, ⟨sameLedger, sameBalance⟩, ran⟩ := asAdmins_ok ran
  cases checked
  have sameRegister : register v = register w := register_of_ledger sameLedger
  simp only [ok_iff_wp, wp_bind, wp_loadOr, wp_asks, wp_pure] at ran
  obtain ⟨progress, u, cleaned, rfl, rfl⟩ := ran
  obtain ⟨counted, same, untouched⟩ := cleanup_spec _ progress u cleaned
  rw [sameRegister] at counted untouched
  have isRange : List.range' 1 ((v.ledger.entry .inst .parameterProposalNextId).getD 1 - 1) =
      List.range' 1 ((register w).next - 1) := by
    rw [← sameRegister]
    rfl
  refine ⟨by rw [counted, isRange, Nat.zero_add], fun k => ?_, fun none => ?_⟩
  · rw [same k, sameLedger]
  · obtain rfl := untouched (isRange ▸ none)
    exact ⟨sameLedger, sameBalance⟩

/-! ### Cleaning up -/

/-- What reading a proposal gives. -/
abbrev reading (env : ContractEnv) (w : State) (id : Nat) :
    Option (Except Error ParameterProposalRecord) :=
  (getParameterProposal id env w).result

theorem mark_returns (status : ParameterProposalStatus) :
    wp (markParameterProposalStatus id status) (fun _ _ => True) env w := by
  unfold markParameterProposalStatus
  rw [wp_bind, wp_load]
  cases w.ledger.entry .inst (.parameterProposal id) with
  | none => simp [ifSome]
  | some record => simp [ifSome]

theorem prune_returns : wp pruneExpiredParameterProposals (fun _ _ => True) env w := by
  unfold pruneExpiredParameterProposals
  simp only [wp_bind, wp_asks, wp_loadOr]
  refine wp_each_of_total (fun id u => ?_) _ w
  rw [wp_bind, wp_load]
  cases u.ledger.entry .inst (.parameterProposal id) with
  | none => simp [ifSome]
  | some record =>
    simp only [ifSome, Option.elim_some, wp_whenever]
    split
    · exact mark_returns .expired
    · trivial

theorem reading_eq (env : ContractEnv) (w : State) (id : Nat) :
    reading env w id = some ((((register w).prune env.timestamp).records id).elim
      (.error .parameterProposalNotFound) .ok) := by
  obtain ⟨⟨⟩, u, pruned, _⟩ : wp pruneExpiredParameterProposals (fun _ _ => True) env w :=
    prune_returns
  have isPruned : register u = (register w).prune env.timestamp := register_prune () u pruned
  have found : u.ledger.entry .inst (.parameterProposal id) =
      ((register w).prune env.timestamp).records id := by
    rw [← isPruned]
    rfl
  unfold reading getParameterProposal
  rw [run_bind_of_ok pruned, run_bind, ← found]
  cases isFound : u.ledger.entry .inst (.parameterProposal id) with
  | none => simp [load, reads, isFound, okOr, Prog.throw, Outcome.result]
  | some record => simp [load, reads, isFound, okOr, Outcome.result]

/-- The cleanup did what it reports: it removed the proposals that expired more than two days
ago and no others, as many as it says, and finds none when it is called again. -/
structure CleansUp (signers : List Address) (env : ContractEnv) (w w' : State) (count : Nat) :
    Prop where
  counted : ∃ removed : Finset Nat, removed.card = count ∧
    ∀ id, id ∈ removed ↔
      ((register w).records id).isSome = true ∧ (register w').records id = none
  removed : ∀ id, (register w).removable env.timestamp id = true →
    reading env w' id = some (.error .parameterProposalNotFound)
  kept : ∀ id, (register w).removable env.timestamp id = false →
    reading env w' id = reading env w id
  again : (cleanupExpiredParamProposals signers env { w' with authorized := [] }).value? = some 0

/-- A removable proposal is still there after the cleanup. -/
theorem reading_of_removable (same : SameInstance w w')
    (old : (register w).removable env.timestamp id = true) :
    reading env w' id ≠ some (.error .parameterProposalNotFound) := by
  rw [reading_eq, same.register]
  unfold Register.removable at old
  obtain ⟨record, found, expired⟩ := (Option.any_eq_true _ _).mp old
  have notLapsed : (register w).lapsed env.timestamp id = false := by
    have isExpired : record.status = .expired := by simp_all
    simp [Register.lapsed, found, isExpired]
  simp [notLapsed, found]

instance : Respects (Alike fun _ => false) (requireAdminAuth signers) := by
  unfold requireAdminAuth authorizeAll
  infer_instance

instance (time : Nat) (progress : Nat × Nat) :
    Respects (Alike fun _ => false) (cleanupProposal time progress id) := by
  unfold cleanupProposal
  infer_instance

instance : Respects (Alike fun _ => false) (cleanupExpiredParamProposals signers) := by
  unfold cleanupExpiredParamProposals asAdmins
  infer_instance

/-- The cleanup does what it reports only if there is nothing to remove: the records are in the
instance, and the cleanup removes persistent entries. -/
theorem cleanup_reports_iff {count : Nat}
    (ran : cleanupExpiredParamProposals signers env { w with authorized := [] } =
      .ok count w') :
    CleansUp signers env w w' count ↔ ∀ id, (register w).removable env.timestamp id = false := by
  obtain ⟨counted, same, untouched⟩ := cleanupExpired_spec ran
  have sameRegister : register w' = register w := same.register
  constructor
  · intro cleans id
    by_contra notKept
    have old : (register w).removable env.timestamp id = true := by simpa using notKept
    exact reading_of_removable same old (cleans.removed id old)
  · intro none
    have isZero : count = 0 := by
      rw [counted]
      exact List.countP_eq_zero.mpr fun id _ => ne_of_eq_of_ne (none id) Bool.false_ne_true
    obtain ⟨sameLedger, sameBalance⟩ := untouched fun id _ => none id
    have alike : Alike (fun _ => false) { w with authorized := [] }
        { w' with authorized := [] } :=
      ⟨fun d k _ => by rw [sameLedger], sameBalance, rfl⟩
    obtain ⟨_, again, _⟩ := Respects.ok_of_ok alike ran
    refine ⟨⟨∅, isZero.symm, fun id => ?_⟩, fun id old => ?_, fun id _ => ?_, ?_⟩
    · rw [sameRegister]
      cases (register w).records id <;> simp
    · rw [none id] at old
      cases old
    · rw [reading_eq, reading_eq, sameRegister]
    · rw [again, isZero]
      rfl

def proposeSample : Transaction :=
  adminSample (.proposeParameterChange paramKeyCooldown (toBeBytes 8 120))

/-- The contract with a proposal that was found to have expired. -/
def expiredSample : State :=
  run exec deployed [proposeSample, ⟨sampleAfter [] 345601, .user (.getParameterProposal 1)⟩]

/-- The same with another proposal, which is pending. -/
def recentSample : State :=
  run exec expiredSample [⟨sampleAfter [account 1] 345601,
    .admins [] (.proposeParameterChange paramKeyCooldown (toBeBytes 8 60))⟩]

/-- There is nothing to remove a day after the first one expired. -/
theorem cleanup_reports_recent :
    (register recentSample).statusOf 1 = some .expired ∧
      (register recentSample).statusOf 2 = some .pending ∧
      ∃ w', cleanupExpiredParamProposals [] (sampleAfter [account 1] 432000)
          { recentSample with authorized := [] } = .ok 0 w' ∧
        CleansUp [] (sampleAfter [account 1] 432000) recentSample w' 0 := by
  obtain ⟨w', ran⟩ : ∃ w', cleanupExpiredParamProposals [] (sampleAfter [account 1] 432000)
      { recentSample with authorized := [] } = .ok 0 w' :=
    Outcome.exists_of_value? (by decide +kernel)
  refine ⟨by decide +kernel, by decide +kernel, w', ran, (cleanup_reports_iff ran).mpr fun id => ?_⟩
  match id with
  | 0 | 1 | 2 => decide +kernel
  | n + 3 =>
    have unused : (register recentSample).records (n + 3) = none := rfl
    rw [Register.removable, unused]
    rfl

def cleanupSample : Transaction :=
  ⟨sampleAfter [account 1] 600000, .admins [] .cleanupExpiredParamProposals⟩

/-- Each call reports the same proposal, which is still there. -/
theorem cleanup_removes_nothing :
    (register expiredSample).statusOf 1 = some .expired ∧
    (cleanupExpiredParamProposals [] cleanupSample.env expiredSample).value? = some 1 ∧
    (register (step exec expiredSample cleanupSample)).statusOf 1 = some .expired ∧
    (cleanupExpiredParamProposals [] cleanupSample.env
      { step exec expiredSample cleanupSample with authorized := [] }).value? = some 1 := by
  decide +kernel

end Calls

end LedgerLens
