import LedgerLens.Host.Invariants
import LedgerLens.Host.XorSum
import LedgerLens.System.Journal

/-!
The Verkle commitment. Every leaf is stored when it enters the accumulator and
taken out by the one that replaces it, so the accumulator is always the exclusive
or of the stored leaves. It is that of the live scores as long as every score is
written together with its leaf, which the single and the plain batch subs
do and no other path does. The main result is `commitment_covers`.
-/

namespace LedgerLens

open Host Host.Prog Storage Posting Totals

/-! ### Leaves -/

/-- What a leaf is derived from, besides its key. -/
def RiskScore.shown (score : RiskScore) : Nat × Nat := (score.score, score.timestamp)

/-- The leaf of an entry, with the hash given. -/
def leafOf (hash : Bytes → BytesN 32) (entry : Entry) (shown : Nat × Nat) : BytesN 32 :=
  let z := maskField (hash ([0x04] ++ entry.1.strkey.1 ++ pairBuf entry.2))
  let v := maskField (hash ([0x05] ++ toLeBytes 4 shown.1 ++ toLeBytes 8 shown.2 ++ z.1))
  hash ([0x02] ++ z.1 ++ v.1)

/-- The accumulator takes a leaf in by exclusive or, as the caller of
`verkle::update_accumulator` documents. -/
def AddsLeaf (env : ContractEnv) : Prop :=
  ∀ accum z v, env.external.updateAccumulator accum z v =
    xor32 accum (env.crypto.sha256 ([0x02] ++ z.1 ++ v.1))

/-- The live scores, what is stored of their leaves, and the accumulator. -/
structure Commitment where
  live : Entry → Option RiskScore
  leaf : Entry → Option (BytesN 32)
  accumulator : BytesN 32

def commitmentIn (ledger : Ledger DataKey Val) : Commitment where
  live entry := ledger.entry .persistent (.score entry.1 entry.2)
  leaf entry := (ledger.entry .persistent (.verkleLeaf entry.1 entry.2)).bind bytes32?
  accumulator := ((ledger.entry .inst .verkleCommitment).bind bytes32?).getD zero32

namespace Commitment

variable (c : Commitment) (hash : Bytes → BytesN 32) (entry : Entry)

/-- The leaf the live score of an entry ought to have. -/
def liveLeaf : Option (BytesN 32) := (c.live entry).map fun score => leafOf hash entry score.shown

/-- The accumulator is the exclusive or of the leaves of all live scores. -/
def Covers : Prop := c.accumulator = xorSum (c.liveLeaf hash)

/-- The stored leaves are those of the live scores, and all that is in the accumulator. -/
structure Mirrors : Prop where
  leaves : c.leaf = c.liveLeaf hash
  summed : c.accumulator = xorSum c.leaf

def write (score : RiskScore) : Commitment :=
  { c with live := Function.update c.live entry (some score) }

/-- The old leaf goes out, the new one in. -/
def commit (leaf : BytesN 32) : Commitment :=
  { c with
    leaf := Function.update c.leaf entry (some leaf)
    accumulator := c.accumulator + (c.leaf entry).getD 0 + leaf }

theorem remove_leaf : (c.leaf entry).elim c.accumulator (xor32 c.accumulator) =
    c.accumulator + (c.leaf entry).getD 0 := by
  cases c.leaf entry with
  | none => exact (add_zero c.accumulator).symm
  | some leaf => rfl

variable {c hash entry}

/-- Scores that show the same have the same leaves. -/
theorem Mirrors.of_shown {c' : Commitment} (mirrors : c.Mirrors hash) (sameLeaf : c'.leaf = c.leaf)
    (sameAccumulator : c'.accumulator = c.accumulator)
    (shown : ∀ entry, (c'.live entry).map RiskScore.shown = (c.live entry).map RiskScore.shown) :
    c'.Mirrors hash where
  leaves := by
    have byShown (d : Commitment) (entry : Entry) :
        d.liveLeaf hash entry = ((d.live entry).map RiskScore.shown).map (leafOf hash entry) := by
      rw [Option.map_map]
      rfl
    funext entry
    rw [sameLeaf, mirrors.leaves, byShown, byShown, shown]
  summed := by rw [sameAccumulator, sameLeaf, mirrors.summed]

theorem Mirrors.covers (mirrors : c.Mirrors hash) : c.Covers hash := by
  rw [Covers, ← mirrors.leaves]
  exact mirrors.summed

/-- A score written with its leaf. -/
theorem Mirrors.written (mirrors : c.Mirrors hash) (score : RiskScore) :
    ((c.write entry score).commit entry (leafOf hash entry score.shown)).Mirrors hash where
  leaves := by
    funext other
    dsimp only [commit, write, liveLeaf]
    rw [mirrors.leaves, Function.update_apply, Function.update_apply]
    split
    · next same => rw [same, Option.map_some]
    · rfl
  summed := by
    dsimp only [commit, write]
    rw [xorSum_update, mirrors.summed]
    rfl

end Commitment

@[reducible] def Tag.isCommitted : Tag → Bool
  | .score | .verkleLeaf | .verkleCommitment => true
  | _ => false

def SameCommitment (w w' : State) : Prop := commitmentIn w'.ledger = commitmentIn w.ledger

instance : About SameCommitment Tag.isCommitted where
  of_only ts w w' free only := by
    have same := (inferInstance : About (Same Tag.isCommitted) _).of_only ts free only
    unfold SameCommitment commitmentIn
    congr 1
    · funext entry
      rw [same.entry .persistent (.score entry.1 entry.2) rfl]
    · funext entry
      rw [same.entry .persistent (.verkleLeaf entry.1 entry.2) rfl]
    · rw [same.entry .inst .verkleCommitment rfl]

instance : IsTrans State SameCommitment where
  trans _ _ _ first second := second.trans first

section Writes

variable {env : ContractEnv} {w : State} (ledger : Ledger DataKey Val) (wallet : Address)
  (pair : Symbol)

theorem commitmentIn_put_score (score : RiskScore) :
    commitmentIn (ledger.put .persistent (.score wallet pair) (some score)) =
      (commitmentIn ledger).write (wallet, pair) score := by
  unfold commitmentIn Commitment.write
  congr 1
  exact ledger.family_put (α := Option RiskScore) .persistent (fun entry => .score entry.1 entry.2)
    (by rintro ⟨⟩ ⟨⟩ ⟨⟩; rfl) (fun _ read => read) (wallet, pair) (some score)

theorem bytes32?_val (bytes : BytesN 32) : bytes32? bytes.1 = some bytes :=
  dif_pos bytes.2

theorem commitmentIn_put_leaf (leaf accumulator : BytesN 32) :
    commitmentIn ((ledger.put .inst .verkleCommitment (some accumulator.1)).put .persistent
        (.verkleLeaf wallet pair) (some leaf.1)) =
      { commitmentIn ledger with
        leaf := Function.update (commitmentIn ledger).leaf (wallet, pair) (some leaf)
        accumulator := accumulator } := by
  have leaves := (ledger.put .inst .verkleCommitment (some accumulator.1)).family_put
    .persistent (fun entry : Entry => DataKey.verkleLeaf entry.1 entry.2)
    (by rintro ⟨⟩ ⟨⟩ ⟨⟩; rfl) (fun _ read => read.bind bytes32?) (wallet, pair) (some leaf.1)
  unfold commitmentIn
  congr 1
  · rw [leaves, Option.bind_some, bytes32?_val]
    rfl
  · change ((some accumulator.1).bind bytes32?).getD zero32 = accumulator
    rw [Option.bind_some, bytes32?_val, Option.getD_some]

theorem setScore_commitment (score : RiskScore) :
    wlp (setScore wallet pair score)
      (fun _ w' => commitmentIn w'.ledger =
        (commitmentIn w.ledger).write (wallet, pair) score) env w := by
  unfold setScore
  rw [wlp_bind, wlp_save]
  refine wlp_mono (wlp_of_keeps (R := SameCommitment)) ?_
  exact fun _ _ same => same.trans (commitmentIn_put_score ..)

theorem updateVerkleCommitment_commitment (adds : AddsLeaf env) (score : RiskScore) :
    wlp (updateVerkleCommitment wallet pair score)
      (fun _ w' => commitmentIn w'.ledger = (commitmentIn w.ledger).commit (wallet, pair)
        (leafOf env.crypto.sha256 (wallet, pair) score.shown)) env w := by
  unfold updateVerkleCommitment deriveEvaluationPoint deriveValueElement hashLeaf
    getVerkleCommitmentRaw getVerkleLeaf sha256
  simp only [wlp_bind, wlp_asks, wlp_pure, wlp_load, wlp_save]
  rw [commitmentIn_put_leaf, adds]
  have removed := (commitmentIn w.ledger).remove_leaf (wallet, pair)
  rw [Commitment.commit, ← removed]
  rfl

/-- What the subs preserve. -/
def Mirrored (env : ContractEnv) (w : State) : Prop :=
  AddsLeaf env → (commitmentIn w.ledger).Mirrors env.crypto.sha256

instance : CarriedBy Mirrored SameCommitment where
  forth same mirrored adds := by
    rw [same]
    exact mirrored adds

/-- A score has been written, but not yet its leaf. -/
def Unmirrored (wallet : Address) (pair : Symbol) (score : RiskScore) (env : ContractEnv)
    (w : State) : Prop :=
  AddsLeaf env → ∃ c : Commitment, c.Mirrors env.crypto.sha256 ∧
    commitmentIn w.ledger = c.write (wallet, pair) score

instance (score : RiskScore) : CarriedBy (Unmirrored wallet pair score) SameCommitment where
  forth same unmirrored adds := by
    rw [same]
    exact unmirrored adds

theorem setScore_unmirrored {score : RiskScore} (mirrored : Mirrored env w) :
    wlp (setScore wallet pair score)
      (fun _ w' => Unmirrored wallet pair score env w') env w :=
  wlp_mono (setScore_commitment wallet pair score)
    fun _ _ written adds => ⟨_, mirrored adds, written⟩

theorem updateVerkleCommitment_mirrored {score : RiskScore}
    (unmirrored : Unmirrored wallet pair score env w) :
    wlp (updateVerkleCommitment wallet pair score) (fun _ w' => Mirrored env w') env w := by
  intro u w' ran adds
  obtain ⟨c, mirrors, written⟩ := unmirrored adds
  rw [updateVerkleCommitment_commitment wallet pair adds score u w' ran, written]
  exact mirrors.written score

end Writes

/-! ### Submissions -/

section Submissions

set_option synthInstance.maxSize 100000000

instance (wallet : Address) (pair : Symbol) (score : RiskScore) :
    Preserves Mirrored (writeScoreWithRateLimit wallet pair score) := by
  refine .of_wlp fun env w held => ?_
  unfold writeScoreWithRateLimit
  refine wlp_carry held fun previous w₁ held => ?_
  refine wlp_seq (setScore_unmirrored wallet pair held) fun _ w₂ held => ?_
  iterate 9 refine wlp_carry held fun _ _ held => ?_
  refine wlp_carry held fun _ w₃ held => ?_
  refine wlp_seq (updateVerkleCommitment_mirrored wallet pair held) fun _ w₄ held => ?_
  refine wlp_carry held fun _ _ held => ?_
  exact fun _ _ ran => Preserves.ok ran held

instance (threshold : Nat) (ns : NormalizedSubmission) (previous : Option Nat) :
    Preserves Mirrored (writeBatchEntry threshold ns previous) := by
  refine .of_wlp fun env w held => ?_
  unfold writeBatchEntry
  refine wlp_carry held fun _ _ held => wlp_carry held fun _ w₁ held => ?_
  refine wlp_seq (setScore_unmirrored ns.wallet ns.assetPair held) fun _ w₂ held => ?_
  iterate 3 refine wlp_carry held fun _ _ held => ?_
  refine wlp_carry held fun _ w₃ held => ?_
  refine wlp_seq (updateVerkleCommitment_mirrored ns.wallet ns.assetPair held) fun _ w₄ held => ?_
  exact fun _ _ ran => Preserves.ok ran held

variable (signers : List Address) (ns : NormalizedSubmission) (sub : ScoreSubmission)
  (wallet : Address) (pair : Symbol)

instance (buffer : Nat) : Preserves Mirrored (landScore signers ns buffer) := by
  unfold landScore
  infer_instance

instance : Preserves Mirrored (finalizeScoreSubmission signers ns) := by
  unfold finalizeScoreSubmission
  infer_instance

instance (input : Option ScoreAttestationInput) :
    Preserves Mirrored (submitScore signers sub input) := by
  unfold submitScore
  infer_instance

instance (attestation : RelayScoreAttestation) (digest : BytesN 32) :
    Preserves Mirrored (acceptRelay wallet sub attestation digest) := by
  unfold acceptRelay
  infer_instance

instance (attestation : RelayScoreAttestation) :
    Preserves Mirrored (relayAttestedScore wallet sub attestation) := by
  unfold relayAttestedScore
  infer_instance

instance (votes : List ModelSubmission) (timestamp : Nat) :
    Preserves Mirrored (submitConsensusScore signers wallet pair votes timestamp) := by
  unfold submitConsensusScore
  infer_instance

instance (votes : List ModelSubmission) (nonces : List Nat) (timestamp : Nat) :
    Preserves Mirrored (revealConsensus signers wallet pair votes nonces timestamp) := by
  unfold revealConsensus
  infer_instance

instance (threshold : Nat) : Preserves Mirrored (judgeValidEntry threshold ns) := by
  unfold judgeValidEntry
  infer_instance

instance (threshold : Nat) : Preserves Mirrored (judgeEntry threshold sub) := by
  unfold judgeEntry
  infer_instance

instance (subs : List ScoreSubmission) : Preserves Mirrored (submitScoresBatch subs) := by
  unfold submitScoresBatch batchLoop batchStep
  infer_instance

end Submissions

/-! ### Runs -/

abbrev shownAt (w : State) (entry : Entry) : Option (Nat × Nat) :=
  (liveScore w entry.1 entry.2).map RiskScore.shown

/-- The calls that write scores without their leaves find the score and the time they write,
and none of them erases a live score. -/
def CommitsScores (w : State) (tx : Transaction) : Prop :=
  match tx.call with
  | .user (.commitPendingScore wallet pair) =>
    ∀ pending ∈ parkedScore w wallet pair,
      shownAt w (wallet, pair) = some pending.toRiskScore.shown
  | .user (.submitScoresBatchAttested _ subs _) =>
    ∀ entry ∈ subs, shownAt w (entry.submission.wallet, entry.submission.assetPair) =
      some (entry.submission.score, entry.submission.timestamp)
  | .user (.propagateContagion anchor pair boost) =>
    ∀ counterparty ∈ counterpartiesOf w anchor pair,
      raisedScore tx.env.timestamp boost (scoreBook w.ledger) (counterparty, pair) = none
  | .admins _ (.resolveDisputeAdmin wallet pair score) =>
    shownAt w (wallet, pair) = some (score, tx.env.timestamp)
  | .admins _ (.clearScoreWithAudit wallet pair _ _) => shownAt w (wallet, pair) = none
  | _ => True

theorem infections_eq_nil {time boost : Nat} {pair : Symbol} {book : ScoreBook}
    {counterparties : List Address}
    (none : ∀ counterparty ∈ counterparties,
      raisedScore time boost book (counterparty, pair) = none) :
    infections time boost pair book counterparties = [] := by
  induction counterparties with
  | nil => rfl
  | cons counterparty rest ih =>
    rw [infections, none counterparty List.mem_cons_self]
    exact ih fun other listed => none other (List.mem_cons_of_mem _ listed)

/-- Postings that show what was there leave it so. -/
theorem shown_applyAll {rules : Rules} {now : Nat} {book : ScoreBook} {postings : List Posting}
    {shown : Entry → Option (Nat × Nat)}
    (same : ∀ posting ∈ postings, ∀ entry score, posting.written = some (entry, score) →
      score.map RiskScore.shown = shown entry)
    (start : ∀ entry, (book.live entry).map RiskScore.shown = shown entry)
    (entry : Entry) :
    ((applyAll rules now book postings).live entry).map RiskScore.shown = shown entry := by
  induction postings generalizing book with
  | nil => exact start entry
  | cons posting rest ih =>
    refine ih (fun other listed => same other (List.mem_cons_of_mem _ listed)) fun other => ?_
    rw [live_apply]
    cases written : posting.written with
    | none => exact start other
    | some write =>
      dsimp only [Option.elim_some]
      rw [Function.update_apply]
      split
      · next isWritten =>
        rw [isWritten]
        exact same posting List.mem_cons_self write.1 write.2 written
      · exact start other

@[reducible] def Tag.isLeaf : Tag → Bool
  | .verkleLeaf | .verkleCommitment => true
  | _ => false

section Steps

variable {env : ContractEnv} {w w' : State} {call : Call} {u : Unit}

/-- A call that leaves the leaves alone and shows the scores it found. -/
theorem mirrored_of_shown (mirrored : Mirrored env w)
    (ran : exec call env w = .ok u w')
    (free : (footprint call).all (fun t => !t.isLeaf) = true)
    (same : ∀ posting ∈ postingsOf env w call, ∀ entry score,
      posting.written = some (entry, score) → score.map RiskScore.shown = shownAt w entry) :
    Mirrored env w' := by
  intro adds
  have kept : Same Tag.isLeaf w w' := About.of_all free ((exec_keeps call).ok ran)
  refine (mirrored adds).of_shown ?_ ?_ fun entry => ?_
  · funext entry
    dsimp only [commitmentIn]
    rw [kept.entry .persistent (.verkleLeaf entry.1 entry.2) rfl]
  · dsimp only [commitmentIn]
    rw [kept.entry .inst .verkleCommitment rfl]
  · change ((scoreBook w'.ledger).live entry).map RiskScore.shown = shownAt w entry
    rw [(exec_booked ran).book]
    exact shown_applyAll same (fun _ => rfl) entry

theorem exec_mirrored (mirrored : Mirrored env w) (commits : CommitsScores w ⟨env, call⟩)
    (ran : exec call env w = .ok u w') : Mirrored env w' := by
  have unchanged (free : (footprint call).all (fun t => !t.isCommitted) = true) :
      Mirrored env w' :=
    CarriedBy.forth (About.of_all (R := SameCommitment) free ((exec_keeps call).ok ran))
      mirrored
  rcases call with call | ⟨signers, call⟩ | call
  · cases call
    case submitScore signers sub input =>
      exact Preserves.ok (m := submitScore signers sub input) ran mirrored
    case relayAttestedScore relayer sub attestation =>
      exact Preserves.ok (m := dropResult (relayAttestedScore relayer sub attestation)) ran
        mirrored
    case submitScoresBatch subs =>
      exact Preserves.ok (m := dropResult (submitScoresBatch subs)) ran mirrored
    case revealConsensus signers wallet pair votes nonces timestamp =>
      exact Preserves.ok (m := revealConsensus signers wallet pair votes nonces timestamp)
        ran mirrored
    case submitConsensusScore signers wallet pair votes timestamp =>
      exact Preserves.ok (m := submitConsensusScore signers wallet pair votes timestamp)
        ran mirrored
    case submitScoresBatchAttested signers subs attestation =>
      refine mirrored_of_shown mirrored ran rfl fun posting listed entry score written => ?_
      obtain ⟨sub, isEntry, rfl⟩ := mem_batchPostings listed
      cases written
      exact (commits sub isEntry).symm
    case commitPendingScore wallet pair =>
      refine mirrored_of_shown mirrored ran rfl fun posting listed entry score written => ?_
      obtain ⟨pending, isParked, rfl⟩ := List.mem_map.mp listed
      cases written
      exact (commits pending (Option.mem_toList.mp isParked)).symm
    case propagateContagion anchor pair boost =>
      refine mirrored_of_shown mirrored ran rfl fun posting listed entry score written => ?_
      dsimp only [postingsOf] at listed
      rw [infections_eq_nil commits, ite_self] at listed
      exact absurd listed List.not_mem_nil
    all_goals exact unchanged rfl
  · cases call
    case resolveDisputeAdmin | clearScoreWithAudit =>
      refine mirrored_of_shown mirrored ran rfl fun posting listed entry score written => ?_
      cases List.mem_singleton.mp listed
      cases written
      exact commits.symm
    all_goals exact unchanged rfl
  · exact unchanged (by cases call <;> rfl)

theorem step_mirrored {tx : Transaction} (mirrored : Mirrored tx.env w)
    (commits : CommitsScores w tx) : Mirrored tx.env (step exec w tx) := by
  by_cases returns : Returns exec w tx
  · exact exec_mirrored (w := { w with authorized := [] }) mirrored commits returns.ok
  · rwa [step_of_not_returns returns]

end Steps

theorem run_mirrors {hash : Bytes → BytesN 32} (balance : Balances)
    {txs : List Transaction} (hashes : ∀ tx ∈ txs, tx.env.crypto.sha256 = hash ∧ AddsLeaf tx.env)
    (along : Along exec CommitsScores (genesis balance) txs) :
    (commitmentIn (run exec (genesis balance) txs).ledger).Mirrors hash := by
  have start : (commitmentIn (genesis balance).ledger).Mirrors hash :=
    ⟨rfl, (Finset.sum_eq_zero fun _ _ => rfl).symm⟩
  refine run_invariant (I := fun w => (commitmentIn w.ledger).Mirrors hash) ?_ start
    (along.and (.of_mem hashes))
  rintro w tx mirrors ⟨commits, rfl, adds⟩
  exact step_mirrored (fun _ => mirrors) commits adds

/-- In a run that keeps to the condition the accumulator covers the live scores. -/
theorem commitment_covers (hash : Bytes → BytesN 32) (balance : Balances)
    (txs : List Transaction)
    (hashes : ∀ tx ∈ txs, tx.env.crypto.sha256 = hash ∧ AddsLeaf tx.env)
    (along : Along exec CommitsScores (genesis balance) txs) :
    (commitmentIn (run exec (genesis balance) txs).ledger).Covers hash :=
  (run_mirrors balance hashes along).covers

/-- Leaves are hashed with SHA-256 and taken in by exclusive or, some seconds after the first
transaction. -/
def addingEnv (signers : List Address) (secs : UInt8) : ContractEnv :=
  { hashedEnv signers with
    timestamp := 1000000 + secs.toNat
    timestamp_lt := by have := secs.toNat_lt; omega
    external := { (hashedEnv signers).external with
      updateAccumulator := fun accum z v => xor32 accum (Sha256.digest ([0x02] ++ z.1 ++ v.1)) } }

def addingRun (steps : List (List Address × UInt8 × Call)) : List Transaction :=
  steps.map fun (signers, secs, call) => ⟨addingEnv signers secs, call⟩

theorem addingRun_hashes (steps : List (List Address × UInt8 × Call)) :
    ∀ tx ∈ addingRun steps, tx.env.crypto.sha256 = Sha256.digest ∧ AddsLeaf tx.env := by
  intro tx listed
  obtain ⟨_, _, rfl⟩ := List.mem_map.mp listed
  exact ⟨rfl, fun _ _ _ => rfl⟩

def sampleCovered : List Transaction :=
  addingRun
    [([account 1], 0, .user (.initializeContract (account 1) (account 2))),
      ([account 2], 0, .user (.submitScore [] (sampleSubmission (account 3) 40) none)),
      ([account 2], 0, .user (.submitScoresBatch [sampleSubmission (account 4) 60]))]

theorem commitment_covers_sample :
    (commitmentIn (run exec blank sampleCovered).ledger).Covers Sha256.digest :=
  commitment_covers Sha256.digest _ sampleCovered (addingRun_hashes _)
    ⟨trivial, trivial, trivial, trivial⟩

/-! ### A score without its leaf -/

/-- A score entered where there was none, and not its leaf. -/
theorem Commitment.not_covers_of_entered {c c' : Commitment} {hash : Bytes → BytesN 32}
    {entry : Entry} {score : RiskScore} (covers : c.Covers hash)
    (sameAccumulator : c'.accumulator = c.accumulator) (isNew : c.live entry = none)
    (entered : c'.live = Function.update c.live entry (some score))
    (nonzero : leafOf hash entry score.shown ≠ 0) : ¬ c'.Covers hash := by
  intro covers'
  have leaves : c'.liveLeaf hash =
      Function.update (c.liveLeaf hash) entry (some (leafOf hash entry score.shown)) := by
    funext other
    unfold liveLeaf
    rw [entered, Function.update_apply, Function.update_apply]
    split
    · next same => rw [same, Option.map_some]
    · rfl
  have isEmpty : c.liveLeaf hash entry = none := by rw [liveLeaf, isNew, Option.map_none]
  rw [Covers, leaves, xorSum_update, isEmpty, Option.getD_none, add_zero, sameAccumulator,
    show c.accumulator = _ from covers] at covers'
  exact nonzero (left_eq_add.mp covers')

/-- Scores wait for a minute before they are live. -/
def sampleWaiting : List Transaction :=
  addingRun
    [([account 1], 0, .user (.initializeContract (account 1) (account 2))),
      ([account 1], 0, .admins [account 1] (.setFinalityBuffer 60)),
      ([account 2], 0, .user (.submitScore [] (sampleSubmission (account 3) 40) none))]

def waiting : State := run exec blank sampleWaiting

def waited : State :=
  step exec waiting ⟨addingEnv [] 60, .user (.commitPendingScore (account 3) samplePair)⟩

theorem live_commitPendingScore {w : State} {env : ContractEnv} {wallet : Address}
    {pair : Symbol} {pending : PendingScoreEntry}
    (returns : Returns exec w ⟨env, .user (.commitPendingScore wallet pair)⟩)
    (isParked : parkedScore w wallet pair = some pending) :
    (commitmentIn (step exec w ⟨env, .user (.commitPendingScore wallet pair)⟩).ledger).live =
      Function.update (commitmentIn w.ledger).live (wallet, pair)
        (some pending.toRiskScore) := by
  have made : postings w ⟨env, .user (.commitPendingScore wallet pair)⟩ =
      [.committed (wallet, pair) pending] := by
    rw [postings, if_pos returns]
    change (parkedScore w wallet pair).toList.map _ = _
    rw [isParked]
    rfl
  have booked := (step_booked w ⟨env, .user (.commitPendingScore wallet pair)⟩).book
  rw [made] at booked
  exact congrArg ScoreBook.live booked

theorem committed_score_uncovered : ¬ (commitmentIn waited.ledger).Covers Sha256.digest := by
  have along : Along exec CommitsScores blank sampleWaiting :=
    ⟨trivial, trivial, trivial, trivial⟩
  have covers : (commitmentIn waiting.ledger).Covers Sha256.digest :=
    (run_mirrors _ (addingRun_hashes _) along).covers
  have isParked : (parkedScore waiting (account 3) samplePair).map
      (fun pending => pending.toRiskScore.shown) = some (40, 1) := by decide +kernel
  obtain ⟨pending, isParked, shown⟩ := Option.map_eq_some_iff.mp isParked
  have returns : Returns exec waiting
      ⟨addingEnv [] 60, .user (.commitPendingScore (account 3) samplePair)⟩ := by decide +kernel
  refine Commitment.not_covers_of_entered covers ?_ ?_ (live_commitPendingScore returns isParked) ?_
  · decide +kernel
  · decide +kernel
  · rw [shown]
    decide +kernel

end LedgerLens
