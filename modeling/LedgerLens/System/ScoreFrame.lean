import LedgerLens.Frames
import LedgerLens.System.Footprints

/-!
Which live scores the write paths leave alone. Footprints say that a path
writes scores; here it is said whose: a write for one wallet and pair spares
the scores of all others.
-/

namespace LedgerLens

open Host Host.Prog Storage

/-! ### Score keys -/

@[reducible] def Tag.isScore : Tag → Bool
  | .score => true
  | _ => false

/-- The scores of the entries in `spared` are the same. -/
def SparesScores (spared : Address → Symbol → Prop) (w w' : State) : Prop :=
  ∀ wallet pair, spared wallet pair →
    liveScore w' wallet pair = liveScore w wallet pair

/-- The score of this entry is not spared. -/
class Written (spared : Address → Symbol → Prop) (wallet : Address) (pair : Symbol) :
    Prop where
  out : ¬ spared wallet pair

section Frame

set_option synthInstance.maxSize 100000000

variable {spared : Address → Symbol → Prop}

instance : About (SparesScores spared) Tag.isScore where
  of_only _ _ _ free only wallet pair _ :=
    only.entry _ (.score wallet pair) fun listed => Bool.noConfusion (free _ listed)

instance : IsTrans State (SparesScores spared) where
  trans _ _ _ first second wallet pair isSpared :=
    (second wallet pair isSpared).trans (first wallet pair isSpared)

theorem sparesScores_put {w : State} {d : Durability} {wallet : Address} {pair : Symbol}
    (v : Option RiskScore) [written : Written spared wallet pair] :
    SparesScores spared w { w with ledger := w.ledger.put d (.score wallet pair) v } := by
  intro wallet' assetPair' isSpared
  apply Ledger.entry_put_of_ne
  rintro ⟨⟩
  exact written.out isSpared

instance (d : Durability) (wallet : Address) (pair : Symbol) (score : RiskScore)
    [Written spared wallet pair] :
    Keeps (SparesScores spared) (store d (.score wallet pair) score) :=
  Keeps.of_update fun _ => sparesScores_put (some score)

/-! ### The write paths -/

variable (wallet : Address) (pair : Symbol) [Written spared wallet pair]

instance (score : RiskScore) : Keeps (SparesScores spared) (setScore wallet pair score) := by
  unfold setScore
  infer_instance

instance (score : RiskScore) :
    Keeps (SparesScores spared) (writeScoreWithRateLimit wallet pair score) := by
  unfold writeScoreWithRateLimit
  infer_instance

instance (signers : List Address) (ns : NormalizedSubmission) (buffer : Nat)
    [Written spared ns.wallet ns.assetPair] :
    Keeps (SparesScores spared) (landScore signers ns buffer) := by
  unfold landScore
  infer_instance

instance (signers : List Address) (ns : NormalizedSubmission)
    [Written spared ns.wallet ns.assetPair] :
    Keeps (SparesScores spared) (finalizeScoreSubmission signers ns) := by
  unfold finalizeScoreSubmission
  infer_instance

section Submissions

variable (sub : ScoreSubmission) [Written spared sub.wallet sub.assetPair]

instance (signers : List Address) (input : Option ScoreAttestationInput) :
    Keeps (SparesScores spared) (submitScore signers sub input) := by
  unfold submitScore
  infer_instance

instance (relayer : Address) (attestation : RelayScoreAttestation) (digest : BytesN 32) :
    Keeps (SparesScores spared) (acceptRelay relayer sub attestation digest) := by
  unfold acceptRelay
  infer_instance

instance (relayer : Address) (attestation : RelayScoreAttestation) :
    Keeps (SparesScores spared) (relayAttestedScore relayer sub attestation) := by
  unfold relayAttestedScore
  infer_instance

end Submissions

section Batches

variable (threshold : Nat) (ns : NormalizedSubmission) [Written spared ns.wallet ns.assetPair]

instance (previous : Option Nat) :
    Keeps (SparesScores spared) (writeBatchEntry threshold ns previous) := by
  unfold writeBatchEntry
  infer_instance

instance : Keeps (SparesScores spared) (judgeValidEntry threshold ns) := by
  unfold judgeValidEntry
  infer_instance

omit [Written spared ns.wallet ns.assetPair] in
instance (sub : ScoreSubmission) [written : Written spared sub.wallet sub.assetPair] :
    Written spared sub.normalize.wallet sub.normalize.assetPair :=
  written

instance (sub : ScoreSubmission) [Written spared sub.wallet sub.assetPair] :
    Keeps (SparesScores spared) (judgeEntry threshold sub) := by
  unfold judgeEntry
  infer_instance

instance (previous : Option Nat) :
    Keeps (SparesScores spared) (writeAttestedEntry threshold ns previous) := by
  unfold writeAttestedEntry
  infer_instance

instance : Keeps (SparesScores spared) (judgeAttestedPolicy threshold ns) := by
  unfold judgeAttestedPolicy
  infer_instance

instance (versionSet : List Nat) :
    Keeps (SparesScores spared) (judgeProvenEntry threshold versionSet ns) := by
  unfold judgeProvenEntry
  infer_instance

instance (versionSet : List Nat) (root : BytesN 32) (entry : ScoreSubmissionWithProof)
    [Written spared entry.submission.wallet entry.submission.assetPair] :
    Keeps (SparesScores spared) (judgeAttestedEntry threshold versionSet root entry) := by
  unfold judgeAttestedEntry
  infer_instance

end Batches

instance (signers : List Address) (votes : List ModelSubmission) (nonces : List Nat)
    (timestamp : Nat) :
    Keeps (SparesScores spared)
      (revealConsensus signers wallet pair votes nonces timestamp) := by
  unfold revealConsensus
  infer_instance

instance (signers : List Address) (votes : List ModelSubmission) (timestamp : Nat) :
    Keeps (SparesScores spared)
      (submitConsensusScore signers wallet pair votes timestamp) := by
  unfold submitConsensusScore
  infer_instance

instance : Keeps (SparesScores spared) (commitPendingScore wallet pair) := by
  unfold commitPendingScore
  infer_instance

instance (anchor : Address) (boost affected : Nat) :
    Keeps (SparesScores spared) (infect anchor pair boost affected wallet) := by
  unfold infect
  infer_instance

omit [Written spared wallet pair] in
instance (anchor : Address) (boost : Nat) [∀ other, Written spared other pair] :
    Keeps (SparesScores spared) (propagateContagion anchor pair boost) := by
  unfold propagateContagion
  infer_instance

end Frame

end LedgerLens
