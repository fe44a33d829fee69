import LedgerLens.Types

/-!
The records of `types.rs` that the modelled entry points read, store or return.
Fields keep the order and the names of the source. The `Maybe…` enumerations of
the source are Lean's `Option`.
-/

namespace LedgerLens

open Host

/-! ### Scores and submissions -/

structure RiskScore where
  score : Nat
  benfordFlag : Bool
  mlFlag : Bool
  timestamp : Nat
  confidence : Nat
  modelVersion : Nat
  benfordScore : Nat
  mlScore : Nat
  networkScore : Nat
  commitment : Option Bytes
  deriving DecidableEq

/-- One entry of a batch. -/
structure ScoreSubmission where
  wallet : Address
  assetPair : Symbol
  score : Nat
  benfordFlag : Bool
  mlFlag : Bool
  timestamp : Nat
  confidence : Nat
  modelVersion : Nat
  deriving DecidableEq

/-- A submission after the entry point has checked who sent it. -/
structure NormalizedSubmission where
  wallet : Address
  assetPair : Symbol
  score : Nat
  benfordFlag : Bool
  mlFlag : Bool
  timestamp : Nat
  confidence : Nat
  modelVersion : Nat
  commitment : Option Bytes
  deriving DecidableEq

/-- A submission waiting for the finality buffer to elapse. -/
structure PendingScoreEntry where
  score : Nat
  benfordFlag : Bool
  mlFlag : Bool
  submittedAt : Nat
  confidence : Nat
  modelVersion : Nat
  timestamp : Nat
  commitAfter : Nat
  submittedBy : Address
  commitment : Option Bytes
  deriving DecidableEq

structure AggregateRiskScore where
  aggregateScore : Nat
  pairCount : Nat
  maxPairScore : Nat
  maxPair : Symbol
  benfordFlagCount : Nat
  mlFlagCount : Nat
  lastUpdated : Nat
  decayLambdaApplied : Bool
  deriving DecidableEq

structure BatchEntryResult where
  index : Nat
  accepted : Bool
  rejectionCode : Nat
  deriving DecidableEq

structure BatchResult where
  acceptedCount : Nat
  rejectedCount : Nat
  results : List BatchEntryResult
  deriving DecidableEq

/-- Where a stored score came from and which policy it was checked against. -/
structure SubmissionProvenance where
  modelVersion : Nat
  serviceThreshold : Nat
  signersCount : Nat
  scoreFloorEnabled : Bool
  scoreFloorHighWaterMark : Nat
  scoreFloorValue : Nat
  cooldownSecs : Nat
  epochId : Nat
  ledgerSequence : Nat
  submittedAt : Nat
  validationBranch : Symbol
  deriving DecidableEq

/-! ### Attestations -/

structure ScoreAttestation where
  commitment : BytesN 32
  signature : BytesN 65
  contractId : BytesN 32
  contractVersion : Nat
  nonce : Nat
  deriving DecidableEq

structure ThresholdAttestation where
  commitment : BytesN 32
  thresholdSig : BytesN 65
  participatingSigners : List Address
  contractId : BytesN 32
  contractVersion : Nat
  deriving DecidableEq

structure ScoreAttestationInput where
  attestation : Option ScoreAttestation
  thresholdAttestation : Option ThresholdAttestation
  commitment : Option Bytes
  deriving DecidableEq

structure RelayScoreAttestation where
  commitment : BytesN 32
  signature : BytesN 65
  contractId : BytesN 32
  contractVersion : Nat
  nonce : Nat
  validBeforeLedger : Nat
  deriving DecidableEq

structure BatchAttestation where
  merkleRoot : BytesN 32
  signature : BytesN 65
  deriving DecidableEq

structure ScoreSubmissionWithProof where
  submission : ScoreSubmission
  proof : List (BytesN 32)
  proofFlags : Nat
  deriving DecidableEq

/-- One model's vote in a consensus round. -/
structure ModelSubmission where
  modelVersion : Nat
  model : Address
  score : Nat
  confidence : Nat
  benfordFlag : Bool
  mlFlag : Bool
  attestation : ScoreAttestation
  deriving DecidableEq

structure RevokedKeyRecord where
  fingerprint : BytesN 32
  effectiveFrom : Nat
  reasonCode : Nat
  revokingAuthority : Address
  deriving DecidableEq

/-! ### Derived data kept beside the scores -/

structure ModelVersionStats where
  modelVersion : Nat
  submissionCount : Nat
  scoreSum : Nat
  totalSubmissions : Nat
  averageScore : Nat
  deriving DecidableEq

inductive ModelVersionStatus where
  | proposed | active | deprecated
  deriving DecidableEq

structure HllSketch where
  precision : Nat
  registers : List Nat
  deriving DecidableEq

structure WelfordCorrState where
  n : Nat
  sumA : Int
  sumB : Int
  sumAa : Int
  sumBb : Int
  sumAb : Int
  deriving DecidableEq

structure TokenBucket where
  tokens : Nat
  lastRefill : Nat
  deriving DecidableEq

structure ScoreTrend where
  trend : Int
  consecutive : Nat
  deriving DecidableEq

structure JumpStats where
  maxJump : Nat
  atTimestamp : Nat
  deriving DecidableEq

structure SignerAccuracyRecord where
  madScaled : Nat
  count : Nat
  deriving DecidableEq

/-! ### Policies -/

structure ScoreFloorPolicy where
  enabled : Bool
  highWaterMark : Nat
  floorValue : Nat
  deriving DecidableEq

structure ScoreVelocityCap where
  enabled : Bool
  pointsPerHour : Nat
  deriving DecidableEq

structure AdaptiveRateLimit where
  enabled : Bool
  varianceScale : Nat
  deriving DecidableEq

inductive FlashProtectionMode where
  | warn | reject
  deriving DecidableEq

inductive InterpolationMethod where
  | linear | cubicSpline
  deriving DecidableEq

structure StepWiseEntry where
  timeThresholdSecs : Nat
  scoreValue : Nat
  deriving DecidableEq

/-- How an interpolated score moves between two entries of the history. -/
inductive DecayCurve where
  | exponential | quadratic | logarithmic
  | stepWise (steps : List StepWiseEntry)
  deriving DecidableEq

/-- The policies that can carry an approval address of their own. -/
inductive Policy where
  | scorePolicy | upgradeGovernance | emergencyPause | dataDeletion | signerAdmin
  deriving DecidableEq

structure PolicyApproval where
  enabled : Bool
  approver : Option Address
  deriving DecidableEq

structure DeletionApprovalPolicy where
  enabled : Bool
  approver : Option Address
  deriving DecidableEq

/-- What the deletion events record. -/
structure DeletionAudit where
  wallet : Address
  assetPair : Symbol
  by_ : Address
  latestScorePresent : Bool
  historyCount : Nat
  reasonHash : BytesN 32
  categoryHash : BytesN 32
  multisigEnabled : Bool
  signerCount : Nat
  threshold : Nat
  deriving DecidableEq

inductive EmbargoExpiry where
  | indefinite
  | until (time : Nat)
  deriving DecidableEq

structure ScoreDispute where
  challenger : Address
  bond : Int
  deadline : Nat
  challengedScore : Nat
  deriving DecidableEq

structure TierBounds where
  minScore : Nat
  maxScore : Nat
  deriving DecidableEq

structure ConsumerReadQuota where
  capacity : Nat
  refillRate : Nat
  tokens : Nat
  lastRefill : Nat
  deriving DecidableEq

structure FeeTier where
  minVolume : Nat
  fee : Int
  deriving DecidableEq

/-! ### Governance -/

structure UpgradeProposal where
  newWasmHash : BytesN 32
  proposedAt : Nat
  executableAfter : Nat
  proposedBy : Address
  deriving DecidableEq

structure ParameterProposal where
  paramKey : Symbol
  newValue : Bytes
  proposer : Address
  proposedAt : Nat
  timeLockSecs : Nat
  deriving DecidableEq

inductive ParameterProposalStatus where
  | pending | executed | vetoed | expired
  deriving DecidableEq

structure ParameterProposalRecord where
  proposal : ParameterProposal
  status : ParameterProposalStatus
  deriving DecidableEq

inductive ParamValue where
  | u32 (value : Nat)
  | u64 (value : Nat)
  deriving DecidableEq

structure ParamChangeProposal where
  newValue : ParamValue
  proposedAt : Nat
  applyAfter : Nat
  deriving DecidableEq

structure PolicyBundle where
  riskThreshold : Nat
  cooldownSecs : Nat
  deriving DecidableEq

structure PolicyBundleProposal where
  bundle : PolicyBundle
  proposedAt : Nat
  applyAfter : Nat
  deriving DecidableEq

structure RateLimitOverrideEntry where
  admin : Address
  wallet : Address
  assetPair : Symbol
  timestamp : Nat
  justificationHash : BytesN 32
  deriving DecidableEq

inductive SignerState where
  | pending | active | superseded | revoked
  deriving DecidableEq

structure SignerStateRecord where
  signer : Address
  state : SignerState
  stateChangedAt : Nat
  stateChangedBy : Address
  deriving DecidableEq

inductive AlertType where
  | momentum (wallet : Address) (assetPair : Symbol)
  | serviceSilence
  deriving DecidableEq

structure AlertAckRecord where
  operator : Address
  acknowledgedAt : Nat
  noteHash : BytesN 32
  deriving DecidableEq

structure ScoreChangeHook where
  consumer : Address
  wallet : Address
  assetPair : Symbol
  enabled : Bool
  consecutiveFailures : Nat
  lastDispatchedCount : Nat
  deriving DecidableEq

structure StateSnapshot where
  scoreRoot : BytesN 32
  configRoot : BytesN 32
  authRoot : BytesN 32
  entryCount : Nat
  ledgerSeq : Nat
  timestamp : Nat
  deriving DecidableEq

structure SnapshotHistoryEntry where
  snapshot : StateSnapshot
  createdAt : Nat
  createdBy : Address
  deriving DecidableEq

structure BackupRecord where
  scoreRoot : BytesN 32
  entryCount : Nat
  restoredAt : Nat
  restoredBy : Address
  justificationHash : BytesN 32
  deriving DecidableEq

end LedgerLens
