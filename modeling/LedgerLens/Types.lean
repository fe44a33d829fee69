import LedgerLens.Host.Ledger
import Mathlib.Algebra.Ring.Int.Defs

/-!
The data types of the score contract (`types.rs`), its error codes
(`errors.rs`) and its constants (`constants.rs`).

Unsigned machine integers are natural numbers and signed ones integers; where a
bound matters the operation that meets it says so (`Prog.checked`, `satAdd`).
The `Option` standing for `MaybeScoreAttestation` and the like is Lean's own.
-/

namespace LedgerLens

open Host

/-! ### Symbols -/

/-- The characters a symbol may hold. -/
def symbolChar (c : Char) : Bool := c.isAlphanum || c == '_'

/-- Short names: at most 32 letters, digits or underscores. -/
structure Symbol where
  chars : List Char
  valid : (decide (chars.length ≤ 32) && chars.all symbolChar) = true
  deriving DecidableEq

/-- Where a score is kept: a wallet and an asset pair. -/
abbrev Entry := Address × Symbol

instance : LawfulBEq Entry := inferInstance

theorem length_zeros : (List.replicate 32 (0 : UInt8)).length = 32 := List.length_replicate

/-- Symbols are ASCII, so characters and bytes coincide. -/
def Symbol.bytes (s : Symbol) : Bytes := s.chars.map fun c => UInt8.ofNat c.toNat

/-! ### Errors -/

/-- Error values. The last group is returned by the hook entry points but has no
variant in `errors.rs`. -/
inductive Error where
  | alreadyInitialized | notInitialized | unauthorized | invalidScore | invalidConfidence
  | scoreNotFound | contractPaused | noPendingAdminTransfer | emptyBatch | batchTooLarge
  | arithmeticOverflow | upgradeAlreadyPending | noPendingUpgrade | insufficientSigners
  | unauthorizedSigner | invalidThreshold | serviceSetFull | signerAlreadyInSet | signerNotInSet
  | upgradeNotReady | invalidUpgradeDelay | invalidStalenessWindow | rateLimitExceeded
  | invalidCooldown | invalidTimestamp | servicePubkeyNotSet | invalidAttestation
  | invalidPubkeyLength | invalidHistoryDepth | insufficientConsensus | consensusInputEmpty
  | invalidConsensusConfig | adminSetFull | adminSignerNotInSet | insufficientAdminSigners
  | cyclicDelegation | scoreEmbargoed | feeTokenNotSet | quorumFailureWindowNotElapsed
  | revealWindowExpired | commitmentMismatch | invalidFinalityBuffer | noPendingScore
  | finalityWindowNotElapsed | invalidDisputeBond | disputeAlreadyOpen | disputeNotFound
  | disputeNotYetTimedOut | invalidHysteresisMargin | invalidModelPriorWeight
  | scoreHookDispatchInProgress | scoreHookAlreadyRegistered | scoreHookLimitReached
  | scoreHookNotRegistered
  deriving DecidableEq, Repr

namespace Error

/-- The numeric code of an error (`#[repr(u32)]`); zero for the values without
one. -/
def code : Error → Nat
  | alreadyInitialized => 1 | notInitialized => 2 | unauthorized => 3 | invalidScore => 4
  | invalidConfidence => 5 | scoreNotFound => 6 | contractPaused => 7
  | noPendingAdminTransfer => 8 | emptyBatch => 9 | batchTooLarge => 10
  | arithmeticOverflow => 11 | upgradeAlreadyPending => 12 | noPendingUpgrade => 13
  | insufficientSigners => 14 | unauthorizedSigner => 15 | invalidThreshold => 16
  | serviceSetFull => 17 | signerAlreadyInSet => 18 | signerNotInSet => 19
  | upgradeNotReady => 20 | invalidUpgradeDelay => 21 | invalidStalenessWindow => 22
  | rateLimitExceeded => 23 | invalidCooldown => 24 | invalidTimestamp => 25
  | servicePubkeyNotSet => 26 | invalidAttestation => 27 | invalidPubkeyLength => 28
  | invalidHistoryDepth => 29 | insufficientConsensus => 30 | consensusInputEmpty => 31
  | invalidConsensusConfig => 32 | adminSetFull => 33 | adminSignerNotInSet => 34
  | insufficientAdminSigners => 35 | cyclicDelegation => 36 | scoreEmbargoed => 37
  | feeTokenNotSet => 38 | quorumFailureWindowNotElapsed => 39 | revealWindowExpired => 40
  | commitmentMismatch => 41 | invalidFinalityBuffer => 42 | noPendingScore => 43
  | finalityWindowNotElapsed => 44 | invalidDisputeBond => 45 | disputeAlreadyOpen => 46
  | disputeNotFound => 47 | disputeNotYetTimedOut => 48 | invalidHysteresisMargin => 49
  | invalidModelPriorWeight => 50
  | scoreHookDispatchInProgress | scoreHookAlreadyRegistered | scoreHookLimitReached
  | scoreHookNotRegistered => 0

/-! Aliases of `errors.rs`: several conditions share one code. -/

abbrev epochClosed : Error := contractPaused
abbrev modelVersionNotRegistered : Error := invalidScore
abbrev modelVersionDeprecated : Error := unauthorized
abbrev modelVersionNotReady : Error := upgradeNotReady
abbrev modelVersionAlreadyRegistered : Error := signerAlreadyInSet
abbrev tooManySigners : Error := serviceSetFull
abbrev counterpartyLinkFull : Error := serviceSetFull
abbrev invalidKeyOverlap : Error := invalidThreshold
abbrev invalidRevealWindow : Error := invalidThreshold
abbrev invalidDecayRate : Error := invalidThreshold
abbrev feeRecipientNotSet : Error := feeTokenNotSet
abbrev feeRecipientMismatch : Error := unauthorized
abbrev invalidPercentile : Error := invalidThreshold
abbrev parameterProposalNotFound : Error := scoreNotFound
abbrev parameterProposalNotReady : Error := upgradeNotReady
abbrev parameterProposalVetoPeriodEnded : Error := quorumFailureWindowNotElapsed
abbrev parameterProposalExpired : Error := revealWindowExpired
abbrev tooManyPendingParameterProposals : Error := serviceSetFull
abbrev parameterProposalAlreadyExecuted : Error := alreadyInitialized
abbrev parameterProposalVetoed : Error := disputeAlreadyOpen
abbrev invalidParameterKey : Error := invalidThreshold
abbrev invalidParameterValue : Error := invalidScore
abbrev invalidParameterTimeLock : Error := invalidUpgradeDelay
abbrev paramChangeAlreadyPending : Error := upgradeAlreadyPending
abbrev maxReviewersExceeded : Error := serviceSetFull
abbrev reviewerAlreadyExists : Error := signerAlreadyInSet
abbrev invalidPolicy : Error := invalidThreshold
abbrev keeperRewardTokenNotSet : Error := feeTokenNotSet
abbrev invalidKeeperRewardParams : Error := invalidThreshold
abbrev staleAttestation : Error := invalidAttestation
abbrev relayTipTokenNotSet : Error := feeTokenNotSet
abbrev invalidCreditAmount : Error := invalidScore
abbrev gateCreditTokenNotSet : Error := feeTokenNotSet
abbrev insufficientGateCredits : Error := rateLimitExceeded
abbrev noWithdrawalRequest : Error := scoreNotFound
abbrev withdrawalNotYetUnlocked : Error := rateLimitExceeded
abbrev invalidFeeTierSchedule : Error := invalidThreshold
abbrev invalidExemptionExpiry : Error := invalidTimestamp
abbrev actorDisputeLimitExceeded : Error := rateLimitExceeded
abbrev embargoedWalletIndexFull : Error := serviceSetFull

end Error

/-! ### Machine arithmetic -/

abbrev u32Bound : Nat := 2 ^ 32
abbrev u64Bound : Nat := 2 ^ 64
abbrev i64Bound : Int := 2 ^ 63
abbrev i128Bound : Int := 2 ^ 127

/-- `u32::saturating_add`. -/
def satAdd32 (a b : Nat) : Nat := min (a + b) (u32Bound - 1)

/-- `u64::saturating_add`. -/
def satAdd64 (a b : Nat) : Nat := min (a + b) (u64Bound - 1)

/-- `u64::saturating_mul`. -/
def satMul64 (a b : Nat) : Nat := min (a * b) (u64Bound - 1)

/-- `u128::saturating_mul`. -/
def satMul128 (a b : Nat) : Nat := min (a * b) (2 ^ 128 - 1)

/-- `i64::saturating_add`. -/
def satAddI64 (a b : Int) : Int := max (-i64Bound) (min (a + b) (i64Bound - 1))

/-- `i128::saturating_add`. -/
def satAddI128 (a b : Int) : Int := max (-i128Bound) (min (a + b) (i128Bound - 1))

/-- `i128::saturating_sub`. -/
def satSubI128 (a b : Int) : Int := max (-i128Bound) (min (a - b) (i128Bound - 1))

/-- `i128::saturating_mul`. -/
def satMulI128 (a b : Int) : Int := max (-i128Bound) (min (a * b) (i128Bound - 1))

/-- `abs_diff` of unsigned integers. -/
def absDiff (a b : Nat) : Nat := (a - b) + (b - a)

/-- Big-endian bytes of an unsigned integer of the given width. -/
def toBeBytes (width n : Nat) : Bytes :=
  (List.range width).map fun i => UInt8.ofNat (n / 256 ^ (width - 1 - i) % 256)

/-- Little-endian bytes of an unsigned integer of the given width. -/
def toLeBytes (width n : Nat) : Bytes := (toBeBytes width n).reverse

/-- Little-endian bytes of an `i128`. -/
def i128LeBytes (n : Int) : Bytes := toLeBytes 16 (n % 2 ^ 128).toNat

/-! ### Constants -/

abbrev maxScore : Nat := 100
abbrev maxHistoryDepth : Nat := 50
abbrev defaultHistoryMaxDepth : Nat := 10
abbrev maxBatchSize : Nat := 20
abbrev maxScoreChangeHooksPerPair : Nat := 4
abbrev maxScoreChangeHooksGlobal : Nat := 32
abbrev maxScoreChangeHooksPerDispatch : Nat := 1
abbrev defaultScoreHookFailureThreshold : Nat := 3
abbrev maxScoreHookFailureThreshold : Nat := 10
abbrev maxAssetPairBytes : Nat := 9
abbrev maxScoreCommitmentBytes : Nat := 32
abbrev maxDisputeBondPreimageBytes : Nat := 80
abbrev maxDisputeBondSaltBytes : Nat := 64
abbrev defaultRiskThreshold : Nat := 75
abbrev defaultJumpThreshold : Nat := 30
abbrev contractVersion : Nat := 5
abbrev maxMerkleProofDepth : Nat := 30
abbrev defaultCooldownSecs : Nat := 3600
abbrev minCooldownSecs : Nat := 60
abbrev maxCooldownSecs : Nat := 86400
abbrev minUpgradeDelaySecs : Nat := 172800
abbrev maxUpgradeDelaySecs : Nat := 1209600
abbrev defaultUpgradeDelaySecs : Nat := 172800
abbrev maxServiceSigners : Nat := 10
abbrev maxAdminSigners : Nat := 5
abbrev defaultStalenessWindowSecs : Nat := 604800
abbrev defaultOracleStalenessThresholdSecs : Nat := 3600
abbrev failoverStalenessWindow : Nat := 3600
abbrev maxDecayLambdaNum : Nat := 1
abbrev maxDecayLambdaDen : Nat := 1
abbrev maxPausedPairs : Nat := 50
abbrev maxCounterpartyLinksPerWallet : Nat := 50
abbrev maxDelegationDepth : Nat := 5
abbrev defaultScoreFloorHwm : Nat := 80
abbrev defaultScoreFloorMin : Nat := 20
abbrev minScoreFloorHwm : Nat := 50
abbrev maxScoreFloorHwm : Nat := 100
abbrev maxHysteresisMargin : Nat := 50
abbrev maxEmbargoedWallets : Nat := 100
abbrev defaultConsensusThresholdK : Nat := 2
abbrev defaultConsensusEpsilon : Nat := 5
abbrev defaultEscalationThreshold : Nat := 5
abbrev minEscalationThreshold : Nat := 2
abbrev maxEscalationThreshold : Nat := 20
abbrev maxModelVersions : Nat := 20
abbrev disputeChallengePeriodSecs : Nat := 604800
abbrev disputeBonusPct : Int := 10
abbrev maxOpenDisputes : Nat := 100
abbrev maxDisputesPerActor : Nat := 5
abbrev maxFinalityBufferSecs : Nat := 86400
abbrev defaultHeartbeatAlertThresholdSecs : Nat := 3600
abbrev maxKeyOverlapSecs : Nat := 86400
abbrev maxRevealWindowSecs : Nat := 604800
abbrev hllMinPrecision : Nat := 4
abbrev hllMaxPrecision : Nat := 16
abbrev hllDefaultPrecision : Nat := 8
abbrev maxTrackedScoreEntries : Nat := 500
abbrev maxExpiringEntriesPerCall : Nat := 100
abbrev keeperBatchMax : Nat := maxExpiringEntriesPerCall
abbrev defaultKeeperRewardWindow : Nat := 0
abbrev maxKeeperRewardPerEntry : Int := 1000000000
abbrev maxFeeTiers : Nat := 10
abbrev maxGateFeeTier : Int := 1000000000
abbrev defaultFeeTierWindowLedgers : Nat := 17280
abbrev maxPendingParameterProposals : Nat := 10
abbrev defaultParamChangeDelaySecs : Nat := 86400
abbrev maxRateLimitOverrideLog : Nat := 100
abbrev maxMandatoryReviewers : Nat := 10
abbrev maxStoredSnapshots : Nat := 10
abbrev scoreTtlThreshold : Nat := 518400
abbrev scoreTtlExtendTo : Nat := 777600

end LedgerLens
