import LedgerLens.Entry.Corrections
import LedgerLens.Entry.Relay

/-!
Money: collected fees, rewards for keepers who renew entries, tips for relayers,
and the prepaid credits that metered gate queries are paid from.
-/

namespace LedgerLens

open Host Host.Prog Storage

variable (adminSigners : List Address)

/-! ### Collected fees -/

abbrev setFeeToken (token : Address) : M Unit :=
  asSingleAdmin (pure ()) (store .inst .feeToken token)

abbrev setFeeRecipient (recipient : Address) : M Unit :=
  asAdmins adminSigners (pure ()) (store .inst .feeRecipient recipient)

/-- The recipient authorises besides the administrators. -/
abbrev withdrawFees (recipient : Address) (amount : Int) : M Unit :=
  asAdmins adminSigners (do require (!(← isPaused)) .contractPaused) do
    require (amount ≠ 0) .invalidScore
    let feeToken ← okOr (← getFeeToken) .feeTokenNotSet
    let registered ← okOr (← fetch .inst .feeRecipient) .feeRecipientNotSet
    require (recipient = registered) .feeRecipientMismatch
    requireAuth recipient
    require (!(← fetchOr .inst .withdrawalLock false)) .contractPaused
    store .inst .withdrawalLock true
    transfer feeToken (← asks Env.self) recipient amount
    remove .inst .withdrawalLock

/-! ### Keeper rewards -/

abbrev getKeeperRewardToken : M (Option Address) := fetch .inst .keeperRewardToken
abbrev getKeeperRewardPool : M Int := fetchOr .inst .keeperRewardPool 0
abbrev getKeeperRewardPerEntry : M Int := fetchOr .inst .keeperRewardPerEntry 0
abbrev getKeeperRewardWindow : M Nat :=
  fetchOr .inst .keeperRewardWindow defaultKeeperRewardWindow
abbrev getKeeperRewardPerLedgerCap : M Int := fetchOr .inst .keeperRewardPerLedgerCap 0

abbrev setKeeperRewardToken (token : Address) : M Unit :=
  asAdmins adminSigners (pure ()) (store .inst .keeperRewardToken token)

abbrev fundKeeperRewardPool (amount : Int) : M Int :=
  asAdmins adminSigners (require (amount > 0) .invalidScore) do
    let admin ← getAdmin
    let token ← okOr (← getKeeperRewardToken) .keeperRewardTokenNotSet
    transfer token admin (← asks Env.self) amount
    let newBalance := satAddI128 (← getKeeperRewardPool) amount
    store .inst .keeperRewardPool newBalance
    return newBalance

abbrev setKeeperRewardParams (rewardPerEntry : Int) (windowLedgers : Nat) (perLedgerCap : Int) :
    M Unit :=
  asAdmins adminSigners
    (require (0 ≤ rewardPerEntry ∧ rewardPerEntry ≤ maxKeeperRewardPerEntry ∧
      windowLedgers ≤ scoreTtlThreshold ∧ 0 ≤ perLedgerCap) .invalidKeeperRewardParams)
    (do
      store .inst .keeperRewardPerEntry rewardPerEntry
      store .inst .keeperRewardWindow windowLedgers
      store .inst .keeperRewardPerLedgerCap perLedgerCap)

/-- The entry was touched long enough ago for a renewal to be rewarded. -/
def keeperEntryEligible (wallet : Address) (assetPair : Symbol) : M Bool := do
  let sequence ← ledgerSequence
  let lastTouched ← fetch .persistent (.scoreEntryLastTouchedLedger wallet assetPair)
  let window ← getKeeperRewardWindow
  return lastTouched.elim false fun last => scoreTtlThreshold - (sequence - last) ≤ window

/-- Renew an entry that exists; moves it to the back of the index. -/
def extendScoreEntryTtl (wallet : Address) (assetPair : Symbol) : M Bool := do
  if (← peekScore wallet assetPair).isNone then return false
  else
    reindexEntryToBack (wallet, assetPair)
    touchScoreEntry wallet assetPair
    return true

abbrev extendEntryTtls (entries : List Entry) : M Nat :=
  asAdmins adminSigners (pure ()) do
    require (entries.length ≤ maxExpiringEntriesPerCall) .batchTooLarge
    fold (fun renewed entry => do
        return renewed + if (← extendScoreEntryTtl entry.1 entry.2) then 1 else 0)
      0 entries

/-- What the pool and the cap of this ledger leave of a reward. -/
def keeperRewardPayable (requestedTotal : Int) : M Int := do
  let pool ← getKeeperRewardPool
  let perLedgerCap ← getKeeperRewardPerLedgerCap
  let payable := min requestedTotal pool
  if perLedgerCap > 0 then
    let alreadySpent ← fetchOr .temporary (.keeperRewardLedgerSpent (← ledgerSequence)) 0
    return min payable (max (satSubI128 perLedgerCap alreadySpent) 0)
  else
    return payable

def payKeeperReward (keeper : Address) (requestedTotal : Int) : M Int := do
  let payable ← keeperRewardPayable requestedTotal
  if payable > 0 then
    let balance ← getKeeperRewardPool
    require (payable ≤ balance) .arithmeticOverflow
    store .inst .keeperRewardPool (balance - payable)
    let sequence ← ledgerSequence
    let alreadySpent ← fetchOr .temporary (.keeperRewardLedgerSpent sequence) 0
    store .temporary (.keeperRewardLedgerSpent sequence) (satAddI128 alreadySpent payable)
    let token ← okOr (← getKeeperRewardToken) .keeperRewardTokenNotSet
    transfer token (← asks Env.self) keeper payable
    return payable
  else
    return payable

/-- Renew one entry if it is eligible. -/
def keeperRenew (renewed : Nat) (entry : Entry) : M Nat := do
  if (← keeperEntryEligible entry.1 entry.2) then
    return renewed + if (← extendScoreEntryTtl entry.1 entry.2) then 1 else 0
  else
    return renewed

def keeperExtendEntryTtls (keeper : Address) (entries : List Entry) : M (Nat × Int) := do
  require (← hasAdmin) .notInitialized
  require (entries.length ≤ keeperBatchMax) .batchTooLarge
  requireAuth keeper
  let rewardPerEntry ← getKeeperRewardPerEntry
  let renewed ← fold keeperRenew 0 entries
  let requested := (List.replicate renewed rewardPerEntry).foldl satAddI128 0
  if rewardPerEntry > 0 ∧ requested > 0 then
    return (renewed, ← payKeeperReward keeper requested)
  else
    return (renewed, 0)

/-! ### Relay tips -/

abbrev setRelayTipToken (token : Address) : M Unit :=
  asAdmins adminSigners (pure ()) (store .inst .relayTipToken token)

abbrev fundRelayTipPool (amount : Int) : M Int :=
  asAdmins adminSigners (require (amount > 0) .invalidScore) do
    let admin ← getAdmin
    let token ← okOr (← getRelayTipToken) .relayTipTokenNotSet
    transfer token admin (← asks Env.self) amount
    let newBalance := satAddI128 (← getRelayTipPool) amount
    store .inst .relayTipPool newBalance
    return newBalance

abbrev setRelayTipParams (amount windowCap : Int) (windowLedgers : Nat) : M Unit :=
  asAdmins adminSigners (require (0 ≤ amount ∧ 0 ≤ windowCap) .invalidKeeperRewardParams) do
    store .inst .relayTipAmount amount
    store .inst .relayTipWindowCap windowCap
    store .inst .relayTipWindowLedgers (max windowLedgers 1)

/-! ### Gate credits -/

abbrev getGateCreditToken : M (Option Address) := fetch .inst .gateCreditToken
abbrev getGateCreditBalance (depositor : Address) : M Int :=
  fetchOr .persistent (.gateCreditBalance depositor) 0
abbrev getGateCreditLiabilityTotal : M Int := fetchOr .inst .gateCreditLiabilityTotal 0
abbrev getGateCreditRevenue : M Int := fetchOr .inst .gateCreditRevenue 0

abbrev setGateCreditToken (token : Address) : M Unit :=
  asAdmins adminSigners (pure ()) (store .inst .gateCreditToken token)

abbrev setGateCreditWithdrawalDelay (delaySecs : Nat) : M Unit :=
  asAdmins adminSigners (pure ()) (store .inst .gateCreditWithdrawalDelay delaySecs)

section

variable (depositor : Address) (amount : Int)

/-- A balance of zero is stored as no entry. -/
def setGateCreditBalance (balance : Int) : M Unit :=
  if balance = 0 then remove .persistent (.gateCreditBalance depositor)
  else store .persistent (.gateCreditBalance depositor) balance

def debitGateBalance : M Unit := do
  let balance ← getGateCreditBalance depositor
  require (amount ≤ balance) .insufficientGateCredits
  setGateCreditBalance depositor (balance - amount)

def subGateCreditLiability : M Unit := do
  store .inst .gateCreditLiabilityTotal (max ((← getGateCreditLiabilityTotal) - amount) 0)

def depositGateCredits : M Int := do
  require (amount > 0) .invalidCreditAmount
  requireAuth depositor
  let token ← okOr (← getGateCreditToken) .gateCreditTokenNotSet
  transfer token depositor (← asks Env.self) amount
  let newBalance := satAddI128 (← getGateCreditBalance depositor) amount
  setGateCreditBalance depositor newBalance
  store .inst .gateCreditLiabilityTotal (satAddI128 (← getGateCreditLiabilityTotal) amount)
  return newBalance

def withdrawGateCreditsRequest : M Nat := do
  requireAuth depositor
  let balance ← getGateCreditBalance depositor
  require (0 < amount ∧ amount ≤ balance) .invalidCreditAmount
  let delay ← fetchOr .inst .gateCreditWithdrawalDelay 0
  let unlockAt := satAdd64 (← now) delay
  store .persistent (.gateCreditWithdrawalRequest depositor) (amount, unlockAt)
  return unlockAt

def withdrawGateCredits : M Int := do
  requireAuth depositor
  let request ←
    okOr (← fetch .persistent (.gateCreditWithdrawalRequest depositor)) .noWithdrawalRequest
  require (request.2 ≤ (← now)) .withdrawalNotYetUnlocked
  remove .persistent (.gateCreditWithdrawalRequest depositor)
  require (request.1 ≤ (← getGateCreditBalance depositor)) .invalidCreditAmount
  debitGateBalance depositor request.1
  subGateCreditLiability request.1
  let token ← okOr (← getGateCreditToken) .gateCreditTokenNotSet
  transfer token (← asks Env.self) depositor request.1
  return request.1

end

abbrev withdrawGateCreditRevenue (recipient : Address) (amount : Int) : M Unit :=
  asAdmins adminSigners (require (amount > 0) .invalidCreditAmount) do
    let total ← getGateCreditRevenue
    require (amount ≤ total) .arithmeticOverflow
    store .inst .gateCreditRevenue (total - amount)
    let token ← okOr (← getGateCreditToken) .gateCreditTokenNotSet
    transfer token (← asks Env.self) recipient amount

/-! ### Fee tiers -/

/-- Fees are bounded and the volumes strictly ascend. -/
def feeTiersValid (tiers : List FeeTier) : Bool :=
  tiers.length ≤ maxFeeTiers && tiers.all (fun tier => 0 ≤ tier.fee && tier.fee ≤ maxGateFeeTier) &&
    decide ((tiers.map FeeTier.minVolume).Pairwise (· < ·))

abbrev setFeeTierSchedule (tiers : List FeeTier) : M Unit :=
  asAdmins adminSigners (require (feeTiersValid tiers) .invalidFeeTierSchedule)
    (store .inst .feeTierSchedule tiers)

abbrev setFeeTierWindowLedgers (windowLedgers : Nat) : M Unit :=
  asAdmins adminSigners (require (windowLedgers ≠ 0) .invalidFeeTierSchedule)
    (store .inst .feeTierWindowLedgers windowLedgers)

abbrev setFeeExemption (consumer : Address) (expiresAt reasonCode : Nat) : M Unit :=
  asAdmins adminSigners (do require ((← now) < expiresAt) .invalidExemptionExpiry)
    (store .persistent (.feeExemption consumer) (expiresAt, reasonCode))

abbrev clearFeeExemption (consumer : Address) : M Unit :=
  asAdmins adminSigners (pure ()) (remove .persistent (.feeExemption consumer))

/-- The fee of the last tier reached, scanning until one is not. -/
def computeGateFee (tiers : List FeeTier) (volumeBeforeCall : Nat) : Int :=
  ((tiers.takeWhile fun tier => tier.minVolume ≤ volumeBeforeCall).getLast?).elim 0 FeeTier.fee

/-- Count the call in the consumer's window; the result is the count before. -/
def advanceConsumerVolumeWindow (consumer : Address) : M Nat := do
  let windowLen ← fetchOr .inst .feeTierWindowLedgers defaultFeeTierWindowLedgers
  let sequence ← ledgerSequence
  let last ← fetchOr .persistent (.consumerVolumeWindow consumer) (sequence, 0)
  let window := if sequence - last.1 ≥ windowLen then (sequence, 0) else last
  store .persistent (.consumerVolumeWindow consumer) (window.1, satAdd32 window.2 1)
  return window.2

/-- Charge a metered query unless the consumer is exempt. -/
def chargeGateQuery (consumer : Address) : M Unit := do
  let time ← now
  let exemption ← fetch .persistent (.feeExemption consumer)
  whenever (!exemption.elim false fun e => time < e.1) do
    let volume ← advanceConsumerVolumeWindow consumer
    let fee := computeGateFee (← fetchOr .inst .feeTierSchedule []) volume
    whenever (fee > 0) do
      debitGateBalance consumer fee
      subGateCreditLiability fee
      store .inst .gateCreditRevenue (satAddI128 (← getGateCreditRevenue) fee)

/-! ### Footprints -/

section Footprints

set_option synthInstance.maxSize 100000000

variable (account : Address) (assetPair : Symbol) (amount : Int)

instance : Touches (keeperEntryEligible account assetPair) [] :=
  ⟨by unfold keeperEntryEligible; infer_instance⟩

instance : Touches (extendScoreEntryTtl account assetPair)
    [.scoreEntryIndex, .scoreEntryLastTouchedLedger] :=
  ⟨by unfold extendScoreEntryTtl; infer_instance⟩

instance : Touches (keeperRewardPayable amount) [] :=
  ⟨by unfold keeperRewardPayable; infer_instance⟩

instance : Touches (payKeeperReward account amount)
    [.balances, .keeperRewardPool, .keeperRewardLedgerSpent] :=
  ⟨by unfold payKeeperReward; infer_instance⟩

instance (renewed : Nat) (entry : Entry) : Touches (keeperRenew renewed entry)
    [.scoreEntryIndex, .scoreEntryLastTouchedLedger] :=
  ⟨by unfold keeperRenew; infer_instance⟩

instance (entries : List Entry) : Touches (keeperExtendEntryTtls account entries)
    [.authorizations, .balances, .scoreEntryIndex, .scoreEntryLastTouchedLedger, .keeperRewardPool,
      .keeperRewardLedgerSpent] :=
  ⟨by unfold keeperExtendEntryTtls; infer_instance⟩

instance : Touches (setGateCreditBalance account amount) [.gateCreditBalance] :=
  ⟨by unfold setGateCreditBalance; infer_instance⟩

instance : Touches (debitGateBalance account amount) [.gateCreditBalance] :=
  ⟨by unfold debitGateBalance; infer_instance⟩

instance : Touches (subGateCreditLiability amount) [.gateCreditLiabilityTotal] :=
  ⟨by unfold subGateCreditLiability; infer_instance⟩

instance : Touches (depositGateCredits account amount)
    [.authorizations, .balances, .gateCreditBalance, .gateCreditLiabilityTotal] :=
  ⟨by unfold depositGateCredits; infer_instance⟩

instance : Touches (withdrawGateCreditsRequest account amount)
    [.authorizations, .gateCreditWithdrawalRequest] :=
  ⟨by unfold withdrawGateCreditsRequest; infer_instance⟩

instance : Touches (withdrawGateCredits account)
    [.authorizations, .balances, .gateCreditWithdrawalRequest, .gateCreditBalance,
      .gateCreditLiabilityTotal] :=
  ⟨by unfold withdrawGateCredits; infer_instance⟩

instance : Touches (advanceConsumerVolumeWindow account) [.consumerVolumeWindow] :=
  ⟨by unfold advanceConsumerVolumeWindow; infer_instance⟩

instance : Touches (chargeGateQuery account)
    [.consumerVolumeWindow, .gateCreditBalance, .gateCreditLiabilityTotal, .gateCreditRevenue] :=
  ⟨by unfold chargeGateQuery; infer_instance⟩

end Footprints

end LedgerLens
