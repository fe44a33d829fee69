import LedgerLens.Auth

/-!
Registries kept by the administrators: watched and embargoed wallets, score
delegates, model versions, oracles, and who may read the gate how often.
-/

namespace LedgerLens

open Host Host.Prog Storage

variable (adminSigners : List Address)

/-! ### Watchlist -/

/-- A wallet that is not watched has no entry. -/
def setWatchlistFlag (wallet : Address) (flagged : Bool) : M Unit :=
  if flagged then store .persistent (.watchlist wallet) true
  else remove .persistent (.watchlist wallet)

abbrev isWatchlisted (wallet : Address) : M Bool := fetchOr .persistent (.watchlist wallet) false

abbrev setWatchlist (wallet : Address) (flagged : Bool) : M Unit :=
  asAdmins adminSigners (pure ()) (setWatchlistFlag wallet flagged)

abbrev batchAddToWatchlist (wallets : List Address) : M Unit :=
  asAdmins adminSigners (require (wallets.length ≤ maxBatchSize) .batchTooLarge)
    (each wallets fun wallet => do
      whenever (!(← isWatchlisted wallet)) (setWatchlistFlag wallet true))

abbrev batchRemoveFromWatchlist (wallets : List Address) : M Unit :=
  asAdmins adminSigners (require (wallets.length ≤ maxBatchSize) .batchTooLarge)
    (each wallets fun wallet => do
      whenever (← isWatchlisted wallet) (setWatchlistFlag wallet false))

/-! ### Embargoes -/

/-- The embargo still holds at this time. -/
def EmbargoExpiry.activeAt : EmbargoExpiry → Nat → Bool
  | .indefinite, _ => true
  | .until expiry, time => time ≤ expiry

/-- `is_embargoed` and `peek_is_embargoed` differ in the time to live only. -/
def isEmbargoed (wallet : Address) : M Bool := do
  let time ← now
  return (← fetch .temporary (.scoreEmbargo wallet)).elim false (EmbargoExpiry.activeAt · time)

abbrev getEmbargoedWallets : M (List Address) := fetchOr .temporary .embargoedWalletIndex []
abbrev getActiveEmbargoCount : M Nat := fetchOr .persistent .activeEmbargoCount 0

/-- Enter a wallet into the index; fails when the index is full. -/
def addToEmbargoedIndex (wallet : Address) : M Bool := do
  let wallets ← getEmbargoedWallets
  if wallet ∈ wallets then return true
  else if wallets.length ≥ maxEmbargoedWallets then return false
  else do
    store .temporary .embargoedWalletIndex (wallets ++ [wallet])
    return true

def removeFromEmbargoedIndex (wallet : Address) : M Unit := do
  let wallets ← getEmbargoedWallets
  whenever (wallet ∈ wallets) (store .temporary .embargoedWalletIndex (wallets.erase wallet))

def decrementActiveEmbargoCount : M Unit := do
  let newCount := (← getActiveEmbargoCount) - 1
  if newCount = 0 then remove .persistent .activeEmbargoCount
  else store .persistent .activeEmbargoCount newCount

abbrev setScoreEmbargo (wallet : Address) (expiry : Option Nat) : M Unit :=
  asSingleAdmin (pure ()) do
    let isNew := !(← isEmbargoed wallet)
    whenever isNew do
      require (← addToEmbargoedIndex wallet) .embargoedWalletIndexFull
    store .temporary (.scoreEmbargo wallet) (expiry.elim .indefinite .until)
    whenever isNew do
      store .persistent .activeEmbargoCount (satAdd32 (← getActiveEmbargoCount) 1)

abbrev liftScoreEmbargo (wallet : Address) : M Unit :=
  asSingleAdmin (pure ()) do
    let wasEmbargoed ← isEmbargoed wallet
    remove .temporary (.scoreEmbargo wallet)
    removeFromEmbargoedIndex wallet
    whenever wasEmbargoed decrementActiveEmbargoCount

/-- Lift one embargo of a batch. The index of embargoed wallets is left as it
is, and the event names the first admin signer, so an empty list traps. -/
def liftOne (lifted : Nat) (wallet : Address) : M Nat := do
  if (← isEmbargoed wallet) then
    remove .temporary (.scoreEmbargo wallet)
    decrementActiveEmbargoCount
    let _by ← unwrap adminSigners.head?
    return lifted + 1
  else
    return lifted

abbrev batchLiftScoreEmbargo (wallets : List Address) : M Nat :=
  asAdmins adminSigners (pure ()) do
    require (!wallets.isEmpty) .emptyBatch
    require (wallets.length ≤ maxBatchSize) .batchTooLarge
    fold (liftOne adminSigners) 0 wallets

abbrev revokeAllEmbargoes : M Unit :=
  asAdmins adminSigners (pure ()) do
    each (← getEmbargoedWallets) fun wallet => do
      remove .temporary (.scoreEmbargo wallet)
      let _by ← unwrap adminSigners.head?
    remove .temporary .embargoedWalletIndex
    remove .persistent .activeEmbargoCount

/-! ### Delegates -/

abbrev getScoreDelegate (wallet : Address) : M (Option Address) :=
  fetch .persistent (.scoreDelegate wallet)

/-- Follow the delegates of `current` for a bounded number of steps; fails when
they lead back to the wallet. -/
def rejectCycle (subWallet : Address) : Nat → Address → M Unit
  | 0, _ => pure ()
  | depth + 1, current => do
    ifSome (← getScoreDelegate current) fun next => do
      require (next ≠ subWallet) .cyclicDelegation
      rejectCycle subWallet depth next

abbrev setScoreDelegate (subWallet custodian : Address) : M Unit :=
  asSingleAdmin (pure ()) do
    require (custodian ≠ subWallet) .cyclicDelegation
    rejectCycle subWallet maxDelegationDepth custodian
    store .persistent (.scoreDelegate subWallet) custodian

abbrev removeScoreDelegate (subWallet : Address) : M Unit :=
  asSingleAdmin (pure ()) do
    require (← getScoreDelegate subWallet).isSome .scoreNotFound
    remove .persistent (.scoreDelegate subWallet)

/-! ### Model versions -/

/-- Append a version to the registered ones. -/
def enterModelVersion (version : Nat) : M Unit := do
  let versions ← getModelVersionSet
  require (version ∉ versions) .modelVersionAlreadyRegistered
  require (versions.length < maxModelVersions) .serviceSetFull
  store .inst .allModelVersions (versions ++ [version])

abbrev proposeModelVersion (version : Nat) (description : Bytes) : M Unit :=
  asAdmins adminSigners (pure ()) do
    enterModelVersion version
    store .inst (.modelVersionStatus version) .proposed
    store .inst (.modelVersionExecutableAfter version)
      (satAdd64 (← now) (← getUpgradeDelay))
    store .inst (.modelVersionDescription version) description

abbrev approveModelVersion (version : Nat) : M Unit :=
  asAdmins adminSigners (pure ()) do
    let status ← okOr (← getModelVersionStatus version) .scoreNotFound
    require (status ≠ .active) .alreadyInitialized
    require (status ≠ .deprecated) .modelVersionDeprecated
    let executableAfter ← fetchOr .inst (.modelVersionExecutableAfter version) 0
    require (executableAfter ≤ (← now)) .upgradeNotReady
    store .inst (.modelVersionStatus version) .active

abbrev registerModelVersion (version : Nat) : M Unit :=
  asAdmins adminSigners (pure ()) do
    enterModelVersion version
    store .inst (.modelVersionStatus version) .active

abbrev deprecateModelVersion (version : Nat) : M Unit :=
  asAdmins adminSigners (pure ()) do
    let status ← okOr (← getModelVersionStatus version) .scoreNotFound
    require (status ≠ .deprecated) .alreadyInitialized
    store .inst (.modelVersionStatus version) .deprecated

abbrev bulkDeregisterModelVersion (versions : List Nat) : M Unit :=
  asAdmins adminSigners (pure ())
    (each versions fun version => do
      let status ← okOr (← getModelVersionStatus version) .scoreNotFound
      whenever (status ≠ .deprecated) do
        store .inst (.modelVersionStatus version) .deprecated)

/-! ### Oracles and gate readers -/

abbrev registerOracle (assetPair : Symbol) (oracleContract : Address) : M Unit :=
  asAdmins adminSigners (pure ()) (store .inst (.registeredOracle assetPair) oracleContract)

abbrev removeOracle (assetPair : Symbol) : M Unit :=
  asAdmins adminSigners (pure ()) do
    remove .inst (.registeredOracle assetPair)
    remove .inst (.oracleLastUpdated assetPair)

abbrev setOracleStalenessThreshold (thresholdSecs : Nat) : M Unit :=
  asAdmins adminSigners (require (thresholdSecs ≠ 0) .invalidStalenessWindow)
    (store .inst .oracleStalenessThreshold thresholdSecs)

abbrev setGateCallers (callers : List Address) : M Unit :=
  asAdmins adminSigners (pure ()) (store .inst .gateCallers callers)

abbrev setGateEnforcementMode (strict : Bool) : M Unit :=
  asAdmins adminSigners (pure ()) (store .inst .gateOpen strict)

abbrev setFailoverContract (contractId : Address) : M Unit :=
  asAdmins adminSigners (pure ()) (store .inst .failoverContract contractId)

abbrev setConsumerReadQuota (consumer : Address) (capacity refillRate : Nat) : M Unit :=
  asAdmins adminSigners (require (capacity ≠ 0) .invalidThreshold) do
    store .persistent (.consumerReadQuota consumer)
      { capacity, refillRate, tokens := capacity, lastRefill := ← now }

abbrev clearConsumerReadQuota (consumer : Address) : M Unit :=
  asAdmins adminSigners (pure ()) (remove .persistent (.consumerReadQuota consumer))

abbrev setGateQueryFee (amount : Int) : M Unit :=
  asSingleAdmin (pure ()) (store .inst .gateQueryFee amount)

/-! ### Footprints -/

section Footprints

variable (wallet : Address)

instance (flagged : Bool) : Touches (setWatchlistFlag wallet flagged) [.watchlist] :=
  ⟨by unfold setWatchlistFlag; infer_instance⟩

instance : Touches (isEmbargoed wallet) [] := ⟨by unfold isEmbargoed; infer_instance⟩

instance : Touches (addToEmbargoedIndex wallet) [.embargoedWalletIndex] :=
  ⟨by unfold addToEmbargoedIndex; infer_instance⟩

instance : Touches (removeFromEmbargoedIndex wallet) [.embargoedWalletIndex] :=
  ⟨by unfold removeFromEmbargoedIndex; infer_instance⟩

instance : Touches decrementActiveEmbargoCount [.activeEmbargoCount] :=
  ⟨by unfold decrementActiveEmbargoCount; infer_instance⟩

instance (lifted : Nat) : Touches (liftOne adminSigners lifted wallet)
    [.scoreEmbargo, .activeEmbargoCount] :=
  ⟨by unfold liftOne; infer_instance⟩

instance (depth : Nat) (current : Address) : Touches (rejectCycle wallet depth current) [] where
  keeps := by
    induction depth generalizing current with
    | zero =>
      unfold rejectCycle
      infer_instance
    | succ depth ih =>
      unfold rejectCycle
      infer_instance

instance (version : Nat) : Touches (enterModelVersion version) [.allModelVersions] :=
  ⟨by unfold enterModelVersion; infer_instance⟩

end Footprints

end LedgerLens
