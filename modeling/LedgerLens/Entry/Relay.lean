import LedgerLens.Entry.Submit

/-!
Relayed submissions (`relay_attested_score`): anyone may carry a score signed
with the service key to the contract, once, and be paid a tip for it.
-/

namespace LedgerLens

open Host Host.Prog Storage

/-! ### Tips -/

abbrev getRelayTipToken : M (Option Address) := fetch .inst .relayTipToken
abbrev getRelayTipPool : M Int := fetchOr .inst .relayTipPool 0
abbrev getRelayTipAmount : M Int := fetchOr .inst .relayTipAmount 0
abbrev getRelayTipWindowCap : M Int := fetchOr .inst .relayTipWindowCap 0
abbrev getRelayTipWindowLedgers : M Nat := fetchOr .inst .relayTipWindowLedgers 1

/-- What the pool and the cap of the current window leave of a tip. The amount
is charged to the window at once. -/
def relayTipPayable (tip : Int) : M Int :=
  if tip ≤ 0 then return 0
  else do
    let cap ← getRelayTipWindowCap
    let pool ← getRelayTipPool
    if cap = 0 then return min tip pool
    else
      let windowLen ← getRelayTipWindowLedgers
      let sequence ← ledgerSequence
      let last ← fetchOr .inst .relayTipWindowState (sequence, 0)
      let window := if sequence - last.1 ≥ windowLen then (sequence, 0) else last
      let headroom := max (satSubI128 cap window.2) 0
      let payable := min (min tip pool) headroom
      store .inst .relayTipWindowState (window.1, satAddI128 window.2 payable)
      return payable

def debitRelayTipPool (amount : Int) : M Unit := do
  let balance ← getRelayTipPool
  require (amount ≤ balance) .arithmeticOverflow
  store .inst .relayTipPool (balance - amount)

section

variable (relayer : Address) (sub : ScoreSubmission) (attestation : RelayScoreAttestation)

/-- Pay the relayer out of the tip pool. -/
def payRelayTip : M Unit := do
  let tip ← getRelayTipAmount
  whenever (tip > 0) do
    ifSome (← getRelayTipToken) fun token => do
      let payable ← relayTipPayable tip
      whenever (payable > 0) do
        debitRelayTipPool payable
        transfer token (← asks Env.self) relayer payable
        emit (.relayTipPaid relayer payable)

/-! ### The relay -/

/-- The digest a relayed score is signed under: the one of a single submission
with the nonce and the expiry appended. -/
def computeRelayCommitment : M (BytesN 32) := do
  require (sub.assetPair.bytes.length ≤ 9) .invalidAttestation
  let self ← asks Env.self
  let networkId ← asks Env.networkId
  sha256 (sub.wallet.strkey.1 ++ pairBuf sub.assetPair ++ toLeBytes 4 sub.score
    ++ [boolByte sub.benfordFlag, boolByte sub.mlFlag] ++ toLeBytes 8 sub.timestamp
    ++ toLeBytes 4 sub.confidence ++ toLeBytes 4 sub.modelVersion ++ self.strkey.1 ++ networkId.1
    ++ attestation.contractId.1 ++ toLeBytes 4 attestation.contractVersion
    ++ toLeBytes 8 attestation.nonce ++ toLeBytes 4 attestation.validBeforeLedger)

/-- The switches a relay honours. The hook switch is not among them: it is
checked by the direct write only. -/
def ensureRelayOpen (assetPair : Symbol) : M Unit := do
  require (← hasAdmin) .notInitialized
  require (!(← isFrozen)) .contractPaused
  ensureAssetPairBounded assetPair
  require (!(← isPaused)) .contractPaused
  require (!(← isPairPaused assetPair)) .contractPaused
  require (← isEpochOpen) .epochClosed

/-- Check the signature and the nonce of a relayed score, mark it used and
submit it. -/
def acceptRelay (digest : BytesN 32) : M Unit := do
  verifySignature digest attestation.signature
  let service ← getService
  require ((← getSignerNonce service) = attestation.nonce) .invalidAttestation
  require (attestation.nonce + 1 < u64Bound) .invalidAttestation
  store .temporary (.relayedAttestationUsed digest) true
  store .inst (.signerNonce service) (attestation.nonce + 1)
  finalizeScoreSubmission [] {
    wallet := sub.wallet
    assetPair := sub.assetPair
    score := sub.score
    benfordFlag := sub.benfordFlag
    mlFlag := sub.mlFlag
    timestamp := sub.timestamp
    confidence := sub.confidence
    modelVersion := sub.modelVersion
    commitment := none }
  emit (.relayAccepted relayer sub.wallet sub.assetPair)
  payRelayTip relayer

/-- The result says whether the score was new; a second relay of the same score
is not an error. -/
def relayAttestedScore : M Bool := do
  ensureRelayOpen sub.assetPair
  requireAuth relayer
  require (attestation.contractVersion = (← getContractVersion)) .staleAttestation
  require ((← ledgerSequence) ≤ attestation.validBeforeLedger) .staleAttestation
  let digest ← computeRelayCommitment sub attestation
  require (digest = attestation.commitment) .invalidAttestation
  if (← stored .temporary (.relayedAttestationUsed digest)) then
    emit (.relayDuplicateNoop relayer)
    return false
  else
    acceptRelay relayer sub attestation digest
    return true

end

/-! ### Footprints -/

section Footprints

set_option synthInstance.maxSize 100000000

variable (relayer : Address) (sub : ScoreSubmission) (attestation : RelayScoreAttestation)

instance (tip : Int) : Touches (relayTipPayable tip) [.relayTipWindowState] :=
  ⟨by unfold relayTipPayable; infer_instance⟩

instance (amount : Int) : Touches (debitRelayTipPool amount) [.relayTipPool] :=
  ⟨by unfold debitRelayTipPool; infer_instance⟩

instance : Touches (payRelayTip relayer) [.balances, .relayTipWindowState, .relayTipPool] :=
  ⟨by unfold payRelayTip; infer_instance⟩

instance : Touches (computeRelayCommitment sub attestation) [] :=
  ⟨by unfold computeRelayCommitment; infer_instance⟩

instance (assetPair : Symbol) : Touches (ensureRelayOpen assetPair) [] :=
  ⟨by unfold ensureRelayOpen; infer_instance⟩

/-- Everything a relay may write. -/
abbrev relayTags : List Tag :=
  .authorizations :: .balances :: .servicePubKey :: .pendingServicePubKey ::
    .relayedAttestationUsed :: .signerNonce ::
    .relayTipWindowState :: .relayTipPool :: .uniqueWalletsHll :: .serviceSilentAlertEmitted ::
    .lastServiceActivityAt :: .pendingScore :: writeTags

instance (digest : BytesN 32) : Touches (acceptRelay relayer sub attestation digest) relayTags :=
  ⟨by unfold acceptRelay; infer_instance⟩

instance : Touches (relayAttestedScore relayer sub attestation) relayTags :=
  ⟨by unfold relayAttestedScore; infer_instance⟩

end Footprints

end LedgerLens
