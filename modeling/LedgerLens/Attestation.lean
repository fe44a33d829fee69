import LedgerLens.Score.Derived

/-!
Signatures over scores: the commitment a signer signs, public-key recovery
against the registered keys, and Merkle proofs for batches.
-/

namespace LedgerLens

open Host Host.Prog Storage

/-! ### The signed digest -/

def boolByte (b : Bool) : UInt8 := if b then 1 else 0

/-- The digest that binds a score to its wallet, pair, contract and network. -/
def computeCommitment (wallet : Address) (assetPair : Symbol) (score : Nat)
    (benfordFlag mlFlag : Bool) (timestamp confidence modelVersion : Nat)
    (contractId : BytesN 32) (contractVersion : Nat) : M (BytesN 32) := do
  require (assetPair.bytes.length ≤ 9) .invalidAttestation
  let self ← asks Env.self
  let networkId ← asks Env.networkId
  sha256 (wallet.strkey.1 ++ pairBuf assetPair ++ toLeBytes 4 score
    ++ [boolByte benfordFlag, boolByte mlFlag] ++ toLeBytes 8 timestamp ++ toLeBytes 4 confidence
    ++ toLeBytes 4 modelVersion ++ self.strkey.1 ++ networkId.1 ++ contractId.1
    ++ toLeBytes 4 contractVersion)

/-! ### Signature checks -/

/-- A recovered key matches a stored one in full or in compressed form. -/
def pubkeysMatch (recovered : BytesN 65) (stored : Bytes) : Bool :=
  if stored.length = 65 then recovered.1 = stored
  else if stored.length = 33 then
    (if (recovered.1.getD 64 0).toNat % 2 = 0 then 0x02 else 0x03) :: (recovered.1.drop 1).take 32
      = stored
  else false

/-- Revocation is recorded under the hash of the key. -/
def keyRevokedAt (key : Bytes) (timestamp : Nat) : M Bool := do
  isKeyRevokedAt (← sha256 key) timestamp

section

variable (getKey : M (Option Bytes)) (getPending : M (Option (Bytes × Nat)))
  (promote : Bytes → M Unit) (digest : BytesN 32) (sig : BytesN 65)

/-- The first 64 bytes of a signature. -/
def signatureRs : BytesN 64 := ⟨sig.1.take 64, by simp [sig.2]⟩

/-- The last byte of a signature. -/
def recoveryId : Nat := (sig.1.getD 64 0).toNat

/-- Check a signature against a key and the key that is to replace it. A
replacement whose overlap has expired is promoted first. -/
def checkSignature : M Unit := do
  let time ← now
  ifSome (← getPending) fun pending => whenever (time > pending.2) (promote pending.1)
  let pubkey ← okOr (← getKey) .servicePubkeyNotSet
  require (!(← keyRevokedAt pubkey time)) .invalidAttestation
  require (recoveryId sig ≤ 1) .invalidAttestation
  let recovered ← unwrap
    (← asks fun env => env.crypto.recover digest (signatureRs sig) (recoveryId sig))
  if pubkeysMatch recovered pubkey then
    pure ()
  else do
    let usable := (← getPending).filter fun pending =>
      time ≤ pending.2 && pubkeysMatch recovered pending.1
    let pending ← okOr usable .invalidAttestation
    require (!(← keyRevokedAt pending.1 time)) .invalidAttestation

def verifySignature : M Unit :=
  checkSignature getServicePubkey getPendingServicePubkey
    (fun key => do
      store .inst .servicePubKey key
      remove .inst .pendingServicePubKey)
    digest sig

def verifyAggregateSignature : M Unit :=
  checkSignature getAggregateServicePubkey getPendingAggregateServicePubkey
    (fun key => do
      store .inst .aggregateServicePubKey key
      remove .inst .pendingAggregateServicePubKey)
    digest sig

end

def verifyAttestation (sub : NormalizedSubmission) (attestation : Option ScoreAttestation) :
    M Unit := do
  let attestation ← okOr attestation .invalidAttestation
  require (attestation.contractVersion = (← getContractVersion)) .invalidAttestation
  let digest ← computeCommitment sub.wallet sub.assetPair sub.score sub.benfordFlag sub.mlFlag
    sub.timestamp sub.confidence sub.modelVersion attestation.contractId
    attestation.contractVersion
  require (digest = attestation.commitment) .invalidAttestation
  verifySignature digest attestation.signature

def verifyThresholdAttestation (sub : NormalizedSubmission) (ta : ThresholdAttestation) :
    M Unit := do
  require (ta.contractVersion = (← getContractVersion)) .invalidAttestation
  let digest ← computeCommitment sub.wallet sub.assetPair sub.score sub.benfordFlag sub.mlFlag
    sub.timestamp sub.confidence sub.modelVersion ta.contractId ta.contractVersion
  require (digest = ta.commitment) .invalidAttestation
  verifyAggregateSignature digest ta.thresholdSig

/-! ### Merkle proofs -/

def computeMerkleLeaf (sub : ScoreSubmission) : M (BytesN 32) := do
  let commitment ← computeCommitment sub.wallet sub.assetPair sub.score sub.benfordFlag sub.mlFlag
    sub.timestamp sub.confidence sub.modelVersion zero32 0
  sha256 ([0x00] ++ commitment.1)

def hashInternalNode (current sibling : BytesN 32) (siblingOnLeft : Bool) : M (BytesN 32) :=
  if siblingOnLeft then sha256 ([0x01] ++ sibling.1 ++ current.1)
  else sha256 ([0x01] ++ current.1 ++ sibling.1)

/-- Bit `i` of the flags says on which side the `i`-th sibling stands. -/
def verifyMerkleProof (leaf : BytesN 32) (proof : List (BytesN 32)) (proofFlags : Nat)
    (root : BytesN 32) : M Bool :=
  if proof.length > maxMerkleProofDepth then return false
  else do
    let top ← fold
      (fun current step => hashInternalNode current step.1 (proofFlags / 2 ^ step.2 % 2 = 1))
      leaf proof.zipIdx
    return top = root

/-! ### Footprints -/

section Footprints

set_option synthInstance.maxSize 100000000

instance (wallet : Address) (assetPair : Symbol) (score : Nat) (benfordFlag mlFlag : Bool)
    (timestamp confidence modelVersion : Nat) (contractId : BytesN 32) (contractVersion : Nat) :
    Touches (computeCommitment wallet assetPair score benfordFlag mlFlag timestamp confidence
      modelVersion contractId contractVersion) [] :=
  ⟨by unfold computeCommitment; infer_instance⟩

instance (key : Bytes) (timestamp : Nat) : Touches (keyRevokedAt key timestamp) [] :=
  ⟨by unfold keyRevokedAt; infer_instance⟩

instance (digest : BytesN 32) (sig : BytesN 65) : Touches (verifySignature digest sig)
    [.servicePubKey, .pendingServicePubKey] :=
  ⟨by unfold verifySignature checkSignature; infer_instance⟩

instance (digest : BytesN 32) (sig : BytesN 65) : Touches (verifyAggregateSignature digest sig)
    [.aggregateServicePubKey, .pendingAggregateServicePubKey] :=
  ⟨by unfold verifyAggregateSignature checkSignature; infer_instance⟩

instance (sub : NormalizedSubmission) (attestation : Option ScoreAttestation) :
    Touches (verifyAttestation sub attestation) [.servicePubKey, .pendingServicePubKey] :=
  ⟨by unfold verifyAttestation; infer_instance⟩

instance (sub : NormalizedSubmission) (ta : ThresholdAttestation) :
    Touches (verifyThresholdAttestation sub ta)
      [.aggregateServicePubKey, .pendingAggregateServicePubKey] :=
  ⟨by unfold verifyThresholdAttestation; infer_instance⟩

instance (sub : ScoreSubmission) : Touches (computeMerkleLeaf sub) [] :=
  ⟨by unfold computeMerkleLeaf; infer_instance⟩

instance (current sibling : BytesN 32) (left : Bool) :
    Touches (hashInternalNode current sibling left) [] :=
  ⟨by unfold hashInternalNode; infer_instance⟩

instance (leaf : BytesN 32) (proof : List (BytesN 32)) (flags : Nat) (root : BytesN 32) :
    Touches (verifyMerkleProof leaf proof flags root) [] :=
  ⟨by unfold verifyMerkleProof; infer_instance⟩

end Footprints

end LedgerLens
