import LedgerLens.System.Replay
import Mathlib

/-!
What the three kinds of signed digests bind. The fields of a preimage have fixed
widths, so its bytes determine them, and the three kinds differ in length. The main result is
`commitments_bind`.
-/

namespace LedgerLens

open Host Host.Prog Storage

/-! ### Fields -/

/-- The integers of a submission are those of the source's types. -/
structure ScoreSubmission.Typed (sub : ScoreSubmission) : Prop where
  score : sub.score < u32Bound
  timestamp : sub.timestamp < u64Bound
  confidence : sub.confidence < u32Bound
  modelVersion : sub.modelVersion < u32Bound

structure RelayScoreAttestation.Typed (attestation : RelayScoreAttestation) : Prop where
  contractVersion : attestation.contractVersion < u32Bound
  nonce : attestation.nonce < u64Bound
  validBeforeLedger : attestation.validBeforeLedger < u32Bound

theorem address_ext {a b : Address} (same : a.strkey.1 = b.strkey.1) : a = b := by
  cases a
  cases b
  cases Subtype.ext same
  rfl

theorem boolByte_inj {a b : Bool} (same : boolByte a = boolByte b) : a = b := by
  cases a <;> cases b <;> first | rfl | cases same

theorem symbolChar_toNat {c : Char} (valid : symbolChar c = true) :
    0 < c.toNat ∧ c.toNat < 128 := by
  simp only [symbolChar, Char.isAlphanum, Char.isAlpha, Char.isUpper, Char.isLower, Char.isDigit,
    Bool.or_eq_true, Bool.and_eq_true, decide_eq_true_eq, ge_iff_le, UInt32.le_iff_toNat_le,
    beq_iff_eq] at valid
  have isVal : c.toNat = c.val.toNat := rfl
  rcases valid with ((upper | lower) | digit) | rfl
  · exact ⟨by simp at upper; omega, by simp at upper; omega⟩
  · exact ⟨by simp at lower; omega, by simp at lower; omega⟩
  · exact ⟨by simp at digit; omega, by simp at digit; omega⟩
  · decide

theorem Symbol.symbolChar_of_mem {s : Symbol} {c : Char} (listed : c ∈ s.chars) :
    symbolChar c = true :=
  List.all_eq_true.mp (Bool.and_eq_true_iff.mp s.valid).2 c listed

theorem Symbol.toNat_byte {c : Char} (valid : symbolChar c = true) :
    (UInt8.ofNat c.toNat).toNat = c.toNat := by
  have ascii := (symbolChar_toNat valid).2
  simp only [UInt8.toNat_ofNat']
  omega

/-- Reading the characters back. -/
theorem Symbol.chars_of_bytes (s : Symbol) :
    s.bytes.map (fun byte => Char.ofNat byte.toNat) = s.chars := by
  rw [bytes, List.map_map]
  refine (List.map_congr_left fun c listed => ?_).trans (List.map_id _)
  rw [Function.comp_apply, toNat_byte (symbolChar_of_mem listed), Char.ofNat_toNat]
  rfl

theorem Symbol.bytes_inj {a b : Symbol} (same : a.bytes = b.bytes) : a = b := by
  have chars := a.chars_of_bytes
  rw [same, b.chars_of_bytes] at chars
  cases a
  cases b
  cases chars
  rfl

theorem Symbol.byte_ne_zero {s : Symbol} {byte : UInt8} (listed : byte ∈ s.bytes) : byte ≠ 0 := by
  obtain ⟨c, isChar, rfl⟩ := List.mem_map.mp listed
  have valid := symbolChar_of_mem isChar
  intro zero
  have value := congrArg UInt8.toNat zero
  rw [toNat_byte valid] at value
  exact absurd value (symbolChar_toNat valid).1.ne'

/-- The symbol ends where the padding begins. -/
theorem takeWhile_pairBuf {s : Symbol} (fits : s.bytes.length ≤ 9) :
    (pairBuf s).takeWhile (· ≠ 0) = s.bytes := by
  rw [pairBuf, List.take_of_length_le fits, List.takeWhile_append_of_pos]
  · cases 9 - s.bytes.length <;> simp [List.replicate_succ]
  · intro byte listed
    simpa using Symbol.byte_ne_zero listed

theorem pairBuf_inj {a b : Symbol} (aFits : a.bytes.length ≤ 9) (bFits : b.bytes.length ≤ 9)
    (same : pairBuf a = pairBuf b) : a = b := by
  have bytes := takeWhile_pairBuf aFits
  rw [same, takeWhile_pairBuf bFits] at bytes
  exact Symbol.bytes_inj bytes.symm

@[simp] theorem length_pairBuf (assetPair : Symbol) : (pairBuf assetPair).length = 9 := by
  simp [pairBuf]
  omega

/-! ### Preimages -/

/-- What the digest of a single score is computed from. -/
def singlePreimage (env : ContractEnv) (sub : ScoreSubmission) (contractId : BytesN 32)
    (contractVersion : Nat) : Bytes :=
  sub.wallet.strkey.1 ++ pairBuf sub.assetPair ++ toLeBytes 4 sub.score
    ++ [boolByte sub.benfordFlag, boolByte sub.mlFlag] ++ toLeBytes 8 sub.timestamp
    ++ toLeBytes 4 sub.confidence ++ toLeBytes 4 sub.modelVersion ++ env.self.strkey.1
    ++ env.networkId.1 ++ contractId.1 ++ toLeBytes 4 contractVersion

/-- The commitment of a submission. -/
abbrev scoreCommitment (sub : ScoreSubmission) (contractId : BytesN 32) (contractVersion : Nat) :
    M (BytesN 32) :=
  computeCommitment sub.wallet sub.assetPair sub.score sub.benfordFlag sub.mlFlag sub.timestamp
    sub.confidence sub.modelVersion contractId contractVersion

section Preimages

variable {env env' : ContractEnv} {w v w' v' : State} {sub sub' : ScoreSubmission}
  {contractId contractId' : BytesN 32} {version version' : Nat} {digest digest' : BytesN 32}
  {attestation attestation' : RelayScoreAttestation}

theorem relayPreimage_eq :
    relayPreimage env sub attestation =
      singlePreimage env sub attestation.contractId attestation.contractVersion ++
        toLeBytes 8 attestation.nonce ++ toLeBytes 4 attestation.validBeforeLedger := rfl

theorem length_singlePreimage : (singlePreimage env sub contractId version).length = 211 := by
  simp [singlePreimage, sub.wallet.strkey.2, env.self.strkey.2, env.networkId.2, contractId.2]

theorem length_relayPreimage : (relayPreimage env sub attestation).length = 223 := by
  rw [relayPreimage_eq, List.length_append, List.length_append, length_singlePreimage,
    length_toLeBytes, length_toLeBytes]

theorem scoreCommitment_ok
    (ran : scoreCommitment sub contractId version env w = .ok digest v) :
    sub.assetPair.bytes.length ≤ 9 ∧
      digest = env.crypto.sha256 (singlePreimage env sub contractId version) := by
  have asked := ok_iff_wp.mp ran
  simp only [computeCommitment, sha256, wp_bind, wp_require, wp_asks, decide_eq_true_eq] at asked
  exact ⟨asked.1, asked.2.1.symm⟩

theorem computeRelayCommitment_ok
    (ran : computeRelayCommitment sub attestation env w = .ok digest v) :
    sub.assetPair.bytes.length ≤ 9 ∧
      digest = env.crypto.sha256 (relayPreimage env sub attestation) := by
  have asked := ok_iff_wp.mp ran
  simp only [computeRelayCommitment, sha256, wp_bind, wp_require, wp_asks,
    decide_eq_true_eq] at asked
  exact ⟨asked.1, asked.2.1.symm⟩

/-- The fields are told apart from the last to the first, each by its width. -/
theorem singlePreimage_inj (typed : sub.Typed) (typed' : sub'.Typed) (fits : version < u32Bound)
    (fits' : version' < u32Bound) (pair : sub.assetPair.bytes.length ≤ 9)
    (pair' : sub'.assetPair.bytes.length ≤ 9)
    (same : singlePreimage env sub contractId version =
      singlePreimage env' sub' contractId' version') :
    sub = sub' ∧ env.self = env'.self ∧ env.networkId = env'.networkId ∧
      contractId = contractId' ∧ version = version' := by
  obtain ⟨same, sameVersion⟩ := List.append_inj' same (by simp)
  obtain ⟨same, sameId⟩ := List.append_inj' same (by rw [contractId.2, contractId'.2])
  obtain ⟨same, sameNetwork⟩ := List.append_inj' same (by rw [env.networkId.2, env'.networkId.2])
  obtain ⟨same, sameSelf⟩ :=
    List.append_inj' same (by rw [env.self.strkey.2, env'.self.strkey.2])
  obtain ⟨same, sameModel⟩ := List.append_inj' same (by simp)
  obtain ⟨same, sameConfidence⟩ := List.append_inj' same (by simp)
  obtain ⟨same, sameTime⟩ := List.append_inj' same (by simp)
  obtain ⟨same, sameFlags⟩ := List.append_inj' same (by simp)
  obtain ⟨same, sameScore⟩ := List.append_inj' same (by simp)
  obtain ⟨sameWallet, samePair⟩ := List.append_inj' same (by simp)
  have flags := List.cons.inj sameFlags
  refine ⟨?_, address_ext sameSelf, Subtype.ext sameNetwork, Subtype.ext sameId,
    toLeBytes_inj fits fits' sameVersion⟩
  cases sub
  cases sub'
  congr 1
  · exact address_ext sameWallet
  · exact pairBuf_inj pair pair' samePair
  · exact toLeBytes_inj typed.score typed'.score sameScore
  · exact boolByte_inj flags.1
  · exact boolByte_inj (List.cons.inj flags.2).1
  · exact toLeBytes_inj typed.timestamp typed'.timestamp sameTime
  · exact toLeBytes_inj typed.confidence typed'.confidence sameConfidence
  · exact toLeBytes_inj typed.modelVersion typed'.modelVersion sameModel

theorem relayPreimage_inj (typed : sub.Typed) (typed' : sub'.Typed) (fits : attestation.Typed)
    (fits' : attestation'.Typed) (pair : sub.assetPair.bytes.length ≤ 9)
    (pair' : sub'.assetPair.bytes.length ≤ 9)
    (same : relayPreimage env sub attestation = relayPreimage env' sub' attestation') :
    (sub = sub' ∧ env.self = env'.self ∧ env.networkId = env'.networkId ∧
      attestation.contractId = attestation'.contractId ∧
      attestation.contractVersion = attestation'.contractVersion) ∧
      attestation.nonce = attestation'.nonce ∧
      attestation.validBeforeLedger = attestation'.validBeforeLedger := by
  rw [relayPreimage_eq, relayPreimage_eq] at same
  obtain ⟨same, sameExpiry⟩ := List.append_inj' same (by simp)
  obtain ⟨same, sameNonce⟩ := List.append_inj' same (by simp)
  exact ⟨singlePreimage_inj typed typed' fits.contractVersion fits'.contractVersion pair pair' same,
    toLeBytes_inj fits.nonce fits'.nonce sameNonce,
    toLeBytes_inj fits.validBeforeLedger fits'.validBeforeLedger sameExpiry⟩

end Preimages

/-! ### What a digest binds -/

/-- The hash does not collide on these two. -/
def CollisionFree (hash : Bytes → BytesN 32) (p q : Bytes) : Prop := hash p = hash q → p = q

/-- Strings of different lengths have different digests. -/
theorem CollisionFree.ne_of_length {hash : Bytes → BytesN 32} {p q : Bytes}
    (free : CollisionFree hash p q) (lengths : p.length ≠ q.length) : hash p ≠ hash q :=
  fun same => lengths (congrArg List.length (free same))

/-- With a hash that does not collide on what is hashed, a commitment binds all its fields, a
relay commitment also the nonce and the expiry, and a digest made for one of the three checks is
not one made for another. -/
theorem commitments_bind {env env' : ContractEnv} {hash : Bytes → BytesN 32}
    (isHash : env.crypto.sha256 = hash) (isHash' : env'.crypto.sha256 = hash) :
    (∀ sub sub' contractId contractId' version version' digest w v w' v',
      ScoreSubmission.Typed sub → ScoreSubmission.Typed sub' →
      version < u32Bound → version' < u32Bound →
      CollisionFree hash (singlePreimage env sub contractId version)
        (singlePreimage env' sub' contractId' version') →
      scoreCommitment sub contractId version env w = .ok digest v →
      scoreCommitment sub' contractId' version' env' w' = .ok digest v' →
      sub = sub' ∧ env.self = env'.self ∧ env.networkId = env'.networkId ∧
        contractId = contractId' ∧ version = version') ∧
    (∀ sub sub' attestation attestation' digest w v w' v',
      ScoreSubmission.Typed sub → ScoreSubmission.Typed sub' →
      RelayScoreAttestation.Typed attestation → RelayScoreAttestation.Typed attestation' →
      CollisionFree hash (relayPreimage env sub attestation)
        (relayPreimage env' sub' attestation') →
      computeRelayCommitment sub attestation env w = .ok digest v →
      computeRelayCommitment sub' attestation' env' w' = .ok digest v' →
      (sub = sub' ∧ env.self = env'.self ∧ env.networkId = env'.networkId ∧
        attestation.contractId = attestation'.contractId ∧
        attestation.contractVersion = attestation'.contractVersion) ∧
        attestation.nonce = attestation'.nonce ∧
        attestation.validBeforeLedger = attestation'.validBeforeLedger) ∧
    (∀ sub sub' contractId version attestation digest relayed w v w' v',
      CollisionFree hash (singlePreimage env sub contractId version)
        (relayPreimage env' sub' attestation) →
      scoreCommitment sub contractId version env w = .ok digest v →
      computeRelayCommitment sub' attestation env' w' = .ok relayed v' → digest ≠ relayed) ∧
    ∀ sub contractId version (attestation : BatchAttestation) digest rootDigest w v w' v',
      CollisionFree hash (singlePreimage env sub contractId version) attestation.merkleRoot.1 →
      scoreCommitment sub contractId version env w = .ok digest v →
      sha256 attestation.merkleRoot.1 env' w' = .ok rootDigest v' → digest ≠ rootDigest := by
  refine ⟨?_, ?_, ?_, ?_⟩
  · intro sub sub' contractId contractId' version version' digest w v w' v' typed typed' fits fits'
      free made made'
    obtain ⟨pair, isDigest⟩ := scoreCommitment_ok made
    obtain ⟨pair', isDigest'⟩ := scoreCommitment_ok made'
    rw [isHash] at isDigest
    rw [isHash'] at isDigest'
    exact singlePreimage_inj typed typed' fits fits' pair pair'
      (free (isDigest.symm.trans isDigest'))
  · intro sub sub' attestation attestation' digest w v w' v' typed typed' fits fits' free made made'
    obtain ⟨pair, isDigest⟩ := computeRelayCommitment_ok made
    obtain ⟨pair', isDigest'⟩ := computeRelayCommitment_ok made'
    rw [isHash] at isDigest
    rw [isHash'] at isDigest'
    exact relayPreimage_inj typed typed' fits fits' pair pair'
      (free (isDigest.symm.trans isDigest'))
  · intro sub sub' contractId version attestation digest relayed w v w' v' free made made'
    rw [(scoreCommitment_ok made).2, (computeRelayCommitment_ok made').2, isHash, isHash']
    refine free.ne_of_length ?_
    rw [length_singlePreimage, length_relayPreimage]
    decide
  · intro sub contractId version attestation digest rootDigest w v w' v' free made made'
    have isRoot : env'.crypto.sha256 attestation.merkleRoot.1 = rootDigest := by
      cases made'
      rfl
    rw [(scoreCommitment_ok made).2, ← isRoot, isHash, isHash']
    refine free.ne_of_length ?_
    rw [length_singlePreimage, attestation.merkleRoot.2]
    decide

theorem scoreCommitment_run {env : ContractEnv} {w : State} {sub : ScoreSubmission}
    {contractId : BytesN 32} {version : Nat} (pair : sub.assetPair.bytes.length ≤ 9) :
    scoreCommitment sub contractId version env w =
      .ok (env.crypto.sha256 (singlePreimage env sub contractId version)) w := by
  refine ok_iff_wp.mpr ?_
  simp only [computeCommitment, sha256, wp_bind, wp_require, wp_asks, decide_eq_true_eq]
  exact ⟨pair, rfl, trivial⟩

theorem computeRelayCommitment_run {env : ContractEnv} {w : State} {sub : ScoreSubmission}
    {attestation : RelayScoreAttestation} (pair : sub.assetPair.bytes.length ≤ 9) :
    computeRelayCommitment sub attestation env w =
      .ok (env.crypto.sha256 (relayPreimage env sub attestation)) w := by
  refine ok_iff_wp.mpr ?_
  simp only [computeRelayCommitment, sha256, wp_bind, wp_require, wp_asks, decide_eq_true_eq]
  exact ⟨pair, rfl, trivial⟩

def sampleSingle (score : Nat) : Bytes :=
  singlePreimage (hashedEnv []) (sampleSubmission (account 3) score) zero32 1

def sampleRelayed (attestation : RelayScoreAttestation) : Bytes :=
  relayPreimage (hashedEnv []) (sampleSubmission (account 3) 40) attestation

theorem sampleSubmission_typed {score : Nat} (fits : score < u32Bound) :
    (sampleSubmission (account 3) score).Typed :=
  ⟨fits, by simp [sampleSubmission, u64Bound], by simp [sampleSubmission, u32Bound],
    by simp [sampleSubmission, u32Bound]⟩

theorem relayedUntil_typed {last : Nat} {digest : BytesN 32} {signature : BytesN 65}
    (fits : last < u32Bound) : (relayedUntil last digest signature).Typed :=
  ⟨by simp [relayedUntil, u32Bound], by simp [relayedUntil, u64Bound], fits⟩

/-- With SHA-256 itself. -/
theorem commitments_bind_sample :
    let hash := (hashedEnv []).crypto.sha256
    hash (sampleSingle 40) ≠ hash (sampleSingle 41) ∧
      hash (sampleRelayed relayed500000) ≠ hash (sampleRelayed relayed2000000) ∧
      hash (sampleSingle 40) ≠ hash (sampleRelayed relayed500000) ∧
      hash (sampleSingle 40) ≠ hash zero32.1 := by
  intro hash
  have freeSingle : CollisionFree hash (sampleSingle 40) (sampleSingle 41) :=
    fun same => absurd same (by decide +kernel)
  have freeRelayed :
      CollisionFree hash (sampleRelayed relayed500000) (sampleRelayed relayed2000000) :=
    fun same => absurd same (by decide +kernel)
  have freeKinds : CollisionFree hash (sampleSingle 40) (sampleRelayed relayed500000) :=
    fun same => absurd same (by decide +kernel)
  have freeRoot : CollisionFree hash (sampleSingle 40) zero32.1 :=
    fun same => absurd same (by decide +kernel)
  have pair (score : Nat) : (sampleSubmission (account 3) score).assetPair.bytes.length ≤ 9 := by
    simp [sampleSubmission]
    decide
  have made (score : Nat) : scoreCommitment (sampleSubmission (account 3) score) zero32 1
      (hashedEnv []) deployed = .ok (hash (sampleSingle score)) deployed :=
    scoreCommitment_run (pair score)
  have relayedMade (attestation : RelayScoreAttestation) :
      computeRelayCommitment (sampleSubmission (account 3) 40) attestation (hashedEnv [])
        deployed = .ok (hash (sampleRelayed attestation)) deployed :=
    computeRelayCommitment_run (pair 40)
  have rootMade : sha256 zero32.1 (hashedEnv []) deployed = .ok (hash zero32.1) deployed := rfl
  have bind : (hashedEnv []).crypto.sha256 = hash := rfl
  clear_value hash
  obtain ⟨single, relayed, kinds, root⟩ := commitments_bind bind bind
  refine ⟨fun same => ?_, fun same => ?_, ?_, ?_⟩
  · have made' := made 41
    rw [← same] at made'
    have bound := single _ _ _ _ _ _ _ _ _ _ _ (sampleSubmission_typed (by decide))
      (sampleSubmission_typed (by decide)) (by decide) (by decide) freeSingle (made 40) made'
    exact absurd (congrArg ScoreSubmission.score bound.1) (by decide)
  · have made' := relayedMade relayed2000000
    rw [← same] at made'
    have bound := relayed _ _ _ _ _ _ _ _ _ (sampleSubmission_typed (by decide))
      (sampleSubmission_typed (by decide)) (relayedUntil_typed (by decide))
      (relayedUntil_typed (by decide)) freeRelayed (relayedMade relayed500000) made'
    exact absurd bound.2.2 (by decide)
  · exact kinds _ _ _ _ _ _ _ _ _ _ _ freeKinds (made 40) (relayedMade relayed500000)
  · exact root _ _ _ ⟨zero32, relayed500000.signature⟩ _ _ _ _ _ _ freeRoot (made 40) rootMade

end LedgerLens
