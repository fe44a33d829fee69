import LedgerLens.System.Expiry
import LedgerLens.System.Keys

/-!
What is signed once counts once. A relayed score is marked under its digest, and
the mark is temporary: it keeps a second relay out as long as it outlives the
expiry that was signed. A score submitted directly is signed without its nonce,
so that the signature passes again with the next one. The main results are `relayed_at_most_once`,
`nonces_never_fall` and `signature_used_once`.
-/

namespace LedgerLens

open Host Host.Prog Storage

/-! ### Relays -/

/-- What the digest of a relayed score is computed from. -/
def relayPreimage (env : ContractEnv) (sub : ScoreSubmission)
    (attestation : RelayScoreAttestation) : Bytes :=
  sub.wallet.strkey.1 ++ pairBuf sub.assetPair ++ toLeBytes 4 sub.score
    ++ [boolByte sub.benfordFlag, boolByte sub.mlFlag] ++ toLeBytes 8 sub.timestamp
    ++ toLeBytes 4 sub.confidence ++ toLeBytes 4 sub.modelVersion ++ env.self.strkey.1
    ++ env.networkId.1 ++ attestation.contractId.1 ++ toLeBytes 4 attestation.contractVersion
    ++ toLeBytes 8 attestation.nonce ++ toLeBytes 4 attestation.validBeforeLedger

abbrev markOf (w : State) (digest : BytesN 32) : Option Bool :=
  w.ledger.entry .temporary (.relayedAttestationUsed digest)

/-- What is known of a relay that was new. -/
structure Relay (env : ContractEnv) (sub : ScoreSubmission) (attestation : RelayScoreAttestation)
    (w w' : State) : Prop where
  inTime : env.sequence ≤ attestation.validBeforeLedger
  digest : env.crypto.sha256 (relayPreimage env sub attestation) = attestation.commitment
  unmarked : markOf w attestation.commitment = none
  marked : markOf w' attestation.commitment = some true

@[reducible] def Tag.isMark : Tag → Bool
  | .relayedAttestationUsed => true
  | _ => false

section Relays

set_option synthInstance.maxSize 100000000

variable {env : ContractEnv} {w w' : State} {relayer : Address} {sub : ScoreSubmission}
  {attestation : RelayScoreAttestation} {digest : BytesN 32} {u : Unit}

/-- Only the mark of the digest is set. -/
theorem acceptRelay_marks (ran : acceptRelay relayer sub attestation digest env w = .ok u w') :
    markOf w' digest = some true ∧
      ∀ other, markOf w other = some true → markOf w' other = some true := by
  obtain ⟨_, v₁, verified, ran⟩ := bind_ok.mp ran
  obtain ⟨service, v₂, found, ran⟩ := bind_ok.mp ran
  obtain ⟨_, v₃, nonce, ran⟩ := bind_ok.mp ran
  obtain ⟨_, v₄, isNonce, ran⟩ := bind_ok.mp ran
  obtain ⟨_, v₅, fits, ran⟩ := bind_ok.mp ran
  obtain ⟨_, v₆, marked, ran⟩ := bind_ok.mp ran
  have before : Same Tag.isMark w v₅ := by
    have first : Same Tag.isMark w v₂ := IsTrans.trans _ _ _ (Keeps.ok verified) (Keeps.ok found)
    have second : Same Tag.isMark v₂ v₄ := IsTrans.trans _ _ _ (Keeps.ok nonce) (Keeps.ok isNonce)
    exact IsTrans.trans _ _ _ (IsTrans.trans _ _ _ first second) (Keeps.ok fits)
  have after : Same Tag.isMark v₆ w' := Keeps.ok ran
  obtain ⟨_, rfl⟩ := save_ok.mp marked
  refine ⟨?_, fun other isMarked => ?_⟩
  · rw [markOf, after.entry _ _ rfl]
    exact Ledger.entry_put_self ..
  · rw [markOf, after.entry _ _ rfl]
    by_cases same : other = digest
    · subst same
      exact Ledger.entry_put_self ..
    · rw [Ledger.entry_put_of_ne _ _ (by simpa using same), before.entry _ _ rfl]
      exact isMarked

/-- A relay checks its expiry and its digest, and then does nothing or is new. -/
theorem relayAttestedScore_ok {isNew : Bool}
    (ran : relayAttestedScore relayer sub attestation env w = .ok isNew w') :
    ∃ v, Only placeTag [.authorizations] w v ∧ env.sequence ≤ attestation.validBeforeLedger ∧
      env.crypto.sha256 (relayPreimage env sub attestation) = attestation.commitment ∧
      (isNew = false ∧ w'.ledger = v.ledger ∨
        isNew = true ∧ markOf v attestation.commitment = none ∧
          acceptRelay relayer sub attestation attestation.commitment env v = .ok () w') := by
  obtain ⟨_, v₁, isOpen, ran⟩ := bind_ok.mp ran
  obtain ⟨_, v₂, authorized, ran⟩ := bind_ok.mp ran
  obtain ⟨_, v₃, versioned, ran⟩ := bind_ok.mp ran
  obtain ⟨_, v₄, isVersion, ran⟩ := bind_ok.mp ran
  obtain ⟨_, _, ⟨⟩, ran⟩ := bind_ok.mp ran
  obtain ⟨inTime, ran⟩ := require_bind_ok.mp ran
  obtain ⟨digest, v, computed, ran⟩ := bind_ok.mp ran
  obtain ⟨isDigest, ran⟩ := require_bind_ok.mp ran
  obtain ⟨isStored, _, looked, ran⟩ := bind_ok.mp ran
  obtain ⟨isMarked, rfl⟩ := has_ok.mp looked
  have before : Only placeTag [.authorizations] w v := by
    have first : Only placeTag [.authorizations] w v₂ :=
      IsTrans.trans _ _ _ (Keeps.ok isOpen) (Keeps.ok authorized)
    have second : Only placeTag [.authorizations] v₂ v₄ :=
      IsTrans.trans _ _ _ (Keeps.ok versioned) (Keeps.ok isVersion)
    exact IsTrans.trans _ _ _ (IsTrans.trans _ _ _ first second) (Keeps.ok computed)
  have isHash : env.crypto.sha256 (relayPreimage env sub attestation) = digest := by
    obtain ⟨_, _, _, computed⟩ := bind_ok.mp computed
    exact (Outcome.ok.inj computed).1
  obtain rfl : digest = attestation.commitment := of_decide_eq_true isDigest
  refine ⟨v, before, of_decide_eq_true inTime, isHash, ?_⟩
  split at ran
  · obtain ⟨_, _, emitted, ran⟩ := bind_ok.mp ran
    obtain ⟨-, rfl⟩ := emit_ok.mp emitted
    cases ran
    exact .inl ⟨rfl, rfl⟩
  · next isFresh =>
    obtain ⟨_, _, accepted, ran⟩ := bind_ok.mp ran
    cases ran
    refine .inr ⟨rfl, ?_, accepted⟩
    rw [← Option.not_isSome_iff_eq_none, isMarked]
    exact isFresh

theorem relayAttestedScore_marks {isNew : Bool}
    (ran : relayAttestedScore relayer sub attestation env w = .ok isNew w') :
    (∀ other, markOf w other = some true → markOf w' other = some true) ∧
      (isNew = true → Relay env sub attestation w w') := by
  obtain ⟨v, before, inTime, isHash, cases⟩ := relayAttestedScore_ok ran
  have sameMark (other : BytesN 32) : markOf v other = markOf w other :=
    before.entry _ _ (by simp [placeTag])
  rcases cases with ⟨rfl, sameLedger⟩ | ⟨rfl, unmarked, accepted⟩
  · refine ⟨fun other isMarked => ?_, nofun⟩
    rw [markOf, sameLedger, ← isMarked]
    exact sameMark other
  · obtain ⟨marked, kept⟩ := acceptRelay_marks accepted
    exact ⟨fun other isMarked => kept other ((sameMark other).trans isMarked),
      fun _ => ⟨inTime, isHash, (sameMark _).symm.trans unmarked, marked⟩⟩

/-- Marks are never taken back. -/
theorem exec_marks {call : Call} (ran : exec call env w = .ok u w')
    (isMarked : markOf w digest = some true) : markOf w' digest = some true := by
  have unchanged (free : (footprint call).all (fun t => !t.isMark) = true) :
      markOf w' digest = some true := by
    have same : Same Tag.isMark w w' := About.of_all free ((exec_keeps call).ok ran)
    rw [markOf, same.entry _ _ rfl]
    exact isMarked
  rcases call with call | ⟨signers, call⟩ | call
  · cases call
    case relayAttestedScore relayer sub attestation =>
      obtain ⟨_, _, relayed, ran⟩ := bind_ok.mp ran
      cases ran
      exact (relayAttestedScore_marks relayed).1 digest isMarked
    all_goals exact unchanged rfl
  · exact unchanged (by cases call <;> rfl)
  · exact unchanged (by cases call <;> rfl)

end Relays

/-! ### Relays in a run with lifetimes -/

/-- The transaction relays a score that is new, under the digest. -/
def RelaysNew (digest : BytesN 32) (w : State) (tx : Transaction) (sub : ScoreSubmission)
    (attestation : RelayScoreAttestation) : Prop :=
  ∃ relayer, tx.call = .user (.relayAttestedScore relayer sub attestation) ∧
    attestation.commitment = digest ∧
    (relayAttestedScore relayer sub attestation tx.env { w with authorized := [] }).value? =
      some true

section Lifetimes

variable {minimal : Nat} {others : State → Act → (DataKey → Nat) → DataKey → Nat}
  {digest : BytesN 32} {w : State} {p : Perishing} {tx tx' : Transaction}
  {sub sub' : ScoreSubmission} {attestation attestation' : RelayScoreAttestation}

/-- Until when a mark lives that is set at a ledger. -/
def markedUntil (minimal sequence : Nat) : Nat :=
  extendTtl scoreTtlThreshold scoreTtlExtendTo sequence (sequence + minimal)

theorem RelaysNew.returns (relays : RelaysNew digest w tx sub attestation) :
    Returns exec w tx ∧
      Relay tx.env sub attestation { w with authorized := [] } (step exec w tx) := by
  obtain ⟨relayer, isCall, _, isNew⟩ := relays
  obtain ⟨w', returned⟩ := Outcome.exists_of_value? isNew
  have ran : exec tx.call tx.env { w with authorized := [] } = .ok () w' := by
    rw [isCall]
    exact bind_ok.mpr ⟨_, _, returned, rfl⟩
  have isAfter : step exec w tx = w' := invoke_of_ok ran
  rw [isAfter]
  exact ⟨⟨_, _, ran, trivial⟩, (relayAttestedScore_marks returned).2 rfl⟩

/-- The digest is marked, for as long as that ledger is not passed. -/
def MarkedUntil (digest : BytesN 32) (last : Nat) (p : Perishing) : Prop :=
  markOf p.world digest = some true ∧ last ≤ p.liveUntil (.relayedAttestationUsed digest)

theorem RelaysNew.marked (relays : RelaysNew digest (p.seenAt tx.env.sequence) tx sub attestation) :
    MarkedUntil digest (markedUntil minimal tx.env.sequence)
      ((upkeep minimal others).step p (.call tx)) := by
  obtain ⟨returns, relay⟩ := relays.returns
  obtain ⟨relayer, isCall, isDigest, _⟩ := relays
  rw [← isDigest]
  refine ⟨relay.marked, ?_⟩
  have unmarked : (p.seenAt tx.env.sequence).ledger.entry .temporary
      (.relayedAttestationUsed attestation.commitment) = none := relay.unmarked
  have renewed : (Act.call tx).renews (p.seenAt tx.env.sequence)
      (.relayedAttestationUsed attestation.commitment) = true := by
    simp [Act.renews, Call.renews, returns, isCall, unmarked]
  simp [upkeep_step_liveUntil, lifetimesAfter, renewalOf, Act.env, renewed, unmarked, markedUntil]

/-- A mark that is there is not set again. -/
theorem renews_of_marked {a : Act} (isMarked : markOf w digest = some true) :
    a.renews w (.relayedAttestationUsed digest) = false := by
  have unrenewed (call : Call) : call.renews w (.relayedAttestationUsed digest) = false := by
    have present : w.ledger.entry .temporary (.relayedAttestationUsed digest) = some true :=
      isMarked
    unfold Call.renews
    split
    · next isKey => cases isKey
    · next isKey => cases isKey
    · next isKey =>
      cases isKey
      simp [present]
    · rfl
  cases a with
  | call tx =>
    change (decide (Returns exec w tx) && tx.call.renews w _) = false
    rw [unrenewed, Bool.and_false]
  | isEmbargoed env wallet => rfl
  | getOpenDisputes env => rfl

theorem MarkedUntil.step {last : Nat} {a : Act} (marked : MarkedUntil digest last p)
    (inTime : a.env.sequence ≤ last) : MarkedUntil digest last
      ((upkeep minimal others).step p a) := by
  have seen : markOf (p.seenAt a.env.sequence) digest = some true :=
    (p.seenAt_temporary (inTime.trans marked.2)).trans marked.1
  constructor
  · rw [upkeep_step_world]
    generalize p.seenAt a.env.sequence = w at seen ⊢
    cases a with
    | call tx =>
      change markOf (Host.step exec w tx) digest = some true
      by_cases returns : Returns exec w tx
      · exact exec_marks returns.ok seen
      · rwa [step_of_not_returns returns]
    | isEmbargoed env wallet => exact seen
    | getOpenDisputes env => exact seen
  · rw [upkeep_step_liveUntil]
    simp only [lifetimesAfter, renewalOf, renews_of_marked seen]
    exact marked.2

/-- The expiry is signed. -/
theorem relayPreimage_expiry {env env' : ContractEnv}
    (fits : attestation.validBeforeLedger < u32Bound)
    (fits' : attestation'.validBeforeLedger < u32Bound)
    (same : relayPreimage env sub attestation = relayPreimage env' sub' attestation') :
    attestation.validBeforeLedger = attestation'.validBeforeLedger :=
  toLeBytes_inj fits fits' (List.append_inj_right' same (by simp))

/-- Of two relays under one digest at most one is new, if the mark of the first outlives the
expiry that was signed. -/
theorem relayed_at_most_once {between : List Act}
    (relays : RelaysNew digest (p.seenAt tx.env.sequence) tx sub attestation)
    (outlived : attestation.validBeforeLedger ≤ markedUntil minimal tx.env.sequence)
    (ordered : ∀ a ∈ between, a.env.sequence ≤ tx'.env.sequence)
    (fits : attestation.validBeforeLedger < u32Bound)
    (fits' : attestation'.validBeforeLedger < u32Bound)
    (sameHash : tx'.env.crypto.sha256 = tx.env.crypto.sha256)
    (injective : tx.env.crypto.sha256 (relayPreimage tx.env sub attestation) =
      tx.env.crypto.sha256 (relayPreimage tx'.env sub' attestation') →
        relayPreimage tx.env sub attestation = relayPreimage tx'.env sub' attestation') :
    ¬ RelaysNew digest (((upkeep minimal others).run p (.call tx :: between)).seenAt
      tx'.env.sequence) tx' sub' attestation' := by
  intro again
  have relay := relays.returns.2
  have relay' := again.returns.2
  have isDigest : attestation.commitment = digest := relays.choose_spec.2.1
  have isDigest' : attestation'.commitment = digest := again.choose_spec.2.1
  have sameExpiry : attestation.validBeforeLedger = attestation'.validBeforeLedger := by
    refine relayPreimage_expiry fits fits' (injective ?_)
    rw [relay.digest, isDigest, ← isDigest', ← relay'.digest, sameHash]
  have inTime : tx'.env.sequence ≤ markedUntil minimal tx.env.sequence :=
    relay'.inTime.trans (sameExpiry ▸ outlived)
  have marked : MarkedUntil digest (markedUntil minimal tx.env.sequence)
      ((upkeep minimal others).run p (.call tx :: between)) := by
    rw [Upkeep.run_cons]
    exact Upkeep.run_invariant (fun p a marked inTime => marked.step inTime) relays.marked
      (Upkeep.Along.of_mem fun a isBetween => (ordered a isBetween).trans inTime)
  have seen : markOf (((upkeep minimal others).run p (.call tx :: between)).seenAt
      tx'.env.sequence) digest = some true :=
    (Perishable.seenAt_temporary (inTime.trans marked.2)).trans marked.1
  have unmarked := relay'.unmarked
  rw [isDigest'] at unmarked
  cases seen.symm.trans unmarked

end Lifetimes

/-! ### A relay -/

/-- A signature made with the secret key 2, by its second half and its recovery id. -/
def signatureWith (s : Nat) (id : UInt8) : BytesN 65 :=
  ⟨toBeBytes 32 0xf01d6b9018ab421dd410404cb869072065522bf85734008f105cf385a023a80f ++
    toBeBytes 32 s ++ [id], by simp⟩

/-- An environment that hashes as the host does, and recovers the public key of the secret key 2
from the signatures it knows. -/
def signedEnv (known : List (BytesN 32 × BytesN 65)) (env : ContractEnv) : ContractEnv :=
  { env with
    crypto := {
      sha256 := Sha256.digest
      recover := fun digest rs id =>
        if known.any fun (d, sig) => d = digest ∧ signatureRs sig = rs ∧ recoveryId sig = id
        then some sampleRecovered else none } }

/-- The score 40 of account 3, signed for relays until some ledger. -/
def relayedUntil (last : Nat) (digest : BytesN 32) (signature : BytesN 65) :
    RelayScoreAttestation where
  commitment := digest
  signature := signature
  contractId := zero32
  contractVersion := 5
  nonce := 0
  validBeforeLedger := last

def relayed500000 : RelayScoreAttestation :=
  relayedUntil 500000
    ⟨toBeBytes 32 0x16e64f47ed67c9eb2d3a39a3e3011423234d6ae4890a4af11dc515bc77aefca1, by simp⟩
    (signatureWith 0x4b5ba92d3c738573280f8a1a8c6b000056db7faca140cccab89dea6689463067 1)

def relayed2000000 : RelayScoreAttestation :=
  relayedUntil 2000000
    ⟨toBeBytes 32 0x047d16d60ad28108b7dff0d77c2a8098fd6c70df6ce2c432caaac84a91107f2e, by simp⟩
    (signatureWith 0x36e8e49ad29c7c5c6e54513740bd645b8721457d8120693d5686fe66f487aa32 1)

/-- Account 9 relays the score. -/
def relaySample (attestation : RelayScoreAttestation) (env : ContractEnv) : Transaction :=
  ⟨signedEnv [(attestation.commitment, attestation.signature)] env,
    .user (.relayAttestedScore (account 9) (sampleSubmission (account 3) 40) attestation)⟩

/-- A contract that checks signatures. -/
def perishingKeyed : Perishing :=
  ⟨run exec initialized
    [⟨hashedEnv [account 1], .admins [account 1] (.setServicePubkey sampleNewKey)⟩], fun _ => 0⟩

/-- The relays of the sample, at a ledger some days on. -/
def laterEnv (sequence : Nat) (bounded : sequence < 2 ^ 32) : ContractEnv :=
  { sampleEnv [account 1, account 9] with
    timestamp := 5000000
    timestamp_lt := by decide
    sequence
    sequence_lt := bounded }

theorem relayed_at_most_once_sample :
    ¬ RelaysNew relayed500000.commitment
      ((sampleUpkeep.run perishingKeyed
        [.call (relaySample relayed500000 (sampleEnv [account 9]))]).seenAt
        400000)
      (relaySample relayed500000 (laterEnv 400000 (by decide)))
      (sampleSubmission (account 3) 40) relayed500000 := by
  have relays : RelaysNew relayed500000.commitment (perishingKeyed.seenAt 100)
      (relaySample relayed500000 (sampleEnv [account 9])) (sampleSubmission (account 3) 40)
      relayed500000 := ⟨account 9, rfl, rfl, by decide +kernel⟩
  exact relayed_at_most_once relays (by decide +kernel) (fun _ => nofun) (by decide) (by decide) rfl
    (fun _ => rfl)

/-- With a new service account a relay passes again, when its mark is gone. -/
theorem relayed_twice :
    RelaysNew relayed2000000.commitment (perishingKeyed.seenAt 100)
        (relaySample relayed2000000 (sampleEnv [account 9])) (sampleSubmission (account 3) 40)
        relayed2000000 ∧
      RelaysNew relayed2000000.commitment
        ((sampleUpkeep.run perishingKeyed
          [.call (relaySample relayed2000000 (sampleEnv [account 9])),
            .call ⟨laterEnv 900000 (by decide), .soleAdmin (.setService (account 5))⟩]).seenAt
          900000)
        (relaySample relayed2000000 (laterEnv 900000 (by decide)))
        (sampleSubmission (account 3) 40) relayed2000000 :=
  ⟨⟨account 9, rfl, rfl, by decide +kernel⟩, ⟨account 9, rfl, rfl, by decide +kernel⟩⟩

/-! ### Nonces -/

abbrev nonceOf (w : State) (signer : Address) : Nat :=
  (w.ledger.entry .inst (.signerNonce signer)).getD 0

/-- No nonce comes back. -/
structure NoncesGrow (w w' : State) : Prop where
  le : ∀ signer, nonceOf w signer ≤ nonceOf w' signer

/-- The service's nonce is used up. -/
def UsesNonce (nonce : Nat) (w w' : State) : Prop :=
  ∃ service, serviceOf w = some service ∧ nonceOf w service = nonce ∧ nonce < nonceOf w' service

@[reducible] def Tag.isNonce : Tag → Bool
  | .signerNonce | .service => true
  | _ => false

section Nonces

set_option synthInstance.maxSize 100000000

variable {env : ContractEnv} {w w' v v' : State} {nonce : Nat} {u : Unit}

instance : Std.Refl NoncesGrow := ⟨fun _ => ⟨fun _ => le_rfl⟩⟩

instance : IsTrans State NoncesGrow :=
  ⟨fun _ _ _ first second => ⟨fun signer => (first.le signer).trans (second.le signer)⟩⟩

theorem Same.nonceOf (same : Same Tag.isNonce w w') : nonceOf w' = nonceOf w := by
  funext signer
  rw [LedgerLens.nonceOf, same.entry .inst (.signerNonce signer) rfl]

theorem Same.noncesGrow (same : Same Tag.isNonce w w') : NoncesGrow w w' :=
  ⟨fun signer => (congrFun same.nonceOf signer).ge⟩

theorem UsesNonce.of_same (uses : UsesNonce nonce v v') (before : Same Tag.isNonce w v)
    (after : NoncesGrow v' w') : UsesNonce nonce w w' := by
  obtain ⟨service, isService, isNonce, used⟩ := uses
  refine ⟨service, ?_, ?_, used.trans_le (after.le service)⟩
  · rw [serviceOf, ← before.entry .inst .service rfl]
    exact isService
  · rw [← before.nonceOf]
    exact isNonce

/-- Both paths use a nonce in the same way. -/
theorem nonce_stored {service : Address} (isService : serviceOf w = some service)
    (isNonce : nonceOf w service = nonce) (stored : Prog.update (fun w : State =>
      { w with ledger := w.ledger.put .inst (.signerNonce service) (some (nonce + 1)) })
      env w = (.ok u w' : Outcome Error State Unit)) : NoncesGrow w w' ∧ UsesNonce nonce w w' := by
  obtain rfl := (Outcome.ok.inj stored).2
  have self : ((w.ledger.put .inst (.signerNonce service) (some (nonce + 1))).entry .inst
      (.signerNonce service)).getD 0 = nonce + 1 := by
    rw [Ledger.entry_put_self]
    rfl
  refine ⟨⟨fun signer => ?_⟩, service, isService, isNonce, self.ge⟩
  by_cases same : signer = service
  · subst same
    exact isNonce.le.trans ((Nat.le_succ nonce).trans self.ge)
  · rw [nonceOf, nonceOf, Ledger.entry_put_of_ne _ _ (by simpa using same)]

theorem useNonce_uses (ran : useNonce nonce env w = .ok u w') :
    NoncesGrow w w' ∧ UsesNonce nonce w w' := by
  obtain ⟨service, _, found, ran⟩ := bind_ok.mp ran
  obtain ⟨_, _, ⟨⟩, found⟩ := bind_ok.mp found
  obtain ⟨isService, rfl⟩ := unwrap_ok.mp found
  obtain ⟨_, _, ⟨⟩, ran⟩ := bind_ok.mp ran
  obtain ⟨isNonce, ran⟩ := require_bind_ok.mp ran
  obtain ⟨_, ran⟩ := require_bind_ok.mp ran
  exact nonce_stored isService (of_decide_eq_true isNonce) ran

theorem checkAttestation_uses {ns : NormalizedSubmission} {attestation : Option ScoreAttestation}
    (ran : checkAttestation ns attestation env w = .ok u w') :
    NoncesGrow w w' ∧ ∀ att, attestation = some att → UsesNonce att.nonce w w' := by
  obtain ⟨key, _, ⟨⟩, ran⟩ := bind_ok.mp ran
  unfold whenever at ran
  split at ran
  · obtain ⟨_, v, verified, ran⟩ := bind_ok.mp ran
    have before : Same Tag.isNonce w v := Keeps.ok verified
    cases attestation with
    | none =>
      cases ran
      exact ⟨before.noncesGrow, nofun⟩
    | some att =>
      obtain ⟨grow, uses⟩ := useNonce_uses ran
      refine ⟨IsTrans.trans _ _ _ before.noncesGrow grow, fun att' isAtt => ?_⟩
      obtain rfl := Option.some.inj isAtt
      exact uses.of_same before (Std.Refl.refl _)
  · next unchecked =>
    cases ran
    refine ⟨Std.Refl.refl _, fun att isAtt => ?_⟩
    simp [isAtt] at unchecked

theorem submitScore_uses {signers : List Address} {sub : ScoreSubmission}
    {input : Option ScoreAttestationInput} (ran : submitScore signers sub input env
      w = .ok u w') :
    NoncesGrow w w' ∧ ∀ att, input.bind ScoreAttestationInput.attestation = some att →
      input.bind ScoreAttestationInput.thresholdAttestation = none → UsesNonce att.nonce w w' := by
  obtain ⟨_, v₁, isOpen, ran⟩ := bind_ok.mp ran
  obtain ⟨_, v₂, bounded, ran⟩ := bind_ok.mp ran
  obtain ⟨_, v₃, authorized, finalized⟩ := bind_ok.mp ran
  have before : Same Tag.isNonce w v₂ := IsTrans.trans _ _ _ (Keeps.ok isOpen) (Keeps.ok bounded)
  have after : Same Tag.isNonce v₃ w' := Keeps.ok finalized
  cases isThreshold : input.bind ScoreAttestationInput.thresholdAttestation with
  | some ta =>
    rw [isThreshold] at authorized
    have same : Same Tag.isNonce v₂ v₃ := by
      dsimp only [Option.elim_some] at authorized
      exact Keeps.ok authorized
    exact ⟨(IsTrans.trans _ _ _ (IsTrans.trans _ _ _ before same) after).noncesGrow, nofun⟩
  | none =>
    rw [isThreshold] at authorized
    obtain ⟨_, v, signed, checked⟩ := bind_ok.mp authorized
    have before : Same Tag.isNonce w v := IsTrans.trans _ _ _ before (Keeps.ok signed)
    obtain ⟨grow, uses⟩ := checkAttestation_uses checked
    refine ⟨IsTrans.trans _ _ _ before.noncesGrow (IsTrans.trans _ _ _ grow after.noncesGrow), ?_⟩
    intro att isAtt _
    exact (uses att isAtt).of_same before after.noncesGrow

theorem acceptRelay_grows {relayer : Address} {sub : ScoreSubmission}
    {attestation : RelayScoreAttestation} {digest : BytesN 32}
    (ran : acceptRelay relayer sub attestation digest env w = .ok u w') : NoncesGrow w w' := by
  obtain ⟨_, v₁, verified, ran⟩ := bind_ok.mp ran
  obtain ⟨service, _, found, ran⟩ := bind_ok.mp ran
  obtain ⟨_, _, ⟨⟩, found⟩ := bind_ok.mp found
  obtain ⟨isService, rfl⟩ := unwrap_ok.mp found
  obtain ⟨_, _, ⟨⟩, ran⟩ := bind_ok.mp ran
  obtain ⟨isNonce, ran⟩ := require_bind_ok.mp ran
  obtain ⟨_, ran⟩ := require_bind_ok.mp ran
  obtain ⟨_, v₂, marked, ran⟩ := bind_ok.mp ran
  obtain ⟨_, v₃, stored, ran⟩ := bind_ok.mp ran
  have before : Same Tag.isNonce w v₁ := Keeps.ok verified
  have marking : Same Tag.isNonce v₁ v₂ := Keeps.ok marked
  have after : Same Tag.isNonce v₃ w' := Keeps.ok ran
  have isNonce' : nonceOf v₂ service = attestation.nonce := by
    rw [marking.nonceOf]
    exact of_decide_eq_true isNonce
  have isService' : serviceOf v₂ = some service :=
    (marking.entry .inst .service rfl).trans isService
  have grow := (nonce_stored isService' isNonce' stored).1
  exact IsTrans.trans _ _ _ (IsTrans.trans _ _ _ before marking).noncesGrow
    (IsTrans.trans _ _ _ grow after.noncesGrow)

@[reducible] def Tag.isSignerNonce : Tag → Bool
  | .signerNonce => true
  | _ => false

theorem noncesGrow_of_same (same : Same Tag.isSignerNonce w w') : NoncesGrow w w' :=
  ⟨fun signer => by rw [nonceOf, nonceOf, same.entry .inst (.signerNonce signer) rfl]⟩

theorem exec_noncesGrow {call : Call} (ran : exec call env w = .ok u w') : NoncesGrow w w' := by
  have unchanged (free : (footprint call).all (fun t => !t.isSignerNonce) = true) :
      NoncesGrow w w' :=
    noncesGrow_of_same (About.of_all free ((exec_keeps call).ok ran))
  rcases call with call | ⟨signers, call⟩ | call
  · cases call
    case submitScore => exact (submitScore_uses ran).1
    case relayAttestedScore =>
      obtain ⟨_, _, relayed, ⟨⟩⟩ := bind_ok.mp ran
      obtain ⟨v, before, _, _, cases⟩ := relayAttestedScore_ok relayed
      have entering : NoncesGrow w v :=
        noncesGrow_of_same (About.of_all rfl before)
      rcases cases with ⟨_, sameLedger⟩ | ⟨_, _, accepted⟩
      · refine IsTrans.trans _ _ _ entering ⟨fun signer => ?_⟩
        rw [nonceOf, nonceOf, sameLedger]
      · exact IsTrans.trans _ _ _ entering (acceptRelay_grows accepted)
    all_goals exact unchanged rfl
  · exact unchanged (by cases call <;> rfl)
  · exact unchanged (by cases call <;> rfl)

@[reducible] def Tag.isServiceAccount : Tag → Bool
  | .service => true
  | _ => false

/-- The service account is replaced by one call only, once there is an administrator. -/
theorem exec_serviceOf {call : Call} (ran : exec call env w = .ok u w')
    (admin : (adminOf w).isSome = true) (kept : ∀ account, call ≠ .soleAdmin
      (.setService account)) : serviceOf w' = serviceOf w := by
  have unchanged (free : (footprint call).all (fun t => !t.isServiceAccount) = true) :
      serviceOf w' = serviceOf w := by
    have same : Same Tag.isServiceAccount w w' := About.of_all free ((exec_keeps call).ok ran)
    exact same.entry _ _ rfl
  rcases call with call | ⟨signers, call⟩ | call
  · cases call
    case initializeContract =>
      simp [ok_iff_wp, exec, execUser, initializeContract, admin] at ran
    all_goals exact unchanged rfl
  · exact unchanged (by cases call <;> rfl)
  · cases call
    case setService account => exact absurd rfl (kept account)
    all_goals exact unchanged rfl

end Nonces

/-! ### Signatures of direct subs -/

/-- The transaction submits a score on the strength of the attestation. -/
def SubmitsSigned (w : State) (tx : Transaction) (attestation : ScoreAttestation) : Prop :=
  Returns exec w tx ∧ ∃ signers sub input,
    tx.call = .user (.submitScore signers sub (some input)) ∧
      input.attestation = some attestation ∧ input.thresholdAttestation = none

section Signatures

variable {w : State} {tx tx' : Transaction} {attestation attestation' : ScoreAttestation}
  {between : List Transaction}

theorem SubmitsSigned.returned (submits : SubmitsSigned w tx attestation) :
    (adminOf w).isSome = true ∧ UsesNonce attestation.nonce w (step exec w tx) := by
  obtain ⟨returns, signers, sub, input, isCall, isAttestation, isThreshold⟩ := submits
  have ran := returns.ok
  rw [isCall] at ran
  refine ⟨?_, (submitScore_uses ran).2 attestation isAttestation isThreshold⟩
  obtain ⟨_, _, isOpen, _⟩ := bind_ok.mp ran
  simp only [ensureSubmissionsOpen, ok_iff_wp, wp_bind, wp_loadOr, wp_require, wp_has] at isOpen
  exact isOpen.2.1

theorem step_noncesGrow (w : State) (tx : Transaction) : NoncesGrow w (step exec w tx) := by
  by_cases returns : Returns exec w tx
  · exact ⟨(exec_noncesGrow returns.ok).le⟩
  · rw [step_of_not_returns returns]
    exact Std.Refl.refl _

/-- Whatever happens in between, no signer's nonce is ever turned back. -/
theorem nonces_never_fall (w : State) (txs : List Transaction) (signer : Address) :
    nonceOf w signer ≤ nonceOf (run exec w txs) signer := by
  induction txs generalizing w with
  | nil => exact Nat.le_refl _
  | cons tx rest ih => exact ((step_noncesGrow w tx).le signer).trans (ih _)

theorem step_serviceOf (admin : (adminOf w).isSome = true)
    (kept : ∀ account, tx.call ≠ .soleAdmin (.setService account)) :
    serviceOf (step exec w tx) = serviceOf w := by
  by_cases returns : Returns exec w tx
  · exact exec_serviceOf (w := { w with authorized := [] }) returns.ok admin kept
  · rw [step_of_not_returns returns]

theorem run_nonces (admin : (adminOf w).isSome = true)
    (kept : ∀ tx ∈ between, ∀ account, tx.call ≠ .soleAdmin (.setService account)) :
    NoncesGrow w (run exec w between) ∧ serviceOf (run exec w between) = serviceOf w := by
  induction between generalizing w with
  | nil => exact ⟨Std.Refl.refl _, rfl⟩
  | cons tx rest ih =>
    have admin' : (adminOf (step exec w tx)).isSome = true := step_admin admin
    obtain ⟨grow, same⟩ := ih admin' fun later isLater =>
      kept later (List.mem_cons_of_mem tx isLater)
    exact ⟨IsTrans.trans _ _ _ (step_noncesGrow w tx) grow,
      same.trans (step_serviceOf admin (kept tx List.mem_cons_self))⟩

/-- A signature that was accepted is not accepted again with the nonce it came with, as long as
the service account stays. -/
theorem signature_used_once (submits : SubmitsSigned w tx attestation)
    (kept : ∀ tx ∈ between, ∀ account, tx.call ≠ .soleAdmin (.setService account))
    (tied : attestation'.signature = attestation.signature →
      attestation'.nonce = attestation.nonce) :
    ¬ (SubmitsSigned (run exec w (tx :: between)) tx' attestation' ∧
      attestation'.signature = attestation.signature) := by
  rintro ⟨again, sameSignature⟩
  obtain ⟨admin, service, isService, _, used⟩ := submits.returned
  obtain ⟨_, service', isService', isNonce', _⟩ := again.returned
  have admin' : (adminOf (step exec w tx)).isSome = true := step_admin admin
  have first : serviceOf (step exec w tx) = serviceOf w := by
    refine step_serviceOf admin fun account isSetter => ?_
    obtain ⟨_, _, _, isCall, _⟩ := submits.2
    rw [isCall] at isSetter
    cases isSetter
  obtain ⟨grow, same⟩ := run_nonces admin' kept
  have isSame : service' = service :=
    Option.some.inj (isService'.symm.trans ((same.trans first).trans isService))
  rw [tied sameSignature, isSame] at isNonce'
  have late := grow.le service
  rw [← run_cons, isNonce'] at late
  omega

end Signatures

/-- The score 40 of account 3, signed for a direct submission. -/
def sampleAttestation (nonce : Nat) : ScoreAttestation where
  commitment :=
    ⟨toBeBytes 32 0x4ac781a2f50d0e1a117051a86e3376d663eddefee65322bfb521e196d309f99f, by simp⟩
  signature := signatureWith 0x6d529dd80b61af422a4f3991ec0316e182c38c778f831c2e1996e7e27a366c45 0
  contractId := zero32
  contractVersion := 5
  nonce := nonce

def submitAttested (nonce : Nat) (env : ContractEnv) : Transaction :=
  ⟨signedEnv [((sampleAttestation nonce).commitment, (sampleAttestation nonce).signature)] env,
    .user (.submitScore [] (sampleSubmission (account 3) 40)
      (some ⟨some (sampleAttestation nonce), none, none⟩))⟩

/-- The service signs a later transaction. -/
def laterService : ContractEnv := sampleAfter [account 2] 4000000

theorem signature_used_once_sample :
    ¬ (SubmitsSigned (run exec perishingKeyed.world [submitAttested 0 (sampleEnv [account 2])])
        (submitAttested 0 laterService) (sampleAttestation 0) ∧
      (sampleAttestation 0).signature = (sampleAttestation 0).signature) := by
  have submits : SubmitsSigned perishingKeyed.world (submitAttested 0 (sampleEnv [account 2]))
      (sampleAttestation 0) :=
    ⟨returns_of_isOk (by decide +kernel), [], _, _, rfl, rfl, rfl⟩
  exact signature_used_once submits (fun _ => nofun) (fun _ => rfl)

/-- The signature passes again with the next nonce. -/
theorem signature_used_twice :
    SubmitsSigned perishingKeyed.world (submitAttested 0 (sampleEnv [account 2]))
        (sampleAttestation 0) ∧
      SubmitsSigned (run exec perishingKeyed.world [submitAttested 0 (sampleEnv [account 2])])
        (submitAttested 1 laterService) (sampleAttestation 1) ∧
      (sampleAttestation 1).signature = (sampleAttestation 0).signature :=
  ⟨⟨returns_of_isOk (by decide +kernel), [], _, _, rfl, rfl, rfl⟩,
    ⟨returns_of_isOk (by decide +kernel), [], _, _, rfl, rfl, rfl⟩, rfl⟩

end LedgerLens
