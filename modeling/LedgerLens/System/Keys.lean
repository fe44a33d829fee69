import LedgerLens.System.Authority
import LedgerLens.System.ScoreFrame
import LedgerLens.System.Service

/-!
The service key. A rotation with an overlap leaves the new key beside the active
one; the first signature checked after the overlap makes it active. A direct
replacement of the active key does not look at a key that is pending, and a
signature is refused while the active key is revoked, whichever key made it. The main results are
`replaced_key_kept` and `rotated_key_passes_iff`.
-/

namespace LedgerLens

open Host Host.Prog Storage

/-! ### Revoked keys -/

/-- The key has been revoked. -/
def revoked (env : ContractEnv) (w : State) (key : Bytes) : Bool :=
  (w.ledger.entry .inst (.revokedKey (env.crypto.sha256 key))).elim false
    fun record => decide (env.timestamp ≥ record.effectiveFrom)

@[simp] theorem wp_keyRevokedAt {env : ContractEnv} {w : State}
    {Q : Bool → State → Prop} (key : Bytes) :
    wp (keyRevokedAt key env.timestamp) Q env w ↔ Q (revoked env w key) w := by
  simp [keyRevokedAt, revoked]

/-! ### The key ring -/

/-- The active key, and the one that replaces it when its overlap has passed. -/
structure KeyRing where
  active : Option Bytes
  pending : Option (Bytes × Nat)

namespace KeyRing

/-- The pending key has become the active one. -/
def Promoted (ring ring' : KeyRing) : Prop :=
  ∃ key expiry, ring.pending = some (key, expiry) ∧ ring' = ⟨some key, none⟩

/-- What a signature at `time` is checked against. -/
def atTime (ring : KeyRing) (time : Nat) : KeyRing :=
  match ring.pending with
  | some (key, expiry) => if time > expiry then ⟨some key, none⟩ else ring
  | none => ring

/-- Signatures that recover to `recovered` pass, given which keys are revoked. -/
def Admits (ring : KeyRing) (time : Nat) (isRevoked : Bytes → Bool)
    (recovered : BytesN 65) : Prop :=
  ∃ key, ring.active = some key ∧ isRevoked key = false ∧
    (pubkeysMatch recovered key = true ∨
      ∃ pending, ring.pending = some pending ∧ time ≤ pending.2 ∧
        pubkeysMatch recovered pending.1 = true ∧ isRevoked pending.1 = false)

/-- There is no other key than this one. -/
structure Holds (ring : KeyRing) (key : Bytes) : Prop where
  active : ring.active = some key
  pending : ∀ pending ∈ ring.pending, pending.1 = key

variable {ring ring' : KeyRing} {key : Bytes} {time : Nat} {isRevoked : Bytes → Bool}
  {recovered : BytesN 65}

theorem Holds.promoted (holds : ring.Holds key) (promoted : ring.Promoted ring') :
    ring'.Holds key := by
  obtain ⟨other, expiry, isPending, rfl⟩ := promoted
  exact ⟨congrArg some (holds.pending _ isPending), nofun⟩

theorem atTime_cases (ring : KeyRing) (time : Nat) :
    ring.atTime time = ring ∨ ring.Promoted (ring.atTime time) := by
  unfold atTime
  split
  · next key expiry isPending =>
    split
    · exact .inr ⟨key, expiry, isPending, rfl⟩
    · exact .inl rfl
  · exact .inl rfl

theorem Holds.atTime (holds : ring.Holds key) (time : Nat) : (ring.atTime time).Holds key := by
  rcases ring.atTime_cases time with same | promoted
  · rwa [same]
  · exact holds.promoted promoted

theorem Holds.admits (holds : ring.Holds key) (admits : ring.Admits time isRevoked recovered) :
    pubkeysMatch recovered key = true := by
  obtain ⟨active, isActive, _, isMatch | ⟨pending, isPending, _, isMatch, _⟩⟩ := admits
  · rwa [← Option.some.inj (isActive.symm.trans holds.active)]
  · rwa [← holds.pending _ isPending]

/-- The new key is pending, or has become the only one. -/
def Rotates (ring : KeyRing) (newKey : Bytes) (expiry : Nat) : Prop :=
  (ring.active.isSome = true ∧ ring.pending = some (newKey, expiry)) ∨ ring = ⟨some newKey, none⟩

theorem Rotates.promoted {expiry : Nat} (rotates : ring.Rotates key expiry)
    (promoted : ring.Promoted ring') : ring'.Rotates key expiry := by
  obtain ⟨other, _, isPending, rfl⟩ := promoted
  rcases rotates with ⟨_, waiting⟩ | rfl
  · cases isPending.symm.trans waiting
    exact .inr rfl
  · cases isPending

/-- A ring that holds one valid key admits its signatures. -/
theorem admits_single (isMatch : pubkeysMatch recovered key = true)
    (valid : isRevoked key = false) :
    (KeyRing.mk (some key) none).Admits time isRevoked recovered :=
  ⟨key, rfl, valid, .inl isMatch⟩

theorem Rotates.admits_iff {expiry : Nat} (rotates : ring.Rotates key expiry)
    (isMatch : pubkeysMatch recovered key = true) (valid : isRevoked key = false) :
    (ring.atTime time).Admits time isRevoked recovered ↔
      expiry < time ∨ ∀ active ∈ ring.active, isRevoked active = false := by
  rcases rotates with ⟨registered, waiting⟩ | rfl
  · obtain ⟨active, isActive⟩ := Option.isSome_iff_exists.mp registered
    by_cases late : time > expiry
    · have promoted : ring.atTime time = ⟨some key, none⟩ := by
        unfold atTime
        rw [waiting]
        exact if_pos late
      rw [promoted]
      exact iff_of_true (admits_single isMatch valid) (.inl late)
    · have still : ring.atTime time = ring := by
        unfold atTime
        rw [waiting]
        exact if_neg late
      rw [still]
      constructor
      · rintro ⟨other, isOther, otherValid, _⟩
        refine .inr fun active isActive => ?_
        rwa [← Option.some.inj (isOther.symm.trans isActive)]
      · rintro (isLate | activeValid)
        · exact absurd isLate late
        · exact ⟨active, isActive, activeValid active isActive,
            .inr ⟨_, waiting, Nat.le_of_not_lt late, isMatch, valid⟩⟩
  · exact iff_of_true (admits_single isMatch valid) (.inr fun active isActive => by
      rwa [← Option.some.inj isActive])

end KeyRing

def keyRing (w : State) : KeyRing where
  active := w.ledger.entry .inst .servicePubKey
  pending := w.ledger.entry .inst .pendingServicePubKey

/-- The keys are as they were, or the pending one was promoted. -/
def KeepsKeys (w w' : State) : Prop :=
  keyRing w' = keyRing w ∨ (keyRing w).Promoted (keyRing w')

@[reducible] def Tag.isServiceKey : Tag → Bool
  | .servicePubKey | .pendingServicePubKey => true
  | _ => false

theorem keyRing_same {w w' : State} (same : Same Tag.isServiceKey w w') :
    keyRing w' = keyRing w := by
  unfold keyRing
  rw [same.entry _ .servicePubKey rfl, same.entry _ .pendingServicePubKey rfl]

instance : About KeepsKeys Tag.isServiceKey where
  of_only ts _ _ free only := .inl (keyRing_same (About.of_only ts free only))

instance : IsTrans State KeepsKeys where
  trans u v w first second := by
    rcases first with same | ⟨key, expiry, isPending, promoted⟩
    · rcases second with same' | ⟨key, expiry, isPending, promoted⟩
      · exact .inl (same'.trans same)
      · exact .inr ⟨key, expiry, same ▸ isPending, promoted⟩
    · rcases second with same | ⟨_, _, isPending', _⟩
      · exact .inr ⟨key, expiry, isPending, same.trans promoted⟩
      · rw [promoted] at isPending'
        cases isPending'

/-! ### Checking a signature -/

section Signatures

variable {env : ContractEnv} {w w' : State} {digest : BytesN 32} {sig : BytesN 65}

/-- The state once an overlap that has passed was resolved. -/
def resolveOverlap (env : ContractEnv) (w : State) : State :=
  match w.ledger.entry .inst .pendingServicePubKey with
  | some (key, expiry) =>
    if env.timestamp > expiry then
      { w with
        ledger := (w.ledger.put .inst .servicePubKey (some key)).put .inst
          .pendingServicePubKey none }
    else w
  | none => w

theorem keyRing_resolveOverlap (env : ContractEnv) (w : State) :
    keyRing (resolveOverlap env w) = (keyRing w).atTime env.timestamp := by
  unfold resolveOverlap KeyRing.atTime
  cases isPending : w.ledger.entry .inst .pendingServicePubKey with
  | none => simp [keyRing, isPending]
  | some pending =>
    obtain ⟨key, expiry⟩ := pending
    simp only [keyRing, isPending]
    split
    · simp [Ledger.entry_put_of_ne]
    · simp [isPending]

theorem revoked_resolveOverlap (env : ContractEnv) (w : State) (key : Bytes) :
    revoked env (resolveOverlap env w) key = revoked env w key := by
  unfold resolveOverlap
  split
  · split
    · simp [revoked, Ledger.entry_put_of_ne]
    · rfl
  · rfl

/-- The check of a signature after the overlap is resolved. -/
def checkRecovered (digest : BytesN 32) (sig : BytesN 65) : M Unit := do
  let time ← now
  let pubkey ← okOr (← getServicePubkey) .servicePubkeyNotSet
  require (!(← keyRevokedAt pubkey time)) .invalidAttestation
  require (recoveryId sig ≤ 1) .invalidAttestation
  let recovered ← unwrap
    (← asks fun env => env.crypto.recover digest (signatureRs sig) (recoveryId sig))
  if pubkeysMatch recovered pubkey then
    pure ()
  else do
    let usable := (← getPendingServicePubkey).filter fun pending =>
      time ≤ pending.2 && pubkeysMatch recovered pending.1
    let pending ← okOr usable .invalidAttestation
    require (!(← keyRevokedAt pending.1 time)) .invalidAttestation

theorem verifySignature_run (env : ContractEnv) (w : State) (digest : BytesN 32) (sig : BytesN 65) :
    verifySignature digest sig env w = checkRecovered digest sig env (resolveOverlap env w) := by
  have resolved : (ifSome (w.ledger.entry .inst .pendingServicePubKey) fun pending =>
      whenever (env.timestamp > pending.2) do
        store .inst .servicePubKey pending.1
        remove .inst .pendingServicePubKey : M Unit) env w = .ok () (resolveOverlap env w) := by
    unfold resolveOverlap
    cases isPending : w.ledger.entry .inst .pendingServicePubKey with
    | none => rfl
    | some pending =>
      simp only [ok_iff_wp, ifSome, Option.elim_some, wp_whenever, wp_bind, wp_save, wp_erase,
        decide_eq_true_eq]
      split <;> simp
  have time (v : State) : (now : M Nat) env v = .ok env.timestamp v := rfl
  have pending : getPendingServicePubkey env w =
      .ok (w.ledger.entry .inst .pendingServicePubKey) w := rfl
  rw [verifySignature, checkSignature, checkRecovered, run_bind_of_ok (time w),
    run_bind_of_ok pending, run_bind_of_ok resolved, run_bind_of_ok (time _)]

set_option synthInstance.maxSize 100000000 in
instance (digest : BytesN 32) (sig : BytesN 65) : Touches (checkRecovered digest sig) [] :=
  ⟨by unfold checkRecovered; infer_instance⟩

theorem keepsKeys_resolveOverlap (env : ContractEnv) (w : State) :
    KeepsKeys w (resolveOverlap env w) := by
  unfold KeepsKeys
  rw [keyRing_resolveOverlap]
  exact (keyRing w).atTime_cases env.timestamp

instance (digest : BytesN 32) (sig : BytesN 65) : Keeps KeepsKeys (verifySignature digest sig) where
  ok {env w a w'} ran := by
    rw [verifySignature_run] at ran
    exact IsTrans.trans _ _ _ (keepsKeys_resolveOverlap env w) (Keeps.ok ran)
  err {env w e w'} failed := by
    rw [verifySignature_run] at failed
    exact IsTrans.trans _ _ _ (keepsKeys_resolveOverlap env w) (Keeps.err failed)

/-- When a signature passes. -/
theorem verifySignature_isOk :
    (verifySignature digest sig env w).isOk = true ↔
      recoveryId sig ≤ 1 ∧
        ∃ recovered, env.crypto.recover digest (signatureRs sig) (recoveryId sig) = some recovered ∧
          ((keyRing w).atTime env.timestamp).Admits env.timestamp (revoked env w) recovered := by
  have ring := keyRing_resolveOverlap env w
  have isRevoked := revoked_resolveOverlap env w
  rw [verifySignature_run, ← ring]
  generalize resolveOverlap env w = v at isRevoked
  simp only [isOk_iff_wp, checkRecovered, wp_bind, wp_asks, wp_load, wp_okOr, wp_keyRevokedAt,
    wp_require, wp_unwrap, wp_ite, wp_pure, isRevoked, decide_eq_true_eq, Bool.not_eq_true',
    and_true, Option.filter_eq_some_iff, Bool.and_eq_true]
  constructor
  · rintro ⟨key, isActive, valid, wellFormed, recovered, recovers, found⟩
    refine ⟨wellFormed, recovered, recovers, key, isActive, valid, ?_⟩
    split at found
    · next isMatch => exact .inl isMatch
    · obtain ⟨pending, ⟨isPending, inTime, isMatch⟩, usable⟩ := found
      exact .inr ⟨pending, isPending, inTime, isMatch, usable⟩
  · rintro ⟨wellFormed, recovered, recovers, key, isActive, valid, found⟩
    refine ⟨key, isActive, valid, wellFormed, recovered, recovers, ?_⟩
    split
    · trivial
    · next noMatch =>
      rcases found with isMatch | ⟨pending, isPending, inTime, isMatch, usable⟩
      · exact absurd isMatch noMatch
      · exact ⟨pending, ⟨isPending, inTime, isMatch⟩, usable⟩

end Signatures

/-! ### Calls -/

/-- A successful call that replaces or rotates the service key. -/
def ReplacesKey (w : State) (tx : Transaction) : Prop :=
  Returns exec w tx ∧
    match tx.call with
    | .admins _ (.setServicePubkey _) | .admins _ (.rotateServicePubkey ..) => True
    | _ => False

section Calls

set_option synthInstance.maxSize 100000000

instance (sub : NormalizedSubmission) (attestation : Option ScoreAttestation) :
    Keeps KeepsKeys (verifyAttestation sub attestation) := by
  unfold verifyAttestation
  infer_instance

instance (shouldVerify : Bool) (sub : NormalizedSubmission) (attestation : ScoreAttestation) :
    Keeps KeepsKeys (voteVerified shouldVerify sub attestation) := by
  unfold voteVerified
  infer_instance

instance (signers : List Address) (sub : ScoreSubmission) (input : Option ScoreAttestationInput) :
    Keeps KeepsKeys (submitScore signers sub input) := by
  unfold submitScore authorizeLegacy checkAttestation
  infer_instance

instance (relayer : Address) (sub : ScoreSubmission) (attestation : RelayScoreAttestation) :
    Keeps KeepsKeys (relayAttestedScore relayer sub attestation) := by
  unfold relayAttestedScore acceptRelay
  infer_instance

instance (signers : List Address) (subs : List ScoreSubmissionWithProof)
    (attestation : BatchAttestation) :
    Keeps KeepsKeys (submitScoresBatchAttested signers subs attestation) := by
  unfold submitScoresBatchAttested
  infer_instance

instance (signers : List Address) (wallet : Address) (pair : Symbol)
    (votes : List ModelSubmission) (nonces : List Nat) (timestamp : Nat) :
    Keeps KeepsKeys (revealConsensus signers wallet pair votes nonces timestamp) := by
  unfold revealConsensus revealVote
  infer_instance

instance (signers : List Address) (wallet : Address) (pair : Symbol)
    (votes : List ModelSubmission) (timestamp : Nat) :
    Keeps KeepsKeys (submitConsensusScore signers wallet pair votes timestamp) := by
  unfold submitConsensusScore directVote
  infer_instance

variable {w : State} {tx : Transaction}

/-- Other calls at most promote the pending key. -/
theorem step_keepsKeys (quiet : ¬ ReplacesKey w tx) : KeepsKeys w (step exec w tx) := by
  by_cases returns : Returns exec w tx
  swap
  · rw [step_of_not_returns returns]
    exact .inl rfl
  suffices KeepsKeys { w with authorized := [] } (step exec w tx) from this
  have ran := returns.ok
  obtain ⟨env, call⟩ := tx
  have unchanged (free : (footprint call).all (fun t => !t.isServiceKey) = true) :
      KeepsKeys { w with authorized := [] } (step exec w ⟨env, call⟩) :=
    About.of_all free ((exec_keeps call).ok ran)
  rcases call with call | ⟨signers, call⟩ | call
  · cases call
    case submitScore | revealConsensus | submitConsensusScore =>
      dsimp only [exec, execUser] at ran
      exact Keeps.ok ran
    case relayAttestedScore =>
      obtain ⟨_, _, relayed, ⟨⟩⟩ := bind_ok.mp ran
      exact Keeps.ok relayed
    case submitScoresBatchAttested =>
      obtain ⟨_, _, submitted, ⟨⟩⟩ := bind_ok.mp ran
      exact Keeps.ok submitted
    all_goals exact unchanged rfl
  · cases call
    case setServicePubkey | rotateServicePubkey => exact absurd ⟨returns, trivial⟩ quiet
    all_goals exact unchanged rfl
  · exact unchanged (by cases call <;> rfl)

theorem run_keepsKeys {txs : List Transaction}
    (quiet : Along exec (fun w tx => ¬ ReplacesKey w tx) w txs) : KeepsKeys w (run exec w txs) := by
  induction txs generalizing w with
  | nil => exact .inl rfl
  | cons tx rest ih => exact IsTrans.trans _ _ _ (step_keepsKeys quiet.1) (ih quiet.2)

/-- A direct replacement leaves the pending key. -/
theorem setServicePubkey_keyRing {env : ContractEnv} {signers : List Address} {key : Bytes}
    {w' : State} {u : Unit} (ran : setServicePubkey signers key env w = .ok u w') :
    keyRing w' = ⟨some key, (keyRing w).pending⟩ := by
  obtain ⟨_, _, checked, ⟨ledger, _⟩, changed⟩ := asAdmins_ok ran
  obtain ⟨_, rfl⟩ := require_ok.mp checked
  obtain ⟨-, rfl⟩ := save_ok.mp changed
  simp [keyRing, ledger, Ledger.entry_put_of_ne]

theorem rotateServicePubkey_keyRing {env : ContractEnv} {signers : List Address} {key : Bytes}
    {overlap : Nat} {w' : State} {u : Unit} (positive : 0 < overlap)
    (ran : rotateServicePubkey signers key overlap env w = .ok u w') :
    keyRing w' = ⟨(keyRing w).active, some (key, satAdd64 env.timestamp overlap)⟩ := by
  obtain ⟨_, _, checked, ⟨ledger, _⟩, changed⟩ := asAdmins_ok ran
  obtain ⟨_, checked⟩ := require_bind_ok.mp checked
  obtain ⟨_, rfl⟩ := require_ok.mp checked
  simp only [ok_iff_wp, wp_bind, wp_erase, if_neg positive.ne', wp_asks, wp_save] at changed
  obtain ⟨_, rfl⟩ := changed
  simp [keyRing, ledger, Ledger.entry_put_of_ne]

end Calls

/-! ### Replacement -/

/-- If no other key is pending, a replaced key stays active and is the only one
whose signatures pass, until the next replacement or rotation. -/
theorem replaced_key_kept {w : State} {env : ContractEnv} {signers : List Address} {key : Bytes}
    (returns : Returns exec w ⟨env, .admins signers (.setServicePubkey key)⟩)
    (unrotated : ∀ pending ∈ (keyRing w).pending, pending.1 = key) (after : List Transaction)
    (quiet : Along exec (fun w tx => ¬ ReplacesKey w tx)
      (step exec w ⟨env, .admins signers (.setServicePubkey key)⟩) after) :
    (keyRing (run exec w (⟨env, .admins signers (.setServicePubkey key)⟩ :: after))).active =
        some key ∧
      ∀ env' digest sig, (verifySignature digest sig env'
          (run exec w (⟨env, .admins signers (.setServicePubkey key)⟩ :: after))).isOk = true →
        ∃ recovered,
          env'.crypto.recover digest (signatureRs sig) (recoveryId sig) = some recovered ∧
            pubkeysMatch recovered key = true := by
  have replaced : keyRing (step exec w ⟨env, .admins signers (.setServicePubkey key)⟩) =
      ⟨some key, (keyRing w).pending⟩ :=
    setServicePubkey_keyRing (w := { w with authorized := [] }) returns.ok
  have holds : (keyRing
    (step exec w ⟨env, .admins signers (.setServicePubkey key)⟩)).Holds key := by
    rw [replaced]
    exact ⟨rfl, unrotated⟩
  have later : (keyRing (run exec w
      (⟨env, .admins signers (.setServicePubkey key)⟩ :: after))).Holds key := by
    rcases run_keepsKeys quiet with same | promoted
    · rwa [run_cons, same]
    · exact holds.promoted promoted
  refine ⟨later.active, fun env' digest sig passes => ?_⟩
  obtain ⟨_, recovered, recovers, admits⟩ := verifySignature_isOk.mp passes
  exact ⟨recovered, recovers, (later.atTime env'.timestamp).admits admits⟩

/-! ### Rotation -/

/-- The key in the active slot is not revoked. -/
def ActiveUsable (env : ContractEnv) (w : State) : Prop :=
  ∀ key ∈ (keyRing w).active, revoked env w key = false

/-- After a rotation with an overlap, and until the next replacement or rotation,
a signature of the new key passes once the overlap is over, and during the overlap
exactly if the active key is not revoked. -/
theorem rotated_key_passes_iff {w : State} {env : ContractEnv} {signers : List Address}
    {newKey : Bytes} {overlap : Nat} (registered : (keyRing w).active.isSome = true)
    (positive : 0 < overlap)
    (returns : Returns exec w ⟨env, .admins signers (.rotateServicePubkey newKey overlap)⟩)
    (after : List Transaction)
    (quiet : Along exec (fun w tx => ¬ ReplacesKey w tx)
      (step exec w ⟨env, .admins signers (.rotateServicePubkey newKey overlap)⟩) after)
    {v : State}
    (isRun : v = run exec w (⟨env, .admins signers (.rotateServicePubkey newKey overlap)⟩ :: after))
    {env' : ContractEnv} {digest : BytesN 32} {sig : BytesN 65} {recovered : BytesN 65}
    (wellFormed : recoveryId sig ≤ 1)
    (recovers : env'.crypto.recover digest (signatureRs sig) (recoveryId sig) = some recovered)
    (isNew : pubkeysMatch recovered newKey = true) (valid : revoked env' v newKey = false) :
    (verifySignature digest sig env' v).isOk = true ↔
      satAdd64 env.timestamp overlap < env'.timestamp ∨ ActiveUsable env' v := by
  have rotated : keyRing
    (step exec w ⟨env, .admins signers (.rotateServicePubkey newKey overlap)⟩) =
      ⟨(keyRing w).active, some (newKey, satAdd64 env.timestamp overlap)⟩ :=
    rotateServicePubkey_keyRing (w := { w with authorized := [] }) positive returns.ok
  have rotates : (keyRing (step exec w
      ⟨env, .admins signers (.rotateServicePubkey newKey overlap)⟩)).Rotates newKey
        (satAdd64 env.timestamp overlap) := by
    rw [rotated]
    exact .inl ⟨registered, rfl⟩
  have later : (keyRing v).Rotates newKey (satAdd64 env.timestamp overlap) := by
    rw [isRun]
    rcases run_keepsKeys quiet with same | promoted
    · rwa [run_cons, same]
    · exact rotates.promoted promoted
  have admitted : ((keyRing v).atTime env'.timestamp).Admits env'.timestamp (revoked env' v)
      recovered ↔ satAdd64 env.timestamp overlap < env'.timestamp ∨ ActiveUsable env' v :=
    later.admits_iff isNew valid
  rw [verifySignature_isOk, ← admitted]
  constructor
  · rintro ⟨_, other, isOther, admits⟩
    rwa [← Option.some.inj (isOther.symm.trans recovers)]
  · intro admits
    exact ⟨wellFormed, recovered, recovers, admits⟩

/-! ### Two keys -/

/-- The public keys of the secret keys 1 and 2, compressed. -/
def sampleKey : Bytes :=
  0x02 :: toBeBytes 32 0x79be667ef9dcbbac55a06295ce870b07029bfcdb2dce28d959f2815b16f81798
def sampleNewKey : Bytes :=
  0x02 :: toBeBytes 32 0xc6047f9441ed7d6d3045406e95c07cd85c778e4b8cef3ca7abac09b95c709ee5

/-- The hash of `abc`. -/
def sampleDigest : BytesN 32 :=
  ⟨toBeBytes 32 0xba7816bf8f01cfea414140de5dae2223b00361a396177a9cb410ff61f20015ad, by decide⟩

/-- A signature over it with the secret key 2. -/
def sampleSignature : BytesN 65 :=
  ⟨toBeBytes 32 0xf01d6b9018ab421dd410404cb869072065522bf85734008f105cf385a023a80f ++
    toBeBytes 32 0x77ef775c8c184fa32f025f384a516206abca321a7abbbe97b125ef890eb96ba0 ++
      [1], by decide⟩

/-- The key that is recovered from it. -/
def sampleRecovered : BytesN 65 :=
  ⟨0x04 :: toBeBytes 32 0xc6047f9441ed7d6d3045406e95c07cd85c778e4b8cef3ca7abac09b95c709ee5 ++
    toBeBytes 32 0x1ae168fea63dc339a3c58419466ceaeef7f632653266d0e1236431a950cfe52a, by decide⟩

def recoveringEnv (signers : List Address) : ContractEnv :=
  { hashedEnv signers with
    crypto := {
      sha256 := Sha256.digest
      recover := fun digest rs id =>
        if digest = sampleDigest ∧ rs = signatureRs sampleSignature ∧
          id = recoveryId sampleSignature
        then some sampleRecovered else none } }

def initialized : State :=
  run exec blank
    [⟨recoveringEnv [account 1], .user (.initializeContract (account 1) (account 2))⟩]

def setSampleKey : Transaction :=
  ⟨recoveringEnv [account 1], .admins [] (.setServicePubkey sampleKey)⟩

def rotateSampleKey : Transaction :=
  ⟨recoveringEnv [account 1], .admins [] (.rotateServicePubkey sampleNewKey 3600)⟩

def revokeSampleKey : Transaction :=
  ⟨recoveringEnv [account 1],
    .admins [] (.setRevokedKey (Sha256.digest sampleKey) 1000000 1 (account 1))⟩

/-- The key stays when it is revoked afterwards. -/
theorem replaced_key_kept_sample :
    Returns exec initialized setSampleKey ∧ (keyRing initialized).pending = none ∧
      Returns exec (step exec initialized setSampleKey) revokeSampleKey ∧
      (keyRing (run exec initialized [setSampleKey, revokeSampleKey])).active = some sampleKey ∧
      ∀ env digest sig, (verifySignature digest sig env
          (run exec initialized [setSampleKey, revokeSampleKey])).isOk = true →
        ∃ recovered, env.crypto.recover digest (signatureRs sig) (recoveryId sig) =
          some recovered ∧ pubkeysMatch recovered sampleKey = true := by
  have returns : Returns exec initialized setSampleKey := by decide +kernel
  have unrotated : (keyRing initialized).pending = none := by decide +kernel
  refine ⟨returns, unrotated, by decide +kernel,
    replaced_key_kept returns ?_ [revokeSampleKey] ⟨And.right, trivial⟩⟩
  rw [unrotated]
  exact nofun

/-- A key that is pending when another one is set passes all the same. -/
theorem replaced_key_not_kept :
    Returns exec (run exec initialized [rotateSampleKey]) setSampleKey ∧
      (verifySignature sampleDigest sampleSignature (recoveringEnv [])
        (run exec initialized [rotateSampleKey, setSampleKey])).isOk = true ∧
      (recoveringEnv []).crypto.recover sampleDigest (signatureRs sampleSignature)
        (recoveryId sampleSignature) = some sampleRecovered ∧
      pubkeysMatch sampleRecovered sampleKey = false := by
  decide +kernel

theorem rotated_key_passes_sample :
    Returns exec (run exec initialized [setSampleKey]) rotateSampleKey ∧
      ((verifySignature sampleDigest sampleSignature (recoveringEnv [])
        (run exec (run exec initialized [setSampleKey]) [rotateSampleKey])).isOk = true ↔
        satAdd64 rotateSampleKey.env.timestamp 3600 < (recoveringEnv []).timestamp ∨
          ActiveUsable (recoveringEnv [])
            (run exec (run exec initialized [setSampleKey]) [rotateSampleKey])) := by
  have returns : Returns exec (run exec initialized [setSampleKey]) rotateSampleKey := by
    decide +kernel
  exact ⟨returns, rotated_key_passes_iff (by decide +kernel) (by decide) returns [] trivial rfl
    (by decide +kernel) (by decide +kernel : _ = some sampleRecovered) (by decide +kernel)
    (by decide +kernel)⟩

/-- During the overlap a revoked active key keeps out the key that replaces it. -/
theorem rotated_key_refused :
    Along exec (fun w tx => Returns exec w tx) initialized
        [setSampleKey, rotateSampleKey, revokeSampleKey] ∧
      (recoveringEnv []).crypto.recover sampleDigest (signatureRs sampleSignature)
        (recoveryId sampleSignature) = some sampleRecovered ∧
      pubkeysMatch sampleRecovered sampleNewKey = true ∧
      revoked (recoveringEnv [])
        (run exec initialized [setSampleKey, rotateSampleKey, revokeSampleKey])
          sampleNewKey = false ∧
      (verifySignature sampleDigest sampleSignature (recoveringEnv [])
        (run exec initialized [setSampleKey, rotateSampleKey, revokeSampleKey])).isOk = false := by
  decide +kernel

end LedgerLens
