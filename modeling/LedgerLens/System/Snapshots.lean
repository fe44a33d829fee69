import LedgerLens.System.Footprints
import LedgerLens.System.Rent

/-!
Snapshots of the state. The checksum covers the scores along the index without
saying whose they are, and the signer sets by their sizes; the index is reordered
by every renewal. So an unchanged state may fail the check, and a changed one may
pass it. The main result is `checksum_exact_iff`.
-/

namespace LedgerLens

open Host Host.Prog Storage

/-! ### Fields of fixed width -/

/-- Numbers in a row, each in as many bytes as are stated with it. -/
def encodeFields (fields : List (Nat × Nat)) : Bytes :=
  fields.flatMap fun field => toLeBytes field.1 field.2

theorem encodeFields_inj {fields fields' : List (Nat × Nat)}
    (widths : fields.map Prod.fst = fields'.map Prod.fst)
    (fits : ∀ field ∈ fields, field.2 < 256 ^ field.1)
    (fits' : ∀ field ∈ fields', field.2 < 256 ^ field.1)
    (same : encodeFields fields = encodeFields fields') : fields = fields' := by
  induction fields generalizing fields' with
  | nil =>
    cases fields' with
    | nil => rfl
    | cons field rest => cases widths
  | cons field rest ih =>
    cases fields' with
    | nil => cases widths
    | cons field' rest' =>
      obtain ⟨sameWidth, laterWidths⟩ := List.cons.inj widths
      obtain ⟨width, value⟩ := field
      obtain ⟨width', value'⟩ := field'
      obtain rfl : width = width' := sameWidth
      obtain ⟨first, later⟩ := List.append_inj same (by simp)
      obtain rfl : value = value' :=
        toLeBytes_inj (fits _ List.mem_cons_self) (fits' _ List.mem_cons_self) first
      rw [ih laterWidths (fun field listed => fits field (List.mem_cons_of_mem _ listed))
        (fun field listed => fits' field (List.mem_cons_of_mem _ listed)) later]

/-! ### What is covered -/

abbrev scoreIndex (w : State) : List Entry :=
  (w.ledger.entry .persistent .scoreEntryIndex).getD []

/-- What the checksum covers of a score. -/
structure CoveredScore where
  score : Nat
  timestamp : Nat
  modelVersion : Nat
  deriving DecidableEq

def RiskScore.covered (score : RiskScore) : CoveredScore :=
  ⟨score.score, score.timestamp, score.modelVersion⟩

def CoveredScore.fields (score : CoveredScore) : List (Nat × Nat) :=
  [(4, score.score), (8, score.timestamp), (4, score.modelVersion)]

/-- The scores the index tracks. -/
def trackedScore (w : State) (entry : Entry) : Option CoveredScore :=
  if entry ∈ scoreIndex w then (liveScore w entry.1 entry.2).map RiskScore.covered else none

/-- The same scores as they follow each other in the index. -/
def scoresInOrder (w : State) : List CoveredScore :=
  (scoreIndex w).filterMap fun entry => (liveScore w entry.1 entry.2).map RiskScore.covered

/-- The configuration, the thresholds and the switches. -/
@[ext] structure CheckedSettings where
  riskThreshold : Nat
  jumpThreshold : Nat
  stalenessWindow : Nat
  cooldownSecs : Nat
  historyMaxDepth : Nat
  contractVersion : Nat
  adminThreshold : Nat
  serviceThreshold : Nat
  paused : Bool
  frozen : Bool
  deriving DecidableEq

def checkedSettings (w : State) : CheckedSettings where
  riskThreshold := (w.ledger.entry .inst .riskThreshold).getD defaultRiskThreshold
  jumpThreshold := (w.ledger.entry .inst .jumpThreshold).getD defaultJumpThreshold
  stalenessWindow := (w.ledger.entry .inst .stalenessWindow).getD defaultStalenessWindowSecs
  cooldownSecs := (w.ledger.entry .inst .cooldownSecs).getD defaultCooldownSecs
  historyMaxDepth := (w.ledger.entry .inst .historyMaxDepth).getD defaultHistoryMaxDepth
  contractVersion := (w.ledger.entry .inst .contractVersion).getD LedgerLens.contractVersion
  adminThreshold := adminThreshold w
  serviceThreshold := serviceThreshold w
  paused := paused w
  frozen := frozen w

def configFields (w : State) : List (Nat × Nat) :=
  let settings := checkedSettings w
  [(4, settings.riskThreshold), (4, settings.jumpThreshold), (8, settings.stalenessWindow),
    (8, settings.cooldownSecs), (4, settings.historyMaxDepth), (4, settings.contractVersion)]

def authFields (w : State) : List (Nat × Nat) :=
  let settings := checkedSettings w
  [(4, (adminSet w).length), (4, (serviceSet w).length), (4, settings.adminThreshold),
    (4, settings.serviceThreshold), (1, settings.paused.toNat), (1, settings.frozen.toNat)]

/-- The numbers in the state fit the integers of the source. -/
structure FieldsFit (w : State) : Prop where
  scores : ∀ score ∈ scoresInOrder w, ∀ field ∈ score.fields, field.2 < 256 ^ field.1
  config : ∀ field ∈ configFields w, field.2 < 256 ^ field.1
  auth : ∀ field ∈ authFields w, field.2 < 256 ^ field.1

section Roots

variable (env : ContractEnv) (w : State)

def scoreBytes : Bytes := (scoresInOrder w).flatMap fun score => encodeFields score.fields

theorem fold_scorePreimage (preimage : Bytes) (entries : List Entry) :
    fold scorePreimage preimage entries env w =
      .ok (preimage ++ (entries.filterMap fun entry =>
        (liveScore w entry.1 entry.2).map RiskScore.covered).flatMap fun score =>
          encodeFields score.fields) w := by
  induction entries generalizing preimage with
  | nil => simp [fold]
  | cons entry rest ih =>
    have first : scorePreimage preimage entry env w = .ok (preimage ++
        ((liveScore w entry.1 entry.2).map RiskScore.covered).elim [] fun score =>
          encodeFields score.fields) w := by
      unfold scorePreimage
      have peeked : peekScore entry.1 entry.2 env w = .ok (liveScore w entry.1 entry.2) w := rfl
      rw [run_bind_of_ok peeked]
      cases liveScore w entry.1 entry.2 with
      | none => rfl
      | some score => simp [RiskScore.covered, CoveredScore.fields, encodeFields]
    unfold fold
    rw [run_bind_of_ok first, ih, List.append_assoc]
    cases isLive : liveScore w entry.1 entry.2 <;> simp [isLive]

theorem computeScoreRoot_run :
    computeScoreRoot env w = .ok (env.crypto.sha256 (scoreBytes w), (scoreIndex w).length) w := by
  unfold computeScoreRoot
  have indexed : fetchOr .persistent .scoreEntryIndex [] env w = .ok (scoreIndex w) w := rfl
  rw [run_bind_of_ok indexed, run_bind_of_ok (fold_scorePreimage env w [] (scoreIndex w))]
  rfl

theorem computeConfigRoot_run :
    computeConfigRoot env w = .ok (env.crypto.sha256 (encodeFields (configFields w))) w := by
  have bytes : encodeFields (configFields w) = toLeBytes 4 (checkedSettings w).riskThreshold
      ++ toLeBytes 4 (checkedSettings w).jumpThreshold
      ++ toLeBytes 8 (checkedSettings w).stalenessWindow
      ++ toLeBytes 8 (checkedSettings w).cooldownSecs
      ++ toLeBytes 4 (checkedSettings w).historyMaxDepth
      ++ toLeBytes 4 (checkedSettings w).contractVersion := by
    simp [encodeFields, configFields]
  rw [bytes]
  rfl

theorem toLeBytes_one (b : Bool) : toLeBytes 1 b.toNat = [if b then 1 else 0] := by
  cases b <;> rfl

theorem computeAuthRoot_run :
    computeAuthRoot env w = .ok (env.crypto.sha256 (encodeFields (authFields w))) w := by
  have bytes : encodeFields (authFields w) = toLeBytes 4 (adminSet w).length
      ++ toLeBytes 4 (serviceSet w).length ++ toLeBytes 4 (adminThreshold w)
      ++ toLeBytes 4 (serviceThreshold w) ++ [if paused w then 1 else 0]
      ++ [if frozen w then 1 else 0] := by
    simp [encodeFields, authFields, checkedSettings, toLeBytes_one]
  rw [bytes]
  rfl

/-- The snapshot of a state. -/
def snapshotOf : StateSnapshot where
  scoreRoot := env.crypto.sha256 (scoreBytes w)
  configRoot := env.crypto.sha256 (encodeFields (configFields w))
  authRoot := env.crypto.sha256 (encodeFields (authFields w))
  entryCount := (scoreIndex w).length
  ledgerSeq := env.sequence
  timestamp := env.timestamp

theorem verifyStateChecksum_value (snapshot : StateSnapshot) :
    (verifyStateChecksum snapshot env w).value? =
      some (env.crypto.sha256 (scoreBytes w) = snapshot.scoreRoot &&
        env.crypto.sha256 (encodeFields (configFields w)) = snapshot.configRoot &&
        env.crypto.sha256 (encodeFields (authFields w)) = snapshot.authRoot &&
        (scoreIndex w).length = snapshot.entryCount) := by
  unfold verifyStateChecksum
  rw [run_bind_of_ok (computeScoreRoot_run env w), run_bind_of_ok (computeConfigRoot_run env w),
    run_bind_of_ok (computeAuthRoot_run env w)]
  rfl

variable {env w} {w' : State} {signers : List Address} {snapshot : StateSnapshot}

theorem computeStateChecksum_snapshot
    (ran : computeStateChecksum signers env w = .ok snapshot w') : snapshot = snapshotOf env w := by
  obtain ⟨_, v, ⟨⟩, ⟨sameLedger, _⟩, ran⟩ := asAdmins_ok ran
  obtain ⟨admin, v₁, found, ran⟩ := bind_ok.mp ran
  obtain ⟨_, _, ⟨⟩, found⟩ := bind_ok.mp found
  obtain ⟨_, rfl⟩ := unwrap_ok.mp found
  rw [run_bind_of_ok (computeScoreRoot_run env v), run_bind_of_ok (computeConfigRoot_run env v),
    run_bind_of_ok (computeAuthRoot_run env v)] at ran
  obtain ⟨_, _, ⟨⟩, ran⟩ := bind_ok.mp ran
  obtain ⟨_, _, ⟨⟩, ran⟩ := bind_ok.mp ran
  obtain ⟨_, _, pushed, ran⟩ := bind_ok.mp ran
  obtain ⟨_, _, updated, ⟨⟩⟩ := bind_ok.mp ran
  obtain ⟨ledger, balance, authorized, events⟩ := v
  cases sameLedger
  rfl

end Roots

/-! ### What a check finds -/

/-- The tracked scores and the members of the signer sets are the same. -/
structure SameHoldings (w w' : State) : Prop where
  scores : ∀ entry, trackedScore w' entry = trackedScore w entry
  admins : ∀ account, account ∈ adminSet w' ↔ account ∈ adminSet w
  services : ∀ account, account ∈ serviceSet w' ↔ account ∈ serviceSet w

/-- What of them the checksum covers is the same: the scores in the order of the index, and how
many there are of each. -/
structure SameCovered (w w' : State) : Prop where
  scores : scoresInOrder w' = scoresInOrder w
  entries : (scoreIndex w').length = (scoreIndex w).length
  admins : (adminSet w').length = (adminSet w).length
  services : (serviceSet w').length = (serviceSet w).length

/-- The hash does not collide on what two checksums hash. -/
structure ChecksumBinding (hash : Bytes → BytesN 32) (w w' : State) : Prop where
  scores : hash (scoreBytes w') = hash (scoreBytes w) → scoreBytes w' = scoreBytes w
  config : hash (encodeFields (configFields w')) = hash (encodeFields (configFields w)) →
    encodeFields (configFields w') = encodeFields (configFields w)
  auth : hash (encodeFields (authFields w')) = hash (encodeFields (authFields w)) →
    encodeFields (authFields w') = encodeFields (authFields w)

section Checks

variable {env env' : ContractEnv} {w w' : State} {signers : List Address}
  {snapshot : StateSnapshot}

theorem CoveredScore.fields_inj {score score' : CoveredScore} (same : score.fields =
    score'.fields) : score = score' := by
  obtain ⟨value, time, version⟩ := score
  obtain ⟨value', time', version'⟩ := score'
  simp only [fields, List.cons.injEq, Prod.mk.injEq, true_and, and_true] at same
  obtain ⟨rfl, rfl, rfl⟩ := same
  rfl

theorem scoreBytes_inj (fits : FieldsFit w) (fits' : FieldsFit w')
    (same : scoreBytes w' = scoreBytes w) : scoresInOrder w' = scoresInOrder w := by
  refine flatMap_inj_of_width (by decide : 0 < 16) ?_ ?_ same
  · intro score
    simp [encodeFields, CoveredScore.fields]
  · intro score isCovered score' isCovered' sameBytes
    exact CoveredScore.fields_inj (encodeFields_inj rfl (fits'.scores score isCovered)
      (fits.scores score' isCovered') sameBytes)

theorem toNat_inj (a b : Bool) : a.toNat = b.toNat ↔ a = b := by
  cases a <;> cases b <;> decide

/-- The fields are those of the settings and the sizes of the signer sets. -/
theorem fields_eq_iff :
    configFields w' = configFields w ∧ authFields w' = authFields w ↔
      checkedSettings w' = checkedSettings w ∧ (adminSet w').length = (adminSet w).length ∧
        (serviceSet w').length = (serviceSet w).length := by
  simp only [configFields, authFields, List.cons.injEq, Prod.mk.injEq, true_and, and_true,
    CheckedSettings.ext_iff, toNat_inj]
  tauto

theorem verifies_iff (fits : FieldsFit w) (fits' : FieldsFit w')
    (sameHash : env'.crypto.sha256 = env.crypto.sha256)
    (binding : ChecksumBinding env.crypto.sha256 w w') :
    (verifyStateChecksum (snapshotOf env w) env' w').value? = some true ↔
      checkedSettings w' = checkedSettings w ∧ SameCovered w w' := by
  rw [verifyStateChecksum_value, sameHash]
  simp only [snapshotOf, Option.some.injEq, Bool.and_eq_true]
  constructor
  · rintro ⟨⟨⟨sameScores, sameConfig⟩, sameAuth⟩, sameCount⟩
    have config : configFields w' = configFields w :=
      encodeFields_inj rfl fits'.config fits.config (binding.config (of_decide_eq_true sameConfig))
    have auth : authFields w' = authFields w :=
      encodeFields_inj rfl fits'.auth fits.auth (binding.auth (of_decide_eq_true sameAuth))
    obtain ⟨settings, admins, services⟩ := fields_eq_iff.mp ⟨config, auth⟩
    exact ⟨settings, scoreBytes_inj fits fits' (binding.scores (of_decide_eq_true sameScores)),
      of_decide_eq_true sameCount, admins, services⟩
  · rintro ⟨settings, scores, entries, admins, services⟩
    obtain ⟨config, auth⟩ := fields_eq_iff.mpr ⟨settings, admins, services⟩
    rw [config, auth, scoreBytes, scores, entries]
    exact ⟨⟨⟨decide_eq_true rfl, decide_eq_true rfl⟩, decide_eq_true rfl⟩, decide_eq_true rfl⟩

/-- A check of the snapshot says whether the state is the one it was taken of. -/
def ChecksumExact (env : ContractEnv) (snapshot : StateSnapshot) (w w' : State) : Prop :=
  (verifyStateChecksum snapshot env w').value? = some true ↔
    checkedSettings w' = checkedSettings w ∧ SameHoldings w w'

/-- A check is exact just if, with the same settings, what the checksum covers of the scores and
the signers is the same when they are and only then. -/
theorem checksum_exact_iff
    (computed : (computeStateChecksum signers env w).value? = some snapshot) (fits : FieldsFit w)
    (fits' : FieldsFit w') (sameHash : env'.crypto.sha256 = env.crypto.sha256)
    (binding : ChecksumBinding env.crypto.sha256 w w') :
    ChecksumExact env' snapshot w w' ↔
      (checkedSettings w' = checkedSettings w → (SameCovered w w' ↔ SameHoldings w w')) := by
  obtain ⟨v, ran⟩ := Outcome.exists_of_value? computed
  rw [ChecksumExact, computeStateChecksum_snapshot ran, verifies_iff fits fits'
    sameHash binding]
  tauto

end Checks

/-! ### Two scores -/

/-- Accounts 3 and 4 have a score each. -/
def twoScored : State :=
  run exec blank
    [⟨hashedEnv [account 1], .user (.initializeContract (account 1) (account 2))⟩,
      ⟨hashedEnv [account 2], .user (.submitScore [] (sampleSubmission (account 3) 40) none)⟩,
      ⟨hashedEnv [account 2], .user (.submitScore [] (sampleSubmission (account 4) 60) none)⟩]

def pausedScored : State :=
  step exec twoScored ⟨hashedEnv [account 1], .admins [account 1] .pause⟩

instance (w : State) : Decidable (FieldsFit w) :=
  decidable_of_iff ((∀ score ∈ scoresInOrder w, ∀ field ∈ score.fields, field.2 < 256 ^ field.1) ∧
      (∀ field ∈ configFields w, field.2 < 256 ^ field.1) ∧
      ∀ field ∈ authFields w, field.2 < 256 ^ field.1)
    ⟨fun ⟨scores, config, auth⟩ => ⟨scores, config, auth⟩,
      fun fits => ⟨fits.scores, fits.config, fits.auth⟩⟩

/-- The check notices that the contract was paused. -/
theorem checksum_exact_paused :
    ChecksumExact (hashedEnv []) (snapshotOf (hashedEnv [account 1]) twoScored) twoScored
      pausedScored := by
  have computed : (computeStateChecksum [account 1] (hashedEnv [account 1]) twoScored).value? =
      some (snapshotOf (hashedEnv [account 1]) twoScored) := by decide +kernel
  have binding : ChecksumBinding (hashedEnv [account 1]).crypto.sha256 twoScored pausedScored :=
    ⟨by decide +kernel, by decide +kernel, by decide +kernel⟩
  have fits : FieldsFit twoScored := by decide +kernel
  have fits' : FieldsFit pausedScored := by decide +kernel
  have sameHash : (hashedEnv []).crypto.sha256 = (hashedEnv [account 1]).crypto.sha256 := rfl
  have paused : checkedSettings pausedScored ≠ checkedSettings twoScored := by decide +kernel
  rw [checksum_exact_iff computed fits fits' sameHash binding]
  intro same
  exact absurd same paused

theorem renewal_liveScore (w : State) (env : ContractEnv) (signers : List Address)
    (entries : List Entry) (wallet : Address) (pair : Symbol) :
    liveScore (step exec w ⟨env, .admins signers (.extendEntryTtls entries)⟩) wallet pair =
      liveScore w wallet pair :=
  step_entry (by dsimp only [footprint, adminFootprint, DataKey.tag]; decide)

/-- The entry of account 3 is renewed. -/
def renewedScored : State :=
  step exec twoScored
    ⟨hashedEnv [account 1], .admins [account 1] (.extendEntryTtls [(account 3, samplePair)])⟩

/-- Nothing is changed by the renewal, but the check fails. -/
theorem checksum_fails_after_renewal :
    checkedSettings renewedScored = checkedSettings twoScored ∧
      SameHoldings twoScored renewedScored ∧
      (verifyStateChecksum (snapshotOf (hashedEnv [account 1]) twoScored) (hashedEnv [])
        renewedScored).value? = some false := by
  have sameScores (wallet : Address) (pair : Symbol) :
      liveScore renewedScored wallet pair = liveScore twoScored wallet pair := by
    unfold renewedScored
    exact renewal_liveScore _ _ _ _ _ _
  have index : scoreIndex twoScored = [(account 3, samplePair), (account 4, samplePair)] := by
    decide +kernel
  have index' : scoreIndex renewedScored = [(account 4, samplePair), (account 3, samplePair)] := by
    decide +kernel
  have admins : adminSet renewedScored = adminSet twoScored := by decide +kernel
  have services : serviceSet renewedScored = serviceSet twoScored := by decide +kernel
  refine ⟨by decide +kernel, ⟨fun entry => ?_, by simp [admins], by simp [services]⟩,
    by decide +kernel⟩
  unfold trackedScore
  rw [sameScores, index, index']
  simp [or_comm]

end LedgerLens
