import LedgerLens.System.Limits
import LedgerLens.System.Authority
import LedgerLens.System.ScoreFrame
import LedgerLens.System.Service

/-!
The governed parameters: what their byte strings stand for, which calls change
them, and what the time locks and the bounds of their setters leave of them. The main results are
`parameter_reads_back_iff` and `cooldown_within_staleness_iff`.
-/

namespace LedgerLens

open Host Host.Prog Storage

/-! ### Values as byte strings -/

/-- The parameter is read back as the byte string it was set to. -/
def ReadsBack (key : Symbol) (value : Bytes) (env : ContractEnv) (w : State) : Prop :=
  (getCurrentParameterValue key env w).value? = some value

/-- A change of a parameter that passed its checks, and the state it leaves. -/
inductive Applied (w : State) : Symbol → Bytes → State → Prop
  | cooldown {value : Bytes} (length : value.length = 8)
      (inRange : cooldownInRange (ofBeBytes value) = true)
      (fresh : ofBeBytes value ≤
        (w.ledger.entry .inst .stalenessWindow).getD defaultStalenessWindowSecs) :
      Applied w paramKeyCooldown value
        { w with ledger := w.ledger.put .inst .cooldownSecs (some (ofBeBytes value)) }
  | historyDepth {value : Bytes} (length : 4 ≤ value.length) :
      Applied w paramKeyHistoryDepth value { w with
        ledger := w.ledger.put .inst .historyMaxDepth (some (ofBeBytes (value.take 4))) }
  | decayRate {value : Bytes} (length : value.length = 8) :
      Applied w paramKeyDecayRate value { w with
        ledger := w.ledger.put .inst .decayRate
          (some (ofBeBytes (value.take 4), ofBeBytes ((value.drop 4).take 4))) }
  | velocityCap {value : Bytes} (length : value.length = 5)
      (flag : (value[0]?.getD 0).toNat ≤ 1) :
      Applied w paramKeyVelocityCap value { w with
        ledger := (w.ledger.put .inst .scoreVelocityCapEnabled
            (some (decide (value.head? = some 1)))).put .inst .scoreVelocityCapPointsPerHour
              (some (ofBeBytes (value.tail.take 4))) }
  | upgradeDelay {value : Bytes} (length : value.length = 8)
      (inRange : minUpgradeDelaySecs ≤ ofBeBytes value ∧ ofBeBytes value ≤ maxUpgradeDelaySecs) :
      Applied w paramKeyUpgradeDelay value
        { w with ledger := w.ledger.put .inst .upgradeDelay (some (ofBeBytes value)) }
  | stalenessWindow {value : Bytes} (length : value.length = 8)
      (fresh : (w.ledger.entry .inst .cooldownSecs).getD defaultCooldownSecs ≤ ofBeBytes value) :
      Applied w paramKeyStalenessWindow value
        { w with ledger := w.ledger.put .inst .stalenessWindow (some (ofBeBytes value)) }

section ReadBack

variable {env env' : ContractEnv} {w w' : State} {key : Symbol} {value : Bytes}

@[simp] theorem wp_readU64 {Q : Nat → State → Prop} :
    wp (readU64 value) Q env w ↔ value.length = 8 ∧ Q (ofBeBytes value) w := by
  simp [readU64]

@[simp] theorem wp_readU32 {offset : Nat} {Q : Nat → State → Prop} :
    wp (readU32 value offset) Q env w ↔
      offset + 4 ≤ value.length ∧ Q (ofBeBytes ((value.drop offset).take 4)) w := by
  simp [readU32]

theorem applied_of_ok (applied : applyParameterChange key value env w = .ok () w') :
    Applied w key value w' := by
  rw [ok_iff_wp] at applied
  unfold applyParameterChange validateParameterValue at applied
  by_cases isCooldown : key = paramKeyCooldown
  · subst isCooldown
    simp [validateCooldownValue] at applied
    obtain ⟨length, inRange, fresh, _, rfl⟩ := applied
    exact .cooldown length inRange fresh
  by_cases isDepth : key = paramKeyHistoryDepth
  · subst isDepth
    simp [isCooldown, validateHistoryDepthValue] at applied
    obtain ⟨length, _, _, rfl⟩ := applied
    exact .historyDepth length
  by_cases isRate : key = paramKeyDecayRate
  · subst isRate
    simp [isCooldown, isDepth, validateDecayRateValue] at applied
    obtain ⟨length, _, _, _, _, _, rfl⟩ := applied
    exact .decayRate length
  by_cases isCap : key = paramKeyVelocityCap
  · subst isCap
    simp [isCooldown, isDepth, isRate, validateVelocityCapValue, storeVelocityCapValue] at applied
    obtain ⟨length, flag, _, rfl⟩ := applied
    exact .velocityCap length flag
  by_cases isDelay : key = paramKeyUpgradeDelay
  · subst isDelay
    simp [isCooldown, isDepth, isRate, isCap, validateUpgradeDelayValue] at applied
    obtain ⟨length, inRange, _, rfl⟩ := applied
    exact .upgradeDelay length inRange
  by_cases isWindow : key = paramKeyStalenessWindow
  · subst isWindow
    simp [isCooldown, isDepth, isRate, isCap, isDelay, validateStalenessWindowValue] at applied
    obtain ⟨length, _, fresh, _, rfl⟩ := applied
    exact .stalenessWindow length fresh
  · simp [isCooldown, isDepth, isRate, isCap, isDelay, isWindow] at applied

theorem toBeBytes_of_length {width : Nat} (length : value.length = width) :
    toBeBytes width (ofBeBytes value) = value := by
  rw [← length, toBeBytes_ofBeBytes]

theorem readsBack_iff_wp :
    ReadsBack key value env w ↔
      wp (getCurrentParameterValue key) (fun bytes _ => bytes = value) env w := by
  unfold ReadsBack wp
  constructor
  · intro ran
    obtain ⟨w', isOk⟩ := Outcome.exists_of_value? ran
    exact ⟨value, w', isOk, rfl⟩
  · rintro ⟨_, _, isOk, rfl⟩
    rw [isOk]
    rfl

theorem wp_copyFromSlice {length : Nat} {Q : Bytes → State → Prop} :
    wp (copyFromSlice length value) Q env w ↔ value.length = length ∧ Q value w := by
  unfold copyFromSlice
  split <;> simp [*]

/-- Two of the six encodings do not match: a history depth may be followed by more bytes,
which are dropped, and the decay rate is not read back at all. -/
theorem parameter_reads_back_iff
    (applied : applyParameterChange key value env w = .ok () w') (env' : ContractEnv) :
    ReadsBack key value env' w' ↔
      key ≠ paramKeyDecayRate ∧ (key = paramKeyHistoryDepth → value.length = 4) := by
  rw [readsBack_iff_wp]
  unfold getCurrentParameterValue
  cases applied_of_ok applied with
  | cooldown length inRange fresh =>
    rw [if_pos rfl]
    refine iff_of_true ?_ ⟨by decide, fun same => absurd same (by decide)⟩
    simp [toBeBytes_of_length length]
  | historyDepth length =>
    rw [if_neg (by decide), if_pos rfl]
    have depth : toBeBytes 4 (ofBeBytes (value.take 4)) = value.take 4 :=
      toBeBytes_of_length (by simpa using length)
    have otherKey : paramKeyHistoryDepth ≠ paramKeyDecayRate := by decide
    simp only [wp_bind, wp_loadOr, Ledger.entry_put_self, Option.getD_some, depth,
      wp_copyFromSlice, List.length_take, List.take_eq_self_iff]
    constructor
    · rintro ⟨_, le⟩
      exact ⟨otherKey, fun _ => Nat.le_antisymm le length⟩
    · rintro ⟨_, isFour⟩
      have isFour := isFour trivial
      omega
  | decayRate length =>
    rw [if_neg (by decide), if_neg (by decide), if_pos rfl]
    refine iff_of_false ?_ fun matching => matching.1 rfl
    simp [currentDecayRate, wp_copyFromSlice]
  | velocityCap length flag =>
    rw [if_neg (by decide), if_neg (by decide), if_neg (by decide), if_pos rfl]
    refine iff_of_true ?_ ⟨by decide, fun same => absurd same (by decide)⟩
    obtain ⟨first, rest, rfl⟩ := List.exists_cons_of_length_eq_add_one length
    have points : toBeBytes 4 (ofBeBytes (rest.take 4)) = rest := by
      rw [List.take_of_length_le (by simp_all), toBeBytes_of_length (by simpa using length)]
    have enabled : (if first = 1 then 1 else 0) = first := by
      have bound : first.toNat ≤ 1 := flag
      split
      · next isOne => exact isOne.symm
      · next notOne =>
        have notOne : first.toNat ≠ 1 := fun same => notOne (UInt8.toNat_inj.mp same)
        exact UInt8.toNat_inj.mp (by rw [UInt8.toNat_zero]; omega)
    simp [currentVelocityCap, wp_copyFromSlice, Ledger.entry_put_of_ne, points, enabled]
  | upgradeDelay length inRange =>
    rw [if_neg (by decide), if_neg (by decide), if_neg (by decide), if_neg (by decide),
      if_pos rfl]
    refine iff_of_true ?_ ⟨by decide, fun same => absurd same (by decide)⟩
    simp [toBeBytes_of_length length]
  | stalenessWindow length fresh =>
    rw [if_neg (by decide), if_neg (by decide), if_neg (by decide), if_neg (by decide),
      if_neg (by decide), if_pos rfl]
    refine iff_of_true ?_ ⟨by decide, fun same => absurd same (by decide)⟩
    simp [toBeBytes_of_length length]

theorem parameter_reads_back_cooldown :
    ∃ w', applyParameterChange paramKeyCooldown (toBeBytes 8 120) (sampleEnv []) deployed =
        .ok () w' ∧
      ReadsBack paramKeyCooldown (toBeBytes 8 120) (sampleEnv []) w' := by
  obtain ⟨w', applied⟩ : ∃ w', applyParameterChange paramKeyCooldown (toBeBytes 8 120)
      (sampleEnv []) deployed = .ok () w' := Outcome.exists_of_value? (by decide +kernel)
  exact ⟨w', applied, (parameter_reads_back_iff applied (sampleEnv [])).mpr (by decide)⟩

/-- The rate λ = 1/100, and a depth of 7 followed by a fifth byte. -/
theorem parameter_not_read_back :
    (∃ w', applyParameterChange paramKeyDecayRate (toBeBytes 4 1 ++ toBeBytes 4 100)
        (sampleEnv []) deployed = .ok () w' ∧
      getCurrentParameterValue paramKeyDecayRate (sampleEnv []) w' = .trap) ∧
    ∃ w', applyParameterChange paramKeyHistoryDepth (toBeBytes 4 7 ++ [9])
        (sampleEnv []) deployed = .ok () w' ∧
      (getCurrentParameterValue paramKeyHistoryDepth (sampleEnv []) w').value? =
        some (toBeBytes 4 7) :=
  ⟨⟨_, rfl, rfl⟩, ⟨_, rfl, rfl⟩⟩

end ReadBack

/-! ### The settings in force and those that wait -/

/-- The settings that the time locks and each other's bounds hang on, and the changes of them
that wait for their delay. -/
structure Governed where
  cooldown : Nat
  staleness : Nat
  delay : Nat
  bundle : Option PolicyBundleProposal
  change : Symbol → Option ParamChangeProposal

def governed (w : State) : Governed where
  cooldown := (w.ledger.entry .inst .cooldownSecs).getD defaultCooldownSecs
  staleness := (w.ledger.entry .inst .stalenessWindow).getD defaultStalenessWindowSecs
  delay := (w.ledger.entry .inst .upgradeDelay).getD defaultUpgradeDelaySecs
  bundle := w.ledger.entry .inst .pendingPolicyBundle
  change key := w.ledger.entry .inst (.pendingParamChange key)

@[reducible] def Tag.isGoverned : Tag → Bool
  | .cooldownSecs | .stalenessWindow | .upgradeDelay | .pendingPolicyBundle
  | .pendingParamChange => true
  | _ => false

instance : About (fun w w' => governed w' = governed w) Tag.isGoverned where
  of_only ts w w' free only := by
    have same := (inferInstance : About (Same Tag.isGoverned) Tag.isGoverned).of_only ts free only
    unfold governed
    congr 1
    · rw [same.entry .inst .cooldownSecs rfl]
    · rw [same.entry .inst .stalenessWindow rfl]
    · rw [same.entry .inst .upgradeDelay rfl]
    · rw [same.entry .inst .pendingPolicyBundle rfl]
    · funext key
      rw [same.entry .inst (.pendingParamChange key) rfl]

def upgradeDelayInRange (secs : Nat) : Bool :=
  minUpgradeDelaySecs ≤ secs && secs ≤ maxUpgradeDelaySecs

/-- The call leaves a cooldown that does not exceed the staleness window. Three of the calls
that change one of the two do not look at the other. -/
def Fits (g : Governed) : Call → Prop
  | .admins _ (.setCooldown secs) => secs ≤ g.staleness
  | .user .applyPolicyBundle =>
    ∀ proposal ∈ g.bundle, proposal.bundle.cooldownSecs ≤ g.staleness
  | .user (.applyParamChange key) =>
    key = symbolStaleW → ∀ proposal ∈ g.change key, ∀ secs ∈ proposal.newValue.u64?,
      g.cooldown ≤ secs
  | _ => True

/-- What a call that returns does to the settings. -/
inductive Governs (g : Governed) : Call → Governed → Prop
  | unchanged {call : Call} (fits : Fits g call) : Governs g call g
  | setCooldown {signers : List Address} {secs : Nat} (inRange : cooldownInRange secs = true) :
      Governs g (.admins signers (.setCooldown secs)) { g with cooldown := secs }
  | proposeBundle {call : Call} {proposal : PolicyBundleProposal} (fits : Fits g call)
      (inRange : cooldownInRange proposal.bundle.cooldownSecs = true) :
      Governs g call { g with bundle := some proposal }
  | applyBundle {proposal : PolicyBundleProposal} (pending : g.bundle = some proposal) :
      Governs g (.user .applyPolicyBundle)
        { g with cooldown := proposal.bundle.cooldownSecs, bundle := none }
  | park {call : Call} {key : Symbol} {proposal : ParamChangeProposal} (fits : Fits g call)
      (inRange : key = symbolUpgDly → ∀ secs ∈ proposal.newValue.u64?,
        upgradeDelayInRange secs = true) :
      Governs g call { g with change := Function.update g.change key (some proposal) }
  | applyOther {call : Call} {key : Symbol} (fits : Fits g call) :
      Governs g call { g with change := Function.update g.change key none }
  | applyDelay {call : Call} {proposal : ParamChangeProposal} {secs : Nat} (fits : Fits g call)
      (pending : g.change symbolUpgDly = some proposal)
      (value : proposal.newValue.u64? = some secs) :
      Governs g call
        { g with delay := secs, change := Function.update g.change symbolUpgDly none }
  | applyStaleness {proposal : ParamChangeProposal} {secs : Nat}
      (pending : g.change symbolStaleW = some proposal)
      (value : proposal.newValue.u64? = some secs) :
      Governs g (.user (.applyParamChange symbolStaleW))
        { g with staleness := secs, change := Function.update g.change symbolStaleW none }
  | executeCooldown {call : Call} {secs : Nat} (fits : Fits g call)
      (inRange : cooldownInRange secs = true) (fresh : secs ≤ g.staleness) :
      Governs g call { g with cooldown := secs }
  | executeDelay {call : Call} {secs : Nat} (fits : Fits g call)
      (inRange : upgradeDelayInRange secs = true) :
      Governs g call { g with delay := secs }
  | executeStaleness {call : Call} {secs : Nat} (fits : Fits g call)
      (fresh : g.cooldown ≤ secs) :
      Governs g call { g with staleness := secs }

section Governed

variable {g g' : Governed} {call : Call} {env : ContractEnv} {w w' : State}

/-- The settings are in their ranges, and so is what waits to replace them. -/
structure InRange (g : Governed) : Prop where
  cooldown : cooldownInRange g.cooldown = true
  delay : upgradeDelayInRange g.delay = true
  bundle : ∀ proposal ∈ g.bundle, cooldownInRange proposal.bundle.cooldownSecs = true
  change : ∀ proposal ∈ g.change symbolUpgDly, ∀ secs ∈ proposal.newValue.u64?,
    upgradeDelayInRange secs = true

theorem InRange.update {key : Symbol} {change : Option ParamChangeProposal}
    (range : InRange g)
    (inRange : key = symbolUpgDly → ∀ proposal ∈ change, ∀ secs ∈ proposal.newValue.u64?,
      upgradeDelayInRange secs = true) :
    InRange { g with change := Function.update g.change key change } where
  cooldown := range.cooldown
  delay := range.delay
  bundle := range.bundle
  change := by
    dsimp only
    by_cases sameKey : symbolUpgDly = key
    · rw [← sameKey, Function.update_self]
      exact inRange sameKey.symm
    · rw [Function.update_of_ne sameKey]
      exact range.change

theorem Governs.inRange (step : Governs g call g') (range : InRange g) : InRange g' := by
  cases step with
  | unchanged => exact range
  | setCooldown inRange => exact { range with cooldown := inRange }
  | proposeBundle _ inRange =>
    refine { range with bundle := ?_ }
    rintro _ ⟨⟩
    exact inRange
  | applyBundle pending =>
    refine { range with cooldown := range.bundle _ pending, bundle := ?_ }
    rintro _ ⟨⟩
  | park _ inRange =>
    refine range.update fun sameKey => ?_
    rintro _ ⟨⟩
    exact inRange sameKey
  | applyOther => exact range.update fun _ _ none => absurd none (by simp)
  | applyDelay _ pending value =>
    have cleared : InRange { g with change := Function.update g.change symbolUpgDly none } :=
      range.update fun _ _ none => absurd none (by simp)
    exact { cleared with delay := range.change _ pending _ value }
  | applyStaleness =>
    have cleared : InRange { g with change := Function.update g.change symbolStaleW none } :=
      range.update fun _ _ none => absurd none (by simp)
    exact { cleared with }
  | executeCooldown _ inRange _ => exact { range with cooldown := inRange }
  | executeDelay _ inRange => exact { range with delay := inRange }
  | executeStaleness => exact { range with }

/-- A call that returns leaves the cooldown within the staleness window exactly when it
respects the other setting. -/
theorem Governs.fresh_iff (step : Governs g call g') (fresh : g.cooldown ≤ g.staleness) :
    g'.cooldown ≤ g'.staleness ↔ Fits g call := by
  cases step with
  | unchanged fits | proposeBundle fits | park fits | applyOther fits
  | applyDelay fits | executeDelay fits => exact iff_of_true fresh fits
  | setCooldown => exact Iff.rfl
  | applyBundle pending => simp [Fits, pending]
  | applyStaleness pending value => simp [Fits, pending, value]
  | executeCooldown fits _ fresh | executeStaleness fits fresh =>
    exact iff_of_true fresh fits

theorem governed_of_ledger (same : w'.ledger = w.ledger) : governed w' = governed w := by
  unfold governed
  rw [same]

theorem change_put (l : Ledger DataKey Val) {key : Symbol} {change : Option ParamChangeProposal} :
    (fun other => (l.put .inst (.pendingParamChange key) change).entry .inst
        (.pendingParamChange other)) =
      Function.update (fun other => l.entry .inst (.pendingParamChange other)) key change :=
  l.family_put .inst .pendingParamChange (fun _ _ same => DataKey.pendingParamChange.inj same)
    (fun _ (change : Option ParamChangeProposal) => change) key change

section

variable {signers : List Address} {check : Bool} {e : Error} {key : Symbol}

/-- Parking a change, with what its setter has checked. -/
theorem governs_park {newValue : ParamValue} (fits : Fits (governed w) call)
    (inRange : key = symbolUpgDly → ∀ secs ∈ newValue.u64?, upgradeDelayInRange secs = true)
    (ran : parkParamChange key newValue env w = .ok () w') :
    Governs (governed w) call (governed w') := by
  unfold parkParamChange at ran
  simp [ok_iff_wp] at ran
  obtain ⟨_, rfl⟩ := ran
  let proposal : ParamChangeProposal := {
    newValue
    proposedAt := env.timestamp
    applyAfter := satAdd64 env.timestamp defaultParamChangeDelaySecs }
  have moved : Governs (governed w) call
      { governed w with change := Function.update (governed w).change key (some proposal) } :=
    .park fits inRange
  simpa [governed, Ledger.entry_put_of_ne, change_put] using moved

theorem governs_applyParamChange (ran : applyParamChange key env w = .ok () w') :
    Governs (governed w) (.user (.applyParamChange key)) (governed w') := by
  unfold applyParamChange storeParamValue at ran
  simp [ok_iff_wp] at ran
  obtain ⟨proposal, pending, _, ran⟩ := ran
  have unbound (other : key ≠ symbolStaleW) :
      Fits (governed w) (.user (.applyParamChange key)) := fun same => absurd same other
  cases value : proposal.newValue with
  | u32 points =>
    have cleared (other : key ≠ symbolStaleW) :
        Governs (governed w) (.user (.applyParamChange key))
          { governed w with change := Function.update (governed w).change key none } :=
      .applyOther (unbound other)
    simp [value, ParamValue.u32?] at ran
    split at ran
    · next isThreshold =>
      subst isThreshold ran
      simpa [governed, Ledger.entry_put_of_ne, change_put] using cleared (by decide)
    · obtain ⟨isDepth, rfl⟩ := ran
      subst isDepth
      simpa [governed, Ledger.entry_put_of_ne, change_put] using cleared (by decide)
  | u64 secs =>
    have isValue : proposal.newValue.u64? = some secs := by rw [value]; rfl
    simp [value, ParamValue.u32?, ParamValue.u64?] at ran
    split at ran
    · next isDelay =>
      subst isDelay ran
      have moved := Governs.applyDelay (unbound (by decide)) pending isValue
      simpa [governed, Ledger.entry_put_of_ne, change_put] using moved
    · obtain ⟨isWindow, rfl⟩ := ran
      subst isWindow
      have moved : Governs (governed w) _ _ := .applyStaleness pending isValue
      simpa [governed, Ledger.entry_put_of_ne, change_put] using moved

theorem governs_applied {value : Bytes} (fits : Fits (governed w) call)
    (applied : Applied w key value w') : Governs (governed w) call (governed w') := by
  cases applied with
  | cooldown _ inRange fresh =>
    have moved := Governs.executeCooldown fits inRange fresh
    simpa [governed, Ledger.entry_put_of_ne] using moved
  | historyDepth | decayRate | velocityCap =>
    have unmoved := Governs.unchanged fits
    simpa [governed, Ledger.entry_put_of_ne] using unmoved
  | upgradeDelay _ inRange =>
    have inRange : upgradeDelayInRange (ofBeBytes value) = true := by
      simpa [upgradeDelayInRange] using inRange
    have moved := Governs.executeDelay fits inRange
    simpa [governed, Ledger.entry_put_of_ne] using moved
  | stalenessWindow _ fresh =>
    have moved := Governs.executeStaleness fits fresh
    simpa [governed, Ledger.entry_put_of_ne] using moved

/-- A setter that parks a change once it has checked the value. -/
theorem governs_setter {value : ParamValue} (fits : Fits (governed w) call)
    (inRange : check = true → key = symbolUpgDly → ∀ secs ∈ value.u64?, upgradeDelayInRange
      secs = true)
    (ran : asAdmins signers (require check e) (parkParamChange key value) env w = .ok () w') :
    Governs (governed w) call (governed w') := by
  obtain ⟨v, v', checked, ⟨sameLedger, _⟩, parked⟩ := asAdmins_ok ran
  obtain ⟨isValid, rfl⟩ := require_ok.mp checked
  have same : governed v' = governed w := governed_of_ledger sameLedger
  rw [← same] at fits ⊢
  exact governs_park fits (inRange isValid) parked

theorem governs_applyPolicyBundle (ran : applyPolicyBundle env w = .ok () w') :
    Governs (governed w) (.user .applyPolicyBundle) (governed w') := by
  unfold applyPolicyBundle at ran
  simp [ok_iff_wp] at ran
  obtain ⟨proposal, pending, _, rfl⟩ := ran
  have moved : Governs (governed w) _ _ := .applyBundle pending
  simpa [governed, Ledger.entry_put_of_ne] using moved

theorem governs_setCooldown {secs : Nat} (ran : setCooldown signers secs env w = .ok () w') :
    Governs (governed w) (.admins signers (.setCooldown secs)) (governed w') := by
  obtain ⟨v, v', checked, ⟨sameLedger, _⟩, saved⟩ := asAdmins_ok ran
  obtain ⟨inRange, rfl⟩ := require_ok.mp checked
  rw [← governed_of_ledger sameLedger]
  simp [ok_iff_wp] at saved
  subst saved
  have moved : Governs (governed v') (.admins signers (.setCooldown secs)) _ :=
    .setCooldown inRange
  simpa [governed, Ledger.entry_put_of_ne] using moved

theorem governs_proposePolicyBundle {points secs : Nat}
    (ran : proposePolicyBundle signers points secs env w = .ok () w') :
    Governs (governed w) (.admins signers (.proposePolicyBundle points secs)) (governed w') := by
  obtain ⟨v, v', checked, ⟨sameLedger, _⟩, saved⟩ := asAdmins_ok ran
  simp [ok_iff_wp] at checked saved
  obtain ⟨_, inRange, rfl⟩ := checked
  obtain ⟨_, rfl⟩ := saved
  rw [← governed_of_ledger sameLedger]
  let proposal : PolicyBundleProposal := {
    bundle := { riskThreshold := points, cooldownSecs := secs }
    proposedAt := env.timestamp
    applyAfter := satAdd64 env.timestamp defaultParamChangeDelaySecs }
  have moved : Governs (governed v') (.admins signers (.proposePolicyBundle points secs))
      { governed v' with bundle := some proposal } := .proposeBundle trivial inRange
  simpa [governed, Ledger.entry_put_of_ne] using moved

theorem governs_executeParameterChange {id : Nat}
    (ran : executeParameterChange signers id env w = .ok () w') :
    Governs (governed w) (.admins signers (.executeParameterChange id)) (governed w') := by
  obtain ⟨v, ⟨sameLedger, _⟩, executed⟩ := asPolicyAdmins_ok ran
  rw [← governed_of_ledger sameLedger]
  simp only [ok_iff_wp, wp_bind, wp_load, wp_okOr, wp_require, wp_asks] at executed
  obtain ⟨record, _, _, _, _, _, _, executed⟩ := executed
  obtain ⟨⟨⟩, u, applied, marked⟩ := executed
  have same : governed w' = governed u := by
    obtain ⟨⟨⟩, _, marked, _, rfl⟩ := marked
    exact (inferInstance : Keeps (fun w w' => governed w' = governed w) _).ok marked
  rw [same]
  exact governs_applied trivial (applied_of_ok applied)

end

theorem governs_of_ok (ran : exec call env w = .ok () w') :
    Governs (governed w) call (governed w') := by
  have silent (free : (footprint call).all (fun t => !t.isGoverned) = true)
      (fits : Fits (governed w) call) : Governs (governed w) call (governed w') := by
    have same : governed w' = governed w :=
      About.of_all (R := fun w w' => governed w' = governed w) free ((exec_keeps call).ok ran)
    rw [same]
    exact .unchanged fits
  rcases call with call | ⟨signers, call⟩ | call
  · cases call
    case applyParamChange key => exact governs_applyParamChange ran
    case applyPolicyBundle => exact governs_applyPolicyBundle ran
    all_goals exact silent rfl trivial
  · cases call
    case setUpgradeDelay secs =>
      refine governs_setter trivial (fun checked _ => ?_) ran
      rintro _ ⟨⟩
      simpa [upgradeDelayInRange] using checked
    case setStalenessWindow | setRiskThreshold | setHistoryMaxDepth =>
      exact governs_setter trivial (fun _ same => absurd same (by decide)) ran
    case setCooldown secs => exact governs_setCooldown ran
    case proposePolicyBundle points secs => exact governs_proposePolicyBundle ran
    case executeParameterChange id => exact governs_executeParameterChange ran
    all_goals exact silent rfl trivial
  · exact silent (by cases call <;> rfl) trivial

theorem inRange_step (w : State) (tx : Transaction) (range : InRange (governed w)) :
    InRange (governed (step exec w tx)) := by
  by_cases returns : Returns exec w tx
  · exact (governs_of_ok returns.ok).inRange range
  · rwa [step_of_not_returns returns]

theorem inRange_genesis (balances : Balances) : InRange (governed (genesis balances)) where
  cooldown := (by decide : cooldownInRange defaultCooldownSecs = true)
  delay := (by decide : upgradeDelayInRange defaultUpgradeDelaySecs = true)
  bundle := nofun
  change := nofun

/-- The calls of the run that return respect the other setting. -/
abbrev RespectsOther (w : State) (tx : Transaction) : Prop :=
  Returns exec w tx → Fits (governed w) tx.call

theorem fresh_step_iff (w : State) (tx : Transaction)
    (fresh : (governed w).cooldown ≤ (governed w).staleness) :
    (governed (step exec w tx)).cooldown ≤ (governed (step exec w tx)).staleness ↔
      RespectsOther w tx := by
  by_cases returns : Returns exec w tx
  · rw [(governs_of_ok returns.ok).fresh_iff fresh]
    exact ⟨fun fits _ => fits, fun respects => respects returns⟩
  · rw [step_of_not_returns returns]
    exact iff_of_true fresh fun ran => absurd ran returns

/-- The range of the cooldown is kept by every call; that it does not exceed the staleness
window, only by those that look at both. -/
theorem cooldown_within_staleness_iff (balances : Balances)
    (txs : List Transaction) :
    (∀ before, before <+: txs →
      cooldownInRange (governed (run exec (genesis balances) before)).cooldown = true) ∧
    ((∀ before, before <+: txs → (governed (run exec (genesis balances) before)).cooldown ≤
        (governed (run exec (genesis balances) before)).staleness) ↔
      Along exec RespectsOther (genesis balances) txs) := by
  refine ⟨fun before _ => ?_, ?_⟩
  · exact (run_induction (I := fun w => InRange (governed w)) inRange_step
      (inRange_genesis balances)).cooldown
  · exact forall_prefix_iff_along (I := fun w => (governed w).cooldown ≤ (governed w).staleness)
      fresh_step_iff (by decide : defaultCooldownSecs ≤ defaultStalenessWindowSecs)

/-- A staleness window of one second, applied a day after it was set. -/
def sampleStaleness : List Transaction :=
  [initSample, adminSample (.setStalenessWindow 1),
   ⟨sampleAfter [] 86400, .user (.applyParamChange symbolStaleW)⟩]

theorem cooldown_beyond_staleness : Along exec (Returns exec) blank sampleStaleness ∧
    (governed (run exec blank sampleStaleness)).staleness = 1 ∧
    (governed (run exec blank sampleStaleness)).cooldown = 3600 := by
  decide +kernel

end Governed

end LedgerLens
