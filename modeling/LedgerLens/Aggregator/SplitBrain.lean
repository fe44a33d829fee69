import LedgerLens.Aggregator.Contract
import Mathlib.Data.List.Count
import Mathlib.Data.List.Lex

/-!
Shards whose configurations have drifted apart. The aggregator asks every healthy shard for the
parameters that scores are read with, takes the most frequent answer for the canonical one, and
reports how many shards differ from it. The main result is `detectSplitBrain_spec`.
-/

namespace LedgerLens.Aggregator

open Host

/-! ### Fingerprints -/

structure AggregatorConfigFingerprint where
  decayNum : Nat
  decayDen : Nat
  stalenessWindow : Nat
  globalMinConfidence : Nat
  consensusK : Nat
  consensusEpsilon : Nat
  deriving DecidableEq

def fingerprintLess (a b : AggregatorConfigFingerprint) : Bool :=
  if a.decayNum ≠ b.decayNum then a.decayNum < b.decayNum
  else if a.decayDen ≠ b.decayDen then a.decayDen < b.decayDen
  else if a.stalenessWindow ≠ b.stalenessWindow then a.stalenessWindow < b.stalenessWindow
  else if a.globalMinConfidence ≠ b.globalMinConfidence then
    a.globalMinConfidence < b.globalMinConfidence
  else if a.consensusK ≠ b.consensusK then a.consensusK < b.consensusK
  else a.consensusEpsilon < b.consensusEpsilon

/-- What is compared, in this order. -/
def AggregatorConfigFingerprint.fields (a : AggregatorConfigFingerprint) : List Nat :=
  [a.decayNum, a.decayDen, a.stalenessWindow, a.globalMinConfidence, a.consensusK,
    a.consensusEpsilon]

theorem fingerprintLess_iff {a b : AggregatorConfigFingerprint} :
    fingerprintLess a b = true ↔ a.fields < b.fields := by
  unfold fingerprintLess AggregatorConfigFingerprint.fields
  simp only [List.cons_lt_cons_iff, List.lt_irrefl, and_false, or_false]
  repeat' split
  all_goals simp only [decide_eq_true_eq]; omega

theorem not_fingerprintLess_iff {a b : AggregatorConfigFingerprint} :
    fingerprintLess a b = false ↔ b.fields ≤ a.fields := by
  rw [← Bool.not_eq_true, fingerprintLess_iff, not_lt]

theorem eq_of_not_fingerprintLess {a b : AggregatorConfigFingerprint}
    (left : fingerprintLess a b = false) (right : fingerprintLess b a = false) : a = b := by
  have same := le_antisymm (not_fingerprintLess_iff.mp right) (not_fingerprintLess_iff.mp left)
  cases a
  cases b
  simpa [AggregatorConfigFingerprint.fields] using same

/-- The loop over the candidates, each counted by a loop over all. -/
def selectCanonicalFingerprint (available : List (Address × AggregatorConfigFingerprint)) :
    Option AggregatorConfigFingerprint × Nat :=
  available.foldl (fun best entry =>
    let count := available.countP fun other => other.2 = entry.2
    match best.1 with
    | none => (some entry.2, count)
    | some current =>
      if count > best.2 ∨ count = best.2 ∧ fingerprintLess entry.2 current then
        (some entry.2, count)
      else best) (none, 0)

/-! ### Probes -/

/-- What the shards answer to a probe for one wallet and pair. -/
structure Probes where
  getScore : Address → CallOutcome RiskScore
  isScoreStale : Address → CallOutcome Bool
  getDecayRate : Address → CallOutcome (Nat × Nat)
  getStalenessWindow : Address → CallOutcome Nat
  getGlobalMinConfidence : Address → CallOutcome Nat
  getConsensusConfig : Address → CallOutcome (Nat × Nat)

def CallOutcome.value? {α : Type} : CallOutcome α → Option α
  | .returned value => some value
  | _ => none

def readConfigFingerprint (probes : Probes) (shard : Address) :
    Option AggregatorConfigFingerprint := do
  let decay ← (probes.getDecayRate shard).value?
  let stalenessWindow ← (probes.getStalenessWindow shard).value?
  let globalMinConfidence ← (probes.getGlobalMinConfidence shard).value?
  let consensus ← (probes.getConsensusConfig shard).value?
  return {
    decayNum := decay.1
    decayDen := decay.2
    stalenessWindow, globalMinConfidence
    consensusK := consensus.1
    consensusEpsilon := consensus.2 }

inductive ShardProbeStatus where
  | unhealthy | stale | unavailable | aligned | configMismatch
  deriving DecidableEq

structure ShardConfigDiagnostic where
  shard : Address
  status : ShardProbeStatus
  fingerprint : Option AggregatorConfigFingerprint
  deriving DecidableEq

/-- A shard that does not know the score is asked for its configuration all the same. -/
def probeShard (isHealthy : Address → Bool) (probes : Probes) (shard : Address) :
    ShardConfigDiagnostic :=
  let configured := (readConfigFingerprint probes shard).elim
    ⟨shard, .unavailable, none⟩ fun fingerprint => ⟨shard, .aligned, some fingerprint⟩
  if !isHealthy shard then ⟨shard, .unhealthy, none⟩
  else
    match probes.getScore shard with
    | .returned _ =>
      match probes.isScoreStale shard with
      | .returned true => ⟨shard, .stale, none⟩
      | .returned false => configured
      | _ => ⟨shard, .unavailable, none⟩
    | .failed .scoreNotFound => configured
    | _ => ⟨shard, .unavailable, none⟩

structure Tally where
  diagnostics : List ShardConfigDiagnostic
  available : List (Address × AggregatorConfigFingerprint)
  healthyCount : Nat
  staleCount : Nat
  unavailableCount : Nat

/-- One round of the loop over the shards. -/
def Tally.add (tally : Tally) (d : ShardConfigDiagnostic) : Tally where
  diagnostics := tally.diagnostics ++ [d]
  available := tally.available ++ (d.fingerprint.map (d.shard, ·)).toList
  healthyCount := tally.healthyCount + if d.status = .unhealthy then 0 else 1
  staleCount := tally.staleCount + if d.status = .stale then 1 else 0
  unavailableCount := tally.unavailableCount + if d.status = .unavailable then 1 else 0

inductive SplitBrainStatus where
  | noShards | quorumLost | splitBrain | aligned
  deriving DecidableEq

structure SplitBrainReport where
  status : SplitBrainStatus
  canonical : Option AggregatorConfigFingerprint
  shardCount : Nat
  healthyCount : Nat
  availableCount : Nat
  staleCount : Nat
  unavailableCount : Nat
  mismatchCount : Nat
  quorumCount : Nat
  requiredQuorum : Nat
  diagnostics : List ShardConfigDiagnostic

/-- The shard answers with another configuration. -/
def Mismatched (canonical : Option AggregatorConfigFingerprint)
    (d : ShardConfigDiagnostic) : Bool :=
  match canonical, d.fingerprint with
  | some canon, some fingerprint => fingerprint ≠ canon
  | _, _ => false

def detectSplitBrain (shards : List Address) (isHealthy : Address → Bool) (probes : Probes) :
    SplitBrainReport :=
  let tally := (shards.map (probeShard isHealthy probes)).foldl Tally.add ⟨[], [], 0, 0, 0⟩
  let requiredQuorum := tally.healthyCount / 2 + 1
  let (canonical, quorumCount) := selectCanonicalFingerprint tally.available
  let mismatchCount := tally.diagnostics.countP (Mismatched canonical)
  { status :=
      if shards.length = 0 then .noShards
      else if quorumCount < requiredQuorum then .quorumLost
      else if mismatchCount > 0 then .splitBrain
      else .aligned
    canonical, quorumCount, requiredQuorum, mismatchCount
    shardCount := shards.length
    healthyCount := tally.healthyCount
    availableCount := tally.available.length
    staleCount := tally.staleCount
    unavailableCount := tally.unavailableCount
    diagnostics := tally.diagnostics.map fun d =>
      if Mismatched canonical d then { d with status := .configMismatch } else d }

/-! ### The canonical fingerprint -/

/-- The most frequent fingerprint of a list, the least of those that are equally frequent. -/
structure IsCanonical (fingerprints : List AggregatorConfigFingerprint)
    (c : AggregatorConfigFingerprint) : Prop where
  mem : c ∈ fingerprints
  most : ∀ f ∈ fingerprints, fingerprints.count f ≤ fingerprints.count c
  least : ∀ f ∈ fingerprints, fingerprints.count f = fingerprints.count c →
    fingerprintLess f c = false

section Canonical

variable {fingerprints : List AggregatorConfigFingerprint} {c d : AggregatorConfigFingerprint}

theorem IsCanonical.unique (first : IsCanonical fingerprints c)
    (second : IsCanonical fingerprints d) : c = d := by
  have same : fingerprints.count c = fingerprints.count d :=
    le_antisymm (second.most c first.mem) (first.most d second.mem)
  exact eq_of_not_fingerprintLess (second.least c first.mem same)
    (first.least d second.mem same.symm)

theorem IsCanonical.perm {others : List AggregatorConfigFingerprint}
    (same : fingerprints.Perm others) (canonical : IsCanonical fingerprints c) :
    IsCanonical others c where
  mem := same.mem_iff.mp canonical.mem
  most f listed := by
    rw [← same.count_eq, ← same.count_eq]
    exact canonical.most f (same.mem_iff.mpr listed)
  least f listed := by
    rw [← same.count_eq, ← same.count_eq]
    exact canonical.least f (same.mem_iff.mpr listed)

/-- What the loop holds after some of the candidates: the best of them. -/
def BestOf (fingerprints seen : List AggregatorConfigFingerprint) :
    Option AggregatorConfigFingerprint × Nat → Prop
  | (none, n) => seen = [] ∧ n = 0
  | (some c, n) => c ∈ seen ∧ n = fingerprints.count c ∧ ∀ f ∈ seen,
      fingerprints.count f < n ∨ fingerprints.count f = n ∧ fingerprintLess f c = false

/-- One round of the loop over the candidates. -/
def better (fingerprints : List AggregatorConfigFingerprint)
    (best : Option AggregatorConfigFingerprint × Nat) (f : AggregatorConfigFingerprint) :
    Option AggregatorConfigFingerprint × Nat :=
  match best.1 with
  | none => (some f, fingerprints.count f)
  | some current =>
    if fingerprints.count f > best.2 ∨ fingerprints.count f = best.2 ∧ fingerprintLess f current
    then (some f, fingerprints.count f) else best

theorem BestOf.better {seen : List AggregatorConfigFingerprint}
    {best : Option AggregatorConfigFingerprint × Nat} (isBest : BestOf fingerprints seen best)
    (f : AggregatorConfigFingerprint) :
    BestOf fingerprints (seen ++ [f]) (better fingerprints best f) := by
  have irrefl : fingerprintLess f f = false := not_fingerprintLess_iff.mpr le_rfl
  obtain ⟨_ | current, n⟩ := best
  · obtain ⟨rfl, _⟩ := isBest
    exact ⟨by simp, rfl, by simp [irrefl]⟩
  · obtain ⟨listed, isCount, others⟩ := isBest
    unfold Aggregator.better
    dsimp only
    split
    · next wins =>
      refine ⟨by simp, rfl, fun g gSeen => ?_⟩
      rcases List.mem_append.mp gSeen with before | last
      · rcases wins with more | ⟨same, less⟩
        · have := others g before
          omega
        · rcases others g before with fewer | ⟨equal, notLess⟩
          · exact .inl (same ▸ fewer)
          · refine .inr ⟨equal.trans same.symm, not_fingerprintLess_iff.mpr ?_⟩
            exact (fingerprintLess_iff.mp less).le.trans (not_fingerprintLess_iff.mp notLess)
      · rw [List.mem_singleton.mp last]
        exact .inr ⟨rfl, irrefl⟩
    · next loses =>
      refine ⟨List.mem_append_left _ listed, isCount, fun g gSeen => ?_⟩
      rcases List.mem_append.mp gSeen with before | last
      · exact others g before
      · rw [List.mem_singleton.mp last]
        rcases Nat.lt_trichotomy (fingerprints.count f) n with fewer | same | more
        · exact .inl fewer
        · exact .inr ⟨same, Bool.eq_false_iff.mpr fun less => loses (.inr ⟨same, less⟩)⟩
        · exact absurd (.inl more) loses

theorem bestOf_foldl (fingerprints seen rest : List AggregatorConfigFingerprint)
    {best : Option AggregatorConfigFingerprint × Nat} (isBest : BestOf fingerprints seen best) :
    BestOf fingerprints (seen ++ rest) (rest.foldl (better fingerprints) best) := by
  induction rest generalizing seen best with
  | nil => rwa [List.append_nil]
  | cons f rest ih =>
    rw [List.foldl_cons, List.append_cons]
    exact ih _ (isBest.better f)

theorem selectCanonicalFingerprint_eq
    (available : List (Address × AggregatorConfigFingerprint)) :
    selectCanonicalFingerprint available =
      (available.map Prod.snd).foldl (better (available.map Prod.snd)) (none, 0) := by
  have counts (f : AggregatorConfigFingerprint) :
      available.countP (fun other => other.2 = f) = (available.map Prod.snd).count f := by
    rw [List.count, List.countP_map]
    rfl
  unfold selectCanonicalFingerprint better
  simp only [counts, List.foldl_map]

/-- The loop over all candidates ends with the canonical one. -/
theorem selectCanonicalFingerprint_spec
    (available : List (Address × AggregatorConfigFingerprint)) :
    (selectCanonicalFingerprint available = (none, 0) ∧ available = []) ∨
      ∃ c, selectCanonicalFingerprint available = (some c, (available.map Prod.snd).count c) ∧
        IsCanonical (available.map Prod.snd) c := by
  have best : BestOf (available.map Prod.snd) (available.map Prod.snd)
      (selectCanonicalFingerprint available) := by
    rw [selectCanonicalFingerprint_eq]
    exact bestOf_foldl _ [] _ ⟨rfl, rfl⟩
  generalize selectCanonicalFingerprint available = selected at best ⊢
  obtain ⟨_ | c, n⟩ := selected
  · obtain ⟨empty, rfl⟩ := best
    exact .inl ⟨rfl, List.map_eq_nil_iff.mp empty⟩
  · obtain ⟨listed, rfl, others⟩ := best
    refine .inr ⟨c, rfl, listed, fun f fListed => ?_, fun f fListed same => ?_⟩
    · have := others f fListed
      omega
    · rcases others f fListed with fewer | ⟨_, notLess⟩
      · omega
      · exact notLess

end Canonical

/-! ### The report -/

section Report

variable (shards : List Address) (isHealthy : Address → Bool) (probes : Probes)

/-- The fingerprints of the shards that are available. -/
def fingerprintsOf : List AggregatorConfigFingerprint :=
  shards.filterMap fun shard => (probeShard isHealthy probes shard).fingerprint

/-- How many shards have a status before the mismatches are marked. -/
def statusCount (status : ShardProbeStatus) : Nat :=
  shards.countP fun shard => (probeShard isHealthy probes shard).status = status

variable {shards isHealthy probes}

theorem probeShard_cases (isHealthy : Address → Bool) (probes : Probes) (shard : Address) :
    isHealthy shard = false ∧ probeShard isHealthy probes shard = ⟨shard, .unhealthy, none⟩ ∨
    isHealthy shard = true ∧ (probeShard isHealthy probes shard = ⟨shard, .stale, none⟩ ∨
      probeShard isHealthy probes shard = ⟨shard, .unavailable, none⟩ ∨
      ∃ f, probeShard isHealthy probes shard = ⟨shard, .aligned, some f⟩) := by
  cases healthy : isHealthy shard with
  | false => exact .inl ⟨rfl, by simp [probeShard, healthy]⟩
  | true =>
    refine .inr ⟨rfl, ?_⟩
    simp only [probeShard, healthy, Bool.not_true, Bool.false_eq_true, if_false]
    cases readConfigFingerprint probes shard <;> repeat' split
    all_goals simp

/-- The loop over the shards collects their diagnostics and counts them. -/
theorem foldl_tally (ds : List ShardConfigDiagnostic) (tally : Tally) :
    ds.foldl Tally.add tally =
      { diagnostics := tally.diagnostics ++ ds
        available := tally.available ++ ds.filterMap fun d => d.fingerprint.map (d.shard, ·)
        healthyCount := tally.healthyCount + ds.countP (·.status ≠ .unhealthy)
        staleCount := tally.staleCount + ds.countP (·.status = .stale)
        unavailableCount := tally.unavailableCount + ds.countP (·.status = .unavailable) } := by
  induction ds generalizing tally with
  | nil => simp
  | cons d ds ih =>
    rw [List.foldl_cons, ih]
    simp only [Tally.add, List.countP_cons, List.append_assoc, List.singleton_append]
    refine Tally.mk.injEq .. |>.mpr ⟨rfl, ?_, ?_, ?_, ?_⟩
    · rw [List.filterMap_cons]
      cases d.fingerprint <;> rfl
    all_goals simp only [decide_eq_true_eq]; (split <;> simp_all); omega

/-- The shards that are available, with their fingerprints. -/
def availableOf (shards : List Address) (isHealthy : Address → Bool) (probes : Probes) :
    List (Address × AggregatorConfigFingerprint) :=
  shards.filterMap fun shard => (probeShard isHealthy probes shard).fingerprint.map (shard, ·)

theorem map_availableOf :
    (availableOf shards isHealthy probes).map Prod.snd = fingerprintsOf shards isHealthy
      probes := by
  rw [availableOf, fingerprintsOf, List.map_filterMap]
  congr 1
  funext shard
  cases (probeShard isHealthy probes shard).fingerprint <;> rfl

theorem length_availableOf :
    (availableOf shards isHealthy probes).length =
      (fingerprintsOf shards isHealthy probes).length := by
  rw [← map_availableOf, List.length_map]

theorem tally_shards :
    (shards.map (probeShard isHealthy probes)).foldl Tally.add ⟨[], [], 0, 0, 0⟩ =
      { diagnostics := shards.map (probeShard isHealthy probes)
        available := availableOf shards isHealthy probes
        healthyCount := shards.countP isHealthy
        staleCount := statusCount shards isHealthy probes .stale
        unavailableCount := statusCount shards isHealthy probes .unavailable } := by
  rw [foldl_tally]
  refine Tally.mk.injEq .. |>.mpr ⟨by simp, ?_, ?_, ?_, ?_⟩
  · rw [List.nil_append, List.filterMap_map, availableOf]
    congr 1
    funext shard
    rcases probeShard_cases isHealthy probes shard with ⟨_, is⟩ | ⟨_, is | is | ⟨f, is⟩⟩ <;>
      simp [is]
  · rw [Nat.zero_add, List.countP_map]
    refine List.countP_congr fun shard _ => ?_
    rcases probeShard_cases isHealthy probes shard with ⟨healthy, is⟩ | ⟨healthy, is | is |
      ⟨f, is⟩⟩ <;>
      simp [is, healthy]
  all_goals
    rw [Nat.zero_add, List.countP_map]
    rfl

/-- Every healthy shard is available, stale or unavailable. -/
theorem countP_isHealthy :
    shards.countP isHealthy = (fingerprintsOf shards isHealthy probes).length +
      statusCount shards isHealthy probes .stale +
      statusCount shards isHealthy probes .unavailable := by
  unfold fingerprintsOf statusCount
  induction shards with
  | nil => rfl
  | cons shard shards ih =>
    rw [List.countP_cons, List.countP_cons, List.countP_cons, List.filterMap_cons, ih]
    rcases probeShard_cases isHealthy probes shard with ⟨healthy, is⟩ | ⟨healthy, is | is |
      ⟨f, is⟩⟩ <;>
      simp [is, healthy] <;> omega

theorem countP_mismatched (c : AggregatorConfigFingerprint) :
    (shards.map (probeShard isHealthy probes)).countP (Mismatched (some c)) +
      (fingerprintsOf shards isHealthy probes).count c =
        (fingerprintsOf shards isHealthy probes).length := by
  unfold fingerprintsOf
  rw [List.countP_map]
  induction shards with
  | nil => rfl
  | cons shard shards ih =>
    rw [List.countP_cons, List.filterMap_cons]
    cases isPrint : (probeShard isHealthy probes shard).fingerprint with
    | none => simpa [Mismatched, isPrint] using ih
    | some f =>
      by_cases same : f = c
      · simp [Mismatched, isPrint, same]
        omega
      · simp [Mismatched, isPrint, same]
        omega

theorem countP_mismatched_none (ds : List ShardConfigDiagnostic) :
    ds.countP (Mismatched none) = 0 :=
  List.countP_eq_zero.mpr fun _ _ => Bool.false_ne_true

/-- What the report says apart from the list of diagnostics. -/
def SplitBrainReport.verdict (report : SplitBrainReport) :
    SplitBrainStatus × Option AggregatorConfigFingerprint × List Nat :=
  (report.status, report.canonical, [report.shardCount, report.healthyCount, report.availableCount,
    report.staleCount, report.unavailableCount, report.mismatchCount, report.quorumCount,
    report.requiredQuorum])

theorem selectCanonicalFingerprint_perm
    {available available' : List (Address × AggregatorConfigFingerprint)}
    (same : (available.map Prod.snd).Perm (available'.map Prod.snd)) :
    selectCanonicalFingerprint available = selectCanonicalFingerprint available' := by
  rcases selectCanonicalFingerprint_spec available with ⟨isNone, rfl⟩ | ⟨c, isSome, canonical⟩
  · rw [List.map_nil, List.nil_perm, List.map_eq_nil_iff] at same
    rw [same]
  · rcases selectCanonicalFingerprint_spec available' with ⟨_, rfl⟩ | ⟨c', isSome', canonical'⟩
    · rw [same.eq_nil] at canonical
      cases canonical.mem
    · rw [isSome, isSome', same.count_eq, (canonical.perm same).unique canonical']

theorem detectSplitBrain_perm {shards' : List Address} (same : shards.Perm shards') :
    (detectSplitBrain shards' isHealthy probes).verdict =
      (detectSplitBrain shards isHealthy probes).verdict := by
  have selected : selectCanonicalFingerprint (availableOf shards isHealthy probes) =
      selectCanonicalFingerprint (availableOf shards' isHealthy probes) :=
    selectCanonicalFingerprint_perm ((same.filterMap _).map Prod.snd)
  have available : (availableOf shards isHealthy probes).length =
      (availableOf shards' isHealthy probes).length := (same.filterMap _).length_eq
  have status (status : ShardProbeStatus) : statusCount shards isHealthy probes status =
      statusCount shards' isHealthy probes status := same.countP_eq _
  have mismatched (canonical : Option AggregatorConfigFingerprint) :
      (shards.map (probeShard isHealthy probes)).countP (Mismatched canonical) =
        (shards'.map (probeShard isHealthy probes)).countP (Mismatched canonical) :=
    (same.map _).countP_eq _
  simp only [SplitBrainReport.verdict, detectSplitBrain, tally_shards, selected, available, status,
    mismatched, same.length_eq, same.countP_eq]

/-- The report in terms of the shards. -/
theorem detectSplitBrain_counts (shards : List Address) (isHealthy : Address → Bool)
    (probes : Probes) :
    let report := detectSplitBrain shards isHealthy probes
    report.healthyCount = shards.countP isHealthy ∧
      report.availableCount = (fingerprintsOf shards isHealthy probes).length ∧
      report.staleCount = statusCount shards isHealthy probes .stale ∧
      report.unavailableCount = statusCount shards isHealthy probes .unavailable := by
  simp only [detectSplitBrain, tally_shards, length_availableOf, and_self]

/-- Together with the canonical fingerprint, its frequency and the number of those that differ. -/
theorem detectSplitBrain_canonical (shards : List Address) (isHealthy : Address → Bool)
    (probes : Probes) :
    let report := detectSplitBrain shards isHealthy probes
    let fingerprints := fingerprintsOf shards isHealthy probes
    (fingerprints = [] ∧ report.canonical = none ∧ report.quorumCount = 0 ∧
        report.mismatchCount = 0) ∨
      ∃ c, IsCanonical fingerprints c ∧ report.canonical = some c ∧
        report.quorumCount = fingerprints.count c ∧
        report.mismatchCount + fingerprints.count c = fingerprints.length := by
  dsimp only
  rw [← map_availableOf]
  rcases selectCanonicalFingerprint_spec (availableOf shards isHealthy probes) with
    ⟨isNone, empty⟩ | ⟨c, isSome, canonical⟩
  · left
    simp only [detectSplitBrain, tally_shards, isNone, countP_mismatched_none, and_self, and_true]
    rw [empty, List.map_nil]
  · right
    refine ⟨c, canonical, ?_⟩
    simp only [detectSplitBrain, tally_shards, isSome, true_and]
    rw [map_availableOf]
    exact countP_mismatched c

/-- All is well when there are shards, enough that agree, and none that does not. -/
theorem detectSplitBrain_aligned (shards : List Address) (isHealthy : Address → Bool)
    (probes : Probes) :
    let report := detectSplitBrain shards isHealthy probes
    report.status = .aligned ↔ shards ≠ [] ∧ report.healthyCount < 2 * report.quorumCount ∧
      report.mismatchCount = 0 := by
  dsimp only [detectSplitBrain]
  rw [ne_eq, ← List.length_eq_zero_iff]
  generalize (selectCanonicalFingerprint _).2 = quorumCount
  generalize List.countP _ _ = mismatchCount
  repeat' split
  all_goals simp only [reduceCtorEq, false_iff, true_iff]; omega

end Report

/-- The report of a list of shards: how the healthy ones are divided, which fingerprint is
canonical and how many have it, when all is well, and that the order of the list is of no
account. -/
theorem detectSplitBrain_spec (shards : List Address) (isHealthy : Address → Bool)
    (probes : Probes) :
    let report := detectSplitBrain shards isHealthy probes
    let fingerprints := fingerprintsOf shards isHealthy probes
    report.healthyCount = shards.countP isHealthy ∧
      report.availableCount = fingerprints.length ∧
      report.healthyCount = report.availableCount + report.staleCount + report.unavailableCount ∧
      (fingerprints = [] ∧ report.canonical = none ∧ report.quorumCount = 0 ∨
        ∃ c, IsCanonical fingerprints c ∧ report.canonical = some c ∧
          report.quorumCount = fingerprints.count c) ∧
      report.quorumCount ≤ report.availableCount ∧
      report.mismatchCount = report.availableCount - report.quorumCount ∧
      (report.status = .aligned ↔ shards ≠ [] ∧ ∃ c, report.canonical = some c ∧
        report.healthyCount < 2 * fingerprints.count c ∧ ∀ f ∈ fingerprints, f = c) ∧
      ∀ shards' : List Address, shards.Perm shards' →
        (detectSplitBrain shards' isHealthy probes).verdict = report.verdict := by
  dsimp only
  obtain ⟨healthy, available, stale, unavailable⟩ :=
    detectSplitBrain_counts shards isHealthy probes
  have aligned := detectSplitBrain_aligned shards isHealthy probes
  dsimp only at aligned
  have divided : shards.countP isHealthy = (fingerprintsOf shards isHealthy probes).length +
      statusCount shards isHealthy probes .stale +
      statusCount shards isHealthy probes .unavailable := countP_isHealthy
  refine ⟨healthy, available, by rw [healthy, available, stale, unavailable, divided], ?_⟩
  rcases detectSplitBrain_canonical shards isHealthy probes with
    ⟨empty, isNone, quorum, mismatch⟩ | ⟨c, canonical, isSome, quorum, mismatch⟩
  · rw [empty, List.length_nil] at available
    refine ⟨.inl ⟨empty, isNone, quorum⟩, by omega, by omega, ?_,
      fun _ same => detectSplitBrain_perm same⟩
    rw [aligned, quorum, isNone]
    exact iff_of_false (by omega) (by simp)
  · refine ⟨.inr ⟨c, canonical, isSome, quorum⟩, by omega, by omega, ?_,
      fun _ same => detectSplitBrain_perm same⟩
    have unanimous : (detectSplitBrain shards isHealthy probes).mismatchCount = 0 ↔
        ∀ f ∈ fingerprintsOf shards isHealthy probes, f = c := by
      rw [← List.count_eq_length.trans (forall₂_congr fun f _ => eq_comm)]
      omega
    rw [aligned, quorum, isSome, unanimous]
    simp only [Option.some.injEq, exists_eq_left']

end LedgerLens.Aggregator
