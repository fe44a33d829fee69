import LedgerLens.System.History
import Mathlib.Order.Interval.Set.UnorderedInterval
import Mathlib.Order.Lattice.Nat
import Mathlib.Tactic.Linarith

/-!
Interpolated scores: between two records every smooth curve leads from the earlier
score to the later one without turning back, and no query leaves the range of the
history. The main result is `getInterpolatedScore_between`.
-/

namespace LedgerLens

open Host Host.Prog Storage

/-! ### The part of the way a curve has gone -/

/-- The curves that lead from one score to the next. -/
inductive SmoothCurve where
  | exponential | quadratic | logarithmic

def SmoothCurve.curve : SmoothCurve → DecayCurve
  | .exponential => .exponential
  | .quadratic => .quadratic
  | .logarithmic => .logarithmic

/-- The part of the way gone in the part `f` of the time, both in millionths. -/
def SmoothCurve.progress (f : Int) : SmoothCurve → Int
  | .exponential => f
  | .quadratic => f * f / interpolationScale
  | .logarithmic => max 0 (min (2 * f - f * f / interpolationScale) interpolationScale)

theorem sq_ediv_mono {f g : Int} (nonneg : 0 ≤ f) (le : f ≤ g) :
    f * f / interpolationScale ≤ g * g / interpolationScale :=
  Int.ediv_le_ediv (by decide) (mul_le_mul le le nonneg (nonneg.trans le))

/-- The square of a part gains at most twice what the part gains. -/
theorem sq_ediv_le_add {f g : Int} (le : f ≤ g) (top : g ≤ interpolationScale) :
    g * g / interpolationScale ≤ f * f / interpolationScale + 2 * (g - f) := by
  have gained : g * g ≤ f * f + 2 * (g - f) * interpolationScale := by nlinarith
  calc g * g / interpolationScale
      ≤ (f * f + 2 * (g - f) * interpolationScale) / interpolationScale :=
        Int.ediv_le_ediv (by decide) gained
    _ = f * f / interpolationScale + 2 * (g - f) :=
        Int.add_mul_ediv_right _ _ (by decide)

theorem SmoothCurve.progress_mono (curve : SmoothCurve) {f g : Int} (nonneg : 0 ≤ f) (le : f ≤ g)
    (top : g ≤ interpolationScale) : curve.progress f ≤ curve.progress g := by
  cases curve with
  | exponential => exact le
  | quadratic => exact sq_ediv_mono nonneg le
  | logarithmic =>
    have gain := sq_ediv_le_add le top
    exact max_le_max_left _ (min_le_min_right _ (by omega))

theorem SmoothCurve.progress_zero (curve : SmoothCurve) : curve.progress 0 = 0 := by
  cases curve <;> rfl

theorem SmoothCurve.progress_scale (curve : SmoothCurve) :
    curve.progress interpolationScale = interpolationScale := by
  cases curve <;> rfl

theorem SmoothCurve.progress_mem (curve : SmoothCurve) {f : Int} (nonneg : 0 ≤ f)
    (top : f ≤ interpolationScale) :
    0 ≤ curve.progress f ∧ curve.progress f ≤ interpolationScale := by
  have above := curve.progress_mono le_rfl nonneg top
  have below := curve.progress_mono nonneg top le_rfl
  rw [curve.progress_zero] at above
  rw [curve.progress_scale] at below
  exact ⟨above, below⟩

/-! ### From one score to the next -/

/-- The score after the part `y` of the way from `a` to `b`. -/
def onTheWay (a b y : Int) : Int := a + Int.tdiv (y * (b - a)) interpolationScale

section OnTheWay

variable {a b y y' : Int}

theorem onTheWay_up (nonneg : 0 ≤ y) (up : a ≤ b) :
    onTheWay a b y = a + y * (b - a) / interpolationScale := by
  rw [onTheWay, Int.tdiv_eq_ediv_of_nonneg (Int.mul_nonneg nonneg (by omega))]

/-- Downwards the division truncates towards the earlier score. -/
theorem onTheWay_down (nonneg : 0 ≤ y) (down : b ≤ a) :
    onTheWay a b y = a - y * (a - b) / interpolationScale := by
  have flipped : y * (b - a) = -(y * (a - b)) := by rw [← Int.mul_neg, Int.neg_sub]
  rw [onTheWay, flipped, Int.neg_tdiv,
    Int.tdiv_eq_ediv_of_nonneg (Int.mul_nonneg nonneg (by omega))]
  rfl

theorem onTheWay_mono (nonneg : 0 ≤ y) (le : y ≤ y') (up : a ≤ b) :
    onTheWay a b y ≤ onTheWay a b y' := by
  have further : y * (b - a) / interpolationScale ≤ y' * (b - a) / interpolationScale :=
    Int.ediv_le_ediv (by decide) (Int.mul_le_mul_of_nonneg_right le (by omega))
  rw [onTheWay_up nonneg up, onTheWay_up (nonneg.trans le) up]
  omega

theorem onTheWay_anti (nonneg : 0 ≤ y) (le : y ≤ y') (down : b ≤ a) :
    onTheWay a b y' ≤ onTheWay a b y := by
  have further : y * (a - b) / interpolationScale ≤ y' * (a - b) / interpolationScale :=
    Int.ediv_le_ediv (by decide) (Int.mul_le_mul_of_nonneg_right le (by omega))
  rw [onTheWay_down nonneg down, onTheWay_down (nonneg.trans le) down]
  omega

theorem onTheWay_zero (a b : Int) : onTheWay a b 0 = a := by simp [onTheWay]

theorem onTheWay_scale (a b : Int) : onTheWay a b interpolationScale = b := by
  rw [onTheWay, Int.mul_tdiv_cancel_left _ (by decide)]
  omega

theorem onTheWay_mem (nonneg : 0 ≤ y) (top : y ≤ interpolationScale) :
    onTheWay a b y ∈ Set.uIcc a b := by
  rcases le_total a b with up | down
  · rw [Set.uIcc_of_le up]
    have above := onTheWay_mono le_rfl nonneg up
    have below := onTheWay_mono nonneg top up
    rw [onTheWay_zero] at above
    rw [onTheWay_scale] at below
    exact ⟨above, below⟩
  · rw [Set.uIcc_of_ge down]
    have below := onTheWay_anti le_rfl nonneg down
    have above := onTheWay_anti nonneg top down
    rw [onTheWay_zero] at below
    rw [onTheWay_scale] at above
    exact ⟨above, below⟩

end OnTheWay

/-! ### Between two records -/

section Between

variable (curve : SmoothCurve) {elapsed elapsed' dt a b : Nat}

/-- The part of the time that has passed. -/
theorem passed_eq (elapsed dt : Nat) :
    (elapsed : Int) * interpolationScale / dt = ((elapsed * 1000000 / dt : Nat) : Int) := by
  push_cast
  rfl

theorem passed_mem (within : elapsed ≤ dt) :
    0 ≤ (elapsed : Int) * interpolationScale / dt ∧
      (elapsed : Int) * interpolationScale / dt ≤ interpolationScale := by
  have part : elapsed * 1000000 / dt ≤ 1000000 :=
    Nat.div_le_of_le_mul (Nat.mul_le_mul_right _ within)
  rw [passed_eq]
  exact ⟨Int.natCast_nonneg _, Int.ofNat_le.mpr part⟩

theorem passed_mono (le : elapsed ≤ elapsed') (dt : Nat) :
    (elapsed : Int) * interpolationScale / dt ≤ elapsed' * interpolationScale / dt := by
  have part : elapsed * 1000000 / dt ≤ elapsed' * 1000000 / dt :=
    Nat.div_le_div_right (Nat.mul_le_mul_right _ le)
  rw [passed_eq, passed_eq]
  exact Int.ofNat_le.mpr part

/-- Between scores in range the clamp does nothing. -/
theorem applyCurveInterp_eq (within : elapsed ≤ dt) (fitsA : a ≤ 100) (fitsB : b ≤ 100) :
    (applyCurveInterp elapsed dt a b curve.curve : Int) =
      onTheWay a b (curve.progress (elapsed * interpolationScale / dt)) ∧
    onTheWay a b (curve.progress (elapsed * interpolationScale / dt)) ∈ Set.uIcc (a : Int) b := by
  have clamped : applyCurveInterp elapsed dt a b curve.curve = (max 0 (min
      (onTheWay a b (curve.progress (elapsed * interpolationScale / dt))) 100)).toNat := by
    cases curve <;> rfl
  obtain ⟨nonneg, top⟩ := passed_mem within
  obtain ⟨above, below⟩ := curve.progress_mem nonneg top
  have range : onTheWay a b _ ∈ Set.uIcc (a : Int) b := onTheWay_mem above below
  refine ⟨?_, range⟩
  rw [Set.mem_uIcc] at range
  rw [clamped]
  omega

theorem applyCurveInterp_mem (within : elapsed ≤ dt) (fitsA : a ≤ 100) (fitsB : b ≤ 100) :
    applyCurveInterp elapsed dt a b curve.curve ∈ Set.uIcc a b := by
  obtain ⟨value, range⟩ := applyCurveInterp_eq curve within fitsA fitsB
  rw [← value, Set.mem_uIcc] at range
  rw [Set.mem_uIcc]
  omega

theorem applyCurveInterp_zero (fitsA : a ≤ 100) (fitsB : b ≤ 100) :
    applyCurveInterp 0 dt a b curve.curve = a := by
  have value := (applyCurveInterp_eq curve (Nat.zero_le dt) fitsA fitsB).1
  rw [Int.natCast_zero, Int.zero_mul, Int.zero_ediv, curve.progress_zero, onTheWay_zero] at value
  exact Int.ofNat_inj.mp value

theorem applyCurveInterp_self (later : 0 < dt) (fitsA : a ≤ 100) (fitsB : b ≤ 100) :
    applyCurveInterp dt dt a b curve.curve = b := by
  have value := (applyCurveInterp_eq curve (le_refl dt) fitsA fitsB).1
  rw [Int.mul_ediv_cancel_left _ (by omega), curve.progress_scale, onTheWay_scale] at value
  exact Int.ofNat_inj.mp value

theorem applyCurveInterp_mono (le : elapsed ≤ elapsed') (within : elapsed' ≤ dt)
    (fitsA : a ≤ 100) (fitsB : b ≤ 100) :
    (a ≤ b → applyCurveInterp elapsed dt a b curve.curve ≤
      applyCurveInterp elapsed' dt a b curve.curve) ∧
    (b ≤ a → applyCurveInterp elapsed' dt a b curve.curve ≤
      applyCurveInterp elapsed dt a b curve.curve) := by
  have earlier := (applyCurveInterp_eq curve (le.trans within) fitsA fitsB).1
  have later := (applyCurveInterp_eq curve within fitsA fitsB).1
  obtain ⟨nonneg, top⟩ := passed_mem (le.trans within)
  have above := (curve.progress_mem nonneg top).1
  have further := curve.progress_mono nonneg (passed_mono le dt) (passed_mem within).2
  constructor
  · intro up
    have := onTheWay_mono above further (Int.ofNat_le.mpr up)
    omega
  · intro down
    have := onTheWay_anti above further (Int.ofNat_le.mpr down)
    omega

end Between

/-! ### Over a history -/

/-- The score lies between two scores of the history. -/
def Within (history : List RiskScore) (score : Nat) : Prop :=
  ∃ low ∈ history, ∃ high ∈ history, low.score ≤ score ∧ score ≤ high.score

theorem Within.of_mem {history : List RiskScore} {entry : RiskScore} (listed : entry ∈ history) :
    Within history entry.score :=
  ⟨entry, listed, entry, listed, le_rfl, le_rfl⟩

theorem Within.of_uIcc {history : List RiskScore} {a b : RiskScore} {score : Nat}
    (listedA : a ∈ history) (listedB : b ∈ history) (range : score ∈ Set.uIcc a.score b.score) :
    Within history score := by
  rcases Set.mem_uIcc.mp range with up | down
  · exact ⟨a, listedA, b, listedB, up⟩
  · exact ⟨b, listedB, a, listedA, down⟩

theorem Within.cons {history : List RiskScore} {score : Nat} (entry : RiskScore)
    (within : Within history score) : Within (entry :: history) score := by
  obtain ⟨low, listedLow, high, listedHigh, range⟩ := within
  exact ⟨low, .tail _ listedLow, high, .tail _ listedHigh, range⟩

section Histories

variable (curve : SmoothCurve) {timestamp : Nat}

/-- Whatever the order of the records: the first pair around the time decides, or the last one. -/
theorem interpolateBetween_within {history : List RiskScore} (nonempty : history ≠ [])
    (fits : ∀ entry ∈ history, entry.score ≤ 100) :
    Within history (interpolateBetween timestamp curve.curve history) := by
  induction history with
  | nil => exact absurd rfl nonempty
  | cons a rest ih =>
    cases rest with
    | nil => exact .of_mem List.mem_cons_self
    | cons b rest =>
      have first : a ∈ a :: b :: rest := List.mem_cons_self
      have second : b ∈ a :: b :: rest := .tail _ List.mem_cons_self
      rw [interpolateBetween]
      split_ifs with around same
      · exact .of_mem first
      · exact .of_uIcc first second
          (applyCurveInterp_mem curve (by omega) (fits a first) (fits b second))
      · exact (ih (List.cons_ne_nil _ _) fun entry listed => fits entry (.tail _ listed)).cons a

/-- An exact record comes first, then the two ends, then the records in between. -/
theorem interpolate_cons (first : RiskScore) (rest : List RiskScore) (curve : DecayCurve) :
    interpolate (first :: rest) timestamp curve =
      ((first :: rest).find? fun entry => entry.timestamp = timestamp).elim
        (if timestamp ≤ first.timestamp then first.score
        else if ((first :: rest).getLast (List.cons_ne_nil _ _)).timestamp ≤ timestamp then
          ((first :: rest).getLast (List.cons_ne_nil _ _)).score
        else interpolateBetween timestamp curve (first :: rest))
        RiskScore.score := by
  unfold interpolate
  rw [List.head?_cons, List.getLast?_eq_some_getLast (List.cons_ne_nil _ _)]
  cases (first :: rest).find? fun entry => entry.timestamp = timestamp <;> rfl

theorem interpolate_within {history : List RiskScore} (nonempty : history ≠ [])
    (fits : ∀ entry ∈ history, entry.score ≤ 100) :
    Within history (interpolate history timestamp curve.curve) := by
  obtain ⟨first, rest, rfl⟩ := List.exists_cons_of_ne_nil nonempty
  rw [interpolate_cons]
  cases found : (first :: rest).find? fun entry => entry.timestamp = timestamp with
  | some entry => exact .of_mem (List.mem_of_find?_eq_some found)
  | none =>
    rw [Option.elim_none]
    split_ifs
    · exact .of_mem List.mem_cons_self
    · exact .of_mem (List.getLast_mem _)
    · exact interpolateBetween_within curve nonempty fits

/-- The records are in the order of their times, no two at the same time. -/
abbrev InTimeOrder (history : List RiskScore) : Prop :=
  history.Pairwise fun a b => a.timestamp < b.timestamp

/-- In order, the pair around a time strictly between two neighbours is that of the neighbours. -/
theorem interpolateBetween_neighbours (curve : DecayCurve) {before after : List RiskScore}
    {a b : RiskScore} (ordered : InTimeOrder (before ++ a :: b :: after))
    (above : a.timestamp < timestamp) (below : timestamp < b.timestamp) :
    interpolateBetween timestamp curve (before ++ a :: b :: after) =
      applyCurveInterp (timestamp - a.timestamp) (b.timestamp - a.timestamp) a.score b.score
        curve := by
  induction before with
  | nil =>
    rw [List.nil_append, interpolateBetween, if_pos ⟨above.le, below.le⟩, if_neg (by omega)]
  | cons x before ih =>
    have later := ih (List.pairwise_cons.mp ordered).2
    -- the next record is not after `a`, so this pair is not around the time
    obtain ⟨y, rest, split, early⟩ : ∃ y rest, before ++ a :: b :: after = y :: rest ∧
        y.timestamp ≤ a.timestamp := by
      cases before with
      | nil => exact ⟨a, b :: after, rfl, le_rfl⟩
      | cons y before =>
        refine ⟨y, before ++ a :: b :: after, rfl, ?_⟩
        have tail := (List.pairwise_cons.mp ordered).2
        exact ((List.pairwise_cons.mp tail).1 a (by simp)).le
    rw [List.cons_append, split, interpolateBetween, if_neg (by omega), ← split, later]

theorem find?_timestamp {history : List RiskScore} (ordered : InTimeOrder history)
    {entry : RiskScore} (listed : entry ∈ history) :
    (history.find? fun other => other.timestamp = entry.timestamp) = some entry := by
  induction history with
  | nil => exact absurd listed List.not_mem_nil
  | cons first rest ih =>
    obtain ⟨later, tail⟩ := List.pairwise_cons.mp ordered
    rcases List.mem_cons.mp listed with rfl | deeper
    · exact List.find?_cons_of_pos (by simp)
    · have differs : first.timestamp ≠ entry.timestamp := (later entry deeper).ne
      rw [List.find?_cons_of_neg (by simpa using differs), ih tail deeper]

theorem interpolate_of_mem (curve : DecayCurve) {history : List RiskScore}
    (ordered : InTimeOrder history) {entry : RiskScore} (listed : entry ∈ history) :
    interpolate history entry.timestamp curve = entry.score := by
  obtain ⟨first, rest, rfl⟩ := List.exists_cons_of_ne_nil (List.ne_nil_of_mem listed)
  rw [interpolate_cons, find?_timestamp ordered listed]
  rfl

/-- Records in order leave no room between neighbours, and none before the first or after
the last one. -/
theorem InTimeOrder.not_between {before after : List RiskScore} {a b entry : RiskScore}
    (ordered : InTimeOrder (before ++ a :: b :: after))
    (listed : entry ∈ before ++ a :: b :: after) :
    entry.timestamp ≤ a.timestamp ∨ b.timestamp ≤ entry.timestamp := by
  obtain ⟨_, pair, across⟩ := List.pairwise_append.mp ordered
  obtain ⟨_, tail⟩ := List.pairwise_cons.mp pair
  rcases List.mem_append.mp listed with earlier | later
  · exact .inl (across entry earlier a List.mem_cons_self).le
  rcases List.mem_cons.mp later with rfl | later
  · exact .inl le_rfl
  rcases List.mem_cons.mp later with rfl | later
  · exact .inr le_rfl
  · exact .inr ((List.pairwise_cons.mp tail).1 entry later).le

theorem InTimeOrder.head_le {first entry : RiskScore} {rest : List RiskScore}
    (ordered : InTimeOrder (first :: rest)) (listed : entry ∈ first :: rest) :
    first.timestamp ≤ entry.timestamp := by
  rcases List.mem_cons.mp listed with rfl | later
  · exact le_rfl
  · exact ((List.pairwise_cons.mp ordered).1 entry later).le

theorem InTimeOrder.le_getLast {history : List RiskScore} {entry : RiskScore}
    (ordered : InTimeOrder history) (nonempty : history ≠ []) (listed : entry ∈ history) :
    entry.timestamp ≤ (history.getLast nonempty).timestamp := by
  rw [← List.dropLast_append_getLast nonempty] at ordered listed
  rcases List.mem_append.mp listed with earlier | last
  · exact ((List.pairwise_append.mp ordered).2.2 entry earlier _ List.mem_cons_self).le
  · rw [List.mem_singleton.mp last]

/-- From one record to the next the curve between the two decides, at both ends too. -/
theorem interpolate_neighbours {before after : List RiskScore} {a b : RiskScore}
    (ordered : InTimeOrder (before ++ a :: b :: after))
    (fits : ∀ entry ∈ before ++ a :: b :: after, entry.score ≤ 100)
    (above : a.timestamp ≤ timestamp) (below : timestamp ≤ b.timestamp) :
    interpolate (before ++ a :: b :: after) timestamp curve.curve =
      applyCurveInterp (timestamp - a.timestamp) (b.timestamp - a.timestamp) a.score b.score
        curve.curve := by
  have listedA : a ∈ before ++ a :: b :: after := by simp
  have listedB : b ∈ before ++ a :: b :: after := by simp
  have apart : a.timestamp < b.timestamp := by
    have pair := (List.pairwise_append.mp ordered).2.1
    exact (List.pairwise_cons.mp pair).1 b List.mem_cons_self
  rcases above.eq_or_lt with rfl | above
  · rw [interpolate_of_mem _ ordered listedA, Nat.sub_self,
      applyCurveInterp_zero curve (fits a listedA) (fits b listedB)]
  rcases below.eq_or_lt with rfl | below
  · rw [interpolate_of_mem _ ordered listedB,
      applyCurveInterp_self curve (by omega) (fits a listedA) (fits b listedB)]
  have unmatched : ((before ++ a :: b :: after).find? fun entry => entry.timestamp = timestamp) =
      none := by
    rw [List.find?_eq_none]
    intro entry listed same
    have apart := ordered.not_between listed
    have same : entry.timestamp = timestamp := by simpa using same
    omega
  have between := interpolateBetween_neighbours curve.curve ordered above below
  obtain ⟨first, rest, split⟩ := List.exists_cons_of_ne_nil (List.ne_nil_of_mem listedA)
  rw [split] at ordered listedA listedB unmatched between ⊢
  have start := ordered.head_le listedA
  have finish := ordered.le_getLast (List.cons_ne_nil _ _) listedB
  rw [interpolate_cons, unmatched, Option.elim_none, if_neg (by omega), if_neg (by omega), between]

end Histories

theorem getInterpolatedScore_run (env : ContractEnv) (w : State) (wallet : Address)
    (pair : Symbol) (timestamp : Nat) :
    getInterpolatedScore wallet pair timestamp env w =
      .ok (interpolate (historyOf w wallet pair) timestamp
        ((w.ledger.entry .inst .decayCurveConfig).getD .exponential)) w := rfl

/-- With a smooth curve the interpolated score never leaves the range of the history, and
between neighbours of an ordered history it moves from the one score to the other only. -/
theorem getInterpolatedScore_between (env : ContractEnv) (w : State) (wallet : Address)
    (pair : Symbol) (curve : SmoothCurve)
    (configured : (w.ledger.entry .inst .decayCurveConfig).getD .exponential = curve.curve)
    (nonempty : historyOf w wallet pair ≠ [])
    (fits : ∀ entry ∈ historyOf w wallet pair, entry.score ≤ 100) :
    (∀ timestamp, ∃ score,
      getInterpolatedScore wallet pair timestamp env w = .ok score w ∧
        Within (historyOf w wallet pair) score) ∧
    (InTimeOrder (historyOf w wallet pair) →
      ∀ before a b after, historyOf w wallet pair = before ++ a :: b :: after →
      ∀ timestamp timestamp', a.timestamp ≤ timestamp → timestamp ≤ timestamp' →
        timestamp' ≤ b.timestamp →
      ∃ score score',
        getInterpolatedScore wallet pair timestamp env w = .ok score w ∧
        getInterpolatedScore wallet pair timestamp' env w = .ok score' w ∧
        score ∈ Set.uIcc a.score b.score ∧ score' ∈ Set.uIcc a.score b.score ∧
        (a.score ≤ b.score → score ≤ score') ∧ (b.score ≤ a.score → score' ≤ score)) := by
  simp only [getInterpolatedScore_run, configured]
  generalize historyOf w wallet pair = history at nonempty fits ⊢
  constructor
  · intro timestamp
    exact ⟨_, rfl, interpolate_within curve nonempty fits⟩
  · rintro ordered before a b after rfl timestamp timestamp' above le below
    have fitsA : a.score ≤ 100 := fits a (by simp)
    have fitsB : b.score ≤ 100 := fits b (by simp)
    have moves := applyCurveInterp_mono curve (Nat.sub_le_sub_right le a.timestamp)
      (Nat.sub_le_sub_right below a.timestamp) fitsA fitsB
    refine ⟨_, _, rfl, rfl, ?_⟩
    rw [interpolate_neighbours curve ordered fits above (le.trans below),
      interpolate_neighbours curve ordered fits (above.trans le) below]
    exact ⟨applyCurveInterp_mem curve (by omega) fitsA fitsB,
      applyCurveInterp_mem curve (by omega) fitsA fitsB, moves⟩

/-- A history of two scores, four hundred seconds apart. -/
def spacedOut : State :=
  run (HistoryCall.exec (account 1) samplePair) deployed
    (([.pushScoreHistory (recordAt 20 100), .pushScoreHistory (recordAt 60 500)] :
      List HistoryCall).map (Tx.mk (sampleEnv [])))

/-- Between the two, under the curve in force by default. -/
theorem getInterpolatedScore_between_spacedOut :
    ∃ score score', getInterpolatedScore (account 1) samplePair 200 (sampleEnv []) spacedOut =
        .ok score spacedOut ∧
      getInterpolatedScore (account 1) samplePair 350 (sampleEnv []) spacedOut =
        .ok score' spacedOut ∧
      Within (historyOf spacedOut (account 1) samplePair) score ∧
      score' ∈ Set.uIcc 20 60 ∧ score ≤ score' := by
  have kept : historyOf spacedOut (account 1) samplePair =
      [recordAt 20 100, recordAt 60 500] := by decide +kernel
  have between := getInterpolatedScore_between (sampleEnv []) spacedOut (account 1) samplePair
    .exponential (by decide +kernel) (by rw [kept]; decide) (by rw [kept]; decide)
  obtain ⟨inRange, ran, within⟩ := between.1 200
  obtain ⟨score, score', ran', ran₂, -, near, up, -⟩ := between.2 (by rw [kept]; decide)
    [] (recordAt 20 100) (recordAt 60 500) [] kept 200 350 (by decide) (by decide) (by decide)
  cases ran.symm.trans ran'
  exact ⟨_, score', ran', ran₂, within, near, up (by decide)⟩

end LedgerLens
