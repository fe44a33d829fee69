import LedgerLens.System.History
import LedgerLens.System.Limits
import LedgerLens.System.Lookups

/-!
How fast a score moves. The scores and the time between them are converted to signed integers;
a time of `2 ^ 63` seconds or more becomes negative, and the score then seems to move the other
way. The main result is `getScoreMomentum_right_iff`.
-/

namespace LedgerLens

open Host Host.Prog Storage

/-! ### The contract's computation -/

/-- A `u32` as an `i32`. -/
def asI32 (n : Nat) : Int := if n < 2 ^ 31 then n else (n : Int) - 2 ^ 32

/-- A `u64` as an `i64`. -/
def asI64 (n : Nat) : Int := if n < 2 ^ 63 then n else (n : Int) - 2 ^ 64

def i32Checked (z : Int) : Option Int := if -2 ^ 31 ≤ z ∧ z < 2 ^ 31 then some z else none

def i32Clamp (z : Int) : Int := max (-2 ^ 31) (min z (2 ^ 31 - 1))

/-- The momentum between two records; `none` is an overflow. -/
def momentumBetween (first last : RiskScore) : Option Int :=
  let timeDelta := last.timestamp - first.timestamp
  if timeDelta = 0 then some 0
  else (i32Checked (asI32 last.score - asI32 first.score)).map fun scoreDelta =>
    i32Clamp (Int.tdiv scoreDelta (asI64 timeDelta))

/-- The answer, and what the event it raises carries beside the wallet and the pair. -/
structure Momentum where
  value : Int
  alert : Option (Int × Nat)

abbrev getMomentumWindow : M Nat := fetchOr .inst .momentumWindow 3600
abbrev getMomentumAlertThreshold : M Nat := fetchOr .inst .momentumAlertThreshold 0

def getScoreMomentum (wallet : Address) (pair : Symbol) : M Momentum := do
  if ← isEmbargoed wallet then return ⟨0, none⟩
  else
    let history ← getScoreHistory wallet pair
    if history.length < 2 then return ⟨0, none⟩
    else do
      let window ← getMomentumWindow
      let windowStart := (← now) - window
      let windowedEntries := history.filter fun entry => windowStart ≤ entry.timestamp
      if windowedEntries.length < 2 then return ⟨0, none⟩
      else do
        let first ← unwrap windowedEntries.head?
        let last ← unwrap windowedEntries.getLast?
        -- Nothing moved in no time: no alert is raised then.
        if last.timestamp - first.timestamp = 0 then return ⟨0, none⟩
        else do
          let momentum ← unwrap (momentumBetween first last)
          let alertThreshold ← getMomentumAlertThreshold
          return ⟨momentum, if 0 < alertThreshold ∧ asI32 alertThreshold < momentum
            then some (momentum, alertThreshold) else none⟩

/-! ### The answer -/

section Answer

variable (env : ContractEnv) (w : State) (wallet : Address) (pair : Symbol)

/-- The history from the start of the window on. -/
def windowedHistory : List RiskScore :=
  (historyOf w wallet pair).filter fun entry =>
    env.timestamp - (w.ledger.entry .inst .momentumWindow).getD 3600 ≤ entry.timestamp

variable {env w wallet pair}

theorem head?_eq_getLast?_of_short {α : Type} {xs : List α} (short : xs.length < 2) :
    xs.head? = xs.getLast? := by
  match xs, short with
  | [], _ => rfl
  | [_], _ => rfl

theorem momentumBetween_self (entry : RiskScore) : momentumBetween entry entry = some 0 := by
  rw [momentumBetween]
  exact if_pos (Nat.sub_self _)

/-- Outside embargoes the answer lies between the first and the last record of the window. -/
theorem getScoreMomentum_value {first last : RiskScore}
    (isFirst : (windowedHistory env w wallet pair).head? = some first)
    (isLast : (windowedHistory env w wallet pair).getLast? = some last) (v : Int) :
    (∃ m w', getScoreMomentum wallet pair env w = .ok m w' ∧ m.value = v) ↔
      if embargoed env w wallet then v = 0 else momentumBetween first last = some v := by
  have alone (short : (windowedHistory env w wallet pair).length < 2) :
      momentumBetween first last = some 0 := by
    have same := (isFirst.symm.trans (head?_eq_getLast?_of_short short)).trans isLast
    rw [← Option.some.inj same]
    exact momentumBetween_self first
  have reads : (∃ m w', getScoreMomentum wallet pair env w = .ok m w' ∧ m.value = v) ↔
      wp (getScoreMomentum wallet pair) (fun m _ => m.value = v) env w := Iff.rfl
  have isWindow : ((w.ledger.entry .persistent (.scoreHistory wallet pair)).getD []).filter
      (fun entry => env.timestamp - (w.ledger.entry .inst .momentumWindow).getD 3600 ≤
        entry.timestamp) = windowedHistory env w wallet pair := rfl
  have embargo (Q : Bool → State → Prop) :
      wp (isEmbargoed wallet) Q env w ↔ Q (embargoed env w wallet) w := by
    simp [wp, isEmbargoed_run]
  rw [reads, getScoreMomentum, wp_bind, embargo]
  cases embargoed env w wallet with
  | true => simp [eq_comm]
  | false =>
    simp only [Bool.false_eq_true, if_false, wp_bind, wp_loadOr, wp_ite, wp_pure, wp_asks,
      wp_unwrap, isWindow, isFirst, isLast]
    have shorter : (windowedHistory env w wallet pair).length ≤
        ((w.ledger.entry .persistent (.scoreHistory wallet pair)).getD []).length :=
      List.length_filter_le ..
    by_cases short : (windowedHistory env w wallet pair).length < 2
    · rw [alone short, if_pos short, ite_self, Option.some.injEq]
    · rw [if_neg short, if_neg (by omega)]
      simp only [Option.some.injEq, exists_eq_left']
      by_cases still : last.timestamp - first.timestamp = 0
      · have isZero : momentumBetween first last = some 0 := if_pos still
        rw [if_pos still, isZero, Option.some.injEq]
      · rw [if_neg still]
        constructor
        · rintro ⟨a, between, rfl⟩
          exact between
        · exact fun between => ⟨v, between, rfl⟩

/-! ### Its direction -/

/-- The answer does not contradict the difference of the scores. -/
def RightDirection (scoreDelta v : Int) : Prop :=
  (0 ≤ scoreDelta → 0 ≤ v) ∧ (scoreDelta ≤ 0 → v ≤ 0) ∧ v.natAbs ≤ scoreDelta.natAbs

/-- When the conversions do no harm. Of scores in one half of their range the difference is right,
and the time must be positive as it is read or exceed it; of scores in different halves the
difference is off by `2 ^ 32`, if there is one. -/
def Harmless (first last : RiskScore) : Prop :=
  let timeDelta := last.timestamp - first.timestamp
  let gap := ((last.score : Int) - first.score).natAbs
  timeDelta ≠ 0 →
    if first.score < 2 ^ 31 ↔ last.score < 2 ^ 31 then timeDelta < 2 ^ 63 ∨ gap < 2 ^ 64 - timeDelta
    else (last.score < first.score + 2 ^ 31 ∧ first.score ≤ last.score + 2 ^ 31) ∨
      2 ^ 63 ≤ timeDelta ∨ 2 ^ 32 - gap < timeDelta

section Division

variable {D d q t : Int}

theorem rightDirection_of_agree (up : 0 ≤ D → 0 ≤ q) (down : D ≤ 0 → q ≤ 0)
    (small : q.natAbs ≤ D.natAbs) : RightDirection D (i32Clamp q) := by
  unfold RightDirection i32Clamp
  omega

theorem rightDirection_iff_of_oppose (up : 0 ≤ D → q ≤ 0) (down : D ≤ 0 → 0 ≤ q) :
    RightDirection D (i32Clamp q) ↔ q = 0 := by
  unfold RightDirection i32Clamp
  omega

theorem tdiv_nonpos_of_neg (down : t ≤ 0) : (0 ≤ d → d.tdiv t ≤ 0) ∧ (d ≤ 0 → 0 ≤ d.tdiv t) := by
  constructor
  · intro up
    have := Int.tdiv_nonneg up (Int.neg_nonneg_of_nonpos down)
    rw [Int.tdiv_neg] at this
    omega
  · intro low
    have := Int.tdiv_nonneg (Int.neg_nonneg_of_nonpos low) (Int.neg_nonneg_of_nonpos down)
    rwa [Int.neg_tdiv_neg] at this

theorem tdiv_nonneg_of_pos (up : 0 ≤ t) : (0 ≤ d → 0 ≤ d.tdiv t) ∧ (d ≤ 0 → d.tdiv t ≤ 0) := by
  have opposite := tdiv_nonpos_of_neg (d := -d) (Int.neg_nonpos_of_nonneg up)
  rw [Int.neg_tdiv_neg] at opposite
  omega

theorem natAbs_tdiv_le : (d.tdiv t).natAbs ≤ d.natAbs := by
  rw [Int.natAbs_tdiv]
  exact Nat.div_le_self ..

theorem tdiv_eq_zero_iff (nonzero : t ≠ 0) : d.tdiv t = 0 ↔ d.natAbs < t.natAbs := by
  have quotient : (d.tdiv t).natAbs = d.natAbs / t.natAbs := Int.natAbs_tdiv d t
  rw [← Int.natAbs_eq_zero, quotient, Nat.div_eq_zero_iff]
  omega

/-- With the difference as it is, the time has to be positive or large. -/
theorem rightDirection_tdiv_iff (nonzero : t ≠ 0) :
    RightDirection D (i32Clamp (D.tdiv t)) ↔ 0 < t ∨ D.natAbs < t.natAbs := by
  by_cases up : 0 < t
  · obtain ⟨rises, falls⟩ := tdiv_nonneg_of_pos (d := D) up.le
    exact iff_of_true (rightDirection_of_agree rises falls natAbs_tdiv_le) (.inl up)
  · obtain ⟨falls, rises⟩ := tdiv_nonpos_of_neg (d := D) (not_lt.mp up)
    rw [rightDirection_iff_of_oppose falls rises, tdiv_eq_zero_iff nonzero, or_iff_right up]

/-- With a difference of the wrong sign, negative or large. -/
theorem rightDirection_tdiv_opposite_iff (opposite : 0 < D ∧ d < 0 ∨ D < 0 ∧ 0 < d)
    (small : d.natAbs ≤ D.natAbs) (nonzero : t ≠ 0) :
    RightDirection D (i32Clamp (d.tdiv t)) ↔ t < 0 ∨ d.natAbs < t.natAbs := by
  by_cases down : t < 0
  · obtain ⟨falls, rises⟩ := tdiv_nonpos_of_neg (d := d) down.le
    exact iff_of_true (rightDirection_of_agree (fun _ => rises (by omega))
      (fun _ => falls (by omega)) (natAbs_tdiv_le.trans small)) (.inl down)
  · obtain ⟨rises, falls⟩ := tdiv_nonneg_of_pos (d := d) (not_lt.mp down)
    rw [rightDirection_iff_of_oppose (fun _ => falls (by omega)) (fun _ => rises (by omega)),
      tdiv_eq_zero_iff nonzero, or_iff_right down]

end Division

/-- The difference of the scores as they are read. -/
theorem asI32_sub_asI32 (l f : Nat) :
    (f < 2 ^ 31 ↔ l < 2 ^ 31) ∧ asI32 l - asI32 f = (l : Int) - f ∨
      ¬ (f < 2 ^ 31 ↔ l < 2 ^ 31) ∧ (l < f ∧ asI32 l - asI32 f = (l : Int) - f + 2 ^ 32 ∨
        f < l ∧ asI32 l - asI32 f = (l : Int) - f - 2 ^ 32) := by
  unfold asI32
  split <;> split <;> omega

/-- The time between them as it is read. -/
theorem asI64_spec {δ : Nat} (lt : δ < 2 ^ 64) (moved : δ ≠ 0) :
    asI64 δ ≠ 0 ∧ (δ < 2 ^ 63 ∧ asI64 δ = δ ∨ 2 ^ 63 ≤ δ ∧ asI64 δ = (δ : Int) - 2 ^ 64) := by
  unfold asI64
  split <;> omega

/-- What has been stored as a record's score and time fits their types. -/
theorem momentumBetween_right_iff {first last : RiskScore} (firstLt : first.score < u32Bound)
    (lastLt : last.score < u32Bound) (timeLt : last.timestamp < u64Bound) :
    (∀ v, momentumBetween first last = some v →
      RightDirection ((last.score : Int) - first.score) v) ↔ Harmless first last := by
  unfold momentumBetween Harmless
  have deltaLt : last.timestamp - first.timestamp < u64Bound := by omega
  dsimp only
  generalize last.timestamp - first.timestamp = δ at deltaLt
  generalize last.score = l at lastLt
  generalize first.score = f at firstLt
  unfold u32Bound at firstLt lastLt
  unfold u64Bound at deltaLt
  by_cases still : δ = 0
  · rw [if_pos still]
    refine iff_of_true ?_ (fun moved => absurd still moved)
    rintro v ⟨⟩
    simp [RightDirection]
  rw [if_neg still, forall_prop_of_true still]
  obtain ⟨nonzero, time⟩ := asI64_spec deltaLt still
  generalize asI64 δ = t at nonzero time
  obtain ⟨alike, isDelta⟩ | ⟨unlike, isDelta⟩ := asI32_sub_asI32 l f
  · have fits : i32Checked ((l : Int) - f) = some ((l : Int) - f) := if_pos (by omega)
    rw [if_pos alike, isDelta, fits]
    simp only [Option.map_some, Option.some.injEq, forall_eq']
    rw [rightDirection_tdiv_iff nonzero]
    omega
  · rw [if_neg unlike]
    generalize asI32 l - asI32 f = d at isDelta
    by_cases fits : -2 ^ 31 ≤ d ∧ d < 2 ^ 31
    · have isChecked : i32Checked d = some d := if_pos fits
      simp only [isChecked, Option.map_some, Option.some.injEq, forall_eq']
      rw [rightDirection_tdiv_opposite_iff (by omega) (by omega) nonzero]
      omega
    · have overflows : i32Checked d = none := if_neg fits
      rw [overflows, Option.map_none]
      exact iff_of_true (fun v none => nomatch none) (.inl (by omega))

end Answer

/-- The direction is right, whatever the window and the time, exactly where the conversions of the
first and the last score of the window and of the time between them do no harm. -/
theorem getScoreMomentum_right_iff (env : ContractEnv) (w : State) (wallet : Address)
    (pair : Symbol) (typed : ∀ entry ∈ historyOf w wallet pair,
      entry.score < u32Bound ∧ entry.timestamp < u64Bound) :
    (∀ first last m w', (windowedHistory env w wallet pair).head? = some first →
        (windowedHistory env w wallet pair).getLast? = some last →
        getScoreMomentum wallet pair env w = .ok m w' →
        RightDirection ((last.score : Int) - first.score) m.value) ↔
      (embargoed env w wallet = false →
        ∀ first last, (windowedHistory env w wallet pair).head? = some first →
          (windowedHistory env w wallet pair).getLast? = some last →
          Harmless first last) := by
  have typed' {entry : RiskScore} (listed : entry ∈ windowedHistory env w wallet pair) :=
    typed entry (List.mem_of_mem_filter listed)
  have between {first last : RiskScore}
      (isFirst : (windowedHistory env w wallet pair).head? = some first)
      (isLast : (windowedHistory env w wallet pair).getLast? = some last) :=
    momentumBetween_right_iff (typed' (List.mem_of_mem_head? isFirst)).1
      (typed' (List.mem_of_mem_getLast? isLast)).1 (typed' (List.mem_of_mem_getLast? isLast)).2
  constructor
  · intro right isOpen first last isFirst isLast
    refine (between isFirst isLast).mp fun v isValue => ?_
    obtain ⟨m, w', ran, rfl⟩ :=
      (getScoreMomentum_value isFirst isLast v).mpr (by rw [isOpen]; exact isValue)
    exact right first last m w' isFirst isLast ran
  · intro harmless first last m w' isFirst isLast ran
    have value := (getScoreMomentum_value isFirst isLast m.value).mp ⟨m, w', ran, rfl⟩
    cases isOpen : embargoed env w wallet with
    | true =>
      rw [isOpen, if_pos rfl] at value
      rw [value]
      simp [RightDirection]
    | false =>
      rw [isOpen, if_neg Bool.false_ne_true] at value
      exact (between isFirst isLast).mpr (harmless isOpen first last isFirst isLast) _ value

/-- Two scores fifty points apart; the window reaches back to the first second. -/
def movedAt (last : Nat) : State :=
  run exec blank
    [initSample, soleSample (.setMomentumWindow 10000000), submitSample (account 3) 40,
     ⟨sampleAfter [account 2] 7200, .user (.submitScore []
       { sampleSubmission (account 3) 90 with timestamp := last } none)⟩]

theorem getScoreMomentum_right_sample :
    (windowedHistory (sampleAfter [] 7200) (movedAt 11) (account 3) samplePair).map
        (fun entry => (entry.score, entry.timestamp)) = [(40, 1), (90, 11)] ∧
      ∀ first last m w',
        (windowedHistory (sampleAfter [] 7200) (movedAt 11) (account 3) samplePair).head? =
          some first →
        (windowedHistory (sampleAfter [] 7200) (movedAt 11) (account 3) samplePair).getLast? =
          some last →
        getScoreMomentum (account 3) samplePair (sampleAfter [] 7200) (movedAt 11) = .ok m w' →
        RightDirection ((last.score : Int) - first.score) m.value := by
  have kept : (windowedHistory (sampleAfter [] 7200) (movedAt 11) (account 3) samplePair).map
      (fun entry => (entry.score, entry.timestamp)) = [(40, 1), (90, 11)] := by decide +kernel
  refine ⟨kept, (getScoreMomentum_right_iff (sampleAfter [] 7200) (movedAt 11) (account 3)
    samplePair (by decide +kernel)).mpr fun _ first last isFirst isLast => ?_⟩
  have isFirst' := congrArg List.head? kept
  rw [List.head?_map, isFirst] at isFirst'
  have isLast' := congrArg List.getLast? kept
  rw [List.getLast?_map, isLast] at isLast'
  obtain ⟨firstScore, firstTime⟩ := Prod.mk.inj (Option.some.inj isFirst')
  obtain ⟨lastScore, lastTime⟩ := Prod.mk.inj (Option.some.inj isLast')
  unfold Harmless
  rw [firstScore, firstTime, lastScore, lastTime]
  decide

/-- Fifty points up in `2 ^ 64 - 2` seconds are reported as twenty-five points down a second. -/
theorem getScoreMomentum_wrong_direction :
    (windowedHistory (sampleAfter [] 7200) (movedAt (2 ^ 64 - 1)) (account 3) samplePair).map
        (fun entry => (entry.score, entry.timestamp)) = [(40, 1), (90, 2 ^ 64 - 1)] ∧
      ∃ m w', getScoreMomentum (account 3) samplePair (sampleAfter [] 7200)
        (movedAt (2 ^ 64 - 1)) = .ok m w' ∧ m.value = -25 ∧ ¬ RightDirection (90 - 40) m.value := by
  refine ⟨by decide +kernel, ?_⟩
  have answered : ((getScoreMomentum (account 3) samplePair (sampleAfter [] 7200)
      (movedAt (2 ^ 64 - 1))).value?.map fun m => m.value) = some (-25) := by decide +kernel
  obtain ⟨m, isM, value⟩ := Option.map_eq_some_iff.mp answered
  obtain ⟨w', ran⟩ := Outcome.exists_of_value? isM
  refine ⟨m, w', ran, value, ?_⟩
  rw [value]
  rintro ⟨up, _⟩
  exact absurd (up (by decide)) (by decide)

end LedgerLens
