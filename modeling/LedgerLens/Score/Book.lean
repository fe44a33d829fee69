import LedgerLens.Frames
import LedgerLens.Score.Write

/-!
The book of scores: what the write paths keep about every entry, a wallet with a
pair, taken out of the ledger. Each storage function of a write path is one
operation on the book, so that a whole path is a composition of operations and
arguments about runs need not open the programs again.
-/

namespace LedgerLens

open Host Host.Prog Storage

/-! ### The rules in force -/

/-- The settings the write paths go by. -/
structure Rules where
  depth : Nat
  capacity : Nat
  floor : ScoreFloorPolicy
  cap : ScoreVelocityCap
  cooldown : Symbol → Nat
  adaptive : AdaptiveRateLimit
  buffer : Nat

/-- The cooldown of a pair, given the histogram of the live scores. -/
def Rules.effectiveCooldown (rules : Rules) (histogram : List Nat) (assetPair : Symbol) : Nat :=
  if !rules.adaptive.enabled || rules.adaptive.varianceScale = 0 then rules.cooldown assetPair
  else
    stretchCooldown rules.adaptive.varianceScale (globalVariance histogram)
      (rules.cooldown assetPair)

/-! ### The book -/

structure ScoreBook where
  live : Entry → Option RiskScore
  history : Entry → List RiskScore
  count : Entry → Nat
  pairCount : Symbol → Nat
  total : Nat
  lastSubmit : Entry → Nat
  peak : Entry → Nat
  histogram : List Nat
  overridden : Entry → Bool
  parked : Entry → Option PendingScoreEntry
  bucket : Entry → Option TokenBucket

namespace ScoreBook

variable (book : ScoreBook) (rules : Rules) (now : Nat) (entry : Entry)

/-- The live score of an entry as a number. -/
def previous : Option Nat := (book.live entry).map RiskScore.score

/-- The bucket a submission draws on. -/
def bucketAt : TokenBucket :=
  (book.bucket entry).getD { tokens := rules.capacity, lastRefill := now }

def cooldownOf : Nat := rules.effectiveCooldown book.histogram entry.2

/-! ### Checks -/

/-- Enough time has passed since the last submission. -/
def Rested : Prop :=
  cooldownElapsed now (book.lastSubmit entry) (book.cooldownOf rules entry) = true

/-- The refills since the bucket was last filled, and the tokens they make. -/
def refills : Nat :=
  (now - (book.bucketAt rules now entry).lastRefill) / book.cooldownOf rules entry

def tokens : Nat :=
  min (satAdd64 (book.bucketAt rules now entry).tokens (book.refills rules now entry))
    rules.capacity

/-- The rate limiter of the direct path lets a submission through. -/
def WithinLimit : Prop :=
  if rules.capacity > 1 then book.tokens rules now entry ≠ 0 else book.Rested rules now entry

/-- The velocity cap has nothing against the score. -/
def WithinCap (score : Nat) : Prop :=
  ∀ previous, book.previous entry = some previous → rules.cap.enabled = true →
    book.overridden entry = false →
      velocityExceeded rules.cap now (book.lastSubmit entry) previous score = false

/-- The score floor has nothing against the score. -/
def AboveFloor (score : Nat) : Prop :=
  rules.floor.enabled = true → rules.floor.highWaterMark ≤ book.peak entry →
    rules.floor.floorValue ≤ score

/-! ### Operations -/

def put (score : RiskScore) : ScoreBook :=
  { book with live := Function.update book.live entry (some score) }

/-- Append to the history, up to the depth the rules allow. -/
def push (score : RiskScore) : ScoreBook :=
  let pushed := book.history entry ++ [score]
  { book with
    history := Function.update book.history entry (pushed.drop (pushed.length - rules.depth)) }

def countEntry : ScoreBook :=
  { book with count := Function.update book.count entry (book.count entry + 1) }

def countPair (assetPair : Symbol) : ScoreBook :=
  { book with
    pairCount := Function.update book.pairCount assetPair (book.pairCount assetPair + 1) }

/-- Count an entry that is taken to be new. -/
def enroll (isNew : Bool) : ScoreBook :=
  { book with total := book.total + if isNew then 1 else 0 }

/-- Move a score from the bucket of the previous one to its own. -/
def recount (previous : Option Nat) (score : Nat) : ScoreBook :=
  { book with
    histogram :=
      if 10 ≤ book.histogram.length then
        histogramWith (previous.elim book.histogram (histogramWithout book.histogram)) score
      else book.histogram }

/-- Take a score out of the histogram. -/
def uncount (score : Nat) : ScoreBook :=
  { book with
    histogram :=
      if 10 ≤ book.histogram.length then histogramWithout book.histogram score
      else book.histogram }

def raise (score : Nat) : ScoreBook :=
  { book with peak := Function.update book.peak entry (max (book.peak entry) score) }

def stamp : ScoreBook := { book with lastSubmit := Function.update book.lastSubmit entry now }

/-- A standing override is used up by the check of the velocity cap. -/
def useOverride : ScoreBook :=
  { book with
    overridden :=
      if (book.live entry).isSome ∧ rules.cap.enabled then
        Function.update book.overridden entry false
      else book.overridden }

variable {book rules entry} in
theorem useOverride_of_unset (unset : book.overridden entry = false) :
    book.useOverride rules entry = book := by
  unfold useOverride
  split
  · rw [← unset, Function.update_eq_self]
  · rfl

/-- The bucket after one token was taken. -/
def spent : TokenBucket where
  tokens := book.tokens rules now entry - 1
  lastRefill :=
    if book.refills rules now entry > 0 then
      satAdd64 (book.bucketAt rules now entry).lastRefill
        (satMul64 (book.refills rules now entry) (book.cooldownOf rules entry))
    else (book.bucketAt rules now entry).lastRefill

/-- Only with burst capacity are there buckets. -/
def spend : ScoreBook :=
  { book with
    bucket :=
      if rules.capacity > 1 then
        Function.update book.bucket entry (some (book.spent rules now entry))
      else book.bucket }

/-- History and counters of a submission. -/
def enter (score : RiskScore) (isNew : Bool) : ScoreBook :=
  (((book.push rules entry score).countEntry entry).countPair entry.2).enroll isNew

/-- Historical maximum and histogram of a submission. -/
def observe (score : Nat) (previous : Option Nat) : ScoreBook :=
  (book.raise entry score).recount previous score

/-- The marks the checks of a submission leave. -/
def admitted : ScoreBook :=
  ((book.spend rules now entry).useOverride rules entry).stamp now entry

/-- A submission that `write_score_with_rate_limit` accepted. -/
def direct (score : RiskScore) : ScoreBook :=
  (((book.admitted rules now entry).put entry score).enter rules entry score
    (book.previous entry).isNone).observe entry score.score (book.previous entry)

/-- What has to hold for that. -/
structure Admits (score : Nat) : Prop where
  score_le : score ≤ 100
  limit : book.WithinLimit rules now entry
  cap : book.WithinCap rules now entry score
  floor : book.AboveFloor rules entry score

end ScoreBook

/-! ### The book and the rules a ledger holds -/

def scoreBook (ledger : Ledger DataKey Val) : ScoreBook where
  live entry := ledger.entry .persistent (.score entry.1 entry.2)
  history entry := (ledger.entry .persistent (.scoreHistory entry.1 entry.2)).getD []
  count entry := (ledger.entry .persistent (.scoreCount entry.1 entry.2)).getD 0
  pairCount pair := (ledger.entry .persistent (.pairScoreCount pair)).getD 0
  total := (ledger.entry .inst .totalWalletsScored).getD 0
  lastSubmit entry := (ledger.entry .persistent (.lastSubmitTime entry.1 entry.2)).getD 0
  peak entry := (ledger.entry .persistent (.historicalMaxScore entry.1 entry.2)).getD 0
  histogram := (ledger.entry .inst .scoreHistogram).getD (List.replicate 10 0)
  overridden entry := (ledger.entry .persistent (.velocityCapOverride entry.1 entry.2)).getD false
  parked entry := ledger.entry .persistent (.pendingScore entry.1 entry.2)
  bucket entry := ledger.entry .inst (.tokenBucket entry.1 entry.2)

def rulesOf (ledger : Ledger DataKey Val) : Rules where
  depth := (ledger.entry .inst .historyMaxDepth).getD defaultHistoryMaxDepth
  capacity := (ledger.entry .inst .burstCapacity).getD 1
  floor :=
    let config := (ledger.entry .inst .scoreFloorConfig).getD
      (false, defaultScoreFloorHwm, defaultScoreFloorMin)
    { enabled := config.1, highWaterMark := config.2.1, floorValue := config.2.2 }
  cap :=
    { enabled := (ledger.entry .inst .scoreVelocityCapEnabled).getD false
      pointsPerHour := (ledger.entry .inst .scoreVelocityCapPointsPerHour).getD 0 }
  cooldown pair := (ledger.entry .inst (.pairCooldown pair)).getD
    ((ledger.entry .inst .cooldownSecs).getD defaultCooldownSecs)
  adaptive := (ledger.entry .inst .adaptiveRateLimit).getD { enabled := false, varianceScale := 0 }
  buffer := (ledger.entry .inst .finalityBufferSecs).getD 0

@[reducible] def Tag.isScoreBook : Tag → Bool
  | .score | .scoreHistory | .scoreCount | .pairScoreCount | .totalWalletsScored
  | .lastSubmitTime | .historicalMaxScore | .scoreHistogram | .velocityCapOverride
  | .pendingScore | .tokenBucket => true
  | _ => false

@[reducible] def Tag.isRule : Tag → Bool
  | .historyMaxDepth | .burstCapacity | .scoreFloorConfig | .scoreVelocityCapEnabled
  | .scoreVelocityCapPointsPerHour | .pairCooldown | .cooldownSecs | .adaptiveRateLimit
  | .finalityBufferSecs => true
  | _ => false

def SameScoreBook (w w' : State) : Prop := scoreBook w'.ledger = scoreBook w.ledger

def SameRules (w w' : State) : Prop := rulesOf w'.ledger = rulesOf w.ledger

instance : About SameScoreBook Tag.isScoreBook where
  of_only ts w w' free only := by
    have same (d : Durability) (k : DataKey) (isScoreBook : k.tag.isScoreBook = true) :
        w'.ledger.entry d k = w.ledger.entry d k :=
      only.entry d k fun listed => by simp [free _ listed] at isScoreBook
    simp only [SameScoreBook, scoreBook]
    congr 1 <;> first | (funext entry; rw [same _ _ rfl]) | rw [same _ _ rfl]

instance : IsTrans State SameScoreBook where
  trans _ _ _ first second := second.trans first

instance : About SameRules Tag.isRule where
  of_only ts w w' free only := by
    have same (d : Durability) (k : DataKey) (isRule : k.tag.isRule = true) :
        w'.ledger.entry d k = w.ledger.entry d k :=
      only.entry d k fun listed => by simp [free _ listed] at isRule
    simp only [SameRules, rulesOf]
    congr 1
    · rw [same _ _ rfl]
    · rw [same _ _ rfl]
    · rw [same _ _ rfl]
    · rw [same _ _ rfl, same _ _ rfl]
    · funext pair
      rw [same _ (.pairCooldown pair) rfl, same _ .cooldownSecs rfl]
    · rw [same _ _ rfl]
    · rw [same _ _ rfl]

instance : IsTrans State SameRules where
  trans _ _ _ first second := second.trans first

/-- The account that a parked submission is attributed to. -/
def submitterIn (w : State) (signers : List Address) : Option Address :=
  if ((w.ledger.entry .inst .serviceSet).getD []).isEmpty then w.ledger.entry .inst .service
  else signers.head?.or (w.ledger.entry .inst .service)

def SameSubmitter (w w' : State) : Prop := submitterIn w' = submitterIn w

@[reducible] def Tag.isSubmitter : Tag → Bool
  | .service | .serviceSet => true
  | _ => false

instance : About SameSubmitter Tag.isSubmitter where
  of_only ts w w' free only := by
    have same (k : DataKey) (isSubmitter : k.tag.isSubmitter = true) :
        w'.ledger.entry .inst k = w.ledger.entry .inst k :=
      only.entry .inst k fun listed => by simp [free _ listed] at isSubmitter
    unfold SameSubmitter submitterIn
    rw [same .service rfl, same .serviceSet rfl]

/-- Neither the book nor the rules are touched, nor who submits. -/
structure Undisturbed (w w' : State) : Prop where
  rules : SameRules w w'
  book : SameScoreBook w w'
  submitter : SameSubmitter w w'

@[reducible] def Tag.isBookkeeping : Tag → Bool
  | .score | .scoreHistory | .scoreCount | .pairScoreCount | .totalWalletsScored
  | .lastSubmitTime | .historicalMaxScore | .scoreHistogram | .velocityCapOverride
  | .pendingScore | .tokenBucket
  | .historyMaxDepth | .burstCapacity | .scoreFloorConfig | .scoreVelocityCapEnabled
  | .scoreVelocityCapPointsPerHour | .pairCooldown | .cooldownSecs | .adaptiveRateLimit
  | .finalityBufferSecs | .service | .serviceSet => true
  | _ => false

theorem Tag.isBookkeeping_of_isScoreBook {t : Tag} (isScoreBook : t.isScoreBook = true) :
    t.isBookkeeping = true := by
  unfold Tag.isScoreBook at isScoreBook
  split at isScoreBook <;> first | rfl | cases isScoreBook

theorem Tag.isBookkeeping_of_isRule {t : Tag} (isRule : t.isRule = true) :
    t.isBookkeeping = true := by
  unfold Tag.isRule at isRule
  split at isRule <;> first | rfl | cases isRule

theorem Tag.isBookkeeping_of_isSubmitter {t : Tag} (isSubmitter : t.isSubmitter = true) :
    t.isBookkeeping = true := by
  unfold Tag.isSubmitter at isSubmitter
  split at isSubmitter <;> first | rfl | cases isSubmitter

instance : About Undisturbed Tag.isBookkeeping where
  of_only ts w w' free only := by
    refine ⟨About.of_only ts (fun t listed => ?_) only, About.of_only ts (fun t listed => ?_) only,
      About.of_only ts (fun t listed => ?_) only⟩
    · by_contra isRule
      have := Tag.isBookkeeping_of_isRule (Bool.not_eq_false _ ▸ isRule)
      simp [free t listed] at this
    · by_contra isScoreBook
      have := Tag.isBookkeeping_of_isScoreBook (Bool.not_eq_false _ ▸ isScoreBook)
      simp [free t listed] at this
    · by_contra isSubmitter
      have := Tag.isBookkeeping_of_isSubmitter (Bool.not_eq_false _ ▸ isSubmitter)
      simp [free t listed] at this

instance : IsTrans State Undisturbed where
  trans _ _ _ first second := ⟨second.rules.trans first.rules, second.book.trans first.book,
    second.submitter.trans first.submitter⟩

section Puts

variable (ledger : Ledger DataKey Val) (wallet : Address) (assetPair : Symbol)

@[simp] theorem scoreBook_put_live (v : Option RiskScore) :
    scoreBook (ledger.put .persistent (.score wallet assetPair) v) =
      { scoreBook ledger with
        live := Function.update (scoreBook ledger).live (wallet, assetPair) v } := by
  unfold scoreBook
  congr 1
  exact ledger.family_put (α := Option RiskScore) .persistent (fun entry => .score entry.1 entry.2)
    (by rintro ⟨⟩ ⟨⟩ ⟨⟩; rfl) (fun _ read => read) (wallet, assetPair) v

@[simp] theorem scoreBook_put_history (v : Option (List RiskScore)) :
    scoreBook (ledger.put .persistent (.scoreHistory wallet assetPair) v) =
      { scoreBook ledger with
        history :=
          Function.update (scoreBook ledger).history (wallet, assetPair) (v.getD []) } := by
  unfold scoreBook
  congr 1
  exact ledger.family_put .persistent (fun entry => .scoreHistory entry.1 entry.2)
    (by rintro ⟨⟩ ⟨⟩ ⟨⟩; rfl) (fun _ read => read.getD []) (wallet, assetPair) v

@[simp] theorem scoreBook_put_count (v : Option Nat) :
    scoreBook (ledger.put .persistent (.scoreCount wallet assetPair) v) =
      { scoreBook ledger with
        count := Function.update (scoreBook ledger).count (wallet, assetPair) (v.getD 0) } := by
  unfold scoreBook
  congr 1
  exact ledger.family_put .persistent (fun entry => .scoreCount entry.1 entry.2)
    (by rintro ⟨⟩ ⟨⟩ ⟨⟩; rfl) (fun _ read => read.getD 0) (wallet, assetPair) v

@[simp] theorem scoreBook_put_pairCount (v : Option Nat) :
    scoreBook (ledger.put .persistent (.pairScoreCount assetPair) v) =
      { scoreBook ledger with
        pairCount := Function.update (scoreBook ledger).pairCount assetPair (v.getD 0) } := by
  unfold scoreBook
  congr 1
  exact ledger.family_put .persistent .pairScoreCount (by rintro _ _ ⟨⟩; rfl)
    (fun _ read => read.getD 0) assetPair v

@[simp] theorem scoreBook_put_total (v : Option Nat) :
    scoreBook (ledger.put .inst .totalWalletsScored v) =
      { scoreBook ledger with total := v.getD 0 } := by
  simp [scoreBook, Ledger.entry_put_of_ne]

@[simp] theorem scoreBook_put_lastSubmit (v : Option Nat) :
    scoreBook (ledger.put .persistent (.lastSubmitTime wallet assetPair) v) =
      { scoreBook ledger with
        lastSubmit :=
          Function.update (scoreBook ledger).lastSubmit (wallet, assetPair) (v.getD 0) } := by
  unfold scoreBook
  congr 1
  exact ledger.family_put .persistent (fun entry => .lastSubmitTime entry.1 entry.2)
    (by rintro ⟨⟩ ⟨⟩ ⟨⟩; rfl) (fun _ read => read.getD 0) (wallet, assetPair) v

@[simp] theorem scoreBook_put_peak (v : Option Nat) :
    scoreBook (ledger.put .persistent (.historicalMaxScore wallet assetPair) v) =
      { scoreBook ledger with
        peak := Function.update (scoreBook ledger).peak (wallet, assetPair) (v.getD 0) } := by
  unfold scoreBook
  congr 1
  exact ledger.family_put .persistent (fun entry => .historicalMaxScore entry.1 entry.2)
    (by rintro ⟨⟩ ⟨⟩ ⟨⟩; rfl) (fun _ read => read.getD 0) (wallet, assetPair) v

@[simp] theorem scoreBook_put_histogram (v : Option (List Nat)) :
    scoreBook (ledger.put .inst .scoreHistogram v) =
      { scoreBook ledger with histogram := v.getD (List.replicate 10 0) } := by
  simp [scoreBook, Ledger.entry_put_of_ne]

@[simp] theorem scoreBook_put_overridden (v : Option Bool) :
    scoreBook (ledger.put .persistent (.velocityCapOverride wallet assetPair) v) =
      { scoreBook ledger with
        overridden :=
          Function.update (scoreBook ledger).overridden (wallet, assetPair) (v.getD false) } := by
  unfold scoreBook
  congr 1
  exact ledger.family_put .persistent (fun entry => .velocityCapOverride entry.1 entry.2)
    (by rintro ⟨⟩ ⟨⟩ ⟨⟩; rfl) (fun _ read => read.getD false) (wallet, assetPair) v

@[simp] theorem scoreBook_put_parked (v : Option PendingScoreEntry) :
    scoreBook (ledger.put .persistent (.pendingScore wallet assetPair) v) =
      { scoreBook ledger with
        parked := Function.update (scoreBook ledger).parked (wallet, assetPair) v } := by
  unfold scoreBook
  congr 1
  exact ledger.family_put (α := Option PendingScoreEntry) .persistent
    (fun entry => .pendingScore entry.1 entry.2)
    (by rintro ⟨⟩ ⟨⟩ ⟨⟩; rfl) (fun _ read => read) (wallet, assetPair) v

@[simp] theorem scoreBook_put_bucket (v : Option TokenBucket) :
    scoreBook (ledger.put .inst (.tokenBucket wallet assetPair) v) =
      { scoreBook ledger with
        bucket := Function.update (scoreBook ledger).bucket (wallet, assetPair) v } := by
  unfold scoreBook
  congr 1
  exact ledger.family_put (α := Option TokenBucket) .inst
    (fun entry => .tokenBucket entry.1 entry.2)
    (by rintro ⟨⟩ ⟨⟩ ⟨⟩; rfl) (fun _ read => read) (wallet, assetPair) v

end Puts

/-! ### What the storage functions do to the book -/

section Storage

variable {env : ContractEnv} {w : State} {wallet : Address} {assetPair : Symbol}

theorem setScore_book {score : RiskScore} :
    wlp (setScore wallet assetPair score)
      (fun _ w' => scoreBook w'.ledger = (scoreBook w.ledger).put (wallet, assetPair) score)
      env w := by
  unfold setScore
  rw [wlp_bind, wlp_save]
  refine wlp_mono (wlp_of_keeps (R := SameScoreBook)) ?_
  exact fun _ _ same => same.trans (scoreBook_put_live ..)

theorem pushScoreHistory_book {score : RiskScore} :
    wlp (pushScoreHistory wallet assetPair score)
      (fun _ w' => scoreBook w'.ledger =
        (scoreBook w.ledger).push (rulesOf w.ledger) (wallet, assetPair) score)
      env w := by
  simp only [pushScoreHistory, wlp_bind, wlp_loadOr, wlp_save, scoreBook_put_history]
  rfl

theorem incrementScoreCount_book :
    wlp (incrementScoreCount wallet assetPair)
      (fun _ w' => scoreBook w'.ledger = (scoreBook w.ledger).countEntry (wallet, assetPair))
      env w := by
  simp only [incrementScoreCount, wlp_bind, wlp_loadOr, wlp_checked, wlp_save, scoreBook_put_count]
  exact fun _ => rfl

theorem incrementPairScoreCount_book :
    wlp (incrementPairScoreCount assetPair)
      (fun _ w' => scoreBook w'.ledger = (scoreBook w.ledger).countPair assetPair) env w := by
  simp only [incrementPairScoreCount, wlp_bind, wlp_loadOr, wlp_checked, wlp_save,
    scoreBook_put_pairCount]
  exact fun _ => rfl

theorem enroll_book {isNew : Bool} :
    wlp (whenever isNew incrementTotalWalletsScored)
      (fun _ w' => (isNew = true → (scoreBook w.ledger).total + 1 < u64Bound) ∧
        scoreBook w'.ledger = (scoreBook w.ledger).enroll isNew) env w := by
  rw [wlp_whenever]
  split
  · next new =>
    simp only [incrementTotalWalletsScored, wlp_bind, wlp_loadOr, wlp_checked, wlp_save,
      scoreBook_put_total, new]
    exact fun bounded => ⟨fun _ => bounded, rfl⟩
  · next known =>
    rw [Bool.eq_false_iff.mpr known]
    exact ⟨fun new => absurd new Bool.false_ne_true, rfl⟩

theorem updateHistoricalMaxScore_book {score : Nat} :
    wlp (updateHistoricalMaxScore wallet assetPair score)
      (fun _ w' => scoreBook w'.ledger = (scoreBook w.ledger).raise (wallet, assetPair) score)
      env w := by
  simp only [updateHistoricalMaxScore, wlp_bind, wlp_loadOr, wlp_whenever, wlp_save,
    decide_eq_true_eq, scoreBook_put_peak]
  split
  · next higher =>
    unfold ScoreBook.raise
    rw [max_eq_right (by exact higher.le)]
    rfl
  · next lower =>
    unfold ScoreBook.raise
    rw [max_eq_left (by exact Nat.not_lt.mp lower), Function.update_eq_self]

theorem updateHistogramOnWrite_book {previous : Option Nat} {score : Nat} :
    wlp (updateHistogramOnWrite previous score)
      (fun _ w' => scoreBook w'.ledger = (scoreBook w.ledger).recount previous score) env w := by
  simp only [updateHistogramOnWrite, wlp_bind, wlp_loadOr, wlp_whenever, wlp_save,
    decide_eq_true_eq, scoreBook_put_histogram]
  unfold ScoreBook.recount
  split
  · next full => rw [if_pos (show 10 ≤ (scoreBook w.ledger).histogram.length from full)]; rfl
  · next short => rw [if_neg (show ¬ 10 ≤ (scoreBook w.ledger).histogram.length from short)]

theorem updateHistogramOnClear_book {score : Nat} :
    wlp (updateHistogramOnClear score)
      (fun _ w' => scoreBook w'.ledger = (scoreBook w.ledger).uncount score) env w := by
  simp only [updateHistogramOnClear, wlp_bind, wlp_loadOr, wlp_whenever, wlp_save,
    decide_eq_true_eq, scoreBook_put_histogram]
  unfold ScoreBook.uncount
  split
  · next full => rw [if_pos (show 10 ≤ (scoreBook w.ledger).histogram.length from full)]; rfl
  · next short => rw [if_neg (show ¬ 10 ≤ (scoreBook w.ledger).histogram.length from short)]

theorem enterSubmission_book {score : RiskScore} {isNew : Bool} :
    wlp (enterSubmission wallet assetPair score isNew)
      (fun _ w' => (isNew = true → (scoreBook w.ledger).total + 1 < u64Bound) ∧
        scoreBook w'.ledger =
          (scoreBook w.ledger).enter (rulesOf w.ledger) (wallet, assetPair) score isNew)
      env w := by
  unfold enterSubmission
  refine wlp_seq pushScoreHistory_book fun _ w₁ pushed => ?_
  refine wlp_seq (wlp_of_keeps (R := SameScoreBook)) ?_
  intro _ w₂ registered
  refine wlp_seq incrementScoreCount_book fun _ w₃ counted => ?_
  refine wlp_seq incrementPairScoreCount_book fun _ w₄ pairCounted => ?_
  refine wlp_mono enroll_book fun _ w₅ ⟨bounded, enrolled⟩ => ?_
  rw [pairCounted, counted, registered, pushed] at bounded enrolled
  exact ⟨bounded, enrolled⟩

theorem updateStatistics_book {score : RiskScore} {previous : Option Nat} :
    wlp (updateStatistics wallet assetPair score previous)
      (fun _ w' => scoreBook w'.ledger =
        (scoreBook w.ledger).observe (wallet, assetPair) score.score previous)
      env w := by
  unfold updateStatistics
  refine wlp_seq (wlp_of_keeps (R := SameScoreBook)) fun _ w₁ same => ?_
  refine wlp_seq updateHistoricalMaxScore_book ?_
  intro _ w₂ raised
  refine wlp_mono updateHistogramOnWrite_book fun _ _ counted => ?_
  rw [counted, raised, same]
  rfl

end Storage

/-! ### Checks and the direct write -/

section Checks

variable {env : ContractEnv} {w : State} {wallet : Address} {assetPair : Symbol}

section Cooldown

variable {Q : Nat → State → Prop}

theorem wlp_getPairCooldownSecs :
    wlp (getPairCooldownSecs assetPair) Q env w ↔ Q ((rulesOf w.ledger).cooldown assetPair) w := by
  simp only [getPairCooldownSecs, wlp_bind, wlp_load, rulesOf]
  cases w.ledger.entry .inst (.pairCooldown assetPair) with
  | none => exact wlp_loadOr ..
  | some own => exact wlp_pure own

@[simp] theorem wlp_getEffectiveCooldown :
    wlp (getEffectiveCooldown assetPair) Q env w ↔
      Q ((rulesOf w.ledger).effectiveCooldown (scoreBook w.ledger).histogram assetPair) w := by
  rw [getEffectiveCooldown, wlp_bind, wlp_getPairCooldownSecs]
  simp only [computeEffectiveCooldown, computeGlobalVariance, wlp_bind, wlp_loadOr, wlp_ite,
    wlp_pure]
  unfold Rules.effectiveCooldown
  change (if (!(rulesOf w.ledger).adaptive.enabled ||
    decide ((rulesOf w.ledger).adaptive.varianceScale = 0)) = true then _ else _) ↔ _
  split <;> rfl

end Cooldown

/-- A blocked score leaves everything as it is; one that passes may use up an override. -/
theorem velocityCapBlocks_book {score : Nat} :
    wlp (velocityCapBlocks wallet assetPair ((scoreBook w.ledger).previous (wallet, assetPair))
        ((scoreBook w.ledger).lastSubmit (wallet, assetPair)) score)
      (fun blocked w' => if blocked then w' = w else
        (scoreBook w.ledger).WithinCap (rulesOf w.ledger) env.timestamp (wallet, assetPair)
            score ∧
          scoreBook w'.ledger =
            (scoreBook w.ledger).useOverride (rulesOf w.ledger) (wallet, assetPair))
      env w := by
  unfold velocityCapBlocks
  cases found : (scoreBook w.ledger).previous (wallet, assetPair) with
  | none =>
    have absent : ((scoreBook w.ledger).live (wallet, assetPair)).isSome = false := by
      simpa [ScoreBook.previous] using found
    simp [ScoreBook.WithinCap, ScoreBook.useOverride, found, absent]
  | some previous =>
    have present : ((scoreBook w.ledger).live (wallet, assetPair)).isSome = true := by
      obtain ⟨score, isLive, _⟩ := Option.map_eq_some_iff.mp found
      rw [isLive]
      rfl
    simp only [Option.elim_some, wlp_bind, wlp_loadOr, wlp_ite, wlp_pure, wlp_asks, wlp_erase,
      Bool.false_eq_true, if_false]
    change if (rulesOf w.ledger).cap.enabled = true then
      if (scoreBook w.ledger).overridden (wallet, assetPair) = true then _ else _ else _
    split_ifs with enabled standing fast
    · refine ⟨fun _ _ _ unset => absurd unset (by simp [standing]), ?_⟩
      rw [scoreBook_put_overridden, ScoreBook.useOverride, if_pos ⟨present, enabled⟩]
      rfl
    · have unset := Bool.eq_false_iff.mpr standing
      refine ⟨fun other isOther _ _ => ?_, (ScoreBook.useOverride_of_unset unset).symm⟩
      rw [found] at isOther
      cases isOther
      exact Bool.eq_false_iff.mpr fast
    · refine ⟨fun _ _ on => absurd on enabled, ?_⟩
      rw [ScoreBook.useOverride, if_neg fun both => enabled both.2]

theorem wlp_scoreFloorBlocks {score : Nat} {Q : Bool → State → Prop}
    (passes : (scoreBook w.ledger).AboveFloor (rulesOf w.ledger) (wallet, assetPair) score →
      Q false w) (blocks : Q true w) : wlp (scoreFloorBlocks wallet assetPair score) Q env w := by
  simp only [scoreFloorBlocks, wlp_bind, wlp_loadOr, wlp_ite, wlp_pure]
  change if (rulesOf w.ledger).floor.enabled = true then _ else _
  split
  · next enabled =>
    change Q (decide ((rulesOf w.ledger).floor.highWaterMark ≤
        (scoreBook w.ledger).peak (wallet, assetPair)) &&
      decide (score < (rulesOf w.ledger).floor.floorValue)) w
    cases verdict : (decide ((rulesOf w.ledger).floor.highWaterMark ≤
        (scoreBook w.ledger).peak (wallet, assetPair)) &&
      decide (score < (rulesOf w.ledger).floor.floorValue)) with
    | true => exact blocks
    | false =>
      refine passes fun _ high => ?_
      simpa [high] using verdict
  · next off => exact passes fun on => absurd on off

theorem spendRateLimit_book :
    wlp (spendRateLimit wallet assetPair ((scoreBook w.ledger).lastSubmit (wallet, assetPair)))
      (fun _ w' => (scoreBook w.ledger).WithinLimit (rulesOf w.ledger) env.timestamp
          (wallet, assetPair) ∧
        scoreBook w'.ledger =
          (scoreBook w.ledger).spend (rulesOf w.ledger) env.timestamp (wallet, assetPair))
      env w := by
  simp only [spendRateLimit, takeToken, wlp_bind, wlp_getEffectiveCooldown, wlp_loadOr, wlp_load,
    wlp_ite, wlp_asks, wlp_require, wlp_save]
  change if (rulesOf w.ledger).capacity > 1 then _ else _
  unfold ScoreBook.WithinLimit ScoreBook.spend
  split
  · next many =>
    intro left
    refine ⟨of_decide_eq_true left, ?_⟩
    rw [scoreBook_put_bucket]
    rfl
  · next single => exact fun rested => ⟨rested, rfl⟩

theorem validateFields_le {score confidence timestamp version : Nat} :
    wlp (validateFields score confidence timestamp version)
      (fun _ w' => score ≤ 100 ∧ SameScoreBook w w' ∧ SameRules w w') env w := by
  refine wlp_and ?_ (wlp_and wlp_of_keeps wlp_of_keeps)
  simp only [validateFields, wlp_bind, wlp_require, decide_eq_true_eq]
  intro le _ _ _ _ _
  exact le

theorem stampSubmit_book {time : Nat} :
    wlp (store .persistent (.lastSubmitTime wallet assetPair) time)
      (fun _ w' => scoreBook w'.ledger = (scoreBook w.ledger).stamp time (wallet, assetPair) ∧
        SameRules w w') env w := by
  refine wlp_and ?_ wlp_of_keeps
  rw [wlp_save, scoreBook_put_lastSubmit]
  rfl

theorem admitScore_book {score : RiskScore} :
    wlp (admitScore wallet assetPair score)
      (fun previous w' =>
        (scoreBook w.ledger).Admits (rulesOf w.ledger) env.timestamp (wallet, assetPair)
          score.score ∧
        previous = (scoreBook w.ledger).previous (wallet, assetPair) ∧
        scoreBook w'.ledger =
          (scoreBook w.ledger).admitted (rulesOf w.ledger) env.timestamp (wallet, assetPair))
      env w := by
  unfold admitScore
  rw [wlp_bind, wlp_loadOr, wlp_bind, wlp_require]
  intro _
  refine wlp_seq validateFields_le fun _ w₁ ⟨le, book₁, rules₁⟩ => ?_
  rw [wlp_bind, wlp_loadOr]
  refine wlp_seq (wlp_and spendRateLimit_book
    (wlp_of_keeps (R := SameRules))) fun _ w₂ ⟨⟨limit, book₂⟩, rules₂⟩ => ?_
  rw [wlp_bind, wlp_load]
  have last : (scoreBook w₁.ledger).lastSubmit (wallet, assetPair) =
      (scoreBook w₂.ledger).lastSubmit (wallet, assetPair) := by
    rw [book₂]
    rfl
  dsimp only
  change wlp (velocityCapBlocks wallet assetPair
    ((scoreBook w₂.ledger).previous (wallet, assetPair))
    ((scoreBook w₁.ledger).lastSubmit (wallet, assetPair)) score.score >>= _) _ _ _
  rw [last]
  refine wlp_seq (wlp_and velocityCapBlocks_book
    (wlp_of_keeps (R := SameRules))) fun blocked w₃ ⟨verdict, rules₃⟩ => ?_
  rw [wlp_bind, wlp_require]
  intro passed
  rw [Bool.not_eq_true'] at passed
  rw [passed, if_neg Bool.false_ne_true] at verdict
  obtain ⟨cap, book₃⟩ := verdict
  rw [wlp_bind, wlp_asks]
  refine wlp_seq stampSubmit_book ?_
  intro _ w₄ ⟨book₄, rules₄⟩
  rw [wlp_bind]
  refine wlp_scoreFloorBlocks (fun floor => ?_) ?_
  · rw [wlp_bind, wlp_require, wlp_pure]
    intro _
    -- every check looked at the book before the write, as far as it reads it
    have rules₂ : rulesOf w₂.ledger = rulesOf w.ledger := rules₂.trans rules₁
    have rules₃ : rulesOf w₃.ledger = rulesOf w.ledger := rules₃.trans rules₂
    have rules₄ : rulesOf w₄.ledger = rulesOf w.ledger := rules₄.trans rules₃
    rw [book₁, rules₁] at limit book₂
    rw [book₂, rules₂] at cap book₃
    rw [book₃] at book₄
    rw [book₄, rules₄] at floor
    exact ⟨⟨le, limit, cap, floor⟩,
      congrArg (fun book => ScoreBook.previous book (wallet, assetPair)) book₂, book₄⟩
  · rw [wlp_bind, wlp_require]
    exact fun blocked => absurd blocked (by decide)

set_option synthInstance.maxSize 100000000 in
/-- `write_score_with_rate_limit` on the book. The total is only counted up below its bound. -/
theorem writeScoreWithRateLimit_book {score : RiskScore} :
    wlp (writeScoreWithRateLimit wallet assetPair score)
      (fun _ w' =>
        (scoreBook w.ledger).Admits (rulesOf w.ledger) env.timestamp (wallet, assetPair)
          score.score ∧
        ((scoreBook w.ledger).previous (wallet, assetPair) = none →
          (scoreBook w.ledger).total + 1 < u64Bound) ∧
        scoreBook w'.ledger = (scoreBook w.ledger).direct (rulesOf w.ledger) env.timestamp
          (wallet, assetPair) score)
      env w := by
  unfold writeScoreWithRateLimit
  refine wlp_seq (wlp_and admitScore_book (wlp_of_keeps (R := SameRules))) ?_
  rintro _ w₁ ⟨⟨admits, rfl, book₁⟩, rules₁⟩
  refine wlp_seq (wlp_and setScore_book
    (wlp_of_keeps (R := SameRules))) fun _ w₂ ⟨book₂, rules₂⟩ => ?_
  rw [wlp_bind, wlp_asks]
  refine wlp_seq (wlp_and (wlp_of_keeps (R := SameScoreBook)) (wlp_of_keeps (R := SameRules))) ?_
  intro _ w₃ ⟨book₃, rules₃⟩
  refine wlp_seq (wlp_and (wlp_of_keeps (R := SameScoreBook)) (wlp_of_keeps (R := SameRules))) ?_
  intro _ w₄ ⟨book₄, rules₄⟩
  rw [wlp_bind, wlp_asks]
  refine wlp_seq (wlp_and (wlp_of_keeps (R := SameScoreBook)) (wlp_of_keeps (R := SameRules))) ?_
  intro _ w₅ ⟨book₅, rules₅⟩
  have rules₅ : rulesOf w₅.ledger = rulesOf w.ledger :=
    rules₅.trans (rules₄.trans (rules₃.trans (rules₂.trans rules₁)))
  have book₅ : scoreBook w₅.ledger = ((scoreBook w.ledger).admitted (rulesOf w.ledger)
      env.timestamp (wallet, assetPair)).put (wallet, assetPair) score :=
    book₅.trans (book₄.trans (book₃.trans (book₁ ▸ book₂)))
  refine wlp_seq enterSubmission_book ?_
  intro _ w₆ ⟨bounded, book₆⟩
  rw [book₅] at bounded book₆
  rw [rules₅] at book₆
  refine wlp_seq updateStatistics_book fun _ w₇ book₇ => ?_
  rw [book₆] at book₇
  -- the rest writes beside the book
  refine wlp_mono (wlp_of_keeps (R := SameScoreBook)) fun _ w' book' => ?_
  exact ⟨admits, fun unscored => bounded (by rw [unscored]; rfl), book'.trans book₇⟩

end Checks

end LedgerLens
