import LedgerLens.Host.RangeProof
import LedgerLens.Crypto.RangeProof

/-!
The verifier accepts what the prover makes. Every point of a proof is a multiple of
the base point, so that both sides of a check are compared by their exponents: the
first check is an identity of polynomials in `x`, the second the inner-product
argument. The main result is `proveRangeProof_accepted`.
-/

namespace LedgerLens.Zk

open Host Host.InnerProduct Finset

/-! ### Loops -/

section Loops

variable {n : Nat}

/-- A loop that adds, over any kind of sum. -/
theorem foldl_range {α β : Type} [AddCommMonoid β] {R : α → β → Prop} {step : α → Nat → α}
    {start : α} {e : β} {F : Nat → β} (isStart : R start e)
    (isStep : ∀ i < n, ∀ a b, R a b → R (step a i) (b + F i)) :
    R ((List.range n).foldl step start) (e + ∑ i ∈ range n, F i) := by
  induction n with
  | zero => simpa using isStart
  | succ n ih =>
    rw [List.range_succ, List.foldl_append, List.foldl_cons, List.foldl_nil, sum_range_succ,
      ← add_assoc]
    exact isStep n (Nat.lt_succ_self n) _ _ (ih fun i lt => isStep i (Nat.lt_succ_of_lt lt))

theorem sumLoop_is {f : Nat → Sc} {F : Nat → ZMod l} (isF : ∀ i < n, (f i).Is (F i)) :
    (sumLoop n f).Is (∑ i ∈ range n, F i) := by
  have isSum := foldl_range (R := fun (s : Sc) (x : ZMod l) => s.Is x) Sc.zero_is
    fun i lt _ _ isSum => isSum.add (isF i lt)
  rwa [zero_add] at isSum

theorem addLoop_at {f : Nat → Pt} {F : Nat → ZMod l} {start : Pt} {e : ZMod l}
    (atE : start.At e) (atF : ∀ i < n, (f i).At (F i)) :
    (addLoop curveD n start f).At (e + ∑ i ∈ range n, F i) :=
  foldl_range (R := fun (P : Pt) (x : ZMod l) => P.At x) atE fun i lt _ _ atSum =>
    atSum.add (atF i lt)

theorem commitLoop_at {gs hs : Nat → Pt} {a b : Nat → Sc} {G H A B : Nat → ZMod l} {start : Pt}
    {e : ZMod l} (atE : start.At e) (atG : ∀ i < n, (gs i).At (G i)) (isA : ∀ i < n, (a i).Is (A i))
    (atH : ∀ i < n, (hs i).At (H i)) (isB : ∀ i < n, (b i).Is (B i)) :
    (commitLoop curveD n start gs a hs b).At (e + ∑ i ∈ range n, (A i * G i + B i * H i)) := by
  refine foldl_range (R := fun (P : Pt) (x : ZMod l) => P.At x) atE fun i lt _ _ atSum => ?_
  rw [← add_assoc]
  exact (atSum.add ((atG i lt).mul (isA i lt))).add ((atH i lt).mul (isB i lt))

theorem powerOf_is {base : Sc} {x : ZMod l} (isX : base.Is x) (i : Nat) :
    (powerOf base i).Is (x ^ i) := by
  induction i with
  | zero =>
    rw [pow_zero]
    exact Sc.one_is
  | succ i ih =>
    rw [pow_succ]
    exact ih.mul isX

theorem twoPow_is {i : Nat} (lt : i < 8) : (twoPow i).Is (2 ^ i) := by
  have isPow := Sc.fromU64_is (UInt64.ofNat (2 ^ i))
  have small : 2 ^ i < 2 ^ 64 := Nat.pow_lt_pow_right (by decide) (by omega)
  rw [UInt64.toNat_ofNat', Nat.mod_eq_of_lt small, Nat.cast_pow, Nat.cast_two] at isPow
  exact isPow

end Loops

/-! ### The inner-product argument -/

/-- The vectors stand for these, up to this length. -/
structure Folding.Is (f : Folding) (n : Nat) (a b G H : Nat → ZMod Zk.l) : Prop where
  isL : ∀ i < n, (f.l i).Is (a i)
  isR : ∀ i < n, (f.r i).Is (b i)
  atG : ∀ i < n, (f.gs i).At (G i)
  atH : ∀ i < n, (f.hs i).At (H i)

/-- A pair of cross terms stands for these exponents. -/
def CrossAt (pts : Pt × Pt) (e : ZMod l × ZMod l) : Prop := pts.1.At e.1 ∧ pts.2.At e.2

section Rounds

variable (sha256 : Bytes → BytesN 32) {Q : Pt} {q : ZMod l} {half round : Nat} {f : Folding}
  {a b G H : Nat → ZMod l}

theorem hashFsChallengeIp_is (round : Nat) (L R : Pt) : (hashFsChallengeIp sha256 round L R).Is
    ((hashFsChallengeIp sha256 round L R).value : ZMod l) :=
  Sc.is_self (hashToScalar_lt sha256 _)

theorem commitLoop_commitment {c : Sc} {gs hs : Nat → Pt} {x y : Nat → Sc} (atQ : Q.At q)
    (isC : c.Is (∑ i ∈ range half, a i * b i)) (atG : ∀ i < half, (gs i).At (G i))
    (isX : ∀ i < half, (x i).Is (a i)) (atH : ∀ i < half, (hs i).At (H i))
    (isY : ∀ i < half, (y i).Is (b i)) :
    (commitLoop curveD half (Q.mul c curveD) gs x hs y).At (commitment half a b G H q) := by
  rw [commitment_mul]
  exact commitLoop_at (atQ.mul isC) atG isX atH isY

theorem crossOf_at (atQ : Q.At q) (isF : f.Is (half + half) a b G H) :
    CrossAt (crossOf curveD Q half f) (left half a b G H q, right half a b G H q) := by
  have low {P : Nat → Prop} (all : ∀ i < half + half, P i) : ∀ i < half, P i :=
    fun i lt => all i (by omega)
  have high {P : Nat → Prop} (all : ∀ i < half + half, P i) : ∀ i < half, P (half + i) :=
    fun i lt => all (half + i) (by omega)
  constructor
  · exact commitLoop_commitment atQ
      (sumLoop_is fun i lt => (low isF.isL i lt).mul (high isF.isR i lt)) (high isF.atG)
      (low isF.isL) (low isF.atH) (high isF.isR)
  · exact commitLoop_commitment atQ
      (sumLoop_is fun i lt => (high isF.isL i lt).mul (low isF.isR i lt)) (low isF.atG)
      (high isF.isL) (high isF.atH) (low isF.isR)

theorem foldBy_is {u : Sc} {x : ZMod l} (isF : f.Is (half + half) a b G H) (isU : u.Is x) :
    (foldBy curveD half u f).Is half (fold half x x⁻¹ a) (fold half x⁻¹ x b)
      (fold half x⁻¹ x G) (fold half x x⁻¹ H) := by
  have low {i : Nat} (lt : i < half) : i < half + half := by omega
  have high {i : Nat} (lt : i < half) : half + i < half + half := by omega
  unfold foldBy
  constructor <;> dsimp only
  · intro i lt
    rw [fold_mul]
    exact ((isF.isL _ (low lt)).mul isU).add ((isF.isL _ (high lt)).mul isU.invert)
  · intro i lt
    rw [fold_mul]
    exact ((isF.isR _ (low lt)).mul isU.invert).add ((isF.isR _ (high lt)).mul isU)
  · intro i lt
    rw [fold_mul, mul_comm, mul_comm (G _)]
    exact ((isF.atG _ (low lt)).mul isU.invert).add ((isF.atG _ (high lt)).mul isU)
  · intro i lt
    rw [fold_mul, mul_comm, mul_comm (H _)]
    exact ((isF.atH _ (low lt)).mul isU).add ((isF.atH _ (high lt)).mul isU.invert)

theorem foldRounds_succ (rounds : Nat) :
    (foldRounds sha256 curveD Q (rounds + 1) round f).1.1 =
        crossOf curveD Q (2 ^ rounds) f ::
          (foldRounds sha256 curveD Q rounds (round + 1) (foldBy curveD (2 ^ rounds)
            (hashFsChallengeIp sha256 round (crossOf curveD Q (2 ^ rounds) f).1
              (crossOf curveD Q (2 ^ rounds) f).2) f)).1.1 ∧
      (foldRounds sha256 curveD Q (rounds + 1) round f).2 =
        (foldRounds sha256 curveD Q rounds (round + 1) (foldBy curveD (2 ^ rounds)
          (hashFsChallengeIp sha256 round (crossOf curveD Q (2 ^ rounds) f).1
            (crossOf curveD Q (2 ^ rounds) f).2) f)).2 := by
  rw [foldRounds]
  exact ⟨rfl, rfl⟩

/-- By induction on the rounds. -/
theorem foldRounds_spec {rounds : Nat} (atQ : Q.At q) (isF : f.Is (2 ^ rounds) a b G H) :
    ∃ us : List (ZMod l), us.length = rounds ∧
      List.Forall₂ Sc.Is (challengesOf sha256 round (foldRounds sha256 curveD Q rounds round f).1.1)
        us ∧
      List.Forall₂ CrossAt (foldRounds sha256 curveD Q rounds round f).1.1
        (crossTerms us a b G H q) ∧
      (foldRounds sha256 curveD Q rounds round f).2.1.Is (foldAll (us.map (·⁻¹)) a) ∧
      (foldRounds sha256 curveD Q rounds round f).2.2.Is (foldAll us b) := by
  induction rounds generalizing round f a b G H with
  | zero => exact ⟨[], rfl, .nil, .nil, isF.isL 0 (by decide), isF.isR 0 (by decide)⟩
  | succ rounds ih =>
    rw [pow_succ, mul_two] at isF
    have cross := crossOf_at atQ isF
    have isU := hashFsChallengeIp_is sha256 round (crossOf curveD Q (2 ^ rounds) f).1
      (crossOf curveD Q (2 ^ rounds) f).2
    obtain ⟨us, length, isUs, crosses, isA, isB⟩ := @ih (round + 1) _ _ _ _ _ (foldBy_is isF isU)
    rw [(foldRounds_succ sha256 rounds).1, (foldRounds_succ sha256 rounds).2, challengesOf]
    refine ⟨_ :: us, by rw [List.length_cons, length], .cons isU isUs, ?_, ?_, ?_⟩
    · rw [crossTerms, length]
      exact .cons cross crosses
    · rw [List.map_cons, foldAll, List.length_map, length, inv_inv]
      exact isA
    · rw [foldAll, length]
      exact isB

end Rounds

/-! ### The verifier -/

/-- Exponents of the generators. -/
def exponents : RangeProof.Generators (ZMod l) where
  g := 1
  h := 8
  gs i := (16 + i : Nat)
  hs i := (32 + i : Nat)

theorem mul_ofNat_at {n : Nat} (small : n < 2 ^ 64) :
    (g.mul (Sc.fromU64 (UInt64.ofNat n)) curveD).At n := by
  have atN := Pt.g_at.mul (Sc.fromU64_is (UInt64.ofNat n))
  rwa [mul_one, UInt64.toNat_ofNat', Nat.mod_eq_of_lt small] at atN

theorem gs_at {i : Nat} (lt : i < 8) :
    ((getVectorGenerators curveD).1 i).At (exponents.gs i) := mul_ofNat_at (by omega)

theorem hs_at {i : Nat} (lt : i < 8) :
    ((getVectorGenerators curveD).2 i).At (exponents.hs i) := mul_ofNat_at (by omega)

theorem commit_exponents {v r : Sc} {x y : ZMod l} (isV : v.Is x) (isR : r.Is y) :
    (commit v r).At (x * exponents.g + y * exponents.h) := (Pt.g_at.mul isV).add (h_at.mul isR)

/-- The parts of a proof stand for these. -/
structure Bulletproof.Is (proof : Bulletproof) (e : RangeProof.Proof (ZMod l) (ZMod l)) :
    Prop where
  A : proof.A.At e.A
  S : proof.S.At e.S
  T1 : proof.T1.At e.T1
  T2 : proof.T2.At e.T2
  tx : proof.tx.Is e.tx
  taux : proof.taux.Is e.taux
  mu : proof.mu.Is e.mu
  cross : List.Forall₂ CrossAt (proof.L.1.zip proof.R.1) e.cross
  a : proof.a.Is e.a
  b : proof.b.Is e.b

/-- The challenges to a proof stand for these. -/
structure Asked (sha256 : Bytes → BytesN 32) (V : Pt) (proof : Bulletproof)
    (c : RangeProof.Challenges (ZMod l)) : Prop where
  y : (hashFsYZ sha256 V proof.A proof.S).1.Is c.y
  z : (hashFsYZ sha256 V proof.A proof.S).2.Is c.z
  x : (hashFsX sha256 proof.T1 proof.T2).Is c.x
  w : (hashFsW sha256 proof.tx proof.taux proof.mu).Is c.w
  us : List.Forall₂ Sc.Is (challengesOf sha256 0 (proof.L.1.zip proof.R.1)) c.us
  rounds : c.us.length = 3

theorem addRounds_at {P : Pt} {e : ZMod l} {cs : List Sc} {us : List (ZMod l)}
    {pts : List (Pt × Pt)} {terms : List (ZMod l × ZMod l)} (atE : P.At e)
    (isUs : List.Forall₂ Sc.Is cs us) (cross : List.Forall₂ CrossAt pts terms)
    (same : cs.length = pts.length) : (addRounds curveD P cs pts).At (e + correction us terms) := by
  induction isUs generalizing P e pts terms with
  | nil =>
    cases cross with
    | nil =>
      rw [correction, add_zero]
      · exact atE
      · intro u us' l r rest listed
        cases listed
    | cons _ _ => cases same
  | @cons c u cs us isU _ ih =>
    cases cross with
    | nil => cases same
    | @cons pt term pts terms atTerm rest =>
      have next := ih ((atE.add (atTerm.1.mul (isU.mul isU))).add
        (atTerm.2.mul (isU.invert.mul isU.invert))) rest (Nat.succ.inj same)
      rw [correction_mul, ← add_assoc, ← add_assoc]
      exact next

theorem weightStep_is {i : Nat} {s : Sc × Sc} {u : Sc × Nat} {a b x : ZMod l} {high : Prop}
    [Decidable high] (isA : s.1.Is a) (isB : s.2.Is b) (isU : u.1.Is x)
    (bit : (i >>> (2 - u.2)) &&& 1 = 1 ↔ high) :
    (weightStep i s u).1.Is (a * if high then x else x⁻¹) ∧
      (weightStep i s u).2.Is (b * if high then x⁻¹ else x⁻¹⁻¹) := by
  unfold weightStep
  by_cases is : high
  · rw [if_pos (bit.mpr is), if_pos is, if_pos is]
    dsimp only
    exact ⟨isA.mul isU, isB.mul isU.invert⟩
  · rw [if_neg (mt bit.mp is), if_neg is, if_neg is, inv_inv]
    dsimp only
    exact ⟨isA.mul isU.invert, isB.mul isU⟩

theorem weightsOf_is {c₀ c₁ c₂ : Sc} {u₀ u₁ u₂ : ZMod l} (is₀ : c₀.Is u₀) (is₁ : c₁.Is u₁)
    (is₂ : c₂.Is u₂) {i : Nat} (lt : i < 8) :
    (weightsOf [c₀, c₁, c₂] i).1.Is (weight [u₀, u₁, u₂] i) ∧
      (weightsOf [c₀, c₁, c₂] i).2.Is (weight [u₀⁻¹, u₁⁻¹, u₂⁻¹] i) := by
  have bits : ∀ i < 8, ((i >>> 2) &&& 1 = 1 ↔ 4 ≤ i) ∧ ((i >>> 1) &&& 1 = 1 ↔ 2 ≤ i % 4) ∧
      ((i >>> 0) &&& 1 = 1 ↔ 1 ≤ i % 4 % 2) := by decide
  obtain ⟨bit₀, bit₁, bit₂⟩ := bits i lt
  obtain ⟨isA, isB⟩ := weightStep_is (s := (.one, .one)) (u := (c₀, 0)) Sc.one_is Sc.one_is is₀ bit₀
  obtain ⟨isA, isB⟩ := weightStep_is (u := (c₁, 1)) isA isB is₁ bit₁
  obtain ⟨isA, isB⟩ := weightStep_is (u := (c₂, 2)) isA isB is₂ bit₂
  simp only [one_mul, mul_assoc] at isA isB
  simp only [weight, List.length_cons, List.length_nil, mul_one]
  exact ⟨isA, isB⟩

section Verifier

variable {sha256 : Bytes → BytesN 32} {V : Pt} {v : ZMod l} {proof : Bulletproof}
  {e : RangeProof.Proof (ZMod l) (ZMod l)} {c : RangeProof.Challenges (ZMod l)}

theorem deltaOf_is {y z : Sc} {y' z' : ZMod l} (isY : y.Is y') (isZ : z.Is z') :
    (deltaOf y z).Is (RangeProof.delta 8 y' z') := by
  have powers := sumLoop_is fun i (_ : i < 8) => powerOf_is isY i
  have twos := sumLoop_is fun i (lt : i < 8) => twoPow_is lt
  exact ((isZ.sub (isZ.mul isZ)).mul powers).sub (((isZ.mul isZ).mul isZ).mul twos)

theorem Asked.size (asked : Asked sha256 V proof c) : c.size = 8 := by
  unfold RangeProof.Challenges.size
  rw [asked.rounds]
  rfl

theorem lhs1_at (isE : proof.Is e) : (lhs1 proof).At (e.tx * exponents.g + e.taux * exponents.h) :=
  (Pt.g_at.mul isE.tx).add (h_at.mul isE.taux)

section Parts

variable {y z x : Sc} (atV : V.At v) (isE : proof.Is e) (isY : y.Is c.y) (isZ : z.Is c.z)
  (isX : x.Is c.x)

include atV isE isY isZ isX in
theorem rhs1_at :
    (rhs1 V proof y z x).At (c.z * c.z * v + RangeProof.delta 8 c.y c.z * exponents.g +
      c.x * e.T1 + c.x * c.x * e.T2) :=
  (((atV.mul (isZ.mul isZ)).add (Pt.g_at.mul (deltaOf_is isY isZ))).add (isE.T1.mul isX)).add
    (isE.T2.mul (isX.mul isX))

variable {Q : Pt} {q : ZMod l} (atQ : Q.At q)

include isE isY isZ isX atQ in
theorem innerStart_at :
    (innerStart proof y z x Q).At (e.A + c.x * e.S + -e.mu * exponents.h +
      ∑ i ∈ range 8, (-c.z * exponents.gs i +
        (c.z + c.z * c.z * 2 ^ i * c.y⁻¹ ^ i) * exponents.hs i) + e.tx * q) := by
  have start := (isE.A.add (isE.S.mul isX)).add (h_at.mul isE.mu.neg)
  have loop := commitLoop_at start (fun i (lt : i < 8) => gs_at lt) (fun _ _ => isZ.neg)
    (fun i lt => hs_at lt)
    fun i lt => isZ.add (((isZ.mul isZ).mul (twoPow_is lt)).mul (powerOf_is isY.invert i))
  exact loop.add (atQ.mul isE.tx)

theorem foldAll_at {us : List (ZMod l)} {gs : Nat → Pt} {G : Nat → ZMod l} {weights : Nat → Sc}
    (rounds : us.length = 3) (atG : ∀ i < 8, (gs i).At (G i))
    (isWeight : ∀ i < 8, (weights i).Is (weight us i)) :
    (addLoop curveD 8 .identity fun i => (gs i).mul (weights i) curveD).At (foldAll us G) := by
  have loop := addLoop_at Pt.identity_at fun i lt => (atG i lt).mul (isWeight i lt)
  rw [foldAll_mul, rounds]
  rwa [zero_add] at loop

include isE isY atQ in
theorem innerExpected_at {challenges : List Sc} (isUs : List.Forall₂ Sc.Is challenges c.us)
    (rounds : c.us.length = 3) :
    (innerExpected proof y Q challenges).At
      (e.a * foldAll c.us exponents.gs +
        e.b * foldAll (c.us.map (·⁻¹)) (RangeProof.twisted exponents c) + e.a * e.b * q) := by
  have weights : ∀ i < 8, (weightsOf challenges i).1.Is (weight c.us i) ∧
      (weightsOf challenges i).2.Is (weight (c.us.map (·⁻¹)) i) := by
    generalize c.us = us at isUs rounds
    match us, rounds with
    | [u₀, u₁, u₂], _ =>
      cases isUs with
      | cons is₀ isUs =>
        cases isUs with
        | cons is₁ isUs =>
          cases isUs with
          | cons is₂ isUs =>
            cases isUs
            exact fun i lt => weightsOf_is is₀ is₁ is₂ lt
  have gsFinal := foldAll_at rounds (fun i lt => gs_at lt) fun i lt => (weights i lt).1
  have twisted (i : Nat) (lt : i < 8) :
      (((getVectorGenerators curveD).2 i).mul (powerOf y.invert i) curveD).At
        (RangeProof.twisted exponents c i) := (hs_at lt).mul (powerOf_is isY.invert i)
  have hsFinal := foldAll_at (by rw [List.length_map, rounds]) twisted fun i lt => (weights i lt).2
  exact ((gsFinal.mul isE.a).add (hsFinal.mul isE.b)).add (atQ.mul (isE.a.mul isE.b))

end Parts

/-- The verifier computes both checks. -/
theorem verifyRangeProof_iff (atV : V.At v) (isE : proof.Is e) (asked : Asked sha256 V proof c) :
    verifyRangeProof sha256 V proof = true ↔
      RangeProof.ChecksPolynomial exponents c v e ∧
        RangeProof.ChecksInnerProduct exponents c e := by
  have atQ : (g.mul (hashFsW sha256 proof.tx proof.taux proof.mu) curveD).At
      (c.w * exponents.g) := Pt.g_at.mul asked.w
  have length : (challengesOf sha256 0 (proof.L.1.zip proof.R.1)).length =
      (proof.L.1.zip proof.R.1).length := by
    rw [asked.us.length_eq, asked.rounds, List.length_zip, proof.L.2, proof.R.2]
    rfl
  have first := Pt.At.eq_iff (lhs1_at isE) (rhs1_at atV isE asked.y asked.z asked.x)
  have second := Pt.At.eq_iff
    (addRounds_at (innerStart_at isE asked.y asked.z asked.x atQ) asked.us isE.cross length)
    (innerExpected_at isE asked.y atQ asked.us asked.rounds)
  rw [RangeProof.checksPolynomial_mul, RangeProof.checksInnerProduct_mul, asked.size]
  rw [← first, ← second]
  unfold verifyRangeProof getGenerators
  dsimp only
  by_cases same : lhs1 proof = rhs1 V proof (hashFsYZ sha256 V proof.A proof.S).1
      (hashFsYZ sha256 V proof.A proof.S).2 (hashFsX sha256 proof.T1 proof.T2)
  · rw [if_neg (not_not_intro same), decide_eq_true_iff]
    exact (and_iff_right same).symm
  · rw [if_pos same]
    exact iff_of_false Bool.false_ne_true fun both => same both.1

end Verifier

/-! ### The prover -/

section Prover

variable (sha256 : Bytes → BytesN 32)

/-- What is drawn is reduced. -/
structure Blinding.Reduced (s : Blinding) : Prop where
  alpha : s.alpha.value < l
  sL : ∀ i, (s.sL i).value < l
  sR : ∀ i, (s.sR i).value < l
  beta : s.beta.value < l
  tau1 : s.tau1.value < l
  tau2 : s.tau2.value < l

theorem nextPairs_reduced (n : Nat) (state : Bytes) :
    ∀ pair ∈ (nextPairs sha256 n state).1, pair.1.value < l ∧ pair.2.value < l := by
  induction n generalizing state with
  | zero => exact fun _ listed => absurd listed List.not_mem_nil
  | succ n ih =>
    intro pair listed
    rcases List.mem_cons.mp listed with rfl | later
    · exact ⟨hashToScalar_lt sha256 _, hashToScalar_lt sha256 _⟩
    · exact ih _ pair later

theorem drawBlinding_reduced (state : Bytes) : ((drawBlinding sha256).run' state).Reduced := by
  have zero : Sc.zero.value < l := Sc.zero_is.lt
  have entry (pairs : List (Sc × Sc)) (all : ∀ pair ∈ pairs, pair.1.value < l ∧ pair.2.value < l)
      (i : Nat) : (pairs.getD i (.zero, .zero)).1.value < l ∧
        (pairs.getD i (.zero, .zero)).2.value < l := by
    rw [List.getD_eq_getElem?_getD]
    cases found : pairs[i]? with
    | none => exact ⟨zero, zero⟩
    | some pair => exact all pair (List.mem_of_getElem? found)
  have pairs := entry _ (nextPairs_reduced sha256 8 (nextScalar sha256 state).2)
  exact ⟨hashToScalar_lt sha256 _, fun i => (pairs i).1, fun i => (pairs i).2,
    hashToScalar_lt sha256 _, hashToScalar_lt sha256 _, hashToScalar_lt sha256 _⟩

/-- What the prover knows, as residues. -/
def secretsOf (v : UInt32) (r : Sc) (s : Blinding) : RangeProof.Secrets (ZMod l) where
  digits i := (v.toNat / 2 ^ i % 2 : Nat)
  r := r.value
  alpha := s.alpha.value
  beta := s.beta.value
  sL i := (s.sL i).value
  sR i := (s.sR i).value
  tau1 := s.tau1.value
  tau2 := s.tau2.value

variable {v : UInt32} {r : Sc} {s : Blinding} {c : RangeProof.Challenges (ZMod l)} {i : Nat}

theorem bitOf_is (lt : i < 8) : (bitOf v i).Is ((secretsOf v r s).digits i) := by
  have isBit := Sc.fromU64_is ((v >>> UInt32.ofNat i) &&& 1).toUInt64
  have small : i % 2 ^ 32 % 32 = i := by omega
  rw [UInt32.toNat_toUInt64, UInt32.toNat_and, UInt32.toNat_shiftRight, UInt32.toNat_ofNat', small,
    Nat.shiftRight_eq_div_pow, UInt32.toNat_one, Nat.and_one_is_mod] at isBit
  exact isBit

theorem digits_binary (i : Nat) :
    (secretsOf v r s).digits i * (secretsOf v r s).digits i = (secretsOf v r s).digits i := by
  unfold secretsOf
  dsimp only
  rcases Nat.mod_two_eq_zero_or_one (v.toNat / 2 ^ i) with zero | one
  · rw [zero, Nat.cast_zero, mul_zero]
  · rw [one, Nat.cast_one, mul_one]

theorem number_digits (small : v.toNat < 2 ^ 8) (size : c.size = 8) :
    RangeProof.number c (secretsOf v r s) = (v.toNat : ZMod l) := by
  have digits : ∑ i ∈ range 8, v.toNat / 2 ^ i % 2 * 2 ^ i = v.toNat := by
    simp only [sum_range_succ, sum_range_zero]
    omega
  have cast := congrArg (Nat.cast (R := ZMod l)) digits
  rw [Nat.cast_sum] at cast
  unfold RangeProof.number
  rw [size, ← cast]
  refine sum_congr rfl fun i _ => ?_
  rw [Nat.cast_mul, Nat.cast_pow, Nat.cast_two]
  rfl

theorem bitLessOne_is (lt : i < 8) : (bitLessOne v i).Is ((secretsOf v r s).digits i - 1) :=
  (bitOf_is lt).sub Sc.one_is

theorem commitVectors_at {blinding : Sc} {a b : Nat → Sc} {x : ZMod l} {A B : Nat → ZMod l}
    (isX : blinding.Is x) (isA : ∀ i < 8, (a i).Is (A i)) (isB : ∀ i < 8, (b i).Is (B i)) :
    (commitVectors blinding a b).At
      (x * exponents.h + ∑ i ∈ range 8, (A i * exponents.gs i + B i * exponents.hs i)) :=
  commitLoop_at (h_at.mul isX) (fun _ lt => gs_at lt) isA (fun _ lt => hs_at lt) isB

section Vectors

variable {y z x : Sc} (reduced : s.Reduced) (isY : y.Is c.y) (isZ : z.Is c.z) (isX : x.Is c.x)

include reduced isZ isX in
theorem leftAt_is (lt : i < 8) :
    (leftAt (bitOf v) s.sL z x i).Is (RangeProof.leftVector c (secretsOf v r s) i) :=
  ((bitOf_is lt).sub isZ).add ((Sc.is_self (reduced.sL i)).mul isX)

include reduced isY isZ isX in
theorem rightAt_is (lt : i < 8) :
    (rightAt (bitLessOne v) s.sR y z x i).Is (RangeProof.rightVector c (secretsOf v r s) i) :=
  ((powerOf_is isY i).mul
    (((bitLessOne_is lt).add isZ).add ((Sc.is_self (reduced.sR i)).mul isX))).add
      ((isZ.mul isZ).mul (twoPow_is lt))

include reduced isY isZ in
theorem t1Of_is (size : c.size = 8) :
    (t1Of (bitOf v) (bitLessOne v) s.sL s.sR y z).Is (RangeProof.t1 c (secretsOf v r s)) := by
  unfold RangeProof.t1
  rw [size]
  refine sumLoop_is fun i lt => ?_
  exact (((bitOf_is lt).sub isZ).mul ((powerOf_is isY i).mul (Sc.is_self (reduced.sR i)))).add
    ((Sc.is_self (reduced.sL i)).mul
      (((powerOf_is isY i).mul ((bitLessOne_is lt).add isZ)).add
        ((isZ.mul isZ).mul (twoPow_is lt))))

include reduced isY in
theorem t2Of_is (size : c.size = 8) :
    (t2Of s.sL s.sR y).Is (RangeProof.t2 c (secretsOf v r s)) := by
  unfold RangeProof.t2
  rw [size]
  refine sumLoop_is fun i lt => ?_
  exact (Sc.is_self (reduced.sL i)).mul ((powerOf_is isY i).mul (Sc.is_self (reduced.sR i)))

include reduced isY isZ isX in
theorem txOf_is (size : c.size = 8) :
    (txOf (leftAt (bitOf v) s.sL z x) (rightAt (bitLessOne v) s.sR y z x)).Is
      (∑ i ∈ range c.size, RangeProof.leftVector c (secretsOf v r s) i *
        RangeProof.rightVector c (secretsOf v r s) i) := by
  rw [size]
  refine sumLoop_is fun i lt => ?_
  exact (leftAt_is reduced isZ isX lt).mul (rightAt_is reduced isY isZ isX lt)

include reduced isY isZ isX in
theorem foldVectors_spec {w : Sc} (isW : w.Is c.w) :
    ∃ us : List (ZMod l), us.length = 3 ∧
      List.Forall₂ Sc.Is (challengesOf sha256 0 (foldVectors sha256
        (leftAt (bitOf v) s.sL z x) (rightAt (bitLessOne v) s.sR y z x) y w).1.1) us ∧
      List.Forall₂ CrossAt (foldVectors sha256
        (leftAt (bitOf v) s.sL z x) (rightAt (bitLessOne v) s.sR y z x) y w).1.1
        (crossTerms us (RangeProof.leftVector c (secretsOf v r s))
          (RangeProof.rightVector c (secretsOf v r s)) exponents.gs
          (RangeProof.twisted exponents c) (c.w * exponents.g)) ∧
      (foldVectors sha256 (leftAt (bitOf v) s.sL z x) (rightAt (bitLessOne v) s.sR y z x)
        y w).2.1.Is (foldAll (us.map (·⁻¹)) (RangeProof.leftVector c (secretsOf v r s))) ∧
      (foldVectors sha256 (leftAt (bitOf v) s.sL z x) (rightAt (bitLessOne v) s.sR y z x)
        y w).2.2.Is (foldAll us (RangeProof.rightVector c (secretsOf v r s))) := by
  have atQ : (g.mul w curveD).At (c.w * exponents.g) := Pt.g_at.mul isW
  have isFolding : Folding.Is ⟨leftAt (bitOf v) s.sL z x, rightAt (bitLessOne v) s.sR y z x,
      (getVectorGenerators curveD).1,
      fun i => ((getVectorGenerators curveD).2 i).mul (powerOf y.invert i) curveD⟩ (2 ^ 3)
      (RangeProof.leftVector c (secretsOf v r s)) (RangeProof.rightVector c (secretsOf v r s))
      exponents.gs (RangeProof.twisted exponents c) := by
    constructor <;> dsimp only <;> intro i lt
    · exact leftAt_is reduced isZ isX lt
    · exact rightAt_is reduced isY isZ isX lt
    · exact gs_at lt
    · exact (hs_at lt).mul (powerOf_is isY.invert i)
  exact foldRounds_spec sha256 atQ isFolding

end Vectors

theorem zip_map_fst_snd (pts : List (Pt × Pt)) :
    (pts.map Prod.fst).zip (pts.map Prod.snd) = pts := by
  rw [List.zip_map', List.map_id'']
  exact fun _ => rfl

/-- The parts of a proof, each as the prover computes it from the challenges. -/
structure Made (proof : Bulletproof) (v : UInt32) (r : Sc) (s : Blinding) (y z x w : Sc) :
    Prop where
  A : proof.A = commitVectors s.alpha (bitOf v) (bitLessOne v)
  S : proof.S = commitVectors s.beta s.sL s.sR
  T1 : proof.T1 = commit (t1Of (bitOf v) (bitLessOne v) s.sL s.sR y z) s.tau1
  T2 : proof.T2 = commit (t2Of s.sL s.sR y) s.tau2
  tx : proof.tx = txOf (leftAt (bitOf v) s.sL z x) (rightAt (bitLessOne v) s.sR y z x)
  taux : proof.taux = tauxOf s r z x
  mu : proof.mu = muOf s x
  cross : proof.L.1.zip proof.R.1 = (foldVectors sha256 (leftAt (bitOf v) s.sL z x)
    (rightAt (bitLessOne v) s.sR y z x) y w).1.1
  a : proof.a = (foldVectors sha256 (leftAt (bitOf v) s.sL z x)
    (rightAt (bitLessOne v) s.sR y z x) y w).2.1
  b : proof.b = (foldVectors sha256 (leftAt (bitOf v) s.sL z x)
    (rightAt (bitLessOne v) s.sR y z x) y w).2.2

theorem proveWith_made (v : UInt32) (r : Sc) (s : Blinding) :
    let proof := proveWith sha256 v r s
    let V := commit (.fromU64 v.toUInt64) r
    Made sha256 proof v r s (hashFsYZ sha256 V proof.A proof.S).1
      (hashFsYZ sha256 V proof.A proof.S).2 (hashFsX sha256 proof.T1 proof.T2)
      (hashFsW sha256 proof.tx proof.taux proof.mu) := by
  unfold proveWith
  dsimp only
  constructor <;> dsimp only
  exact zip_map_fst_snd _

variable {proof : Bulletproof} {y z x w : Sc}

/-- The prover makes the honest proof for its challenges. -/
theorem Made.honest (made : Made sha256 proof v r s y z x w) (reduced : s.Reduced)
    (rLt : r.value < l) (isY : y.Is c.y) (isZ : z.Is c.z) (isX : x.Is c.x) (isW : w.Is c.w) :
    ∃ us : List (ZMod l), us.length = 3 ∧
      List.Forall₂ Sc.Is (challengesOf sha256 0 (proof.L.1.zip proof.R.1)) us ∧
      proof.Is (RangeProof.honest exponents { c with us } (secretsOf v r s)) := by
  obtain ⟨us, rounds, isUs, cross, isA, isB⟩ :=
    foldVectors_spec sha256 (v := v) (r := r) reduced isY isZ isX isW
  refine ⟨us, rounds, by rwa [made.cross], ?_⟩
  have size : ({ c with us } : RangeProof.Challenges (ZMod l)).size = 8 := by
    unfold RangeProof.Challenges.size
    rw [rounds]
    rfl
  have isTau1 := Sc.is_self reduced.tau1
  have isTau2 := Sc.is_self reduced.tau2
  have isAlpha := Sc.is_self reduced.alpha
  have isBeta := Sc.is_self reduced.beta
  rw [RangeProof.honest_mul]
  constructor <;> dsimp only
  · rw [made.A, size]
    exact commitVectors_at isAlpha (fun i lt => bitOf_is lt) fun i lt => bitLessOne_is lt
  · rw [made.S, size]
    exact commitVectors_at isBeta (fun i _ => Sc.is_self (reduced.sL i))
      fun i _ => Sc.is_self (reduced.sR i)
  · rw [made.T1]
    exact commit_exponents (t1Of_is reduced (c := { c with us }) isY isZ size) isTau1
  · rw [made.T2]
    exact commit_exponents (t2Of_is reduced (c := { c with us }) isY size) isTau2
  · rw [made.tx]
    exact txOf_is reduced (c := { c with us }) isY isZ isX size
  · rw [made.taux, tauxOf]
    exact ((isTau2.mul (isX.mul isX)).add (isTau1.mul isX)).add ((isZ.mul isZ).mul (Sc.is_self rLt))
  · rw [made.mu, muOf]
    exact isAlpha.add (isBeta.mul isX)
  · rw [made.cross]
    exact cross
  · rw [made.a]
    exact isA
  · rw [made.b]
    exact isB

end Prover

/-! ### Completeness -/

theorem exists_of_forall₂ {α β : Type} {R : α → β → Prop} {as : List α} {bs : List β}
    (all : List.Forall₂ R as bs) {a : α} (listed : a ∈ as) : ∃ b, R a b := by
  induction all with
  | nil => cases listed
  | cons related _ ih =>
    rcases List.mem_cons.mp listed with rfl | later
    · exact ⟨_, related⟩
    · exact ih later

theorem Pt.At.isOnCurve {P : Pt} {e : ZMod l} (atE : P.At e) :
    Zk.isOnCurve P.x P.y curveD = true := Pt.Is.isOnCurve atE

theorem Bulletproof.Is.onCurve {proof : Bulletproof} {e : RangeProof.Proof (ZMod l) (ZMod l)}
    (isE : proof.Is e) : proof.OnCurve := by
  have isL : (proof.L.1.zip proof.R.1).map Prod.fst = proof.L.1 :=
    List.map_fst_zip (by rw [proof.L.2, proof.R.2])
  have isR : (proof.L.1.zip proof.R.1).map Prod.snd = proof.R.1 :=
    List.map_snd_zip (by rw [proof.L.2, proof.R.2])
  unfold OnCurve
  intro pt listed
  simp only [List.mem_append, List.mem_cons, List.not_mem_nil, or_false] at listed
  rcases listed with ((rfl | rfl | rfl | rfl) | inL) | inR
  · exact isE.A.isOnCurve
  · exact isE.S.isOnCurve
  · exact isE.T1.isOnCurve
  · exact isE.T2.isOnCurve
  · obtain ⟨pair, crossed, rfl⟩ := List.mem_map.mp (isL ▸ inL)
    obtain ⟨e, atE⟩ := exists_of_forall₂ isE.cross crossed
    exact atE.1.isOnCurve
  · obtain ⟨pair, crossed, rfl⟩ := List.mem_map.mp (isR ▸ inR)
    obtain ⟨e, atE⟩ := exists_of_forall₂ isE.cross crossed
    exact atE.2.isOnCurve

theorem Sc.Is.ne_zero {s : Sc} {x : ZMod l} (isX : s.Is x) (nonzero : s ≠ .zero) : x ≠ 0 :=
  mt (isX.eq_iff Sc.zero_is).mpr nonzero

theorem units_of_nonzero {cs : List Sc} {us : List (ZMod l)} (isUs : List.Forall₂ Sc.Is cs us)
    (nonzero : ∀ c ∈ cs, c ≠ .zero) : ∀ u ∈ us, u ≠ 0 := by
  induction isUs with
  | nil => exact fun _ listed => absurd listed List.not_mem_nil
  | cons isU _ ih =>
    intro u listed
    rcases List.mem_cons.mp listed with rfl | later
    · exact isU.ne_zero (nonzero _ List.mem_cons_self)
    · exact ih (fun c listed => nonzero c (List.mem_cons_of_mem _ listed)) u later

section Completeness

variable (sha256 : Bytes → BytesN 32) (v : UInt32) {r : Sc} (rLt : r.value < l) (seed : BytesN 32)

include rLt

theorem proveRangeProof_is :
    ∃ c s, Asked sha256 (commit (.fromU64 v.toUInt64) r) (proveRangeProof sha256 v r seed) c ∧
      (proveRangeProof sha256 v r seed).Is (RangeProof.honest exponents c (secretsOf v r s)) := by
  have reduced := drawBlinding_reduced sha256 seed.1
  have made := proveWith_made sha256 v r ((drawBlinding sha256).run' seed.1)
  unfold proveRangeProof
  generalize (drawBlinding sha256).run' seed.1 = s at *
  generalize proveWith sha256 v r s = proof at *
  generalize commit (.fromU64 v.toUInt64) r = V at *
  dsimp only at made
  have yLt : (hashFsYZ sha256 V proof.A proof.S).1.value < l := hashToScalar_lt sha256 _
  have zLt : (hashFsYZ sha256 V proof.A proof.S).2.value < l := hashToScalar_lt sha256 _
  have xLt : (hashFsX sha256 proof.T1 proof.T2).value < l := hashToScalar_lt sha256 _
  have wLt : (hashFsW sha256 proof.tx proof.taux proof.mu).value < l := hashToScalar_lt sha256 _
  have isY := Sc.is_self yLt
  have isZ := Sc.is_self zLt
  have isX := Sc.is_self xLt
  have isW := Sc.is_self wLt
  obtain ⟨us, rounds, isUs, isHonest⟩ := made.honest sha256 (c := ⟨_, _, _, _, []⟩) reduced rLt
    isY isZ isX isW
  exact ⟨⟨_, _, _, _, us⟩, s, ⟨isY, isZ, isX, isW, isUs, rounds⟩, isHonest⟩

theorem fromBytes_proved :
    Bulletproof.fromBytes (proveRangeProof sha256 v r seed).toBytes =
      some (proveRangeProof sha256 v r seed) := by
  obtain ⟨_, _, _, isHonest⟩ := proveRangeProof_is sha256 v rLt seed
  exact Bulletproof.fromBytes_toBytes isHonest.onCurve

theorem verifyRangeProof_proved (small : v.toNat < 2 ^ 8)
    (yNonzero : (hashFsYZ sha256 (commit (.fromU64 v.toUInt64) r)
      (proveRangeProof sha256 v r seed).A (proveRangeProof sha256 v r seed).S).1 ≠ .zero)
    (nonzero : ∀ u ∈ challengesOf sha256 0 ((proveRangeProof sha256 v r seed).L.1.zip
      (proveRangeProof sha256 v r seed).R.1), u ≠ .zero) :
    verifyRangeProof sha256 (commit (.fromU64 v.toUInt64) r)
      (proveRangeProof sha256 v r seed) = true := by
  obtain ⟨c, s, asked, isHonest⟩ := proveRangeProof_is sha256 v rLt seed
  have atV := commit_exponents (Sc.fromU64_is v.toUInt64) (Sc.is_self rLt)
  have number := number_digits (v := v) (r := r) (s := s) small asked.size
  rw [UInt32.toNat_toUInt64, ← number] at atV
  rw [verifyRangeProof_iff atV isHonest asked]
  exact ⟨RangeProof.checksPolynomial_honest exponents fun i _ => digits_binary i,
    RangeProof.checksInnerProduct_honest exponents (asked.y.ne_zero yNonzero)
      (units_of_nonzero asked.us nonzero)⟩

end Completeness

/-- What the prover makes for a number of eight bits is read back from its bytes, and accepted. -/
theorem proveRangeProof_accepted (sha256 : Bytes → BytesN 32) {v : UInt32}
    (small : v.toNat < 2 ^ 8) {r : Sc} (rLt : r.value < l) (seed : BytesN 32)
    (yNonzero : (hashFsYZ sha256 (commit (.fromU64 v.toUInt64) r)
      (proveRangeProof sha256 v r seed).A (proveRangeProof sha256 v r seed).S).1 ≠ .zero)
    (nonzero : ∀ u ∈ challengesOf sha256 0 ((proveRangeProof sha256 v r seed).L.1.zip
      (proveRangeProof sha256 v r seed).R.1), u ≠ .zero) :
    Bulletproof.fromBytes (proveRangeProof sha256 v r seed).toBytes =
        some (proveRangeProof sha256 v r seed) ∧
      verifyRangeProof sha256 (commit (.fromU64 v.toUInt64) r)
        (proveRangeProof sha256 v r seed) = true :=
  ⟨fromBytes_proved sha256 v rLt seed,
    verifyRangeProof_proved sha256 v rLt seed small yNonzero nonzero⟩

theorem hashed_of_mem_challengesOf {sha256 : Bytes → BytesN 32} {pts : List (Pt × Pt)} {u : Sc}
    {round : Nat} (listed : u ∈ challengesOf sha256 round pts) :
    ∃ data, u = hashToScalar sha256 data := by
  induction pts generalizing round with
  | nil => cases listed
  | cons pair pts ih =>
    rcases List.mem_cons.mp listed with rfl | later
    · exact ⟨_, rfl⟩
    · exact ih later

/-- A hash under which every challenge is one. -/
def oneDigest : Bytes → BytesN 32 := fun _ => ⟨1 :: List.replicate 31 0, rfl⟩

theorem hashToScalar_oneDigest (data : Bytes) : hashToScalar oneDigest data ≠ .zero := by
  have nonzero : hashToScalar oneDigest [] ≠ .zero := by decide +kernel
  exact nonzero

theorem challenges_oneDigest {pts : List (Pt × Pt)} {round : Nat} :
    ∀ u ∈ challengesOf oneDigest round pts, u ≠ .zero := by
  intro u listed
  obtain ⟨data, rfl⟩ := hashed_of_mem_challengesOf listed
  exact hashToScalar_oneDigest data

theorem proveRangeProof_accepted_ninety :
    let r := Sc.fromU64 7
    let seed : BytesN 32 := ⟨List.replicate 32 5, rfl⟩
    Bulletproof.fromBytes (proveRangeProof oneDigest 90 r seed).toBytes =
        some (proveRangeProof oneDigest 90 r seed) ∧
      verifyRangeProof oneDigest (commit (.fromU64 90) r)
        (proveRangeProof oneDigest 90 r seed) = true :=
  proveRangeProof_accepted oneDigest (v := 90) (by decide) (Sc.fromU64_is 7).lt _
    (hashToScalar_oneDigest _) challenges_oneDigest

end LedgerLens.Zk
