import LedgerLens.Crypto.Transcript

/-!
The prover and the verifier of range proofs: that a commitment is to a number of eight
bits. Arrays are read by their indices.
-/

namespace LedgerLens.Zk

open Host

/-! ### Loops -/

/-- `t = t.add(f(i))` for every `i`. -/
def sumLoop (n : Nat) (f : Nat → Sc) : Sc := (List.range n).foldl (fun t i => t.add (f i)) .zero

/-- `P = P.add(f(i))` for every `i`. -/
def addLoop (d : Fe) (n : Nat) (start : Pt) (f : Nat → Pt) : Pt :=
  (List.range n).foldl (fun P i => P.add (f i) d) start

/-- `P = P.add(gs[i].mul(a[i])).add(hs[i].mul(b[i]))` for every `i`. -/
def commitLoop (d : Fe) (n : Nat) (start : Pt) (gs : Nat → Pt) (a : Nat → Sc) (hs : Nat → Pt)
    (b : Nat → Sc) : Pt :=
  (List.range n).foldl (fun P i => (P.add ((gs i).mul (a i) d) d).add ((hs i).mul (b i) d) d) start

/-- Multiplied up from one. -/
def powerOf (base : Sc) : Nat → Sc
  | 0 => .one
  | i + 1 => (powerOf base i).mul base

def twoPow (i : Nat) : Sc := .fromU64 (UInt64.ofNat (2 ^ i))

section Proofs

variable (sha256 : Bytes → BytesN 32)

/-! ### The prover -/

/-- `SeededPrng::next_scalar`: the state is hashed with as many zeros, and every byte of it is
counted up. -/
def nextScalar : StateM Bytes Sc := fun state =>
  (hashToScalar sha256 (state ++ List.replicate 32 0), state.map (· + 1))

/-- Entries of two vectors in turn. -/
def nextPairs : Nat → StateM Bytes (List (Sc × Sc))
  | 0 => return []
  | n + 1 => do
      let left ← nextScalar sha256
      let right ← nextScalar sha256
      let rest ← nextPairs n
      return (left, right) :: rest

/-- Everything the prover draws. -/
structure Blinding where
  alpha : Sc
  sL : Nat → Sc
  sR : Nat → Sc
  beta : Sc
  tau1 : Sc
  tau2 : Sc

/-- In the order in which the prover draws; the last two are drawn after the first challenges, which
the generator does not depend on. -/
def drawBlinding : StateM Bytes Blinding := do
  let alpha ← nextScalar sha256
  let pairs ← nextPairs sha256 8
  let beta ← nextScalar sha256
  let tau1 ← nextScalar sha256
  let tau2 ← nextScalar sha256
  return {
    alpha
    sL := fun i => (pairs.getD i (.zero, .zero)).1
    sR := fun i => (pairs.getD i (.zero, .zero)).2
    beta
    tau1
    tau2 }

/-- The vectors of the inner-product argument and their generators. -/
structure Folding where
  l : Nat → Sc
  r : Nat → Sc
  gs : Nat → Pt
  hs : Nat → Pt

/-- The cross terms of one round. -/
def crossOf (d : Fe) (Q : Pt) (half : Nat) (f : Folding) : Pt × Pt :=
  let cL := sumLoop half fun i => (f.l i).mul (f.r (half + i))
  let cR := sumLoop half fun i => (f.l (half + i)).mul (f.r i)
  (commitLoop d half (Q.mul cL d) (fun i => f.gs (half + i)) f.l f.hs fun i => f.r (half + i),
    commitLoop d half (Q.mul cR d) f.gs (fun i => f.l (half + i)) (fun i => f.hs (half + i)) f.r)

/-- The vectors of the next round, by the challenge. -/
def foldBy (d : Fe) (half : Nat) (u : Sc) (f : Folding) : Folding :=
  let uInv := u.invert
  { l := fun i => ((f.l i).mul u).add ((f.l (half + i)).mul uInv)
    r := fun i => ((f.r i).mul uInv).add ((f.r (half + i)).mul u)
    gs := fun i => ((f.gs i).mul uInv d).add ((f.gs (half + i)).mul u d) d
    hs := fun i => ((f.hs i).mul u d).add ((f.hs (half + i)).mul uInv d) d }

/-- So many rounds, from this one on, and the entry that is left of each vector. -/
def foldRounds (d : Fe) (Q : Pt) : (rounds : Nat) → Nat → Folding →
    { pts : List (Pt × Pt) // pts.length = rounds } × Sc × Sc
  | 0, _, f => (⟨[], rfl⟩, f.l 0, f.r 0)
  | rounds + 1, round, f =>
    let cross := crossOf d Q (2 ^ rounds) f
    let u := hashFsChallengeIp sha256 round cross.1 cross.2
    let next := foldRounds d Q rounds (round + 1) (foldBy d (2 ^ rounds) u f)
    (⟨cross :: next.1.1, by rw [List.length_cons, next.1.2]⟩, next.2)

/-- `a_L[i]`, a bit of the number. -/
def bitOf (v : UInt32) (i : Nat) : Sc := .fromU64 ((v >>> UInt32.ofNat i) &&& 1).toUInt64

/-- `l_0` and `l_1` at `x`. -/
def leftAt (aL sL : Nat → Sc) (z x : Sc) (i : Nat) : Sc := ((aL i).sub z).add ((sL i).mul x)

def rightAt (aR sR : Nat → Sc) (y z x : Sc) (i : Nat) : Sc :=
  ((powerOf y i).mul (((aR i).add z).add ((sR i).mul x))).add ((z.mul z).mul (twoPow i))

/-- Coefficients of `t`. -/
def t1Of (aL aR sL sR : Nat → Sc) (y z : Sc) : Sc :=
  sumLoop 8 fun i =>
    let l0 := (aL i).sub z
    let r0 := ((powerOf y i).mul ((aR i).add z)).add ((z.mul z).mul (twoPow i))
    let r1 := (powerOf y i).mul (sR i)
    (l0.mul r1).add ((sL i).mul r0)

def t2Of (sL sR : Nat → Sc) (y : Sc) : Sc :=
  sumLoop 8 fun i => (sL i).mul ((powerOf y i).mul (sR i))

/-- `a_R[i]`. -/
def bitLessOne (v : UInt32) (i : Nat) : Sc := (bitOf v i).sub .one

/-- Two vectors under their generators, blinded. -/
def commitVectors (blinding : Sc) (a b : Nat → Sc) : Pt :=
  let (_, hPt, d) := getGenerators
  let (gs, hs) := getVectorGenerators d
  commitLoop d 8 (hPt.mul blinding d) gs a hs b

/-- `tx`: the inner product of the vectors. -/
def txOf (l r : Nat → Sc) : Sc := sumLoop 8 fun i => (l i).mul (r i)

def tauxOf (s : Blinding) (r z x : Sc) : Sc :=
  let z2 := z.mul z
  let x2 := x.mul x
  ((s.tau2.mul x2).add (s.tau1.mul x)).add (z2.mul r)

def muOf (s : Blinding) (x : Sc) : Sc := s.alpha.add (s.beta.mul x)

/-- The rounds of the inner product of the vectors. -/
def foldVectors (l r : Nat → Sc) (y w : Sc) :
    { pts : List (Pt × Pt) // pts.length = 3 } × Sc × Sc :=
  let (gPt, _, d) := getGenerators
  let (gs, hs) := getVectorGenerators d
  let Q := gPt.mul w d
  let yInv := y.invert
  foldRounds sha256 d Q 3 0 ⟨l, r, gs, fun i => (hs i).mul (powerOf yInv i) d⟩

/-- The prover with what it draws. -/
def proveWith (v : UInt32) (r : Sc) (s : Blinding) : Bulletproof :=
  let aL := bitOf v
  let aR := bitLessOne v
  let A := commitVectors s.alpha aL aR
  let S := commitVectors s.beta s.sL s.sR
  let V := commit (.fromU64 v.toUInt64) r
  let yz := hashFsYZ sha256 V A S
  let y := yz.1
  let z := yz.2
  let T1 := commit (t1Of aL aR s.sL s.sR y z) s.tau1
  let T2 := commit (t2Of s.sL s.sR y) s.tau2
  let x := hashFsX sha256 T1 T2
  let l := leftAt aL s.sL z x
  let rVec := rightAt aR s.sR y z x
  let tx := txOf l rVec
  let taux := tauxOf s r z x
  let mu := muOf s x
  let w := hashFsW sha256 tx taux mu
  let folded := foldVectors sha256 l rVec y w
  { A, S, T1, T2, tx, taux, mu
    L := ⟨folded.1.1.map Prod.fst, by rw [List.length_map, folded.1.2]⟩
    R := ⟨folded.1.1.map Prod.snd, by rw [List.length_map, folded.1.2]⟩
    a := folded.2.1
    b := folded.2.2 }

def proveRangeProof (v : UInt32) (r : Sc) (seed : BytesN 32) : Bulletproof :=
  proveWith sha256 v r ((drawBlinding sha256).run' seed.1)

/-! ### The verifier -/

/-- The challenges of the rounds, from this one on. -/
def challengesOf : Nat → List (Pt × Pt) → List Sc
  | _, [] => []
  | round, (L, R) :: rest => hashFsChallengeIp sha256 round L R :: challengesOf (round + 1) rest

/-- The cross terms, under the squares of the challenges and of their inverses. -/
def addRounds (d : Fe) : Pt → List Sc → List (Pt × Pt) → Pt
  | P, u :: us, (L, R) :: rest =>
    let uInv := u.invert
    addRounds d ((P.add (L.mul (u.mul u) d) d).add (R.mul (uInv.mul uInv) d) d) us rest
  | P, _, _ => P

/-- `s` and `s_prime` of an index, by the challenge of one round: a bit of the index chooses the
challenge or its inverse. -/
def weightStep (i : Nat) (s : Sc × Sc) (u : Sc × Nat) : Sc × Sc :=
  if (i >>> (2 - u.2)) &&& 1 = 1 then (s.1.mul u.1, s.2.mul u.1.invert)
  else (s.1.mul u.1.invert, s.2.mul u.1)

def weightsOf (challenges : List Sc) (i : Nat) : Sc × Sc :=
  challenges.zipIdx.foldl (weightStep i) (.one, .one)

def deltaOf (y z : Sc) : Sc :=
  let z2 := z.mul z
  let z3 := z2.mul z
  ((z.sub z2).mul (sumLoop 8 (powerOf y))).sub (z3.mul (sumLoop 8 twoPow))

/-- What the verifier holds the proof of the inner product against. -/
def innerStart (proof : Bulletproof) (y z x : Sc) (Q : Pt) : Pt :=
  let (_, hPt, d) := getGenerators
  let (gs, hs) := getVectorGenerators d
  let z2 := z.mul z
  let yInv := y.invert
  let start := (proof.A.add (proof.S.mul x d) d).add (hPt.mul proof.mu.neg d) d
  let P := commitLoop d 8 start gs (fun _ => z.neg) hs
    fun i => z.add ((z2.mul (twoPow i)).mul (powerOf yInv i))
  P.add (Q.mul proof.tx d) d

def innerExpected (proof : Bulletproof) (y : Sc) (Q : Pt) (challenges : List Sc) : Pt :=
  let (_, _, d) := getGenerators
  let (gs, hs) := getVectorGenerators d
  let yInv := y.invert
  let hsIp := fun i => (hs i).mul (powerOf yInv i) d
  let gsFinal := addLoop d 8 .identity fun i => (gs i).mul (weightsOf challenges i).1 d
  let hsFinal := addLoop d 8 .identity fun i => (hsIp i).mul (weightsOf challenges i).2 d
  let ab := proof.a.mul proof.b
  ((gsFinal.mul proof.a d).add (hsFinal.mul proof.b d) d).add (Q.mul ab d) d

def lhs1 (proof : Bulletproof) : Pt :=
  let (gPt, hPt, d) := getGenerators
  (gPt.mul proof.tx d).add (hPt.mul proof.taux d) d

def rhs1 (V : Pt) (proof : Bulletproof) (y z x : Sc) : Pt :=
  let (gPt, _, d) := getGenerators
  let z2 := z.mul z
  let x2 := x.mul x
  let delta := deltaOf y z
  (((V.mul z2 d).add (gPt.mul delta d) d).add (proof.T1.mul x d) d).add (proof.T2.mul x2 d) d

def verifyRangeProof (V : Pt) (proof : Bulletproof) : Bool :=
  let (gPt, _, d) := getGenerators
  let yz := hashFsYZ sha256 V proof.A proof.S
  let y := yz.1
  let z := yz.2
  let x := hashFsX sha256 proof.T1 proof.T2
  if lhs1 proof ≠ rhs1 V proof y z x then false
  else
    let w := hashFsW sha256 proof.tx proof.taux proof.mu
    let Q := gPt.mul w d
    let cross := proof.L.1.zip proof.R.1
    let challenges := challengesOf sha256 0 cross
    addRounds d (innerStart proof y z x Q) challenges cross = innerExpected proof y Q challenges

end Proofs

end LedgerLens.Zk
