import LedgerLens.Crypto.Generators

/-!
Range proofs as bytes and the challenges that are hashed from them. A proof is 800
bytes long; it is read back field by field, and a point only if it is on the curve.
-/

namespace LedgerLens.Zk

open Host

structure Bulletproof where
  A : Pt
  S : Pt
  T1 : Pt
  T2 : Pt
  tx : Sc
  taux : Sc
  mu : Sc
  L : { pts : List Pt // pts.length = 3 }
  R : { pts : List Pt // pts.length = 3 }
  a : Sc
  b : Sc
  deriving DecidableEq

/-! ### Bytes -/

/-- Both coordinates. -/
def Pt.toBytes (pt : Pt) : Bytes := pt.x.toBytes ++ pt.y.toBytes

/-- What a reader does with the bytes that are left. -/
abbrev Reader (α : Type) := StateT Bytes Option α

def readU256 : Reader U256 := fun bytes =>
  if 32 ≤ bytes.length then some (U256.ofBytes bytes, bytes.drop 32) else none

def readSc : Reader Sc := do return ⟨← readU256⟩

def readPt : Reader Pt := do
  let x : Fe := ⟨← readU256⟩
  let y : Fe := ⟨← readU256⟩
  if isOnCurve x y curveD then return ⟨x, y⟩ else failure

def readPts : Reader { pts : List Pt // pts.length = 3 } := do
  let first ← readPt
  let second ← readPt
  let third ← readPt
  return ⟨[first, second, third], rfl⟩

namespace Bulletproof

def toBytes (proof : Bulletproof) : Bytes :=
  [proof.A, proof.S, proof.T1, proof.T2].flatMap Pt.toBytes ++
    [proof.tx, proof.taux, proof.mu].flatMap Sc.toBytes ++ proof.L.1.flatMap Pt.toBytes ++
      proof.R.1.flatMap Pt.toBytes ++ [proof.a, proof.b].flatMap Sc.toBytes

def read : Reader Bulletproof := do
  let A ← readPt
  let S ← readPt
  let T1 ← readPt
  let T2 ← readPt
  let tx ← readSc
  let taux ← readSc
  let mu ← readSc
  let L ← readPts
  let R ← readPts
  let a ← readSc
  let b ← readSc
  return { A, S, T1, T2, tx, taux, mu, L, R, a, b }

def fromBytes (bytes : Bytes) : Option Bulletproof :=
  if bytes.length ≠ 800 then none else read.run' bytes

end Bulletproof

/-! ### Reading back -/

/-- From these bytes, with any bytes behind them, this value is read. -/
def Reads {α : Type} (reader : Reader α) (bytes : Bytes) (a : α) : Prop :=
  ∀ rest, reader (bytes ++ rest) = some (a, rest)

section Reads

variable {α β : Type} {bytes bytes' : Bytes} {reader : Reader α} {a : α} {b : β}

theorem Reads.bind {next : α → Reader β} (reads : Reads reader bytes a)
    (reads' : Reads (next a) bytes' b) : Reads (reader >>= next) (bytes ++ bytes') b := by
  intro rest
  rw [List.append_assoc]
  change (reader (bytes ++ (bytes' ++ rest)) >>= fun r => next r.1 r.2) = _
  rw [reads]
  exact reads' rest

theorem Reads.pure (a : α) : Reads (Pure.pure a) [] a := fun _ => rfl

theorem reads_u256 (a : U256) : Reads readU256 a.toBytes a := by
  intro rest
  have length := U256.length_toBytes a
  unfold readU256
  rw [if_pos (by rw [List.length_append]; omega), U256.ofBytes_toBytes, List.drop_left' length]

theorem reads_sc (a : Sc) : Reads readSc a.toBytes a := by
  have reads : Reads readSc (a.toBytes ++ []) a := Reads.bind (reads_u256 a.limbs) (Reads.pure a)
  rwa [List.append_nil] at reads

theorem reads_pt {pt : Pt} (on : isOnCurve pt.x pt.y curveD = true) :
    Reads readPt pt.toBytes pt := by
  have last : Reads (if isOnCurve pt.x pt.y curveD = true then return pt else failure) [] pt := by
    rw [if_pos on]
    exact Reads.pure pt
  have reads : Reads readPt (pt.x.limbs.toBytes ++ (pt.y.limbs.toBytes ++ [])) pt :=
    Reads.bind (reads_u256 _) (Reads.bind (reads_u256 _) last)
  rw [List.append_nil] at reads
  exact reads

theorem reads_pts {pts : { pts : List Pt // pts.length = 3 }}
    (on : ∀ pt ∈ pts.1, isOnCurve pt.x pt.y curveD = true) :
    Reads readPts (pts.1.flatMap Pt.toBytes) pts := by
  obtain ⟨pts, length⟩ := pts
  match pts, length with
  | [first, second, third], _ =>
    exact Reads.bind (reads_pt (on first (by simp))) (Reads.bind (reads_pt (on second (by simp)))
      (Reads.bind (reads_pt (on third (by simp))) (Reads.pure _)))

end Reads

namespace Bulletproof

/-- All points of the proof are on the curve. -/
def OnCurve (proof : Bulletproof) : Prop :=
  ∀ pt ∈ [proof.A, proof.S, proof.T1, proof.T2] ++ proof.L.1 ++ proof.R.1,
    isOnCurve pt.x pt.y curveD = true

theorem length_toBytes (proof : Bulletproof) : proof.toBytes.length = 800 := by
  have scalar (a : Sc) : a.toBytes.length = 32 := U256.length_toBytes a.limbs
  have point (pt : Pt) : pt.toBytes.length = 64 := by
    rw [Pt.toBytes, List.length_append]
    exact congrArg₂ (· + ·) (U256.length_toBytes pt.x.limbs) (U256.length_toBytes pt.y.limbs)
  have points (pts : { pts : List Pt // pts.length = 3 }) :
      (pts.1.flatMap Pt.toBytes).length = 192 := by
    simp [List.length_flatMap, point, pts.2]
  simp [toBytes, scalar, point, points]

theorem reads_proof {proof : Bulletproof} (on : proof.OnCurve) :
    Reads read proof.toBytes proof := by
  have onL : ∀ pt ∈ proof.L.1, isOnCurve pt.x pt.y curveD = true := fun pt listed =>
    on pt (by simp [listed])
  have onR : ∀ pt ∈ proof.R.1, isOnCurve pt.x pt.y curveD = true := fun pt listed =>
    on pt (by simp [listed])
  unfold toBytes
  simp only [List.flatMap_cons, List.flatMap_nil, List.append_assoc, List.nil_append]
  exact Reads.bind (reads_pt (on proof.A (by simp))) (Reads.bind (reads_pt (on proof.S (by simp)))
    (Reads.bind (reads_pt (on proof.T1 (by simp))) (Reads.bind (reads_pt (on proof.T2 (by simp)))
    (Reads.bind (reads_sc _) (Reads.bind (reads_sc _) (Reads.bind (reads_sc _)
    (Reads.bind (reads_pts onL) (Reads.bind (reads_pts onR)
    (Reads.bind (reads_sc _) (Reads.bind (reads_sc _) (Reads.pure proof)))))))))))

theorem fromBytes_toBytes {proof : Bulletproof} (on : proof.OnCurve) :
    fromBytes proof.toBytes = some proof := by
  have reads := reads_proof on []
  rw [List.append_nil] at reads
  unfold fromBytes
  rw [if_neg (not_not_intro (length_toBytes proof))]
  change Prod.fst <$> read proof.toBytes = some proof
  rw [reads]
  rfl

end Bulletproof

/-! ### Challenges -/

/-- `b"y_z"`. -/
def yzLabel : Bytes := [0x79, 0x5f, 0x7a]

/-- `b"z"`. -/
def zLabel : Bytes := [0x7a]

/-- `b"x"`. -/
def xLabel : Bytes := [0x78]

/-- `b"w"`. -/
def wLabel : Bytes := [0x77]

/-- `b"ip"`. -/
def ipLabel : Bytes := [0x69, 0x70]

section Challenges

variable (sha256 : Bytes → BytesN 32)

/-- Without its four highest bits a hash is below `L`, and the loop has nothing to do. -/
def hashToScalar (data : Bytes) : Sc :=
  ⟨U256.subWhile Sc.L.limbs 16 ((U256.ofBytes (sha256 data).1).andTop 0x0fffffffffffffff)⟩

def hashFsYZ (V A S : Pt) : Sc × Sc :=
  let y := hashToScalar sha256 (yzLabel ++ V.toBytes ++ A.toBytes ++ S.toBytes)
  let z := hashToScalar sha256 (zLabel ++ y.toBytes)
  (y, z)

def hashFsX (T1 T2 : Pt) : Sc :=
  hashToScalar sha256 (xLabel ++ T1.toBytes ++ T2.toBytes)

def hashFsW (tx taux mu : Sc) : Sc :=
  hashToScalar sha256 (wLabel ++ tx.toBytes ++ taux.toBytes ++ mu.toBytes)

def hashFsChallengeIp (round : Nat) (L R : Pt) : Sc :=
  hashToScalar sha256
    (ipLabel ++ [UInt8.ofNat round] ++ L.toBytes ++ R.toBytes)

theorem hashToScalar_lt (data : Bytes) : (hashToScalar sha256 data).value < l := by
  have small := U256.value_lt ((U256.ofBytes (sha256 data).1).andTop 0x0fffffffffffffff)
  have modulus : Sc.L.limbs.value = l := Sc.value_L
  have reduced : (hashToScalar sha256 data).value = _ % Sc.L.value :=
    U256.value_subWhile (small.trans (by rw [modulus]; decide))
  rw [reduced, Sc.value_L]
  exact Nat.mod_lt _ (by decide)

end Challenges

end LedgerLens.Zk
