import LedgerLens.Host.Ledger

/-!
SHA-256 (FIPS 180-4), for running programs on concrete inputs. Words are natural
numbers below `2 ^ 32`.
-/

namespace Host.Sha256

def word (n : Nat) : Nat := n % 4294967296

def rotr (k x : Nat) : Nat := word (Nat.lor (Nat.shiftRight x k) (Nat.shiftLeft x (32 - k)))

def roundConstants : List Nat := [
  0x428a2f98, 0x71374491, 0xb5c0fbcf, 0xe9b5dba5, 0x3956c25b, 0x59f111f1, 0x923f82a4, 0xab1c5ed5,
  0xd807aa98, 0x12835b01, 0x243185be, 0x550c7dc3, 0x72be5d74, 0x80deb1fe, 0x9bdc06a7, 0xc19bf174,
  0xe49b69c1, 0xefbe4786, 0x0fc19dc6, 0x240ca1cc, 0x2de92c6f, 0x4a7484aa, 0x5cb0a9dc, 0x76f988da,
  0x983e5152, 0xa831c66d, 0xb00327c8, 0xbf597fc7, 0xc6e00bf3, 0xd5a79147, 0x06ca6351, 0x14292967,
  0x27b70a85, 0x2e1b2138, 0x4d2c6dfc, 0x53380d13, 0x650a7354, 0x766a0abb, 0x81c2c92e, 0x92722c85,
  0xa2bfe8a1, 0xa81a664b, 0xc24b8b70, 0xc76c51a3, 0xd192e819, 0xd6990624, 0xf40e3585, 0x106aa070,
  0x19a4c116, 0x1e376c08, 0x2748774c, 0x34b0bcb5, 0x391c0cb3, 0x4ed8aa4a, 0x5b9cca4f, 0x682e6ff3,
  0x748f82ee, 0x78a5636f, 0x84c87814, 0x8cc70208, 0x90befffa, 0xa4506ceb, 0xbef9a3f7, 0xc67178f2]

/-- The eight words the rounds work on. -/
structure Words where
  (a b c d e f g h : Nat)

def Words.initial : Words :=
  ⟨0x6a09e667, 0xbb67ae85, 0x3c6ef372, 0xa54ff53a, 0x510e527f, 0x9b05688c, 0x1f83d9ab, 0x5be0cd19⟩

def Words.add (x y : Words) : Words :=
  ⟨word (x.a + y.a), word (x.b + y.b), word (x.c + y.c), word (x.d + y.d), word (x.e + y.e),
    word (x.f + y.f), word (x.g + y.g), word (x.h + y.h)⟩

/-- One round, with the sum of its constant and its message word. -/
def round (s : Words) (kw : Nat) : Words :=
  let s1 := Nat.xor (Nat.xor (rotr 6 s.e) (rotr 11 s.e)) (rotr 25 s.e)
  let ch := Nat.xor (Nat.land s.e s.f) (Nat.land (4294967295 - s.e) s.g)
  let t1 := s.h + s1 + ch + kw
  let s0 := Nat.xor (Nat.xor (rotr 2 s.a) (rotr 13 s.a)) (rotr 22 s.a)
  let maj := Nat.xor (Nat.xor (Nat.land s.a s.b) (Nat.land s.a s.c)) (Nat.land s.b s.c)
  ⟨word (t1 + s0 + maj), s.a, s.b, s.c, word (s.d + t1), s.e, s.f, s.g⟩

/-- The next message word from those before it, the latest first. -/
def nextWord (w : List Nat) : Nat :=
  let w15 := w.getD 14 0
  let w2 := w.getD 1 0
  let s0 := Nat.xor (Nat.xor (rotr 7 w15) (rotr 18 w15)) (Nat.shiftRight w15 3)
  let s1 := Nat.xor (Nat.xor (rotr 17 w2) (rotr 19 w2)) (Nat.shiftRight w2 10)
  word (w.getD 15 0 + s0 + w.getD 6 0 + s1)

def schedule : Nat → List Nat → List Nat
  | 0, w => w
  | n + 1, w => schedule n (nextWord w :: w)

def compress (s : Words) (block : List Nat) : Words :=
  let w := (schedule 48 block.reverse).reverse
  s.add ((List.zipWith (· + ·) roundConstants w).foldl round s)

def fromBytes (bytes : Bytes) : Nat := bytes.foldl (fun n b => n * 256 + b.toNat) 0

/-- The last `k` bytes of a number, the highest first. -/
def bytesOf : Nat → Nat → Bytes
  | 0, _ => []
  | k + 1, n => UInt8.ofNat (n / 256 ^ k % 256) :: bytesOf k n

def pad (bytes : Bytes) : Bytes :=
  bytes ++ [0x80] ++ List.replicate ((119 - bytes.length % 64) % 64) 0 ++
    bytesOf 8 (8 * bytes.length)

def chunks (k : Nat) : Nat → Bytes → List Bytes
  | 0, _ => []
  | n + 1, bytes => bytes.take k :: chunks k n (bytes.drop k)

theorem length_bytesOf (k n : Nat) : (bytesOf k n).length = k := by
  induction k with
  | zero => rfl
  | succ k ih => rw [bytesOf, List.length_cons, ih]

def digest (bytes : Bytes) : BytesN 32 :=
  let padded := pad bytes
  let blocks := (chunks 64 (padded.length / 64) padded).map fun block =>
    (chunks 4 16 block).map fromBytes
  let s := blocks.foldl compress Words.initial
  ⟨[s.a, s.b, s.c, s.d, s.e, s.f, s.g, s.h].flatMap (bytesOf 4), by simp [length_bytesOf]⟩

end Host.Sha256
