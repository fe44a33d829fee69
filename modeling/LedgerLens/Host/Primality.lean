import Mathlib.NumberTheory.LucasPrimality
import Mathlib.Tactic

/-!
Primes too large for trial division. A number is prime when some residue has the
order of one less than it; the order is checked with the prime factors of that,
by powers that are reduced at every step.
-/

namespace Host

/-- A power, or a multiple, by the bits of the exponent, of which there are so many. -/
def binaryPow {α : Type} (op : α → α → α) (one a : α) : Nat → Nat → α
  | 0, _ => one
  | bits + 1, e =>
    let root := binaryPow op one a bits (e / 2)
    if e % 2 = 0 then op root root else op (op root root) a

/-- By induction on the bits; `P k x` says that `x` is the power with exponent `k`. -/
theorem binaryPow_spec {α : Type} {op : α → α → α} {one a : α} {P : Nat → α → Prop}
    (isOne : P 0 one) (isBase : P 1 a) (hop : ∀ {j k x y}, P j x → P k y → P (j + k) (op x y))
    {bits e : Nat} (enough : e < 2 ^ bits) : P e (binaryPow op one a bits e) := by
  induction bits generalizing e with
  | zero =>
    have zero : e = 0 := by omega
    rwa [zero]
  | succ bits ih =>
    have root : P (e / 2) (binaryPow op one a bits (e / 2)) := ih (by omega)
    unfold binaryPow
    dsimp only
    split
    · next even =>
      have whole : e / 2 + e / 2 = e := by omega
      have square := hop root root
      rwa [whole] at square
    · next odd =>
      have whole : e / 2 + e / 2 + 1 = e := by omega
      have next := hop (hop root root) isBase
      rwa [whole] at next

/-- `a ^ e` modulo `m`. -/
def powMod (m a e : Nat) : Nat := binaryPow (fun x y => x * y % m) (1 % m) (a % m) (e.log2 + 1) e

theorem powMod_eq (m a e : Nat) : powMod m a e = a ^ e % m := by
  have isPow : ∀ {j k x y : Nat}, x = a ^ j % m → y = a ^ k % m → x * y % m = a ^ (j + k) % m := by
    rintro j k _ _ rfl rfl
    rw [← Nat.mul_mod, Nat.pow_add]
  exact binaryPow_spec (P := fun k x => x = a ^ k % m) (by simp) (by simp) isPow Nat.lt_log2_self

theorem cast_pow_eq_iff {m a b e : Nat} (small : b < m) :
    (a : ZMod m) ^ e = (b : ZMod m) ↔ powMod m a e = b := by
  rw [powMod_eq, ← Nat.cast_pow, ZMod.natCast_eq_natCast_iff', Nat.mod_eq_of_lt small]

/-- A number with a residue of the order of one less than it, and the prime factors of that. -/
structure PrimeCertificate where
  number : Nat
  root : Nat
  factors : List Nat

namespace PrimeCertificate

/-- The factors are known to be prime, and the root has the order. -/
def check (known : List Nat) (c : PrimeCertificate) : Bool :=
  1 < c.number && c.factors.all known.contains && c.factors.prod == c.number - 1 &&
    powMod c.number c.root (c.number - 1) == 1 &&
      c.factors.all fun q => powMod c.number c.root ((c.number - 1) / q) != 1

theorem check_prime {known : List Nat} {c : PrimeCertificate} (primes : ∀ q ∈ known, q.Prime)
    (checked : c.check known = true) : c.number.Prime := by
  simp only [check, Bool.and_eq_true, decide_eq_true_eq, beq_iff_eq, List.all_eq_true,
    List.contains_iff_mem, bne_iff_ne] at checked
  obtain ⟨⟨⟨⟨one_lt, areKnown⟩, product⟩, whole⟩, parts⟩ := checked
  have isOne {e : Nat} : (c.root : ZMod c.number) ^ e = 1 ↔ powMod c.number c.root e = 1 := by
    rw [← Nat.cast_one, cast_pow_eq_iff one_lt]
  refine lucas_primality c.number (c.root : ZMod c.number) (isOne.mpr whole) ?_
  intro q prime divides
  rw [← product] at divides
  obtain ⟨factor, listed, divides⟩ := (Nat.Prime.prime prime).dvd_prod_iff.mp divides
  have factorPrime := primes factor (areKnown factor listed)
  obtain rfl := (Nat.prime_dvd_prime_iff_eq prime factorPrime).mp divides
  exact isOne.not.mpr (parts q listed)

/-- Each number, once checked, may be a factor of those after it. -/
def checkAll : List Nat → List PrimeCertificate → Bool
  | _, [] => true
  | known, c :: cs => c.check known && checkAll (c.number :: known) cs

theorem checkAll_prime {known : List Nat} {cs : List PrimeCertificate}
    (primes : ∀ q ∈ known, q.Prime) (checked : checkAll known cs = true) :
    ∀ c ∈ cs, c.number.Prime := by
  induction cs generalizing known with
  | nil => exact nofun
  | cons c cs ih =>
    obtain ⟨first, rest⟩ := Bool.and_eq_true_iff.mp checked
    have prime := check_prime primes first
    have extended : ∀ q ∈ c.number :: known, q.Prime := by
      rintro q (_ | ⟨_, isKnown⟩)
      · exact prime
      · exact primes q isKnown
    rintro other (_ | ⟨_, later⟩)
    · exact prime
    · exact ih extended rest other later

end PrimeCertificate

end Host
