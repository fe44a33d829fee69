import LedgerLens.Types

/-!
Reading encodings back: an integer that fits the width of its big-endian bytes
is determined by them, and so are the parts of a string of fixed widths.
-/

namespace LedgerLens

open Host

/-- The number a big-endian byte string stands for. -/
def ofBeBytes (bytes : Bytes) : Nat := bytes.foldl (fun n byte => n * 256 + byte.toNat) 0

@[simp] theorem length_toBeBytes (width n : Nat) : (toBeBytes width n).length = width := by
  unfold toBeBytes
  rw [List.length_map, List.length_range]

theorem toBeBytes_succ (width n : Nat) :
    toBeBytes (width + 1) n = toBeBytes width (n / 256) ++ [UInt8.ofNat (n % 256)] := by
  unfold toBeBytes
  rw [List.range_succ, List.map_append]
  congr 1
  · refine List.map_congr_left fun i inside => ?_
    have isNext : width + 1 - 1 - i = (width - 1 - i) + 1 := by
      have := List.mem_range.mp inside
      omega
    rw [isNext, Nat.pow_succ', Nat.div_div_eq_div_mul]
  · simp

theorem ofBeBytes_snoc (bytes : Bytes) (byte : UInt8) :
    ofBeBytes (bytes ++ [byte]) = ofBeBytes bytes * 256 + byte.toNat := by
  unfold ofBeBytes
  rw [List.foldl_append, List.foldl_cons, List.foldl_nil]

theorem ofBeBytes_toBeBytes (width n : Nat) : ofBeBytes (toBeBytes width n) = n % 256 ^ width := by
  induction width generalizing n with
  | zero => rw [Nat.pow_zero, Nat.mod_one]; rfl
  | succ width ih =>
    have digit : (UInt8.ofNat (n % 256)).toNat = n % 256 := by simp
    rw [toBeBytes_succ, ofBeBytes_snoc, ih, digit, Nat.pow_succ', Nat.mod_mul, Nat.add_comm,
      Nat.mul_comm]

theorem toBeBytes_inj {width a b : Nat} (aFits : a < 256 ^ width) (bFits : b < 256 ^ width)
    (same : toBeBytes width a = toBeBytes width b) : a = b := by
  have read := congrArg ofBeBytes same
  rwa [ofBeBytes_toBeBytes, ofBeBytes_toBeBytes, Nat.mod_eq_of_lt aFits, Nat.mod_eq_of_lt bFits]
    at read

theorem toBeBytes_ofBeBytes (bytes : Bytes) : toBeBytes bytes.length (ofBeBytes bytes) = bytes := by
  induction bytes using List.reverseRecOn with
  | nil => rfl
  | append_singleton bytes byte ih =>
    have lt : byte.toNat < 256 := byte.toNat_lt
    have high : (ofBeBytes bytes * 256 + byte.toNat) / 256 = ofBeBytes bytes := by omega
    have low : (ofBeBytes bytes * 256 + byte.toNat) % 256 = byte.toNat := by omega
    rw [List.length_append, List.length_singleton, toBeBytes_succ, ofBeBytes_snoc, high, low, ih,
      UInt8.ofNat_toNat]

@[simp] theorem length_toLeBytes (width n : Nat) : (toLeBytes width n).length = width := by
  rw [toLeBytes, List.length_reverse, length_toBeBytes]

theorem toLeBytes_inj {width a b : Nat} (aFits : a < 256 ^ width) (bFits : b < 256 ^ width)
    (same : toLeBytes width a = toLeBytes width b) : a = b :=
  toBeBytes_inj aFits bFits (List.reverse_injective same)

/-- Records of one width can be told apart in the string they are written to. -/
theorem flatMap_inj_of_width {α : Type} {encode : α → Bytes} {width : Nat} (positive : 0 < width)
    (fixed : ∀ a, (encode a).length = width) {as bs : List α}
    (injective : ∀ a ∈ as, ∀ b ∈ bs, encode a = encode b → a = b)
    (same : as.flatMap encode = bs.flatMap encode) : as = bs := by
  have nonempty (a : α) (rest : Bytes) : encode a ++ rest ≠ [] := fun empty => by
    have := congrArg List.length empty
    rw [List.length_append, fixed, List.length_nil] at this
    omega
  induction as generalizing bs with
  | nil =>
    cases bs with
    | nil => rfl
    | cons b bs => exact absurd same.symm (nonempty b _)
  | cons a as ih =>
    cases bs with
    | nil => exact absurd same (nonempty a _)
    | cons b bs =>
      obtain ⟨first, rest⟩ := List.append_inj same ((fixed a).trans (fixed b).symm)
      have isSame := injective a List.mem_cons_self b List.mem_cons_self first
      rw [isSame, ih (fun a inAs b inBs =>
        injective a (List.mem_cons_of_mem _ inAs) b (List.mem_cons_of_mem _ inBs)) rest]

end LedgerLens
