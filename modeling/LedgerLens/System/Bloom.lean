import LedgerLens.Host.Bitmap
import LedgerLens.System.Digests

/-!
The filter of high-risk wallets. The contract stores a digest of it, and whoever asks supplies
the filter itself; only a filter with the stored digest can clear a wallet. The main result is
`bloom_clears_no_member`.
-/

namespace LedgerLens

open Host

abbrev bloomFilterBits : Nat := 8192

abbrev bloomHashCount : Nat := 7

abbrev BloomFilter := BytesN 1024

section Filter

variable (hash : Bytes → BytesN 32)

section

variable (storedDigest : BytesN 32) (storedEpoch suppliedEpoch : Nat) (filter : BloomFilter)
  (walletBytes : BytesN 56)

def bloomBitIndex (i : Nat) : Nat :=
  ofBeBytes ((hash ([0x08] ++ toLeBytes 4 i ++ walletBytes.1)).1.take 4).reverse % bloomFilterBits

def bloomBits : List Nat :=
  (List.range bloomHashCount).map (bloomBitIndex hash walletBytes)

def bloomInsert : BloomFilter :=
  ⟨Bitmap.setAll filter.1 (bloomBits hash walletBytes),
    (Bitmap.length_setAll ..).trans filter.2⟩

def bloomContains : Bool :=
  (bloomBits hash walletBytes).all (Bitmap.has filter.1)

def bloomPreimage (epoch : Nat) (filter : BloomFilter) : Bytes :=
  [0x09] ++ toLeBytes 4 epoch ++ filter.1

def bloomFilterDigest (epoch : Nat) (filter : BloomFilter) : BytesN 32 :=
  hash (bloomPreimage epoch filter)

/-- Stale and forged filters clear nobody. -/
def bloomPrecheck : Bool :=
  if suppliedEpoch < storedEpoch then true
  else if bloomFilterDigest hash suppliedEpoch filter ≠ storedDigest then true
  else bloomContains hash filter walletBytes

end

/-- What the wallets are inserted into. -/
def emptyFilter : BloomFilter := ⟨List.replicate 1024 0, List.length_replicate⟩

def filterOf (wallets : List (BytesN 56)) : BloomFilter :=
  wallets.foldl (bloomInsert hash) emptyFilter

end Filter

section Bits

variable {hash : Bytes → BytesN 32}

theorem bloomBits_inside {walletBytes : BytesN 56} (filter : BloomFilter) :
    ∀ bit ∈ bloomBits hash walletBytes, bit / 8 < filter.1.length := by
  intro bit listed
  obtain ⟨i, _, rfl⟩ := List.mem_map.mp listed
  rw [filter.2]
  have : bloomBitIndex hash walletBytes i < 8192 := Nat.mod_lt _ (by decide)
  omega

theorem has_foldl_bloomInsert (wallets : List (BytesN 56)) (filter : BloomFilter) (bit : Nat) :
    Bitmap.has (wallets.foldl (bloomInsert hash) filter).1 bit = true ↔
      Bitmap.has filter.1 bit = true ∨ ∃ wallet ∈ wallets, bit ∈ bloomBits hash wallet := by
  induction wallets generalizing filter with
  | nil => simp
  | cons wallet wallets ih =>
    rw [List.foldl_cons, ih, bloomInsert, Bitmap.has_setAll (bloomBits_inside filter)]
    simp [or_assoc]

/-- The bits of a filter are those of the wallets in it. -/
theorem has_filterOf (wallets : List (BytesN 56)) (bit : Nat) :
    Bitmap.has (filterOf hash wallets).1 bit = true ↔
      ∃ wallet ∈ wallets, bit ∈ bloomBits hash wallet := by
  rw [filterOf, has_foldl_bloomInsert, emptyFilter, Bitmap.has_replicate]
  simp

theorem bloomContains_of_mem {wallets : List (BytesN 56)} {wallet : BytesN 56}
    (listed : wallet ∈ wallets) : bloomContains hash (filterOf hash wallets) wallet = true :=
  List.all_eq_true.mpr fun bit isBit => (has_filterOf wallets bit).mpr ⟨wallet, listed, isBit⟩

/-- A filter that clears a wallet has the digest that is stored. -/
theorem bloomPrecheck_false {storedDigest : BytesN 32} {storedEpoch suppliedEpoch : Nat}
    {filter : BloomFilter} {wallet : BytesN 56}
    (cleared : bloomPrecheck hash storedDigest storedEpoch suppliedEpoch filter wallet = false) :
    bloomFilterDigest hash suppliedEpoch filter = storedDigest ∧
      bloomContains hash filter wallet = false := by
  rw [bloomPrecheck] at cleared
  split at cleared
  · cases cleared
  · split at cleared
    · cases cleared
    · next same => exact ⟨not_not.mp same, cleared⟩

theorem bloomPreimage_inj {epoch epoch' : Nat} {filter filter' : BloomFilter}
    (same : bloomPreimage epoch filter = bloomPreimage epoch' filter') : filter = filter' :=
  Subtype.ext (List.append_inj' same (filter.2.trans filter'.2.symm)).2

theorem filterOf_congr {wallets wallets' : List (BytesN 56)}
    (same : ∀ wallet, wallet ∈ wallets ↔ wallet ∈ wallets') :
    filterOf hash wallets = filterOf hash wallets' := by
  refine Subtype.ext (Bitmap.ext ((filterOf hash wallets).2.trans (filterOf hash wallets').2.symm)
    fun bit => ?_)
  rw [Bool.eq_iff_iff, has_filterOf, has_filterOf]
  simp only [same]

end Bits

/-- No wallet that was inserted is cleared, whatever filter and epoch are supplied; and the filter
is a function of the set of wallets. -/
theorem bloom_clears_no_member (hash : Bytes → BytesN 32) (wallets : List (BytesN 56))
    (epoch suppliedEpoch : Nat) (filter : BloomFilter) (wallet : BytesN 56)
    (free : CollisionFree hash (bloomPreimage suppliedEpoch filter)
      (bloomPreimage epoch (filterOf hash wallets))) :
    (bloomPrecheck hash (bloomFilterDigest hash epoch (filterOf hash wallets)) epoch suppliedEpoch
      filter wallet = false → wallet ∉ wallets) ∧
      ∀ wallets', (∀ other, other ∈ wallets ↔ other ∈ wallets') →
        filterOf hash wallets = filterOf hash wallets' := by
  refine ⟨fun cleared listed => ?_, fun wallets' same => filterOf_congr same⟩
  obtain ⟨digests, absent⟩ := bloomPrecheck_false cleared
  rw [bloomPreimage_inj (free digests), bloomContains_of_mem listed] at absent
  cases absent

theorem bloom_clears_second_account :
    bloomContains Sha256.digest (filterOf Sha256.digest [(account 1).strkey]) (account 2).strkey
        = false ∧ (account 2).strkey ∉ [(account 1).strkey] := by
  have absent : bloomContains Sha256.digest (filterOf Sha256.digest [(account 1).strkey])
      (account 2).strkey = false := by decide +kernel
  refine ⟨absent, (bloom_clears_no_member Sha256.digest [(account 1).strkey] 5 5
    (filterOf Sha256.digest [(account 1).strkey]) (account 2).strkey fun _ => rfl).1 ?_⟩
  rw [bloomPrecheck, if_neg (by decide), if_neg (not_not.mpr rfl), absent]

end LedgerLens
