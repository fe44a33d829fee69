import LedgerLens.Entry.Readers
import LedgerLens.Host.Newton

/-!
What views of the contract compute beside the scores: integer roots, which are exact
(`isqrt_exact`), and what is left of a quota.
-/

namespace LedgerLens

open Host Host.Prog Storage

/-! ### Roots -/

/-- The root of a `u64`, in `u64` arithmetic. -/
def isqrtU64 (n : Nat) : Option Nat := newtonRoot u64Bound n

/-- The root of a `u128`, in `u128` arithmetic. -/
def isqrtU128 (n : Nat) : Option Nat := newtonRoot (2 ^ 128) n

/-- Nothing overflows, and what is returned is the only number between whose square and the next
the argument lies. -/
theorem isqrt_exact (n : Nat) :
    (n < u64Bound → ∃ r, isqrtU64 n = some r ∧
      ∀ s, s * s ≤ n ∧ n < (s + 1) * (s + 1) ↔ s = r) ∧
    (n < 2 ^ 128 → ∃ r, isqrtU128 n = some r ∧
      ∀ s, s * s ≤ n ∧ n < (s + 1) * (s + 1) ↔ s = r) := by
  constructor
  · intro inside
    have found : isqrtU64 n = some n.sqrt :=
      newtonRoot_eq (max_lt inside (by decide))
    exact ⟨n.sqrt, found, fun s => Nat.eq_sqrt.symm⟩
  · intro inside
    have found : isqrtU128 n = some n.sqrt :=
      newtonRoot_eq (max_lt inside (by decide))
    exact ⟨n.sqrt, found, fun s => Nat.eq_sqrt.symm⟩

/-! ### Quotas -/

/-- The tokens a consumer could take now. -/
def remainingConsumerReadQuota (consumer : Address) : M Nat := do
  (← fetch .persistent (.consumerReadQuota consumer)).elim (pure 0) fun quota => do
    return refilledConsumerQuotaTokens quota (← now)

end LedgerLens
