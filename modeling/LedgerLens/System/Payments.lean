import LedgerLens.Frames
import LedgerLens.Host.Accounts
import LedgerLens.System.Footprints

/-!
Payments. Tokens are kept by other contracts; what the entry points do to the
balances is one transfer to the contract or one from it.
-/

namespace LedgerLens

open Host Host.Prog Host.Totals Storage

/-- The contract pays the recipient, or there is nothing to pay. -/
def Pays (env : ContractEnv) (token : Option Address) (recipient : Address) (amount : Int)
    (w w' : State) : Prop :=
  if amount > 0 then
    ∃ t, token = some t ∧ amount ≤ w.balance t env.self ∧
      w'.balance = (w.moved t env.self recipient amount).balance
  else w'.balance = w.balance

/-- The holder pays the contract. -/
def Receives (env : ContractEnv) (token : Option Address) (holder : Address) (amount : Int)
    (w w' : State) : Prop :=
  ∃ t, token = some t ∧ amount ≤ w.balance t holder ∧
    (holder = env.self ∨ env.signed holder = true) ∧
    w'.balance = (w.moved t holder env.self amount).balance

section Payments

variable {env : ContractEnv} {token : Option Address} {recipient holder T : Address}
  {amount : Int} {w w' : State}

theorem Receives.of_balance_eq {v : State} (same : v.balance = w.balance)
    (receives : Receives env token holder amount v w') : Receives env token holder amount w w' := by
  obtain ⟨t, isToken, enough, signed, moved⟩ := receives
  exact ⟨t, isToken, same ▸ enough, signed, moved.trans (World.moved_balance_congr same ..)⟩

end Payments

@[reducible] def Tag.isBalances : Tag → Bool
  | .balances => true
  | _ => false

end LedgerLens
