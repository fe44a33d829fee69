import LedgerLens.Storage.Scores

/-!
The graph of counterparties and the contagion of risk along its edges. None of
these entry points asks for an authorisation.
-/

namespace LedgerLens

open Host Host.Prog Storage

/-! ### Links -/

abbrev getCounterparties (wallet : Address) (assetPair : Symbol) : M (List Address) :=
  fetchOr .persistent (.counterparties wallet assetPair) []

/-- Add `other` to the counterparties of `wallet`, unless it is one already. -/
def linkTo (wallet other : Address) (assetPair : Symbol) : M Unit := do
  let links ← getCounterparties wallet assetPair
  whenever (other ∉ links) do
    require (links.length < maxCounterpartyLinksPerWallet) .serviceSetFull
    store .persistent (.counterparties wallet assetPair) (links ++ [other])

def addCounterpartyLink (walletA walletB : Address) (assetPair : Symbol) : M Unit := do
  require (walletA ≠ walletB) .counterpartyLinkFull
  linkTo walletA walletB assetPair
  linkTo walletB walletA assetPair
  emit (.counterpartyLinkAdded walletA walletB assetPair)

/-- Drop `other` from the counterparties of `wallet`; says whether it was one. -/
def unlinkFrom (wallet other : Address) (assetPair : Symbol) : M Bool := do
  let links ← getCounterparties wallet assetPair
  whenever (other ∈ links) do
    let rest := links.erase other
    if rest.isEmpty then remove .persistent (.counterparties wallet assetPair)
    else store .persistent (.counterparties wallet assetPair) rest
  return other ∈ links

def removeCounterpartyLink (walletA walletB : Address) (assetPair : Symbol) : M Unit := do
  let removedA ← unlinkFrom walletA walletB assetPair
  let removedB ← unlinkFrom walletB walletA assetPair
  require (removedA || removedB) .counterpartyLinkFull
  emit (.counterpartyLinkRemoved walletA walletB assetPair)

/-! ### Contagion -/

/-- The score contagion starts from where a wallet has none. -/
def unscored (timestamp : Nat) : RiskScore where
  score := 0
  benfordFlag := false
  mlFlag := false
  timestamp := timestamp
  confidence := 0
  modelVersion := 0
  benfordScore := 0
  mlScore := 0
  networkScore := 0
  commitment := none

/-- Raise the score of one counterparty, up to 100. -/
def infect (anchor : Address) (assetPair : Symbol) (boost affected : Nat) (counterparty : Address) :
    M Nat := do
  let time ← now
  let old := (← getScore counterparty assetPair).getD (unscored time)
  let newScore := min (satAdd32 old.score boost) 100
  if newScore ≠ old.score then do
    setScore counterparty assetPair { old with score := newScore }
    emit (.contagionPropagated anchor assetPair counterparty old.score newScore)
    return affected + 1
  else
    return affected

/-- The result is the number of wallets whose score changed. -/
def propagateContagion (anchor : Address) (assetPair : Symbol) (boost : Nat) : M Nat := do
  if (← isScoreHookDispatching) then return 0
  else fold (infect anchor assetPair boost) 0 (← getCounterparties anchor assetPair)

/-! ### Footprints -/

section Footprints

variable (wallet other : Address) (assetPair : Symbol)

instance : Touches (linkTo wallet other assetPair) [.counterparties] :=
  ⟨by unfold linkTo; infer_instance⟩

instance : Touches (addCounterpartyLink wallet other assetPair) [.counterparties] :=
  ⟨by unfold addCounterpartyLink; infer_instance⟩

instance : Touches (unlinkFrom wallet other assetPair) [.counterparties] :=
  ⟨by unfold unlinkFrom; infer_instance⟩

instance : Touches (removeCounterpartyLink wallet other assetPair) [.counterparties] :=
  ⟨by unfold removeCounterpartyLink; infer_instance⟩

instance (boost affected : Nat) : Touches (infect wallet assetPair boost affected other)
    [.score, .scoreEntryIndex, .scoreEntryLastTouchedLedger] :=
  ⟨by unfold infect; infer_instance⟩

instance (boost : Nat) : Touches (propagateContagion wallet assetPair boost)
    [.score, .scoreEntryIndex, .scoreEntryLastTouchedLedger] :=
  ⟨by unfold propagateContagion; infer_instance⟩

end Footprints

end LedgerLens
