import LedgerLens.State
import Mathlib.Data.FinEnum
import Mathlib.Data.Set.Finite.List

/-!
What statements about the contract look at: the readings of the ledger that its
storage functions return, as plain functions of the state.
-/

namespace LedgerLens

open Host

section

variable (w : State) (wallet : Address) (assetPair : Symbol)

abbrev liveScore : Option RiskScore :=
  w.ledger.entry .persistent (.score wallet assetPair)

/-- The score waiting for its finality buffer to elapse. -/
abbrev parkedScore : Option PendingScoreEntry :=
  w.ledger.entry .persistent (.pendingScore wallet assetPair)

abbrev counterpartiesOf : List Address :=
  (w.ledger.entry .persistent (.counterparties wallet assetPair)).getD []

/-- The custodian whose score stands in for the wallet's. -/
abbrev delegateOf : Option Address :=
  w.ledger.entry .persistent (.scoreDelegate wallet)

abbrev inRiskBand : Bool :=
  (w.ledger.entry .temporary (.riskBandState wallet assetPair)).getD false

abbrev frozen (w : State) : Bool := (w.ledger.entry .inst .frozen).getD false

abbrev paused (w : State) : Bool := (w.ledger.entry .inst .paused).getD false

abbrev pairPaused (w : State) (assetPair : Symbol) : Bool :=
  (w.ledger.entry .persistent (.pairPaused assetPair)).getD false

abbrev epochOpen (w : State) : Bool := (w.ledger.entry .inst .epochOpen).getD true

/-- A score hook is being called. -/
abbrev dispatching (w : State) : Bool := (w.ledger.entry .inst .dispatching).getD false

abbrev adminOf : Option Address := w.ledger.entry .inst .admin

abbrev adminSet (w : State) : List Address := (w.ledger.entry .inst .adminSet).getD []

abbrev adminThreshold (w : State) : Nat := (w.ledger.entry .inst .adminThreshold).getD 0

abbrev serviceOf : Option Address := w.ledger.entry .inst .service

end

abbrev serviceSet (w : State) : List Address := (w.ledger.entry .inst .serviceSet).getD []

abbrev serviceThreshold (w : State) : Nat := (w.ledger.entry .inst .serviceThreshold).getD 1

/-- There are finitely many symbols, so that a total over all entries makes sense. -/
instance : Finite Symbol :=
  have : Finite Char := Finite.of_injective Char.val fun _ _ same => Char.ext same
  have : Finite { chars : List Char // chars.length ≤ 32 } :=
    (List.finite_length_le Char 32).to_subtype
  Finite.of_injective
    (fun s : Symbol => (⟨s.chars, by simpa using (Bool.and_eq_true_iff.mp s.valid).1⟩ :
      { chars : List Char // chars.length ≤ 32 }))
    fun s s' same => by
      cases s
      cases s'
      cases same
      rfl

abbrev archOwner (w : State) : Option Address := w.ledger.entry .inst .archOwner

end LedgerLens
