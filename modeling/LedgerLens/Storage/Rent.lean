import LedgerLens.Host.Queue
import LedgerLens.Storage.Scores

/-!
Proactive renewal of score entries (`storage.rs`). A contract cannot ask how long
an entry still lives, so the ledger in which it was last touched is recorded, and
what is left is estimated from that.
-/

namespace LedgerLens.Storage

open Host Host.Prog

abbrev getScoreEntryIndex : M (List Entry) := fetchOr .persistent .scoreEntryIndex []

/-- Ledgers since the entry was last touched; none if it never was. -/
def ledgersSinceTouch (wallet : Address) (assetPair : Symbol) : M (Option Nat) := do
  let lastTouched ← fetch .persistent (.scoreEntryLastTouchedLedger wallet assetPair)
  let sequence ← ledgerSequence
  return lastTouched.map fun last => sequence - last

def estimateEntryTtl (wallet : Address) (assetPair : Symbol) : M (Option Nat) := do
  return (← ledgersSinceTouch wallet assetPair).map fun elapsed => scoreTtlThreshold - elapsed

/-- The scan stops when it has enough, or at the first entry that is not due. -/
def scanExpiring (capped : Nat) (result : List Entry) :
    List Entry → M (List Entry)
  | [] => return result
  | entry :: rest => do
      if result.length ≥ capped then return result
      else
        match ← ledgersSinceTouch entry.1 entry.2 with
        | some elapsed =>
          if elapsed ≥ scoreTtlThreshold then scanExpiring capped (result ++ [entry]) rest
          else return result
        | none => return result

def getExpiringEntries (maxEntries : Nat) : M (List Entry) := do
  let index ← getScoreEntryIndex
  scanExpiring (min maxEntries maxExpiringEntriesPerCall) [] index

/-- Add the entry, with its age, if it is due. -/
def collectDue (due : List (Nat × Entry)) (entry : Entry) : M (List (Nat × Entry)) := do
  match ← ledgersSinceTouch entry.1 entry.2 with
  | some elapsed => return if elapsed ≥ scoreTtlThreshold then due ++ [(elapsed, entry)] else due
  | none => return due

/-- The function before the index was kept as a queue: all entries are looked at,
and those that are due are sorted by selection. -/
def getExpiringEntriesFullScanBaseline (maxEntries : Nat) : M (List Entry) := do
  let index ← getScoreEntryIndex
  let due ← fold collectDue [] index
  let take := min (min maxEntries maxExpiringEntriesPerCall) due.length
  return (selectMax Prod.fst take due).map Prod.snd

end LedgerLens.Storage
