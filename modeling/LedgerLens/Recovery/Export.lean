import Mathlib.Data.List.Basic
import Std.Data.ExtTreeMap

/-!
Score exports of the recovery tool. An export is a list of entries; indexed by
wallet and pair it becomes an ordered map, in which every entry stands under its
own key.
-/

namespace LedgerLens.Recovery

/-! ### Failures -/

/-- The reasons for which the commands give up. Roots and hashes are of the type
`Digest`. -/
inductive Failure (Digest : Type) where
  | reading (text : String)
  | decoding (text : String)
  | removing (path : String)
  | preserving (path : String)
  | replacing (path : String)
  | batchSizeRange
  | duplicateExportKey (wallet assetPair : String)
  | unsupportedVersion (version : Nat)
  | planHashMismatch
  | duplicateApproval (operator : String)
  | untrustedOperator (operator : String)
  | invalidHex
  | untrustedKey (operator : String)
  | repeatedKey
  | keyLength
  | invalidKey
  | invalidSignature
  | wrongSignature (operator : String)
  | tooFewApprovals
  | otherPlan
  | batchIndexExceedsPlan
  | rootMismatchAtEnd
  | liveStateDiverges
  | baseRootMismatch
  | batchTooLarge (index : Nat)
  | postcondition (effect : String)
  | finalRootMismatch (actual approved : Digest)
  deriving DecidableEq

/-! ### Entries -/

structure ExportableScoreEntry where
  wallet : String
  assetPair : String
  score : Nat
  benfordFlag : Bool
  mlFlag : Bool
  timestamp : Nat
  confidence : Nat
  modelVersion : Nat
  benfordScore : Nat
  mlScore : Nat
  networkScore : Nat
  deriving DecidableEq

abbrev EntryKey := String × String

def ExportableScoreEntry.key (entry : ExportableScoreEntry) : EntryKey :=
  (entry.wallet, entry.assetPair)

/-- Keys are ordered by wallet, then by pair. -/
def compareKeys : EntryKey → EntryKey → Ordering :=
  compareLex (compareOn Prod.fst) (compareOn Prod.snd)

instance : Std.TransCmp compareKeys :=
  inferInstanceAs (Std.TransCmp (compareLex (compareOn Prod.fst) (compareOn Prod.snd)))

instance : Std.LawfulEqCmp compareKeys where
  eq_of_compare {a b} same := by
    simp [compareKeys, compareLex, compareOn] at same
    exact Prod.ext same.1 same.2

theorem compareKeys_eq_iff {a b : EntryKey} : compareKeys a b = .eq ↔ a = b := by
  constructor
  · exact Std.LawfulEqCmp.eq_of_compare
  · rintro rfl
    exact Std.ReflCmp.compare_self

/-- Maps of entries, each of them under its own key. -/
structure EntryMap where
  map : Std.ExtTreeMap EntryKey ExportableScoreEntry compareKeys
  keyed : ∀ (key : EntryKey) (entry : ExportableScoreEntry), map[key]? = some entry →
    entry.key = key

namespace EntryMap

def get? (entries : EntryMap) (key : EntryKey) : Option ExportableScoreEntry := entries.map[key]?

@[ext] theorem ext {entries entries' : EntryMap}
    (same : ∀ key, entries.get? key = entries'.get? key) : entries = entries' := by
  obtain ⟨map, keyed⟩ := entries
  obtain ⟨map', keyed'⟩ := entries'
  congr
  exact Std.ExtTreeMap.ext_getElem? same

theorem key_of_get? {entries : EntryMap} {key : EntryKey} {entry : ExportableScoreEntry}
    (held : entries.get? key = some entry) : entry.key = key :=
  entries.keyed key entry held

def empty : EntryMap := ⟨∅, by simp⟩

@[simp] theorem get?_empty (key : EntryKey) : empty.get? key = none :=
  Std.ExtTreeMap.getElem?_empty

private theorem getElem?_insert {entries : EntryMap} {entry : ExportableScoreEntry}
    (key : EntryKey) : (entries.map.insert entry.key entry)[key]? =
      if entry.key = key then some entry else entries.map[key]? := by
  rw [Std.ExtTreeMap.getElem?_insert]
  simp only [compareKeys_eq_iff]

def insert (entries : EntryMap) (entry : ExportableScoreEntry) : EntryMap where
  map := entries.map.insert entry.key entry
  keyed key other held := by
    rw [getElem?_insert] at held
    split at held
    · cases held
      assumption
    · exact entries.keyed key other held

theorem get?_insert (entries : EntryMap) (entry : ExportableScoreEntry) (key : EntryKey) :
    (entries.insert entry).get? key = if entry.key = key then some entry else entries.get? key :=
  getElem?_insert key

private theorem getElem?_erase {entries : EntryMap} {key : EntryKey} (other : EntryKey) :
    (entries.map.erase key)[other]? = if key = other then none else entries.map[other]? := by
  rw [Std.ExtTreeMap.getElem?_erase]
  simp only [compareKeys_eq_iff]

def remove (entries : EntryMap) (key : EntryKey) : EntryMap where
  map := entries.map.erase key
  keyed other entry held := by
    rw [getElem?_erase] at held
    split at held
    · cases held
    · exact entries.keyed other entry held

theorem get?_remove (entries : EntryMap) (key other : EntryKey) :
    (entries.remove key).get? other = if key = other then none else entries.get? other :=
  getElem?_erase other

/-- The entries in the order of their keys. -/
def values (entries : EntryMap) : List ExportableScoreEntry := entries.map.toList.map Prod.snd

theorem mem_values {entries : EntryMap} {entry : ExportableScoreEntry} :
    entry ∈ entries.values ↔ entries.get? entry.key = some entry := by
  unfold values get?
  rw [List.mem_map]
  constructor
  · rintro ⟨⟨key, entry⟩, listed, rfl⟩
    have held := Std.ExtTreeMap.mem_toList_iff_getElem?_eq_some.mp listed
    obtain rfl := entries.keyed key entry held
    exact held
  · intro held
    exact ⟨(entry.key, entry), Std.ExtTreeMap.mem_toList_iff_getElem?_eq_some.mpr held, rfl⟩

end EntryMap

/-! ### Indexing -/

section Index

variable {Digest : Type}

def indexInto (indexed : EntryMap) :
    List ExportableScoreEntry → Except (Failure Digest) EntryMap
  | [] => .ok indexed
  | entry :: rest =>
    if (indexed.get? entry.key).isSome then
      .error (.duplicateExportKey entry.wallet entry.assetPair)
    else indexInto (indexed.insert entry) rest

/-- Index the entries of an export; no key may come twice. -/
def indexExport (entries : List ExportableScoreEntry) : Except (Failure Digest) EntryMap :=
  indexInto .empty entries

/-- The first entry of the list under the key. -/
abbrev lookup (entries : List ExportableScoreEntry) (key : EntryKey) :
    Option ExportableScoreEntry :=
  entries.find? fun entry => entry.key = key

theorem lookup_values (entries : EntryMap) (key : EntryKey) :
    lookup entries.values key = entries.get? key := by
  cases found : lookup entries.values key with
  | none =>
    cases held : entries.get? key with
    | none => rfl
    | some entry =>
      obtain rfl := EntryMap.key_of_get? held
      have missing := List.find?_eq_none.mp found entry (EntryMap.mem_values.mpr held)
      simp at missing
  | some entry =>
    have listed := EntryMap.mem_values.mp (List.mem_of_find?_eq_some found)
    have isKey : entry.key = key := by simpa using List.find?_some found
    rw [← isKey, listed]

theorem values_injective : Function.Injective EntryMap.values := by
  intro entries entries' same
  ext1 key
  rw [← lookup_values, same, lookup_values]

end Index

end LedgerLens.Recovery
