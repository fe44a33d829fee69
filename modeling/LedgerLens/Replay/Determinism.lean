import Mathlib.Data.List.Dedup
import Mathlib.Data.List.Lookmap

/-!
Comparing what two versions of the host make of the same input. The comparison lists the
differences it finds, and calls the input deterministic when it has noted no divergence; a key or
an event that only one of the results has is a difference, and no divergence. The main result is
`compareResults_right_iff`.
-/

namespace LedgerLens.Replay

inductive DeterminismError where
  | stateDivergence (hostVersionA hostVersionB key valueA valueB : String)
  | eventDivergence (hostVersionA hostVersionB : String) (index : Nat) (eventA eventB : String)
  | errorCodeDivergence (hostVersionA hostVersionB : String) (errorA errorB : Nat)
  | executionDivergence (hostVersionA hostVersionB reason : String)
  | invalidComparison (reason : String)
  deriving DecidableEq

/-- A snapshot is a hash map; here it is the list of its entries. -/
structure HostVersionResult where
  hostVersion : String
  acceptedCount : Nat
  rejectedCount : Nat
  stateSnapshot : List (String × String)
  events : List String
  errorCode : Option Nat

structure StateDifference where
  key : String
  valueA : Option String
  valueB : Option String

structure EventDifference where
  index : Nat
  eventA : Option String
  eventB : Option String

structure DeterminismComparison where
  hostVersionA : String
  hostVersionB : String
  isDeterministic : Bool
  divergences : List DeterminismError
  stateDifferences : List StateDifference
  eventDifferences : List EventDifference

section Comparison

variable (a b : HostVersionResult)

def countDivergences : List DeterminismError :=
  if a.acceptedCount ≠ b.acceptedCount ∨ a.rejectedCount ≠ b.rejectedCount then
    [.executionDivergence a.hostVersion b.hostVersion
      ("Acceptance counts differ: (" ++ toString a.acceptedCount ++ ", " ++
        toString a.rejectedCount ++ ") vs (" ++ toString b.acceptedCount ++ ", " ++
        toString b.rejectedCount ++ ")")]
  else []

def errorCodeDivergences : List DeterminismError :=
  if a.errorCode ≠ b.errorCode then
    match a.errorCode, b.errorCode with
    | some ea, some eb => [.errorCodeDivergence a.hostVersion b.hostVersion ea eb]
    | _, _ => [.executionDivergence a.hostVersion b.hostVersion
        "One version failed, the other succeeded"]
  else []

/-- Two values that differ are a divergence when both are there. -/
def divergenceOf (report : String → String → DeterminismError) :
    Option String → Option String → List DeterminismError
  | some va, some vb => if va ≠ vb then [report va vb] else []
  | _, _ => []

/-- The keys of either snapshot; the order of a hash set is not specified. -/
def allKeys : List String :=
  ((a.stateSnapshot ++ b.stateSnapshot).map Prod.fst).dedup

def maxEvents : Nat := max a.events.length b.events.length

def compareResults : DeterminismComparison :=
  let divergences := countDivergences a b ++ errorCodeDivergences a b ++
    ((allKeys a b).flatMap fun key =>
      divergenceOf (.stateDivergence a.hostVersion b.hostVersion key)
        (a.stateSnapshot.lookup key) (b.stateSnapshot.lookup key)) ++
    (List.range (maxEvents a b)).flatMap fun i =>
      divergenceOf (.eventDivergence a.hostVersion b.hostVersion i) a.events[i]? b.events[i]?
  { hostVersionA := a.hostVersion
    hostVersionB := b.hostVersion
    isDeterministic := divergences.isEmpty
    divergences
    stateDifferences :=
      ((allKeys a b).filter fun key =>
        a.stateSnapshot.lookup key ≠ b.stateSnapshot.lookup key).map fun key =>
          ⟨key, a.stateSnapshot.lookup key, b.stateSnapshot.lookup key⟩
    eventDifferences :=
      ((List.range (maxEvents a b)).filter fun i => a.events[i]? ≠ b.events[i]?).map fun i =>
        ⟨i, a.events[i]?, b.events[i]?⟩ }

/-! ### What is found -/

/-- The results are the same, the snapshots as maps. -/
structure SameResult : Prop where
  accepted : a.acceptedCount = b.acceptedCount
  rejected : a.rejectedCount = b.rejectedCount
  errorCode : a.errorCode = b.errorCode
  state : ∀ key, a.stateSnapshot.lookup key = b.stateSnapshot.lookup key
  events : a.events = b.events

/-- The results agree in the counts, the error code, and in every key and event both have. -/
structure AgreeWhereShared : Prop where
  accepted : a.acceptedCount = b.acceptedCount
  rejected : a.rejectedCount = b.rejectedCount
  errorCode : a.errorCode = b.errorCode
  state : ∀ key va vb, a.stateSnapshot.lookup key = some va → b.stateSnapshot.lookup key = some vb →
    va = vb
  events : ∀ (i : Nat) ea eb, a.events[i]? = some ea → b.events[i]? = some eb → ea = eb

/-- The snapshots have the same keys, and there are as many events. -/
structure SameShape : Prop where
  keys : ∀ key, (a.stateSnapshot.lookup key).isSome = (b.stateSnapshot.lookup key).isSome
  events : a.events.length = b.events.length

end Comparison

section Found

variable {a b : HostVersionResult}

theorem divergenceOf_eq_nil_iff {report : String → String → DeterminismError}
    {va vb : Option String} :
    divergenceOf report va vb = [] ↔ ∀ x y, va = some x → vb = some y → x = y := by
  cases va with
  | none => simp [divergenceOf]
  | some x =>
    cases vb with
    | none => simp [divergenceOf]
    | some y => simp [divergenceOf]

theorem countDivergences_eq_nil_iff : countDivergences a b = [] ↔
    a.acceptedCount = b.acceptedCount ∧ a.rejectedCount = b.rejectedCount := by
  unfold countDivergences
  split
  · next differ => exact iff_of_false (List.cons_ne_nil _ _) (by omega)
  · next same => exact iff_of_true rfl (by omega)

theorem errorCodeDivergences_eq_nil_iff :
    errorCodeDivergences a b = [] ↔ a.errorCode = b.errorCode := by
  unfold errorCodeDivergences
  split
  · next differ =>
    refine iff_of_false ?_ differ
    split <;> exact List.cons_ne_nil _ _
  · next same => exact iff_of_true rfl (not_not.mp same)

theorem mem_keys_of_lookup {key va : String} {entries : List (String × String)}
    (found : entries.lookup key = some va) : key ∈ entries.map Prod.fst := by
  induction entries with
  | nil => cases found
  | cons entry rest ih =>
    rw [List.lookup_cons] at found
    rw [List.map_cons]
    split at found
    · next same => exact beq_iff_eq.mp same ▸ List.mem_cons_self
    · exact List.mem_cons_of_mem _ (ih found)

/-- A divergence is noted exactly where both results have something and it differs. -/
theorem isDeterministic_iff :
    (compareResults a b).isDeterministic = true ↔ AgreeWhereShared a b := by
  simp only [compareResults, List.isEmpty_iff, List.append_eq_nil_iff, List.flatMap_eq_nil_iff,
    divergenceOf_eq_nil_iff, countDivergences_eq_nil_iff, errorCodeDivergences_eq_nil_iff]
  constructor
  · rintro ⟨⟨⟨⟨accepted, rejected⟩, errorCode⟩, state⟩, events⟩
    refine ⟨accepted, rejected, errorCode, fun key va vb isA isB => ?_, fun i ea eb isA isB => ?_⟩
    · refine state key ?_ va vb isA isB
      rw [allKeys, List.mem_dedup, List.map_append]
      exact List.mem_append_left _ (mem_keys_of_lookup isA)
    · refine events i ?_ ea eb isA isB
      rw [List.mem_range, maxEvents]
      exact Nat.lt_of_lt_of_le (List.getElem?_eq_some_iff.mp isA).1 (Nat.le_max_left ..)
  · rintro ⟨accepted, rejected, errorCode, state, events⟩
    exact ⟨⟨⟨⟨accepted, rejected⟩, errorCode⟩, fun key _ => state key⟩, fun i _ => events i⟩

/-- Two maps, or lists, are the same that have the same keys and agree on them. -/
theorem eq_of_shared {va vb : Option String} (shape : va.isSome = vb.isSome)
    (shared : ∀ x y, va = some x → vb = some y → x = y) : va = vb := by
  cases va with
  | none => exact (Option.not_isSome_iff_eq_none.mp (shape ▸ Bool.false_ne_true)).symm
  | some x =>
    obtain ⟨y, rfl⟩ := Option.isSome_iff_exists.mp shape.symm
    rw [shared x y rfl rfl]

theorem sameResult_iff : SameResult a b ↔ AgreeWhereShared a b ∧ SameShape a b := by
  constructor
  · rintro ⟨accepted, rejected, errorCode, state, events⟩
    refine ⟨⟨accepted, rejected, errorCode, fun key va vb isA isB => ?_, fun i ea eb isA isB => ?_⟩,
      fun key => congrArg Option.isSome (state key), congrArg List.length events⟩
    · exact Option.some.inj (isA.symm.trans ((state key).trans isB))
    · exact Option.some.inj (isA.symm.trans ((congrArg (·[i]?) events).trans isB))
  · rintro ⟨⟨accepted, rejected, errorCode, state, events⟩, ⟨keys, lengths⟩⟩
    refine ⟨accepted, rejected, errorCode, fun key => eq_of_shared (keys key) (state key),
      List.ext_getElem? fun i => eq_of_shared ?_ (events i)⟩
    rw [Bool.eq_iff_iff, Option.isSome_iff_ne_none, Option.isSome_iff_ne_none]
    simp [lengths]

end Found

/-- The verdict is right unless the results agree where both have something, and one of them has a
key or an event more. -/
theorem compareResults_right_iff (a b : HostVersionResult) :
    ((compareResults a b).isDeterministic = true ↔ SameResult a b) ↔
      (AgreeWhereShared a b → SameShape a b) := by
  rw [isDeterministic_iff, sameResult_iff]
  exact ⟨fun right shared => (right.mp shared).2, fun shape =>
    ⟨fun shared => ⟨shared, shape shared⟩, And.left⟩⟩

def sampleResult (stateSnapshot : List (String × String)) : HostVersionResult where
  hostVersion := "21"
  acceptedCount := 1
  rejectedCount := 0
  stateSnapshot := stateSnapshot
  events := []
  errorCode := none

/-- A key that only one host has written. -/
theorem missing_key_is_deterministic :
    (compareResults (sampleResult [("score", "40")]) (sampleResult [])).isDeterministic = true ∧
      ¬ SameResult (sampleResult [("score", "40")]) (sampleResult []) := by
  refine ⟨by decide, fun same => ?_⟩
  have := same.state "score"
  revert this
  decide

end LedgerLens.Replay
