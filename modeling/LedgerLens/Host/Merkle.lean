import Mathlib.Data.List.Basic

/-!
Hash trees. A proof names, from a leaf upwards, the sibling at each level and the side it stands
on. Where the hash does not collide on what is hashed, and leaves and nodes are hashed from
different messages, a proof that ends at the root of a tree is the path of a leaf of that tree.
-/

namespace Host.Merkle

variable {L D M : Type}

inductive HashTree (L : Type) where
  | leaf (a : L)
  | node (left right : HashTree L)

/-- The leaves from left to right. -/
def HashTree.leaves : HashTree L → List L
  | .leaf a => [a]
  | .node left right => left.leaves ++ right.leaves

section Hashing

variable (hash : M → D) (leafMessage : L → M) (nodeMessage : D → D → M)

def root : HashTree L → D
  | .leaf a => hash (leafMessage a)
  | .node left right => hash (nodeMessage (root left) (root right))

/-- Everything that is hashed for a root. -/
def messages : HashTree L → List M
  | .leaf a => [leafMessage a]
  | .node left right =>
    nodeMessage (root hash leafMessage nodeMessage left)
      (root hash leafMessage nodeMessage right) :: (messages left ++ messages right)

/-- A sibling, and whether it stands on the left. -/
def stepMessage (current : D) (step : D × Bool) : M :=
  if step.2 then nodeMessage step.1 current else nodeMessage current step.1

def climb (start : D) (steps : List (D × Bool)) : D :=
  steps.foldl (fun current step => hash (stepMessage nodeMessage current step)) start

/-- Everything that is hashed on the way up. -/
def climbMessages : D → List (D × Bool) → List M
  | _, [] => []
  | current, step :: steps =>
    stepMessage nodeMessage current step ::
      climbMessages (hash (stepMessage nodeMessage current step)) steps

/-- The siblings on the way from a leaf to the root. -/
inductive PathTo (a : L) : HashTree L → List (D × Bool) → Prop
  | leaf : PathTo a (.leaf a) []
  | left {left right : HashTree L} {steps : List (D × Bool)} (below : PathTo a left steps) :
      PathTo a (.node left right) (steps ++ [(root hash leafMessage nodeMessage right, false)])
  | right {left right : HashTree L} {steps : List (D × Bool)} (below : PathTo a right steps) :
      PathTo a (.node left right) (steps ++ [(root hash leafMessage nodeMessage left, true)])

variable {hash leafMessage nodeMessage} {a : L} {tree : HashTree L} {steps : List (D × Bool)}

theorem climb_snoc (start : D) (step : D × Bool) :
    climb hash nodeMessage start (steps ++ [step]) =
      hash (stepMessage nodeMessage (climb hash nodeMessage start steps) step) := by
  rw [climb, List.foldl_append]
  rfl

theorem climbMessages_snoc (start : D) (step : D × Bool) :
    climbMessages hash nodeMessage start (steps ++ [step]) =
      climbMessages hash nodeMessage start steps ++
        [stepMessage nodeMessage (climb hash nodeMessage start steps) step] := by
  induction steps generalizing start with
  | nil => rfl
  | cons first steps ih =>
    rw [List.cons_append, climbMessages, climbMessages, ih]
    rfl

theorem PathTo.mem_leaves (path : PathTo hash leafMessage nodeMessage a tree steps) :
    a ∈ tree.leaves := by
  induction path with
  | leaf => exact List.mem_singleton.mpr rfl
  | left _ ih => exact List.mem_append_left _ ih
  | right _ ih => exact List.mem_append_right _ ih

/-- The path of a leaf leads to the root. -/
theorem PathTo.climb_eq (path : PathTo hash leafMessage nodeMessage a tree steps) :
    climb hash nodeMessage (hash (leafMessage a)) steps =
      root hash leafMessage nodeMessage tree := by
  induction path with
  | leaf => rfl
  | left _ ih =>
    rw [climb_snoc, ih]
    rfl
  | right _ ih =>
    rw [climb_snoc, ih]
    rfl

/-- By induction on the tree, with the last step of the proof at its root. A leaf is no node, and
a node shows its children. -/
theorem exists_pathTo
    (nodes : ∀ {x y x' y'}, nodeMessage x y = nodeMessage x' y' → x = x' ∧ y = y')
    (apart : ∀ a x y, leafMessage a ≠ nodeMessage x y)
    (free : ∀ p ∈ leafMessage a :: climbMessages hash nodeMessage (hash (leafMessage a)) steps,
      ∀ q ∈ messages hash leafMessage nodeMessage tree, hash p = hash q → p = q)
    (reached : climb hash nodeMessage (hash (leafMessage a)) steps =
      root hash leafMessage nodeMessage tree) :
    ∃ b, leafMessage a = leafMessage b ∧ PathTo hash leafMessage nodeMessage b tree steps := by
  induction tree generalizing steps with
  | leaf b =>
    rcases List.eq_nil_or_concat steps with rfl | ⟨before, step, rfl⟩
    · refine ⟨b, ?_, .leaf⟩
      exact free _ List.mem_cons_self _ (List.mem_singleton.mpr rfl) reached
    · rw [List.concat_eq_append, climb_snoc] at reached
      rw [List.concat_eq_append, climbMessages_snoc] at free
      have same := free _ (by simp) _ (List.mem_singleton.mpr rfl) reached
      unfold stepMessage at same
      split at same
      · exact absurd same.symm (apart b _ _)
      · exact absurd same.symm (apart b _ _)
  | node left right ihLeft ihRight =>
    rcases List.eq_nil_or_concat steps with rfl | ⟨before, step, rfl⟩
    · exact absurd (free _ List.mem_cons_self _ List.mem_cons_self reached) (apart a _ _)
    · rw [List.concat_eq_append, climb_snoc] at reached
      rw [List.concat_eq_append, climbMessages_snoc] at free
      rw [List.concat_eq_append]
      have same := free _ (by simp) _ List.mem_cons_self reached
      have freeBelow {child : HashTree L}
          (below : ∀ q ∈ messages hash leafMessage nodeMessage child,
            q ∈ messages hash leafMessage nodeMessage (.node left right)) :
          ∀ p ∈ leafMessage a :: climbMessages hash nodeMessage (hash (leafMessage a)) before,
            ∀ q ∈ messages hash leafMessage nodeMessage child, hash p = hash q → p = q :=
        fun p isP q isQ => free p (List.mem_append_left [_] isP) q (below q isQ)
      obtain ⟨sibling, onLeft⟩ := step
      cases onLeft with
      | true =>
        obtain ⟨rfl, isRight⟩ := nodes same
        obtain ⟨b, isLeaf, path⟩ := ihRight
          (freeBelow fun q isQ => .tail _ (List.mem_append_right _ isQ)) isRight
        exact ⟨b, isLeaf, .right path⟩
      | false =>
        obtain ⟨isLeft, rfl⟩ := nodes same
        obtain ⟨b, isLeaf, path⟩ := ihLeft
          (freeBelow fun q isQ => .tail _ (List.mem_append_left _ isQ)) isLeft
        exact ⟨b, isLeaf, .left path⟩

end Hashing

end Host.Merkle
