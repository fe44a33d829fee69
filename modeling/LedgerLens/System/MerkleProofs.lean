import LedgerLens.Host.Merkle
import LedgerLens.System.Digests

/-!
Proofs that a score belongs to a signed batch. The contract hashes its way up from the leaf of
the score; a proof that it accepts is the path of that score in the tree whose root was signed.
The main result is `merkleProof_sound_complete`.
-/

namespace LedgerLens

open Host Host.Prog Host.Merkle

/-- A submission that has a leaf: its pair is short enough for the commitment. -/
structure LeafSubmission where
  sub : ScoreSubmission
  typed : sub.Typed
  short : sub.assetPair.bytes.length ≤ 9

section Messages

variable (env : ContractEnv)

/-- What the commitment of a leaf is computed from. -/
def commitmentPreimage (s : LeafSubmission) : Bytes := singlePreimage env s.sub zero32 0

def leafPreimage (s : LeafSubmission) : Bytes :=
  [0x00] ++ (env.crypto.sha256 (commitmentPreimage env s)).1

def nodePreimage (left right : BytesN 32) : Bytes := [0x01] ++ left.1 ++ right.1

abbrev treeRoot (tree : HashTree LeafSubmission) : BytesN 32 :=
  root env.crypto.sha256 (leafPreimage env) nodePreimage tree

abbrev IsPath (s : LeafSubmission) (tree : HashTree LeafSubmission)
    (steps : List (BytesN 32 × Bool)) : Prop :=
  PathTo env.crypto.sha256 (leafPreimage env) nodePreimage s tree steps

/-- The root of a tree as the contract's functions compute it. -/
def buildTree : HashTree LeafSubmission → M (BytesN 32)
  | .leaf s => computeMerkleLeaf s.sub
  | .node left right => do
      let leftRoot ← buildTree left
      let rightRoot ← buildTree right
      hashInternalNode leftRoot rightRoot false

/-- The siblings of a proof, each with its side. -/
def stepsOf (proof : List (BytesN 32)) (proofFlags : Nat) : List (BytesN 32 × Bool) :=
  proof.zipIdx.map fun step => (step.1, decide (proofFlags / 2 ^ step.2 % 2 = 1))

/-- Everything that is hashed for a tree, and for the check of a proof. -/
def treePreimages (tree : HashTree LeafSubmission) : List Bytes :=
  tree.leaves.map (commitmentPreimage env) ++
    messages env.crypto.sha256 (leafPreimage env) nodePreimage tree

def proofPreimages (s : LeafSubmission) (steps : List (BytesN 32 × Bool)) : List Bytes :=
  commitmentPreimage env s :: leafPreimage env s ::
    climbMessages env.crypto.sha256 nodePreimage (env.crypto.sha256 (leafPreimage env s)) steps

end Messages

section Runs

variable (env : ContractEnv) (w : State)

theorem computeMerkleLeaf_run (s : LeafSubmission) :
    computeMerkleLeaf s.sub env w = .ok (env.crypto.sha256 (leafPreimage env s)) w := by
  have short : (require (s.sub.assetPair.bytes.length ≤ 9) .invalidAttestation : M Unit) env w =
      .ok () w := by
    rw [decide_eq_true s.short]
    rfl
  have commitment : scoreCommitment s.sub zero32 0 env w =
      .ok (env.crypto.sha256 (commitmentPreimage env s)) w := by
    rw [scoreCommitment, computeCommitment, run_bind_of_ok short]
    rfl
  rw [computeMerkleLeaf, run_bind_of_ok commitment]
  rfl

theorem buildTree_run (tree : HashTree LeafSubmission) :
    buildTree tree env w = .ok (treeRoot env tree) w := by
  induction tree with
  | leaf s => exact computeMerkleLeaf_run env w s
  | node left right ihLeft ihRight =>
    rw [buildTree, run_bind_of_ok ihLeft, run_bind_of_ok ihRight]
    rfl

/-- The loop climbs, one step after the other. -/
theorem fold_hashInternalNode (proofFlags : Nat) (steps : List (BytesN 32 × Nat))
    (current : BytesN 32) :
    fold (fun current step => hashInternalNode current step.1 (proofFlags / 2 ^ step.2 % 2 = 1))
        current steps env w =
      .ok (climb env.crypto.sha256 nodePreimage current
        (steps.map fun step => (step.1, decide (proofFlags / 2 ^ step.2 % 2 = 1)))) w := by
  induction steps generalizing current with
  | nil => rfl
  | cons step steps ih =>
    have hashed : hashInternalNode current step.1 (proofFlags / 2 ^ step.2 % 2 = 1) env w =
        .ok (env.crypto.sha256 (stepMessage nodePreimage current
          (step.1, decide (proofFlags / 2 ^ step.2 % 2 = 1)))) w := by
      unfold hashInternalNode stepMessage
      split <;> rfl
    rw [fold, run_bind_of_ok hashed, ih]
    rfl

theorem verifyMerkleProof_run (leaf root : BytesN 32) (proof : List (BytesN 32))
    (proofFlags : Nat) :
    verifyMerkleProof leaf proof proofFlags root env w =
      .ok (decide (proof.length ≤ maxMerkleProofDepth ∧
        climb env.crypto.sha256 nodePreimage leaf (stepsOf proof proofFlags) = root)) w := by
  unfold verifyMerkleProof
  split
  · next deep =>
    rw [decide_eq_false (by omega)]
    rfl
  · next shallow =>
    rw [run_bind_of_ok (fold_hashInternalNode env w proofFlags proof.zipIdx leaf)]
    have within : proof.length ≤ maxMerkleProofDepth := by omega
    simp only [within, true_and]
    rfl

end Runs

/-! ### Flags -/

/-- The flags with these bits, the first the lowest. -/
def flagsOf : List Bool → Nat
  | [] => 0
  | onLeft :: rest => onLeft.toNat + 2 * flagsOf rest

theorem flagsOf_lt (sides : List Bool) : flagsOf sides < 2 ^ sides.length := by
  induction sides with
  | nil => decide
  | cons onLeft sides ih =>
    have := Bool.toNat_le onLeft
    rw [flagsOf, List.length_cons, Nat.pow_succ]
    omega

theorem stepsOf_cons (sibling : BytesN 32) (proof : List (BytesN 32)) (proofFlags : Nat) :
    stepsOf (sibling :: proof) proofFlags =
      (sibling, decide (proofFlags % 2 = 1)) :: stepsOf proof (proofFlags / 2) := by
  unfold stepsOf
  rw [List.zipIdx_cons']
  simp only [List.map_cons, List.map_map, Nat.pow_zero, Nat.div_one]
  congr 1
  refine List.map_congr_left fun step _ => ?_
  simp only [Function.comp_apply, Prod.map_fst, Prod.map_snd, id_eq, Nat.pow_succ',
    Nat.div_div_eq_div_mul]

/-- Every path has flags. -/
theorem stepsOf_flagsOf (steps : List (BytesN 32 × Bool)) :
    stepsOf (steps.map Prod.fst) (flagsOf (steps.map Prod.snd)) = steps := by
  induction steps with
  | nil => rfl
  | cons step steps ih =>
    obtain ⟨sibling, onLeft⟩ := step
    have low : decide ((onLeft.toNat + 2 * flagsOf (steps.map Prod.snd)) % 2 = 1) = onLeft := by
      cases onLeft <;> simp
    have high : (onLeft.toNat + 2 * flagsOf (steps.map Prod.snd)) / 2 =
        flagsOf (steps.map Prod.snd) := by
      have := Bool.toNat_le onLeft
      omega
    rw [List.map_cons, List.map_cons, flagsOf, stepsOf_cons, low, high, ih]

/-! ### What a proof shows -/

theorem nodePreimage_inj {x y x' y' : BytesN 32} (same : nodePreimage x y = nodePreimage x' y') :
    x = x' ∧ y = y' := by
  obtain ⟨first, second⟩ := List.append_inj' same (y.2.trans y'.2.symm)
  exact ⟨Subtype.ext (List.append_inj first rfl).2, Subtype.ext second⟩

theorem leafPreimage_ne_nodePreimage (env : ContractEnv) (s : LeafSubmission) (x y : BytesN 32) :
    leafPreimage env s ≠ nodePreimage x y := by
  intro same
  have first := congrArg List.head? same
  revert first
  simp [leafPreimage, nodePreimage]

theorem LeafSubmission.ext {s t : LeafSubmission} (same : s.sub = t.sub) : s = t := by
  cases s
  cases t
  cases same
  rfl

/-- An accepted proof is a path, where the hash does not collide on what the tree and the proof
are hashed from; and the path of every leaf that is not too deep is accepted, with the flags that
belong to it. -/
theorem merkleProof_sound_complete (env : ContractEnv) (w : State) (tree : HashTree LeafSubmission)
    (s : LeafSubmission) :
    ∃ root leaf, buildTree tree env w = .ok root w ∧ computeMerkleLeaf s.sub env w = .ok leaf w ∧
      (∀ proof proofFlags,
        (∀ p ∈ proofPreimages env s (stepsOf proof proofFlags), ∀ q ∈ treePreimages env tree,
          CollisionFree env.crypto.sha256 p q) →
        verifyMerkleProof leaf proof proofFlags root env w = .ok true w →
        s ∈ tree.leaves ∧ IsPath env s tree (stepsOf proof proofFlags)) ∧
      ∀ steps, IsPath env s tree steps → steps.length ≤ maxMerkleProofDepth →
        (∃ proofFlags < u32Bound, stepsOf (steps.map Prod.fst) proofFlags = steps) ∧
        ∀ proofFlags, stepsOf (steps.map Prod.fst) proofFlags = steps →
          verifyMerkleProof leaf (steps.map Prod.fst) proofFlags root env w = .ok true w := by
  refine ⟨_, _, buildTree_run env w tree, computeMerkleLeaf_run env w s, ?_, ?_⟩
  · intro proof proofFlags free accepted
    rw [verifyMerkleProof_run] at accepted
    have reached := (of_decide_eq_true (Outcome.ok.inj accepted).1).2
    obtain ⟨t, isLeaf, path⟩ := exists_pathTo nodePreimage_inj (leafPreimage_ne_nodePreimage env)
      (fun p isP q isQ => free p (.tail _ isP) q (List.mem_append_right _ isQ)) reached
    have listed := path.mem_leaves
    have sameCommitment : env.crypto.sha256 (commitmentPreimage env s) =
        env.crypto.sha256 (commitmentPreimage env t) :=
      Subtype.ext (List.append_inj isLeaf rfl).2
    have samePreimage := free _ List.mem_cons_self _
      (List.mem_append_left _ (List.mem_map_of_mem listed)) sameCommitment
    have same := (singlePreimage_inj s.typed t.typed (by decide) (by decide) s.short t.short
      samePreimage).1
    rw [LeafSubmission.ext same]
    exact ⟨listed, path⟩
  · intro steps path shallow
    refine ⟨⟨flagsOf (steps.map Prod.snd), ?_, stepsOf_flagsOf steps⟩, fun proofFlags isSteps => ?_⟩
    · refine (flagsOf_lt _).trans_le ?_
      rw [List.length_map]
      exact (Nat.pow_le_pow_right (by decide) shallow).trans (by decide)
    · rw [verifyMerkleProof_run, isSteps, path.climb_eq, List.length_map,
        decide_eq_true ⟨shallow, rfl⟩]

/-- A score in a batch of two. -/
def leafSample (score : Nat) (fits : score < u32Bound) : LeafSubmission where
  sub := sampleSubmission (account 3) score
  typed := ⟨fits, (by decide : 1 < u64Bound), (by decide : 90 < u32Bound),
    (by decide : 1 < u32Bound)⟩
  short := (by decide : samplePair.bytes.length ≤ 9)

theorem merkleProof_sound_complete_sample :
    let env := hashedEnv []
    let left := leafSample 20 (by decide)
    let right := leafSample 40 (by decide)
    let sibling := treeRoot env (.leaf right)
    ∃ root leaf, buildTree (.node (.leaf left) (.leaf right)) env deployed = .ok root deployed ∧
      computeMerkleLeaf left.sub env deployed = .ok leaf deployed ∧
      verifyMerkleProof leaf [sibling] 0 root env deployed = .ok true deployed ∧
      IsPath env left (.node (.leaf left) (.leaf right)) (stepsOf [sibling] 0) := by
  intro env left right sibling
  obtain ⟨root, leaf, isRoot, isLeaf, sound, complete⟩ :=
    merkleProof_sound_complete env deployed (.node (.leaf left) (.leaf right)) left
  have path : IsPath env left (.node (.leaf left) (.leaf right)) [(sibling, false)] :=
    .left .leaf
  have accepted := (complete _ path (by decide)).2 0 (by simp [stepsOf])
  refine ⟨root, leaf, isRoot, isLeaf, accepted, (sound [sibling] 0 ?_ accepted).2⟩
  unfold CollisionFree
  decide +kernel

end LedgerLens
