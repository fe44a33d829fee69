import LedgerLens.Host.Ledger
import Mathlib.Data.List.Basic

/-!
Hash chains. A root stands for a list of records: each record is hashed together
with the root before it. Where the hash does not collide on what is hashed along
the way, and does not lead back to the start, the root determines the records.
-/

namespace Host.HashChain

variable {n : Nat} (hash : Bytes → BytesN n) (root : BytesN n)

/-- The root once some records were chained to it. -/
def extend (records : List Bytes) : BytesN n :=
  records.foldl (fun root record => hash (root.1 ++ record)) root

/-- What is hashed along the way. -/
def preimages (root : BytesN n) : List Bytes → List Bytes
  | [] => []
  | record :: rest => (root.1 ++ record) :: preimages (hash (root.1 ++ record)) rest

/-- The hash does not collide on what two chains hash, nor leads back to their start. -/
structure Binding (records records' : List Bytes) : Prop where
  injective : ∀ a ∈ preimages hash root records, ∀ b ∈ preimages hash root records',
    hash a = hash b → a = b
  fresh : ∀ a ∈ preimages hash root records ++ preimages hash root records', hash a ≠ root

variable {hash root} {records records' : List Bytes} {record record' : Bytes}

theorem extend_append (records records' : List Bytes) :
    extend hash root (records ++ records') = extend hash (extend hash root records) records' :=
  List.foldl_append

theorem extend_snoc : extend hash root (records ++ [record]) =
    hash ((extend hash root records).1 ++ record) := extend_append records [record]

theorem preimages_snoc : preimages hash root (records ++ [record]) =
    preimages hash root records ++ [(extend hash root records).1 ++ record] := by
  induction records generalizing root with
  | nil => rfl
  | cons first rest ih =>
    rw [List.cons_append, preimages, ih]
    rfl

/-- A root that was chained to is the hash of what was hashed last. -/
theorem extend_ne_of_fresh (fresh : ∀ a ∈ preimages hash root (records ++ [record]),
    hash a ≠ root) : extend hash root (records ++ [record]) ≠ root := by
  rw [extend_snoc]
  refine fresh _ ?_
  rw [preimages_snoc]
  exact List.mem_append_right _ (List.mem_singleton_self _)

theorem Binding.init (binding : Binding hash root (records ++ [record]) (records' ++ [record'])) :
    Binding hash root records records' := by
  have left {a : Bytes} (isEarly : a ∈ preimages hash root records) :
      a ∈ preimages hash root (records ++ [record]) := by
    rw [preimages_snoc]
    exact List.mem_append_left _ isEarly
  have right {a : Bytes} (isEarly : a ∈ preimages hash root records') :
      a ∈ preimages hash root (records' ++ [record']) := by
    rw [preimages_snoc]
    exact List.mem_append_left _ isEarly
  refine ⟨fun a isLeft b isRight => binding.injective a (left isLeft) b (right isRight), ?_⟩
  intro a isHashed
  rcases List.mem_append.mp isHashed with isLeft | isRight
  · exact binding.fresh a (List.mem_append_left _ (left isLeft))
  · exact binding.fresh a (List.mem_append_right _ (right isRight))

/-- The root determines the records. -/
theorem extend_inj (binding : Binding hash root records records')
    (same : extend hash root records = extend hash root records') : records = records' := by
  induction records using List.reverseRecOn generalizing records' with
  | nil =>
    induction records' using List.reverseRecOn with
    | nil => rfl
    | append_singleton records' record' _ =>
      refine absurd same.symm (extend_ne_of_fresh fun a isHashed => binding.fresh a ?_)
      exact List.mem_append_right _ isHashed
  | append_singleton records record ih =>
    induction records' using List.reverseRecOn with
    | nil =>
      refine absurd same (extend_ne_of_fresh fun a isHashed => binding.fresh a ?_)
      exact List.mem_append_left _ isHashed
    | append_singleton records' record' _ =>
      rw [extend_snoc, extend_snoc] at same
      -- the last preimages agree, and roots have one length
      have last := binding.injective _ (by rw [preimages_snoc]; simp) _
        (by rw [preimages_snoc]; simp) same
      obtain ⟨sameRoot, sameRecord⟩ := List.append_inj last (by
        rw [(extend hash root records).2, (extend hash root records').2])
      rw [ih binding.init (Subtype.ext sameRoot), sameRecord]

end Host.HashChain
