import LedgerLens.Recovery.Commands
import Mathlib

/-!
Approvals. Nothing is written before the plan has been checked against its hash
and its approvals against the trusted operators, and a plan passes only with the
signatures of two different operators under two different keys. The main result is
`cmdApply_approved`.
-/

namespace LedgerLens.Recovery

open Host Host.Prog

/-! ### Hexadecimal text -/

section Hex

theorem hexValue_toLower (c : Char) : hexValue c.toLower = hexValue c := by
  have upper : ∀ n : Fin 26, hexValue (Char.ofNat (65 + n)).toLower =
      hexValue (Char.ofNat (65 + n)) := by decide
  by_cases isUpper : c.val ≥ 'A'.val ∧ c.val ≤ 'Z'.val
  · obtain ⟨low, high⟩ : 65 ≤ c.toNat ∧ c.toNat ≤ 90 := isUpper
    have letter := upper ⟨c.toNat - 65, by omega⟩
    rwa [Nat.add_sub_cancel' low, Char.ofNat_toNat] at letter
  · rw [Char.toLower, dif_neg isUpper]

/-- The case of the digits does not matter. -/
theorem hexDecode_map_toLower (text : List Char) :
    hexDecode (text.map Char.toLower) = hexDecode text := by
  induction text using hexDecode.induct with
  | case1 => rfl
  | case2 c => rfl
  | case3 high low rest ih =>
    simp [hexDecode, hexValue_toLower, ih]

theorem hexValue_hexDigit {n : Nat} (digit : n < 16) : hexValue (hexDigit n) = some n := by
  have digits : ∀ n : Fin 16, hexValue (hexDigit n) = some n.val := by decide
  exact digits ⟨n, digit⟩

theorem map_toLower_hexEncode (bytes : List UInt8) :
    (hexEncode bytes).map Char.toLower = hexEncode bytes := by
  have digits : ∀ n : Fin 16, (hexDigit n).toLower = hexDigit n := by decide
  refine (List.map_congr_left fun c listed => ?_).trans (List.map_id _)
  obtain ⟨byte, _, isDigit⟩ := List.mem_flatMap.mp listed
  have small : byte.toNat < 256 := byte.toNat_lt
  rcases List.mem_pair.mp isDigit with rfl | rfl
  · exact digits ⟨byte.toNat / 16, by omega⟩
  · exact digits ⟨byte.toNat % 16, by omega⟩

theorem hexDecode_hexEncode (bytes : List UInt8) : hexDecode (hexEncode bytes) = some bytes := by
  induction bytes with
  | nil => rfl
  | cons byte rest ih =>
    have small : byte.toNat < 256 := byte.toNat_lt
    have split : UInt8.ofNat (16 * (byte.toNat / 16) + byte.toNat % 16) = byte := by
      rw [Nat.div_add_mod, UInt8.ofNat_toNat]
    change hexDecode (hexDigit (byte.toNat / 16) :: hexDigit (byte.toNat % 16) ::
      hexEncode rest) = _
    rw [hexDecode, hexValue_hexDigit (by omega), hexValue_hexDigit (by omega), ih]
    exact congrArg (fun byte => some (byte :: rest)) split

end Hex

/-! ### What a check of the approvals shows -/

section Check

variable {Digest : Type} {primitives : Primitives Digest}
  {trusted : Std.ExtTreeMap String String} {planHash : Digest}

/-- The approval is that of a trusted operator, under the operator's key and with
a good signature of the plan's hash. -/
def Signed (primitives : Primitives Digest) (trusted : Std.ExtTreeMap String String)
    (planHash : Digest) (approval : PlanApproval) : Prop :=
  ∃ trustedKey key signature, trusted[approval.operator]? = some trustedKey ∧
    hexDecode trustedKey.toList = some key ∧ hexDecode approval.publicKey.toList = some key ∧
    hexDecode approval.signature.toList = some signature ∧
    primitives.verify key planHash signature = true

/-- Two operators or more, all of them different, under keys of which no two
have the same bytes, have signed the plan. -/
structure Approved (primitives : Primitives Digest) (trusted : Std.ExtTreeMap String String)
    (plan : RecoveryPlan Digest) : Prop where
  signed : ∀ approval ∈ plan.approvals, Signed primitives trusted plan.planHash approval
  enough : 2 ≤ plan.approvals.length
  operators : (plan.approvals.map PlanApproval.operator).Nodup
  publicKeys : (plan.approvals.map fun approval => hexDecode approval.publicKey.toList).Nodup

/-- What one round of the check shows. -/
theorem checkApprovals_cons_ok {operators operators' : List String} {publicKeys : List (List Char)}
    {approval : PlanApproval} {rest : List PlanApproval}
    (passed : checkApprovals primitives trusted planHash operators publicKeys (approval :: rest) =
      .ok operators') :
    Signed primitives trusted planHash approval ∧ approval.operator ∉ operators ∧
      ∃ key, hexDecode approval.publicKey.toList = some key ∧ hexEncode key ∉ publicKeys ∧
        checkApprovals primitives trusted planHash (approval.operator :: operators)
          (hexEncode key :: publicKeys) rest = .ok operators' := by
  unfold checkApprovals at passed
  split at passed
  · cases passed
  next newOperator =>
  split at passed
  · cases passed
  next trustedKey isTrusted =>
  split at passed
  · cases passed
  next key decoded =>
  dsimp only at passed
  split at passed
  · cases passed
  next sameKey =>
  split at passed
  · cases passed
  next newKey =>
  split at passed
  · cases passed
  split at passed
  · cases passed
  split at passed
  · cases passed
  next signature isSignature =>
  split at passed
  · cases passed
  split at passed
  · cases passed
  next verified =>
  -- the trusted key is the same text up to case, hence the same bytes
  have trustedBytes : hexDecode trustedKey.toList = some key := by
    rw [← hexDecode_map_toLower, ← of_not_not sameKey, hexDecode_hexEncode]
  exact ⟨⟨trustedKey, key, signature, isTrusted, trustedBytes, decoded, isSignature,
    by simpa using verified⟩, newOperator, key, decoded, newKey, passed⟩

/-- An approval written out from its bytes passes. -/
theorem checkApprovals_cons_of_bytes {operator : String} {key signature : List UInt8}
    {operators : List String} {publicKeys : List (List Char)} (rest : List PlanApproval)
    (newOperator : operator ∉ operators)
    (isTrusted : trusted[operator]? = some (String.ofList (hexEncode key)))
    (newKey : hexEncode key ∉ publicKeys) (keyLength : key.length = 32)
    (validKey : primitives.validKey key = true) (signatureLength : signature.length = 64)
    (verified : primitives.verify key planHash signature = true) :
    checkApprovals primitives trusted planHash operators publicKeys
        ({ operator, publicKey := String.ofList (hexEncode key)
           signature := String.ofList (hexEncode signature) } :: rest) =
      checkApprovals primitives trusted planHash (operator :: operators)
        (hexEncode key :: publicKeys) rest := by
  conv_lhs => unfold checkApprovals
  simp [newOperator, isTrusted, newKey, keyLength, validKey, signatureLength, verified,
    hexDecode_hexEncode, map_toLower_hexEncode]

theorem checkApprovals_ok {approvals : List PlanApproval} {operators operators' : List String}
    {publicKeys : List (List Char)}
    (passed : checkApprovals primitives trusted planHash operators publicKeys approvals =
      .ok operators') :
    (∀ approval ∈ approvals, Signed primitives trusted planHash approval) ∧
      operators'.length = operators.length + approvals.length ∧
      (approvals.map PlanApproval.operator).Nodup ∧
      (∀ approval ∈ approvals, approval.operator ∉ operators) ∧
      (approvals.map fun approval => hexDecode approval.publicKey.toList).Nodup ∧
      ∀ approval ∈ approvals, ∀ key, hexDecode approval.publicKey.toList = some key →
        hexEncode key ∉ publicKeys := by
  induction approvals generalizing operators publicKeys with
  | nil =>
    cases passed
    simp
  | cons approval rest ih =>
    obtain ⟨signed, newOperator, key, decoded, newKey, passed⟩ := checkApprovals_cons_ok passed
    obtain ⟨others, count, distinct, apart, distinctKeys, keysApart⟩ := ih passed
    refine ⟨?_, ?_, ?_, ?_, ?_, ?_⟩
    · exact List.forall_mem_cons.mpr ⟨signed, others⟩
    · rw [count, List.length_cons, List.length_cons]
      omega
    · refine List.nodup_cons.mpr ⟨fun listed => ?_, distinct⟩
      obtain ⟨other, isOther, same⟩ := List.mem_map.mp listed
      exact apart other isOther (same ▸ List.mem_cons_self)
    · refine List.forall_mem_cons.mpr ⟨newOperator, fun other isOther listed => ?_⟩
      exact apart other isOther (List.mem_cons_of_mem _ listed)
    · refine List.nodup_cons.mpr ⟨fun listed => ?_, distinctKeys⟩
      obtain ⟨other, isOther, same⟩ := List.mem_map.mp listed
      exact keysApart other isOther key (same.trans decoded) List.mem_cons_self
    · refine List.forall_mem_cons.mpr ⟨fun key' decoded' =>
        ?_, fun other isOther key' decoded' => ?_⟩
      · obtain rfl := Option.some.inj (decoded.symm.trans decoded')
        exact newKey
      · exact fun listed =>
          keysApart other isOther key' decoded' (List.mem_cons_of_mem _ listed)

end Check

/-! ### What is written is approved -/

section Apply

variable {Digest : Type} {primitives : Primitives Digest} {disk disk' : Disk (Document Digest)}

instance keeps_liftExcept {α : Type} (result : Except (Failure Digest) α) :
    Keeps SameFiles (liftExcept result) := by
  cases result with
  | ok a => exact Keeps.instPure a
  | error e => exact keeps_bail e

instance keeps_loadDocument {α : Type} (select : Document Digest → Option α)
    (unread undecoded : Failure Digest) (path : Path) :
    Keeps SameFiles (loadDocument select unread undecoded path) := by
  unfold loadDocument
  infer_instance

section

variable {α : Type} {select : Document Digest → Option α} {unread undecoded : Failure Digest}
  {path : Path}

theorem loadDocument_ok {a : α}
    (ran : loadDocument select unread undecoded path () disk = .ok a disk') :
    disk' = disk ∧ ∃ document, disk.files path = some (.whole document) ∧
      select document = some a := by
  have reads : (content path : M Digest _) () disk = .ok (disk.files path) disk := rfl
  unfold loadDocument at ran
  rw [run_bind_of_ok reads] at ran
  cases found : disk.files path with
  | none =>
    rw [found] at ran
    cases ran
  | some found' =>
    rw [found, Option.elim_some] at ran
    cases found' with
    | torn => cases ran
    | whole document =>
      change ((select document).elim (bail undecoded) pure : M Digest α) () disk = _ at ran
      cases selected : select document with
      | none =>
        rw [selected] at ran
        cases ran
      | some a' =>
        rw [selected] at ran
        cases ran
        exact ⟨rfl, document, rfl, selected⟩

theorem loadDocument_run {document : Document Digest} {a : α}
    (held : disk.files path = some (.whole document)) (selected : select document = some a) :
    loadDocument select unread undecoded path () disk = .ok a disk := by
  have reads : (content path : M Digest _) () disk = .ok (disk.files path) disk := rfl
  unfold loadDocument
  rw [run_bind_of_ok reads, held, Option.elim_some]
  change ((select document).elim (bail undecoded) pure : M Digest α) () disk = _
  rw [selected]
  rfl

theorem plan?_eq_some {document : Document Digest} {plan : RecoveryPlan Digest}
    (isPlan : document.plan? = some plan) : document = .plan plan := by
  cases document <;> cases isPlan
  rfl

theorem operators?_eq_some {document : Document Digest} {trusted : Std.ExtTreeMap String String}
    (isTrusted : document.operators? = some trusted) : document = .operators trusted := by
  cases document <;> cases isTrusted
  rfl

theorem liftExcept_ok {result : Except (Failure Digest) α} {a : α}
    (ran : liftExcept result () disk = .ok a disk') : result = .ok a ∧ disk' = disk := by
  cases result with
  | ok a' =>
    cases ran
    exact ⟨rfl, rfl⟩
  | error e => cases ran

end

theorem ensure_ok {c : Bool} {e : Failure Digest} {u : Unit}
    (ran : (ensure c e : M Digest Unit) () disk = .ok u disk') : c = true ∧ disk' = disk := by
  cases c with
  | true =>
    cases ran
    exact ⟨rfl, rfl⟩
  | false => cases ran

instance keeps_validateApprovals (plan : RecoveryPlan Digest) (path : Path) :
    Keeps SameFiles (validateApprovals primitives plan path) := by
  unfold validateApprovals
  infer_instance

theorem validateApprovals_ok {plan : RecoveryPlan Digest} {path : Path} {u : Unit}
    (ran : validateApprovals primitives plan path () disk = .ok u disk') :
    disk' = disk ∧ ∃ trusted, disk.files path = some (.whole (.operators trusted)) ∧
      Approved primitives trusted plan := by
  obtain ⟨trusted, disk₁, loaded, checks⟩ := bind_ok.mp ran
  obtain ⟨rfl, document, held, isTrusted⟩ := loadDocument_ok loaded
  obtain ⟨operators, disk₂, lifted, counting⟩ := bind_ok.mp checks
  obtain ⟨passed, rfl⟩ := liftExcept_ok lifted
  obtain ⟨enough, rfl⟩ := ensure_ok counting
  obtain ⟨signed, count, distinct, _, distinctKeys, _⟩ := checkApprovals_ok passed
  rw [operators?_eq_some isTrusted] at held
  refine ⟨rfl, trusted, held, signed, ?_, distinct, distinctKeys⟩
  rw [count] at enough
  simpa using enough

theorem validateApprovals_run {plan : RecoveryPlan Digest} {path : Path}
    {trusted : Std.ExtTreeMap String String} {operators : List String}
    (held : disk.files path = some (.whole (.operators trusted)))
    (passed : checkApprovals primitives trusted plan.planHash [] [] plan.approvals = .ok operators)
    (enough : 2 ≤ operators.length) :
    validateApprovals primitives plan path () disk = .ok () disk := by
  have lifted : liftExcept (checkApprovals primitives trusted plan.planHash [] [] plan.approvals) ()
      disk = .ok operators disk := by
    rw [passed]
    rfl
  have selected : (Document.operators trusted : Document Digest).operators? = some trusted := rfl
  unfold validateApprovals
  rw [run_bind_of_ok (loadDocument_run held selected), run_bind_of_ok lifted, decide_eq_true enough]
  rfl

variable [DecidableEq Digest]

instance keeps_loadPlan (path : Path) : Keeps SameFiles (loadPlan primitives path) := by
  unfold loadPlan
  infer_instance

theorem loadPlan_ok {path : Path} {plan : RecoveryPlan Digest}
    (ran : loadPlan primitives path () disk = .ok plan disk') :
    disk' = disk ∧ disk.files path = some (.whole (.plan plan)) ∧
      plan.version = recoveryPlanVersion ∧
      calculatePlanHash primitives plan.toPlanBody = plan.planHash := by
  obtain ⟨plan', disk₁, loaded, checks⟩ := bind_ok.mp ran
  obtain ⟨rfl, document, held, isPlan⟩ := loadDocument_ok loaded
  obtain ⟨_, disk₂, versioned, hashing⟩ := bind_ok.mp checks
  obtain ⟨version, rfl⟩ := ensure_ok versioned
  obtain ⟨_, disk₃, hashed, last⟩ := bind_ok.mp hashing
  obtain ⟨hash, rfl⟩ := ensure_ok hashed
  cases last
  rw [plan?_eq_some isPlan] at held
  exact ⟨rfl, held, of_decide_eq_true version, of_decide_eq_true hash⟩

theorem loadPlan_run {path : Path} {plan : RecoveryPlan Digest}
    (held : disk.files path = some (.whole (.plan plan)))
    (version : plan.version = recoveryPlanVersion)
    (hash : calculatePlanHash primitives plan.toPlanBody = plan.planHash) :
    loadPlan primitives path () disk = .ok plan disk := by
  have selected : (Document.plan plan).plan? = some plan := rfl
  unfold loadPlan
  rw [run_bind_of_ok (loadDocument_run held selected), decide_eq_true version, decide_eq_true hash]
  rfl

/-- A run of `apply` that changes the state file, however it ends, found a plan
that has its hash and the approvals it needs. -/
theorem cmdApply_approved {planPath statePath trustedPath checkpointPath : Path}
    (modified : (cmdApply primitives planPath statePath trustedPath checkpointPath
      () disk).filesAfter
      disk statePath ≠ disk.files statePath) :
    ∃ plan trusted, disk.files planPath = some (.whole (.plan plan)) ∧
      disk.files trustedPath = some (.whole (.operators trusted)) ∧
      calculatePlanHash primitives plan.toPlanBody = plan.planHash ∧
      Approved primitives trusted plan := by
  obtain ⟨plan, disk₁, loaded, _, later⟩ := returned_of_modified inferInstance modified
  obtain ⟨rfl, isPlan, _, hash⟩ := loadPlan_ok loaded
  obtain ⟨_, disk₂, validated, _, _⟩ := returned_of_modified inferInstance later
  obtain ⟨_, trusted, isTrusted, approved⟩ := validateApprovals_ok validated
  exact ⟨plan, trusted, isPlan, isTrusted, hash, approved⟩

end Apply

/-! ### A sample plan

Digests are the real ones on the exports and the plan below; other exports stand
for themselves. -/

abbrev SampleDigest := String ⊕ List ExportableScoreEntry

def sampleEntry : ExportableScoreEntry where
  wallet := "GA"
  assetPair := "XLM"
  score := 40
  benfordFlag := false
  mlFlag := false
  timestamp := 1000
  confidence := 90
  modelVersion := 1
  benfordScore := 40
  mlScore := 40
  networkScore := 40

def strangerEntry : ExportableScoreEntry := { sampleEntry with wallet := "GB", score := 99 }

def sampleBody : PlanBody SampleDigest where
  version := 1
  baseStateRoot := .inl "4f53cda18c2baa0c0354bb5f9a3ecbe5ed12ab4d8e11ba873c2f11161202b945"
  exportRoot := .inl "5f18f86202ef540a1572d8eeb77fe05cccf17967225f4e57cbf11678f9a586f9"
  batchSize := 50
  batches := [{
    index := 0
    operations := [.upsert sampleEntry]
    predictedEffects := ["set GA/XLM score=40 confidence=90"]
    estimatedCostUnits := 25000 }]

def sampleHash : SampleDigest :=
  .inl "4bf0124cf1f622ea4c35b8d1ac2908a137232f2a315d91bb79dfbbb7f2fe7f96"

def aliceKey : List UInt8 :=
  [0x8a, 0x88, 0xe3, 0xdd, 0x74, 0x09, 0xf1, 0x95, 0xfd, 0x52, 0xdb, 0x2d, 0x3c, 0xba, 0x5d, 0x72,
    0xca, 0x67, 0x09, 0xbf, 0x1d, 0x94, 0x12, 0x1b, 0xf3, 0x74, 0x88, 0x01, 0xb4, 0x0f, 0x6f, 0x5c]

def aliceSignature : List UInt8 :=
  [0xa8, 0x39, 0x58, 0x87, 0x80, 0xa6, 0x3e, 0x16, 0xe7, 0xb2, 0x6f, 0xac, 0x14, 0x38, 0x9e, 0xc1,
    0xa8, 0x87, 0xc2, 0x70, 0xff, 0x85, 0x5c, 0x01, 0xe0, 0xf5, 0xef, 0x10, 0xc8, 0xe5, 0x5a, 0xc6,
    0x29, 0x8a, 0xda, 0xb5, 0xb0, 0x02, 0xf6, 0xc9, 0xca, 0xa9, 0x04, 0x2e, 0x62, 0x81, 0x64, 0x00,
    0x9a, 0xae, 0x88, 0x66, 0x26, 0x61, 0x87, 0xf2, 0x3e, 0x60, 0xc7, 0x04, 0xe9, 0x6e, 0x9f, 0x04]

def bobKey : List UInt8 :=
  [0x81, 0x39, 0x77, 0x0e, 0xa8, 0x7d, 0x17, 0x5f, 0x56, 0xa3, 0x54, 0x66, 0xc3, 0x4c, 0x7e, 0xcc,
    0xcb, 0x8d, 0x8a, 0x91, 0xb4, 0xee, 0x37, 0xa2, 0x5d, 0xf6, 0x0f, 0x5b, 0x8f, 0xc9, 0xb3, 0x94]

def bobSignature : List UInt8 :=
  [0x6e, 0xd6, 0x12, 0x16, 0x0e, 0xc7, 0x02, 0x1c, 0xa3, 0x3d, 0x40, 0x16, 0x2c, 0x36, 0xbf, 0x93,
    0x37, 0x71, 0x19, 0xeb, 0xcf, 0xaf, 0x57, 0x62, 0x18, 0xfb, 0xd4, 0x9a, 0x1e, 0x1b, 0x12, 0xa2,
    0xed, 0x4e, 0xa1, 0x18, 0x33, 0x2e, 0x49, 0xa8, 0x08, 0x3d, 0x5e, 0x87, 0xb0, 0x1e, 0x9a, 0x9a,
    0xd6, 0xb4, 0x9c, 0xa9, 0x38, 0xd8, 0xc8, 0xf2, 0x2a, 0xe1, 0x03, 0x39, 0x5b, 0x59, 0xc1, 0x09]

def sampleApprovals : List PlanApproval :=
  [{ operator := "alice"
     publicKey := String.ofList (hexEncode aliceKey)
     signature := String.ofList (hexEncode aliceSignature) },
   { operator := "bob"
     publicKey := String.ofList (hexEncode bobKey)
     signature := String.ofList (hexEncode bobSignature) }]

def samplePrimitives : Primitives SampleDigest where
  exportDigest entries :=
    if entries = [] then
      .inl "4f53cda18c2baa0c0354bb5f9a3ecbe5ed12ab4d8e11ba873c2f11161202b945"
    else if entries = [sampleEntry] then
      .inl "5f18f86202ef540a1572d8eeb77fe05cccf17967225f4e57cbf11678f9a586f9"
    else if entries = [sampleEntry, strangerEntry] then
      .inl "7d953113667391bd2a7f34c822fe60cee68018231dcab986a491c57fbeca01cb"
    else .inr entries
  planDigest body := if body = sampleBody then sampleHash else .inl ""
  validKey key := key = aliceKey || key = bobKey
  verify key hash signature := hash = sampleHash &&
    (key = aliceKey && signature = aliceSignature || key = bobKey && signature = bobSignature)

def sampleTrusted : Std.ExtTreeMap String String :=
  ((∅ : Std.ExtTreeMap String String).insert "alice" (String.ofList (hexEncode aliceKey))).insert
    "bob" (String.ofList (hexEncode bobKey))

theorem checkApprovals_sample :
    checkApprovals samplePrimitives sampleTrusted sampleHash [] [] sampleApprovals =
      .ok ["bob", "alice"] := by
  have alice : sampleTrusted["alice"]? = some (String.ofList (hexEncode aliceKey)) := by
    rw [sampleTrusted, Std.ExtTreeMap.getElem?_insert, if_neg (by decide +kernel),
      Std.ExtTreeMap.getElem?_insert, if_pos (by decide +kernel)]
  have bob : sampleTrusted["bob"]? = some (String.ofList (hexEncode bobKey)) := by
    rw [sampleTrusted, Std.ExtTreeMap.getElem?_insert, if_pos (by decide +kernel)]
  rw [sampleApprovals,
    checkApprovals_cons_of_bytes _ (by decide) alice (by decide) rfl (by decide) rfl
      (by decide +kernel),
    checkApprovals_cons_of_bytes _ (by decide +kernel) bob (by decide +kernel) rfl
      (by decide +kernel) rfl (by decide +kernel)]
  rfl

def samplePlan : RecoveryPlan SampleDigest :=
  { sampleBody with planHash := sampleHash, approvals := sampleApprovals }

/-- Wherever the sample plan and its operators are found, it is applied. -/
theorem cmdApply_sample {disk : Disk (Document SampleDigest)}
    (isPlan : disk.files "plan.json" = some (.whole (.plan samplePlan)))
    (isTrusted : disk.files "operators.json" = some (.whole (.operators sampleTrusted)))
    (statePath checkpointPath : Path) :
    cmdApply samplePrimitives "plan.json" statePath "operators.json" checkpointPath () disk =
      applyPlan samplePrimitives samplePlan statePath checkpointPath () disk := by
  have hash : calculatePlanHash samplePrimitives samplePlan.toPlanBody = samplePlan.planHash := by
    decide +kernel
  have passed : checkApprovals samplePrimitives sampleTrusted samplePlan.planHash [] []
      samplePlan.approvals = .ok ["bob", "alice"] := checkApprovals_sample
  unfold cmdApply
  rw [run_bind_of_ok (loadPlan_run isPlan rfl hash),
    run_bind_of_ok (validateApprovals_run isTrusted passed (by simp))]

/-- The files before the first run: the live state is empty. -/
def sampleFiles : Files (Document SampleDigest)
  | "plan.json" => some (.whole (.plan samplePlan))
  | "state.json" => some (.whole (.scores []))
  | "operators.json" => some (.whole (.operators sampleTrusted))
  | _ => none

/-- A run on the sample writes the state, and the plan is approved. -/
theorem cmdApply_sample_approved :
    (cmdApply samplePrimitives "plan.json" "state.json" "operators.json" "checkpoint.json" ()
        ⟨sampleFiles, none⟩).filesAfter ⟨sampleFiles, none⟩ "state.json" ≠
          sampleFiles "state.json" ∧
      ∃ plan trusted, sampleFiles "plan.json" = some (.whole (.plan plan)) ∧
        sampleFiles "operators.json" = some (.whole (.operators trusted)) ∧
        calculatePlanHash samplePrimitives plan.toPlanBody = plan.planHash ∧
        Approved samplePrimitives trusted plan := by
  have modified : (cmdApply samplePrimitives "plan.json" "state.json" "operators.json"
      "checkpoint.json" () ⟨sampleFiles, none⟩).filesAfter ⟨sampleFiles, none⟩ "state.json" ≠
        sampleFiles "state.json" := by
    rw [cmdApply_sample rfl rfl]
    intro same
    have written := congrArg (fun found => found.bind fun content =>
      content.document?.bind Document.scores?) same
    revert written
    decide +kernel
  exact ⟨modified, cmdApply_approved modified⟩

end LedgerLens.Recovery
