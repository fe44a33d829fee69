import LedgerLens.Entry.Readers
import LedgerLens.System.Limits

/-!
The record of the embargoes: an entry for each wallet, an index of the wallets and
a count of the active ones, each kept by other calls under other conditions. The
three agree as long as no embargo lapses on its own and no batch lifts one. The main result is
`embargo_record_agrees`.
-/

namespace LedgerLens

open Host Host.Prog Storage

/-! ### The record -/

@[ext] structure Embargoes where
  stored : Address → Option EmbargoExpiry
  index : List Address
  count : Nat

def embargoesIn (l : Ledger DataKey Val) : Embargoes where
  stored wallet := l.entry .temporary (.scoreEmbargo wallet)
  index := (l.entry .temporary .embargoedWalletIndex).getD []
  count := (l.entry .persistent .activeEmbargoCount).getD 0

abbrev embargoes (w : State) : Embargoes := embargoesIn w.ledger

section Put

variable (l : Ledger DataKey Val)

@[simp] theorem embargoesIn_put_stored (wallet : Address) (expiry : Option EmbargoExpiry) :
    embargoesIn (l.put .temporary (.scoreEmbargo wallet) expiry) =
      { embargoesIn l with stored := Function.update (embargoesIn l).stored wallet expiry } := by
  ext1
  · exact l.family_put .temporary .scoreEmbargo (fun _ _ same => DataKey.scoreEmbargo.inj same)
      (fun _ (expiry : Option EmbargoExpiry) => expiry) wallet expiry
  · simp [embargoesIn, Ledger.entry_put_of_ne]
  · simp [embargoesIn, Ledger.entry_put_of_ne]

@[simp] theorem embargoesIn_put_index (index : Option (List Address)) :
    embargoesIn (l.put .temporary .embargoedWalletIndex index) =
      { embargoesIn l with index := index.getD [] } := by
  ext1 <;> simp [embargoesIn, Ledger.entry_put_of_ne]

@[simp] theorem embargoesIn_put_count (count : Option Nat) :
    embargoesIn (l.put .persistent .activeEmbargoCount count) =
      { embargoesIn l with count := count.getD 0 } := by
  ext1 <;> simp [embargoesIn, Ledger.entry_put_of_ne]

end Put

namespace Embargoes

variable (e : Embargoes) (time : Nat) (wallet : Address)

/-- The wallet is under an embargo that is in force. -/
def active : Bool := (e.stored wallet).elim false (EmbargoExpiry.activeAt · time)

/-- A wallet that is not under an embargo in force is counted and entered into the index. -/
@[simps -fullyApplied] def place (expiry : EmbargoExpiry) : Embargoes where
  stored := Function.update e.stored wallet (some expiry)
  index := if e.active time wallet ∨ wallet ∈ e.index then e.index else e.index ++ [wallet]
  count := if e.active time wallet then e.count else satAdd32 e.count 1

@[simps -fullyApplied] def lift : Embargoes where
  stored := Function.update e.stored wallet none
  index := e.index.erase wallet
  count := if e.active time wallet then e.count - 1 else e.count

/-- One wallet of a batch: the index is left as it is. -/
def liftOne : Embargoes :=
  if e.active time wallet then
    { e with stored := Function.update e.stored wallet none, count := e.count - 1 }
  else e

@[simps -fullyApplied] def revoke : Embargoes where
  stored wallet := if wallet ∈ e.index then none else e.stored wallet
  index := []
  count := 0

end Embargoes

/-- The calls that place or lift embargoes. -/
def Call.isEmbargo : Call → Bool
  | .soleAdmin (.setScoreEmbargo ..) | .soleAdmin (.liftScoreEmbargo _)
  | .admins _ (.batchLiftScoreEmbargo _) | .admins _ .revokeAllEmbargoes => true
  | _ => false

/-- What a call that returns does to the embargoes. -/
inductive EmbargoStep (time : Nat) (e : Embargoes) : Call → Embargoes → Prop
  | unchanged {call : Call} (other : call.isEmbargo = false) : EmbargoStep time e call e
  | placed {wallet : Address} {expiry : Option Nat}
      (room : e.active time wallet = true ∨ wallet ∈ e.index ∨
        e.index.length < maxEmbargoedWallets) :
      EmbargoStep time e (.soleAdmin (.setScoreEmbargo wallet expiry))
        (e.place time wallet (expiry.elim .indefinite .until))
  | lifted {wallet : Address} :
      EmbargoStep time e (.soleAdmin (.liftScoreEmbargo wallet)) (e.lift time wallet)
  | batched {signers wallets : List Address} :
      EmbargoStep time e (.admins signers (.batchLiftScoreEmbargo wallets))
        (wallets.foldl (Embargoes.liftOne · time) e)
  | revoked {signers : List Address} :
      EmbargoStep time e (.admins signers .revokeAllEmbargoes) e.revoke

section Calls

variable {env : ContractEnv} {w w' : State} {call : Call} {signers : List Address}
  {wallet : Address}

@[reducible] def Tag.isEmbargo : Tag → Bool
  | .scoreEmbargo | .embargoedWalletIndex | .activeEmbargoCount => true
  | _ => false

instance : About (fun w w' => embargoes w' = embargoes w) Tag.isEmbargo where
  of_only ts w w' free only := by
    have same := (inferInstance : About (Same Tag.isEmbargo) Tag.isEmbargo).of_only ts free only
    unfold embargoes embargoesIn
    congr 1
    · funext wallet
      rw [same.entry .temporary (.scoreEmbargo wallet) rfl]
    · rw [same.entry .temporary .embargoedWalletIndex rfl]
    · rw [same.entry .persistent .activeEmbargoCount rfl]

theorem active_embargoes (env : ContractEnv) (w : State) (wallet : Address) :
    (embargoesIn w.ledger).active env.timestamp wallet = embargoed env w wallet := rfl

theorem setScoreEmbargo_spec {expiry : Option Nat}
    (ran : setScoreEmbargo wallet expiry env w = .ok () w') :
    EmbargoStep env.timestamp (embargoes w) (.soleAdmin (.setScoreEmbargo wallet expiry))
      (embargoes w') := by
  obtain ⟨_, v, checked, ⟨sameLedger, _⟩, ran⟩ := asSingleAdmin_ok ran
  cases checked
  rw [embargoes, ← sameLedger]
  rw [run_bind_of_ok (isEmbargoed_run env v wallet)] at ran
  suffices isAfter : ((embargoes v).active env.timestamp wallet = true ∨
      wallet ∈ (embargoes v).index ∨ (embargoes v).index.length < maxEmbargoedWallets) ∧
      embargoes w' = (embargoes v).place env.timestamp wallet (expiry.elim .indefinite .until) by
    rw [isAfter.2]
    exact .placed isAfter.1
  have countOf : (v.ledger.entry .persistent .activeEmbargoCount).getD 0 =
      (embargoesIn v.ledger).count := rfl
  have indexOf : (v.ledger.entry .temporary .embargoedWalletIndex).getD [] =
      (embargoesIn v.ledger).index := rfl
  cases isActive : embargoed env v wallet with
  | true =>
    simp [isActive, ok_iff_wp] at ran
    subst ran
    refine ⟨.inl isActive, ?_⟩
    ext1 <;> simp [embargoes, active_embargoes, isActive]
  | false =>
    unfold addToEmbargoedIndex at ran
    simp [isActive, ok_iff_wp, Ledger.entry_put_of_ne, indexOf, countOf] at ran
    split at ran
    · next listed =>
      subst ran
      refine ⟨.inr (.inl listed), ?_⟩
      ext1 <;> simp [embargoes, active_embargoes, isActive, listed]
    · next unlisted =>
      obtain ⟨room, rfl⟩ := ran
      refine ⟨.inr (.inr room), ?_⟩
      ext1 <;> simp [embargoes, active_embargoes, isActive, unlisted]

/-- A count of zero is not stored. -/
theorem decrementActiveEmbargoCount_spec : wlp decrementActiveEmbargoCount (fun _ w' =>
    embargoes w' = { embargoes w with count := (embargoes w).count - 1 }) env w := by
  have countOf : (w.ledger.entry .persistent .activeEmbargoCount).getD 0 =
      (embargoesIn w.ledger).count := rfl
  unfold decrementActiveEmbargoCount
  simp only [wlp_bind, wlp_loadOr, wlp_ite, wlp_erase, wlp_save, countOf]
  split
  · next isZero => simp [embargoes, isZero]
  · simp [embargoes]

theorem removeFromEmbargoedIndex_spec : wlp (removeFromEmbargoedIndex wallet) (fun _ w' =>
    embargoes w' = { embargoes w with index := (embargoes w).index.erase wallet }) env w := by
  have indexOf : (w.ledger.entry .temporary .embargoedWalletIndex).getD [] =
      (embargoesIn w.ledger).index := rfl
  unfold removeFromEmbargoedIndex
  simp only [wlp_bind, wlp_loadOr, wlp_whenever, wlp_save, indexOf, decide_eq_true_eq]
  split
  · simp [embargoes]
  · next unlisted => simp [embargoes, List.erase_of_not_mem unlisted]

theorem liftScoreEmbargo_spec (ran : liftScoreEmbargo wallet env w = .ok () w') :
    embargoes w' = (embargoes w).lift env.timestamp wallet := by
  obtain ⟨_, v, checked, ⟨sameLedger, _⟩, ran⟩ := asSingleAdmin_ok ran
  cases checked
  have same : embargoes w = embargoes v := congrArg embargoesIn sameLedger.symm
  rw [same]
  rw [run_bind_of_ok (isEmbargoed_run env v wallet)] at ran
  obtain ⟨_, u, removed, ran⟩ := bind_ok.mp ran
  have isRemoved : embargoes u =
      { embargoes v with stored := Function.update (embargoes v).stored wallet none } := by
    rw [← erase_ok.mp removed]
    simp [embargoes]
  obtain ⟨_, u', indexed, ran⟩ := bind_ok.mp ran
  have isIndexed := removeFromEmbargoedIndex_spec _ u' indexed
  rw [isRemoved] at isIndexed
  cases isActive : embargoed env v wallet with
  | true =>
    rw [isActive] at ran
    have isCounted := decrementActiveEmbargoCount_spec _ w' ran
    rw [isCounted, isIndexed]
    ext1 <;> simp [embargoes, active_embargoes, isActive]
  | false =>
    rw [isActive] at ran
    cases ran
    rw [isIndexed]
    ext1 <;> simp [embargoes, active_embargoes, isActive]

theorem liftOne_spec {lifted : Nat} : wlp (liftOne signers lifted wallet) (fun _ w' =>
    embargoes w' = (embargoes w).liftOne env.timestamp wallet) env w := by
  intro lifted' w' ran
  unfold liftOne at ran
  rw [run_bind_of_ok (isEmbargoed_run env w wallet)] at ran
  change embargoes w' = if embargoed env w wallet = true then _ else _
  split at ran
  · next isActive =>
    rw [if_pos isActive]
    obtain ⟨_, u, removed, ran⟩ := bind_ok.mp ran
    obtain ⟨_, u', counted, ran⟩ := bind_ok.mp ran
    have isCounted := decrementActiveEmbargoCount_spec _ u' counted
    obtain ⟨_, _, unwrapped, ran⟩ := bind_ok.mp ran
    obtain ⟨_, rfl⟩ := unwrap_ok.mp unwrapped
    cases ran
    rw [isCounted, ← erase_ok.mp removed]
    simp [embargoes]
  · next isInactive =>
    rw [if_neg isInactive]
    cases ran
    rfl

theorem batchLift_spec {wallets : List Address} {count : Nat}
    (ran : batchLiftScoreEmbargo signers wallets env w = .ok count w') :
    embargoes w' = wallets.foldl (Embargoes.liftOne · env.timestamp) (embargoes w) := by
  obtain ⟨_, v, checked, ⟨sameLedger, _⟩, ran⟩ := asAdmins_ok ran
  cases checked
  have same : embargoes w = embargoes v := congrArg embargoesIn sameLedger.symm
  rw [same]
  obtain ⟨_, ran⟩ := require_bind_ok.mp ran
  obtain ⟨_, ran⟩ := require_bind_ok.mp ran
  -- what the rest of the batch makes of the record is what the whole batch makes of the first
  refine wlp_fold (I := fun rest _ u => rest.foldl (Embargoes.liftOne · env.timestamp)
    (embargoes u) = wallets.foldl (Embargoes.liftOne · env.timestamp) (embargoes v)) ?_
    wallets 0 v rfl count w' ran
  intro wallet rest lifted u same
  refine wlp_mono liftOne_spec fun _ u' isLifted => ?_
  rw [isLifted]
  exact same

theorem revokeAllEmbargoes_spec (ran : revokeAllEmbargoes signers env w = .ok () w') :
    embargoes w' = (embargoes w).revoke := by
  obtain ⟨_, v, checked, ⟨sameLedger, _⟩, ran⟩ := asAdmins_ok ran
  cases checked
  have same : embargoes w = embargoes v := congrArg embargoesIn sameLedger.symm
  rw [same]
  obtain ⟨_, _, indexed, ran⟩ := bind_ok.mp ran
  obtain ⟨rfl, rfl⟩ := loadOr_ok.mp indexed
  obtain ⟨_, u, removed, ran⟩ := bind_ok.mp ran
  have isRemoved : (embargoes u).stored =
      fun wallet => if wallet ∈ (embargoes v).index then none else (embargoes v).stored wallet := by
    -- the wallets that are still to come count as removed
    have loop := wlp_each (I := fun rest t => ∀ wallet,
      (if wallet ∈ rest then none else (embargoes t).stored wallet) =
        if wallet ∈ (embargoes v).index then none else (embargoes v).stored wallet) (r := env)
      (f := fun wallet => do
        remove .temporary (.scoreEmbargo wallet)
        let _by ← unwrap signers.head?) ?_ (embargoes v).index v (fun _ => rfl) () u removed
    · funext wallet
      simpa using loop wallet
    · intro wallet rest t same
      simp only [wlp_bind, wlp_erase, wlp_pure]
      intro _ t' unwrapped other
      obtain ⟨_, rfl⟩ := unwrap_ok.mp unwrapped
      rw [← same other]
      by_cases isWallet : other = wallet
      · subst isWallet
        simp [embargoes]
      · simp [embargoes, isWallet]
  obtain ⟨_, u', cleared, ran⟩ := bind_ok.mp ran
  rw [← erase_ok.mp ran, ← erase_ok.mp cleared]
  ext1
  · simpa [embargoes] using isRemoved
  · simp [embargoes]
  · simp [embargoes]

theorem embargoStep_of_ok (ran : exec call env w = .ok () w') :
    EmbargoStep env.timestamp (embargoes w) call (embargoes w') := by
  have silent (free : (footprint call).all (fun t => !t.isEmbargo) = true)
      (other : call.isEmbargo = false) :
      EmbargoStep env.timestamp (embargoes w) call (embargoes w') := by
    have same : embargoes w' = embargoes w :=
      About.of_all (R := fun w w' => embargoes w' = embargoes w) free
        ((exec_keeps call).ok ran)
    rw [same]
    exact .unchanged other
  rcases call with call | ⟨signers, call⟩ | call
  · exact silent (by cases call <;> rfl) rfl
  · cases call
    case batchLiftScoreEmbargo wallets =>
      obtain ⟨_, _, lifted, ran⟩ := bind_ok.mp ran
      cases ran
      rw [batchLift_spec lifted]
      exact .batched
    case revokeAllEmbargoes =>
      rw [revokeAllEmbargoes_spec ran]
      exact .revoked
    all_goals exact silent rfl rfl
  · cases call
    case setScoreEmbargo wallet expiry => exact setScoreEmbargo_spec ran
    case liftScoreEmbargo wallet =>
      rw [liftScoreEmbargo_spec ran]
      exact .lifted
    all_goals exact silent rfl rfl

end Calls

/-! ### The record as it should be -/

namespace Embargoes

variable {e : Embargoes} {time : Nat} {wallet : Address}

/-- No timed embargo has run out. -/
def Running (e : Embargoes) (time : Nat) : Prop :=
  ∀ wallet expiry, e.stored wallet = some (.until expiry) → time ≤ expiry

/-- The index lists the wallets with an embargo, and the count is theirs. -/
structure Kept (e : Embargoes) : Prop where
  listed : ∀ wallet, wallet ∈ e.index ↔ e.stored wallet ≠ none
  nodup : e.index.Nodup
  bounded : e.index.length ≤ maxEmbargoedWallets
  counted : e.count = e.index.length

theorem Running.active_iff (running : e.Running time) :
    e.active time wallet = true ↔ e.stored wallet ≠ none := by
  unfold active
  cases isStored : e.stored wallet with
  | none => simp
  | some expiry =>
    cases expiry with
    | indefinite => simp [EmbargoExpiry.activeAt]
    | «until» expiry => simpa [EmbargoExpiry.activeAt] using running wallet expiry isStored

theorem Kept.active_iff (kept : e.Kept) (running : e.Running time) :
    e.active time wallet = true ↔ wallet ∈ e.index :=
  running.active_iff.trans (kept.listed wallet).symm

/-- Where the index lists all embargoes, it is enough to look at those. -/
theorem Kept.running (kept : e.Kept)
    (all : ∀ wallet ∈ e.index, e.active time wallet = true) : e.Running time := by
  intro wallet expiry stored
  have isActive := all wallet ((kept.listed wallet).mpr (by simp [stored]))
  simpa [active, stored, EmbargoExpiry.activeAt] using isActive

theorem Kept.mem_place {expiry : EmbargoExpiry} {other : Address} (kept : e.Kept)
    (running : e.Running time) :
    other ∈ (e.place time wallet expiry).index ↔ other = wallet ∨ other ∈ e.index := by
  simp only [place_index, kept.active_iff running, or_self]
  split
  · next member =>
    constructor
    · exact .inr
    · rintro (rfl | listed)
      · exact member
      · exact listed
  · rw [List.mem_append, List.mem_singleton, or_comm]

theorem Kept.place {expiry : EmbargoExpiry} (kept : e.Kept) (running : e.Running time)
    (room : e.active time wallet = true ∨ wallet ∈ e.index ∨
      e.index.length < maxEmbargoedWallets) : (e.place time wallet expiry).Kept := by
  by_cases member : wallet ∈ e.index
  · have isActive : e.active time wallet = true := (kept.active_iff running).mpr member
    refine ⟨fun other => ?_, by simpa [isActive] using kept.nodup,
      by simpa [isActive] using kept.bounded, by simpa [isActive] using kept.counted⟩
    by_cases same : other = wallet
    · simp [same, member]
    · simpa [isActive, same] using kept.listed other
  · have isInactive : e.active time wallet = false := by
      rw [← Bool.not_eq_true, kept.active_iff running]
      exact member
    have shorter : e.index.length < maxEmbargoedWallets := by
      simpa [isInactive, member] using room
    have isIndex : (e.place time wallet expiry).index = e.index ++ [wallet] := by
      simp [isInactive, member]
    refine ⟨fun other => ?_, ?_, ?_, ?_⟩
    · rw [isIndex, List.mem_append, List.mem_singleton, kept.listed]
      by_cases same : other = wallet
      · simp [same]
      · simp [same]
    · rw [isIndex]
      refine List.nodup_append.mpr ⟨kept.nodup, List.nodup_singleton _, ?_⟩
      rintro other listed _ (_ | ⟨_, ⟨⟩⟩) rfl
      exact member listed
    · rw [isIndex, List.length_append]
      exact shorter
    · have small : maxEmbargoedWallets < u32Bound := by decide
      rw [isIndex, place_count, if_neg (by simp [isInactive]), kept.counted, satAdd32]
      simp only [List.length_append, List.length_singleton]
      omega

theorem Kept.lift (kept : e.Kept) (running : e.Running time) : (e.lift time wallet).Kept := by
  have isActive : e.active time wallet = true ↔ wallet ∈ e.index := kept.active_iff running
  refine ⟨fun other => ?_, kept.nodup.erase wallet, ?_, ?_⟩
  · rw [lift_index, kept.nodup.mem_erase_iff, kept.listed]
    by_cases same : other = wallet
    · simp [same]
    · simp [same]
  · exact (List.length_erase_le ..).trans kept.bounded
  · rw [lift_count, lift_index, kept.counted, List.length_erase]
    simp only [isActive]

theorem Kept.revoke (kept : e.Kept) : e.revoke.Kept := by
  refine ⟨fun wallet => ?_, List.nodup_nil, Nat.zero_le _, rfl⟩
  have listed := kept.listed wallet
  by_cases member : wallet ∈ e.index
  · simp [member]
  · simp [member, not_not.mp (listed.not.mp member)]

/-- A batch without wallets under an embargo in force changes nothing. -/
theorem foldl_liftOne {wallets : List Address}
    (inactive : ∀ wallet ∈ wallets, e.active time wallet = false) :
    wallets.foldl (liftOne · time) e = e := by
  induction wallets with
  | nil => rfl
  | cons wallet rest ih =>
    have unlifted : e.liftOne time wallet = e := by
      simp [liftOne, inactive wallet List.mem_cons_self]
    rw [List.foldl_cons, unlifted]
    exact ih fun other member => inactive other (List.mem_cons_of_mem wallet member)

end Embargoes

/-! ### Whole runs -/

/-- What a transaction does to the wallets that are held under an embargo. -/
inductive EmbargoNote where
  | none
  | placed (wallet : Address)
  | lifted (wallets : List Address)
  | revoked
deriving DecidableEq

/-- A batch lifts the embargoes that are in force. -/
def embargoNote (w : State) (tx : Transaction) : EmbargoNote :=
  if Returns exec w tx then
    match tx.call with
    | .soleAdmin (.setScoreEmbargo wallet _) => .placed wallet
    | .soleAdmin (.liftScoreEmbargo wallet) => .lifted [wallet]
    | .admins _ (.batchLiftScoreEmbargo wallets) =>
      .lifted (wallets.filter fun wallet => embargoed tx.env w wallet)
    | .admins _ .revokeAllEmbargoes => .revoked
    | _ => .none
  else .none

def EmbargoNote.apply (held : Set Address) : EmbargoNote → Set Address
  | .none => held
  | .placed wallet => insert wallet held
  | .lifted wallets => held \ {wallet | wallet ∈ wallets}
  | .revoked => ∅

/-- The wallets that were put under an embargo in the run and not lifted since. -/
def heldAfter (start : State) (txs : List Transaction) : Set Address :=
  (trace exec embargoNote start txs).foldl EmbargoNote.apply ∅

/-- The count is that of the wallets under an embargo in force, the index that of the wallets
held. -/
structure RecordAgrees (env : ContractEnv) (w : State) (held : Set Address) : Prop where
  count : ∃ active : Finset Address,
    (∀ wallet, wallet ∈ active ↔ embargoed env w wallet = true) ∧
      active.card = (embargoes w).count
  index : ∀ wallet, wallet ∈ (embargoes w).index ↔ wallet ∈ held

/-- The wallets of a batch. -/
def Call.batch : Call → List Address
  | .admins _ (.batchLiftScoreEmbargo wallets) => wallets
  | _ => []

/-- The call meets no embargo that has run out, and no batch meets one that is in force. -/
def EmbargoesRun (w : State) (tx : Transaction) : Prop :=
  Returns exec w tx → tx.call.isEmbargo = true →
    (embargoes w).Running tx.env.timestamp ∧
      ∀ wallet ∈ tx.call.batch, embargoed tx.env w wallet = false

section Runs

variable {w : State} {tx : Transaction}

theorem embargoNote_of_returns (returns : Returns exec w tx) :
    embargoNote w tx = match tx.call with
      | .soleAdmin (.setScoreEmbargo wallet _) => .placed wallet
      | .soleAdmin (.liftScoreEmbargo wallet) => .lifted [wallet]
      | .admins _ (.batchLiftScoreEmbargo wallets) =>
        .lifted (wallets.filter fun wallet => embargoed tx.env w wallet)
      | .admins _ .revokeAllEmbargoes => .revoked
      | _ => .none := if_pos returns

/-- The index moves with the wallets held. -/
theorem embargoes_step (kept : (embargoes w).Kept) (undisturbed : EmbargoesRun w tx) :
    (embargoes (step exec w tx)).Kept ∧
      {wallet | wallet ∈ (embargoes (step exec w tx)).index} =
        (embargoNote w tx).apply {wallet | wallet ∈ (embargoes w).index} := by
  by_cases returns : Returns exec w tx
  · obtain ⟨env, call⟩ := tx
    have moved : EmbargoStep env.timestamp (embargoes { w with authorized := [] }) call
        (embargoes (step exec w ⟨env, call⟩)) := embargoStep_of_ok returns.ok
    change EmbargoStep env.timestamp (embargoes w) call _ at moved
    have quiet := undisturbed returns
    rw [embargoNote_of_returns returns]
    generalize embargoes (step exec w ⟨env, call⟩) = after at moved ⊢
    cases moved with
    | unchanged other =>
      refine ⟨kept, ?_⟩
      rcases call with call | ⟨signers, call⟩ | call
      · rfl
      · cases call <;> first | rfl | cases other
      · cases call <;> first | rfl | cases other
    | placed room =>
      refine ⟨kept.place (quiet rfl).1 room, ?_⟩
      ext other
      exact kept.mem_place (quiet rfl).1
    | @lifted wallet =>
      refine ⟨kept.lift (quiet rfl).1, ?_⟩
      ext other
      simp [EmbargoNote.apply, kept.nodup.mem_erase_iff, and_comm]
    | @batched signers wallets =>
      have inactive : ∀ wallet ∈ wallets, embargoed env w wallet = false := (quiet rfl).2
      rw [Embargoes.foldl_liftOne inactive]
      refine ⟨kept, ?_⟩
      have none : wallets.filter (fun wallet => embargoed env w wallet) = [] :=
        List.filter_eq_nil_iff.mpr fun wallet member => by simp [inactive wallet member]
      simp [EmbargoNote.apply, none]
    | revoked =>
      refine ⟨kept.revoke, ?_⟩
      simp [EmbargoNote.apply]
  · rw [step_of_not_returns returns]
    refine ⟨kept, ?_⟩
    rw [embargoNote, if_neg returns]
    rfl

theorem kept_genesis (balances : Balances) : (embargoes (genesis balances)).Kept where
  listed _ := iff_of_false List.not_mem_nil fun present => present rfl
  nodup := List.nodup_nil
  bounded := Nat.zero_le _
  counted := rfl

theorem run_kept {balances : Balances} {txs : List Transaction}
    (undisturbed : Along exec EmbargoesRun (genesis balances) txs) :
    (embargoes (run exec (genesis balances) txs)).Kept :=
  run_invariant (I := fun w => (embargoes w).Kept)
    (fun _ _ kept quiet => (embargoes_step kept quiet).1) (kept_genesis balances) undisturbed

/-- The record agrees with the embargoes as long as none has run out when a call or a reader
looks at them and no batch lifts any. -/
theorem embargo_record_agrees {balances : Balances} {txs : List Transaction}
    {env : ContractEnv} (undisturbed : Along exec EmbargoesRun (genesis balances) txs)
    (running : (embargoes (run exec (genesis balances) txs)).Running env.timestamp) :
    RecordAgrees env (run exec (genesis balances) txs) (heldAfter (genesis balances) txs) := by
  have kept := run_kept undisturbed
  have simulated := run_simulates (fun w => {wallet | wallet ∈ (embargoes w).index})
    EmbargoNote.apply embargoNote (fun w tx kept quiet => (embargoes_step kept quiet).1)
    (fun w tx kept quiet => (embargoes_step kept quiet).2) (kept_genesis balances) undisturbed
  refine ⟨⟨(embargoes (run exec (genesis balances) txs)).index.toFinset, fun wallet => ?_, ?_⟩,
    fun wallet => ?_⟩
  · rw [List.mem_toFinset, ← kept.active_iff running]
    rfl
  · rw [List.toFinset_card_of_nodup kept.nodup, kept.counted]
  · have none : {wallet | wallet ∈ (embargoes (genesis balances)).index} = ∅ :=
      Set.eq_empty_of_forall_notMem fun _ => List.not_mem_nil
    rw [none] at simulated
    exact Set.ext_iff.mp simulated wallet

/-- On a given run the condition is decided by a look at the index. -/
theorem embargoesRun_of_index {balances : Balances} {txs : List Transaction}
    (runs : Along exec (fun w tx => (∀ wallet ∈ (embargoes w).index,
      embargoed tx.env w wallet = true) ∧ ∀ wallet ∈ tx.call.batch,
        embargoed tx.env w wallet = false) (genesis balances) txs) :
    Along exec EmbargoesRun (genesis balances) txs := by
  have implied {w : State} {tx : Transaction} (kept : (embargoes w).Kept)
      (all : ∀ wallet ∈ (embargoes w).index, embargoed tx.env w wallet = true)
      (inactive : ∀ wallet ∈ tx.call.batch, embargoed tx.env w wallet = false) :
      EmbargoesRun w tx := fun _ _ => ⟨kept.running all, inactive⟩
  refine Along.of_invariant (I := fun w => (embargoes w).Kept) ?_ ?_ (kept_genesis balances) runs
  · intro w tx kept checked
    exact (embargoes_step kept (implied kept checked.1 checked.2)).1
  · intro w tx kept checked
    exact implied kept checked.1 checked.2

/-- An indefinite embargo and a timed one, of which the first is lifted. -/
def sampleEmbargoes : List Transaction :=
  [initSample, soleSample (.setScoreEmbargo (account 3) none),
   soleSample (.setScoreEmbargo (account 4) (some 2000000)),
   ⟨sampleAfter [account 1] 60, .soleAdmin (.liftScoreEmbargo (account 3))⟩]

theorem embargo_record_agrees_sample :
    RecordAgrees (sampleAfter [] 120) (run exec blank sampleEmbargoes)
      (heldAfter blank sampleEmbargoes) := by
  have runs : Along exec EmbargoesRun blank sampleEmbargoes :=
    embargoesRun_of_index (by decide +kernel)
  have all : ∀ wallet ∈ (embargoes (run exec blank sampleEmbargoes)).index,
      embargoed (sampleAfter [] 120) (run exec blank sampleEmbargoes) wallet =
        true := by
    decide +kernel
  exact embargo_record_agrees runs ((run_kept runs).running all)

/-- A timed embargo. -/
def sampleTimed : List Transaction :=
  [initSample, soleSample (.setScoreEmbargo (account 3) (some 1000060))]

/-- An indefinite embargo that is lifted in a batch. -/
def sampleBatch : List Transaction :=
  [initSample, soleSample (.setScoreEmbargo (account 3) none),
   ⟨sampleEnv [account 1], .admins [account 1] (.batchLiftScoreEmbargo [account 3])⟩]

/-- A timed embargo that has run out is still counted, and a wallet lifted in a batch is still
in the index. -/
theorem embargo_record_disagrees : (let w := run exec blank sampleTimed
    (embargoes w).count = 1 ∧ embargoed (sampleAfter [] 120) w (account 3) = false ∧
      ¬ RecordAgrees (sampleAfter [] 120) w (heldAfter blank sampleTimed)) ∧
    (let w := run exec blank sampleBatch
    (embargoes w).count = 0 ∧ (embargoes w).index = [account 3] ∧
      ¬ RecordAgrees (sampleAfter [] 120) w (heldAfter blank sampleBatch)) := by
  refine ⟨⟨by decide +kernel, by decide +kernel, fun agrees => ?_⟩,
    by decide +kernel, by decide +kernel, fun agrees => ?_⟩
  · obtain ⟨active, isActive, counted⟩ := agrees.count
    have runs : Along exec EmbargoesRun blank sampleTimed :=
      embargoesRun_of_index (by decide +kernel)
    -- only the wallets of the index can be under an embargo, and theirs has run out
    have none : active = ∅ := by
      refine Finset.eq_empty_of_forall_notMem fun wallet member => ?_
      have inForce := (isActive wallet).mp member
      have listed : wallet ∈ (embargoes (run exec blank sampleTimed)).index := by
        refine ((run_kept runs).listed wallet).mpr fun absent => ?_
        have off : (embargoes (run exec blank sampleTimed)).active
            (sampleAfter [] 120).timestamp wallet = false := by
          simp [Embargoes.active, absent]
        exact Bool.false_ne_true (off.symm.trans inForce)
      have lapsed : ∀ wallet ∈ (embargoes (run exec blank sampleTimed)).index,
          embargoed (sampleAfter [] 120) (run exec blank sampleTimed) wallet =
            false := by
        decide +kernel
      exact Bool.false_ne_true ((lapsed wallet listed).symm.trans inForce)
    rw [none] at counted
    exact absurd counted (by decide +kernel)
  · have listed := (agrees.index (account 3)).mp (by decide +kernel)
    have noted : trace exec embargoNote blank sampleBatch =
        [.none, .placed (account 3), .lifted [account 3]] := by
      decide +kernel
    rw [heldAfter, noted] at listed
    simp [EmbargoNote.apply] at listed

end Runs

end LedgerLens
