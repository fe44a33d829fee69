import LedgerLens.Host.Reasoning
import Mathlib.Logic.Function.Basic

/-!
The state of one contract under a transactional host, over an arbitrary key
type `K` whose entries have the types `V`.

Keys live in one of three storage classes. Time to live is not modelled: an
entry stays until it is removed. An invocation runs in one frame; the host
traps when the same address authorises twice in a frame, so the addresses that
already did are part of the running state. Token balances are the balances kept
by other contracts and are only moved by `transfer`.
-/

namespace Host

abbrev Bytes := List UInt8

/-- Byte strings of a fixed length. -/
abbrev BytesN (n : Nat) := { bytes : Bytes // bytes.length = n }

/-- Addresses, as the 56 bytes of their textual form. -/
structure Address where
  strkey : BytesN 56
  deriving DecidableEq

/-- The storage classes; `inst` is the storage of the contract instance. -/
inductive Durability where
  | inst
  | persistent
  | temporary
  deriving DecidableEq

/-- The entries of a contract, by storage class and key. -/
structure Ledger (K : Type) (V : K → Type) where
  entry : Durability → (k : K) → Option (V k)

namespace Ledger

variable {K : Type} {V : K → Type}

def empty : Ledger K V := ⟨fun _ _ => none⟩

@[ext] theorem ext {l l' : Ledger K V} (same : ∀ d k, l.entry d k = l'.entry d k) : l = l' := by
  cases l
  cases l'
  congr
  funext d k
  exact same d k

variable [DecidableEq K]

/-- Overwrite (or, with `none`, remove) one entry. -/
def put (l : Ledger K V) (d : Durability) (k : K) (v : Option (V k)) : Ledger K V :=
  ⟨fun d' => if d' = d then Function.update (l.entry d') k v else l.entry d'⟩

@[simp] theorem entry_put_self (l : Ledger K V) (d : Durability) (k : K) (v : Option (V k)) :
    (l.put d k v).entry d k = v := by
  simp [put]

theorem entry_put_of_ne (l : Ledger K V) {d d' : Durability} {k k' : K} (v : Option (V k))
    (other : k' ≠ k) : (l.put d k v).entry d' k' = l.entry d' k' := by
  unfold put
  dsimp only
  split
  · exact Function.update_of_ne other _ _
  · rfl

theorem entry_put_of_durability_ne (l : Ledger K V) {d d' : Durability} {k k' : K}
    (v : Option (V k)) (other : d' ≠ d) : (l.put d k v).entry d' k' = l.entry d' k' := by
  simp [put, other]

/-- A family of entries read one by one, after one of them was put. -/
theorem family_put {I α : Type} [DecidableEq I] (l : Ledger K V) (d : Durability) (key : I → K)
    (injective : Function.Injective key) (read : ∀ i, Option (V (key i)) → α) (i : I)
    (v : Option (V (key i))) :
    (fun j => read j ((l.put d (key i) v).entry d (key j))) =
      Function.update (fun j => read j (l.entry d (key j))) i (read i v) := by
  funext j
  rw [Function.update_apply]
  split
  · next same =>
    cases same
    rw [entry_put_self]
  · next other => rw [entry_put_of_ne l v (injective.ne other)]

end Ledger

/-- Hash and signature functions of the host. `recover` is public-key recovery
from a digest, a signature and a recovery id; it has no result (the host traps)
on a signature that does not parse. -/
structure Crypto where
  sha256 : Bytes → BytesN 32
  recover : BytesN 32 → BytesN 64 → Nat → Option (BytesN 65)

/-- What one invocation sees: ledger time and sequence, the network, who signed
it, the address of the contract, and the behaviour `external` of other code. -/
structure Env (X : Type) where
  timestamp : Nat
  sequence : Nat
  networkId : BytesN 32
  signed : Address → Bool
  self : Address
  crypto : Crypto
  external : X
  timestamp_lt : timestamp < 2 ^ 64 := by decide
  sequence_lt : sequence < 2 ^ 32 := by decide

/-- The state a running invocation transforms. -/
structure World (K : Type) (V : K → Type) (Ev : Type) where
  ledger : Ledger K V
  balance : Address → Address → Int
  authorized : List Address
  events : List Ev

section Primitives

variable {K : Type} {V : K → Type} {Ev X ε : Type}

/-- The entry stored under a key. -/
def load (d : Durability) (k : K) : Prog (Env X) ε (World K V Ev) (Option (V k)) :=
  Prog.reads fun w => w.ledger.entry d k

/-- The entry stored under a key, or a default. -/
def loadOr (d : Durability) (k : K) (default : V k) : Prog (Env X) ε (World K V Ev) (V k) :=
  Prog.reads fun w => (w.ledger.entry d k).getD default

/-- Whether anything is stored under a key. -/
def has (d : Durability) (k : K) : Prog (Env X) ε (World K V Ev) Bool :=
  Prog.reads fun w => (w.ledger.entry d k).isSome

/-- Store an entry. -/
def save [DecidableEq K] (d : Durability) (k : K) (v : V k) : Prog (Env X) ε (World K V Ev) Unit :=
  Prog.update fun w => { w with ledger := w.ledger.put d k (some v) }

/-- Remove an entry. -/
def erase [DecidableEq K] (d : Durability) (k : K) : Prog (Env X) ε (World K V Ev) Unit :=
  Prog.update fun w => { w with ledger := w.ledger.put d k none }

/-- Publish an event. -/
def emit (event : Ev) : Prog (Env X) ε (World K V Ev) Unit :=
  Prog.update fun w => { w with events := w.events ++ [event] }

/-- Demand that `a` authorised this invocation. A second demand in the same
frame traps, as does a missing signature. -/
def requireAuth (a : Address) : Prog (Env X) ε (World K V Ev) Unit := fun env w =>
  if env.signed a ∧ a ∉ w.authorized then .ok () { w with authorized := a :: w.authorized }
  else .trap

/-- Move tokens held with the contract `token`. The holder signed, or is the
running contract itself; an amount the holder does not have traps. -/
def transfer (token holder recipient : Address) (amount : Int) :
    Prog (Env X) ε (World K V Ev) Unit := fun env w =>
  if 0 ≤ amount ∧ amount ≤ w.balance token holder ∧ (holder = env.self ∨ env.signed holder) then
    let debited := Function.update (w.balance token) holder (w.balance token holder - amount)
    let credited := Function.update debited recipient (debited recipient + amount)
    .ok () { w with balance := Function.update w.balance token credited }
  else .trap

/-- The state once `amount` of the token went from the holder to the recipient. -/
def World.moved (w : World K V Ev) (token holder recipient : Address) (amount : Int) :
    World K V Ev :=
  let debited := Function.update (w.balance token) holder (w.balance token holder - amount)
  let credited := Function.update debited recipient (debited recipient + amount)
  { w with balance := Function.update w.balance token credited }

/-- Run a whole invocation: a fresh frame, and everything rolled back unless
the program returned. -/
def invoke {α : Type} (m : Prog (Env X) ε (World K V Ev) α) (env : Env X) (w : World K V Ev) :
    World K V Ev :=
  match m env { w with authorized := [] } with
  | .ok _ w' => w'
  | .err _ _ => w
  | .trap => w

variable {r : Env X} {w w' : World K V Ev}

@[simp] theorem load_ok {d : Durability} {k : K} {v : Option (V k)} :
    (load d k : Prog (Env X) ε (World K V Ev) _) r w = .ok v w' ↔
      w.ledger.entry d k = v ∧ w = w' := by
  simp [load]

@[simp] theorem loadOr_ok {d : Durability} {k : K} {default v : V k} :
    (loadOr d k default : Prog (Env X) ε (World K V Ev) _) r w = .ok v w' ↔
      (w.ledger.entry d k).getD default = v ∧ w = w' := by
  simp [loadOr]

@[simp] theorem has_ok {d : Durability} {k : K} {b : Bool} :
    (has d k : Prog (Env X) ε (World K V Ev) _) r w = .ok b w' ↔
      (w.ledger.entry d k).isSome = b ∧ w = w' := by
  simp [has]

@[simp] theorem save_ok [DecidableEq K] {d : Durability} {k : K} {v : V k} {u : Unit} :
    (save d k v : Prog (Env X) ε (World K V Ev) _) r w = .ok u w' ↔
      { w with ledger := w.ledger.put d k (some v) } = w' := by
  simp [save]

@[simp] theorem erase_ok [DecidableEq K] {d : Durability} {k : K} {u : Unit} :
    (erase d k : Prog (Env X) ε (World K V Ev) _) r w = .ok u w' ↔
      { w with ledger := w.ledger.put d k none } = w' := by
  simp [erase]

@[simp] theorem emit_ok {event : Ev} {u : Unit} :
    (emit event : Prog (Env X) ε (World K V Ev) _) r w = .ok u w' ↔
      { w with events := w.events ++ [event] } = w' := by
  simp [emit]

@[simp] theorem requireAuth_ok {a : Address} {u : Unit} :
    (requireAuth a : Prog (Env X) ε (World K V Ev) _) r w = .ok u w' ↔
      (r.signed a = true ∧ a ∉ w.authorized) ∧ { w with authorized := a :: w.authorized } = w' := by
  unfold requireAuth
  split <;> simp [*]

@[simp] theorem transfer_ok {token holder recipient : Address} {amount : Int} {u : Unit} :
    (transfer token holder recipient amount : Prog (Env X) ε (World K V Ev) _) r w = .ok u w' ↔
      (0 ≤ amount ∧ amount ≤ w.balance token holder ∧ (holder = r.self ∨ r.signed holder = true)) ∧
        w.moved token holder recipient amount = w' := by
  unfold transfer World.moved
  split <;> simp [*]

@[simp] theorem World.moved_ledger (token holder recipient : Address) (amount : Int) :
    (w.moved token holder recipient amount).ledger = w.ledger := rfl

theorem World.moved_balance_congr {v : World K V Ev} (same : v.balance = w.balance)
    (token holder recipient : Address) (amount : Int) :
    (v.moved token holder recipient amount).balance =
      (w.moved token holder recipient amount).balance := by
  simp only [moved, same]

end Primitives

/-! ### Frames over places

Places come in families, told apart by a tag. A footprint is a list of tags;
that a program stays inside its footprint is found by instance search, which
needs list membership as a class. -/

/-- List membership, decided by instance search. -/
class Listed {T : Type} (t : T) (ts : List T) : Prop where
  mem : t ∈ ts

instance (priority := high) Listed.head {T : Type} (t : T) (ts : List T) : Listed t (t :: ts) :=
  ⟨List.mem_cons_self⟩

instance Listed.tail {T : Type} (t u : T) (ts : List T) [rest : Listed t ts] : Listed t (u :: ts) :=
  ⟨List.mem_cons_of_mem u rest.mem⟩

/-- List inclusion, decided by instance search. -/
class Within {T : Type} (ts us : List T) : Prop where
  subset : ts ⊆ us

instance Within.nil {T : Type} (us : List T) : Within [] us := ⟨List.nil_subset us⟩

instance Within.cons {T : Type} (t : T) (ts us : List T) [first : Listed t us]
    [rest : Within ts us] : Within (t :: ts) us :=
  ⟨List.cons_subset.mpr ⟨first.mem, rest.subset⟩⟩

/-- A Boolean that computes to `false`, found by instance search on closed
applications of key predicates. -/
class Clear (b : Bool) : Prop where
  eq : b = false

instance : Clear false := ⟨rfl⟩

/-- The places a program can change: the entries of a key, the authorisations of
the running frame and the balances. -/
inductive Place (K : Type) where
  | entry (k : K)
  | authorizations
  | balances

section Frames

variable {K T : Type} {V : K → Type} {Ev X ε α : Type} {tag : Place K → T} {ts us : List T}

/-- Only places that carry one of the given tags may differ. Events are not
looked at. -/
structure Only (tag : Place K → T) (ts : List T) (w w' : World K V Ev) : Prop where
  entry : ∀ d k, tag (.entry k) ∉ ts → w'.ledger.entry d k = w.ledger.entry d k
  authorized : tag .authorizations ∉ ts → w'.authorized = w.authorized
  balance : tag .balances ∉ ts → w'.balance = w.balance

instance : Std.Refl (@Only K T V Ev tag ts) :=
  ⟨fun _ => ⟨fun _ _ _ => rfl, fun _ => rfl, fun _ => rfl⟩⟩

instance : IsTrans (World K V Ev) (Only tag ts) where
  trans _ _ _ first second :=
    { entry := fun d k outside => (second.entry d k outside).trans (first.entry d k outside)
      authorized := fun outside => (second.authorized outside).trans (first.authorized outside)
      balance := fun outside => (second.balance outside).trans (first.balance outside) }

theorem Only.mono {w w' : World K V Ev} (only : Only tag ts w w') (subset : ts ⊆ us) :
    Only tag us w w' where
  entry d k outside := only.entry d k fun inside => outside (subset inside)
  authorized outside := only.authorized fun inside => outside (subset inside)
  balance outside := only.balance fun inside => outside (subset inside)

/-- Nothing of the ledger differs when no tag is given. -/
theorem Only.ledger_eq {w w' : World K V Ev} (only : Only tag [] w w') : w'.ledger = w.ledger :=
  Ledger.ext fun d k => only.entry d k List.not_mem_nil

/-- The footprint of a program: the tags of the places it may change. -/
class Footprint (tag : Place K → T) (m : Prog (Env X) ε (World K V Ev) α)
    (ts : outParam (List T)) : Prop where
  keeps : Prog.Keeps (Only tag ts) m

/-- A program keeps everything outside any list that covers its footprint. -/
instance (priority := low) Footprint.instKeeps (m : Prog (Env X) ε (World K V Ev) α)
    [inner : Footprint tag m ts] [within : Within ts us] : Prog.Keeps (Only tag us) m where
  ok h := (inner.keeps.ok h).mono within.subset
  err h := (inner.keeps.err h).mono within.subset

/-- The two states differ at most in the entries under hidden keys and in the
published events. -/
structure Alike (hidden : K → Bool) (w w' : World K V Ev) : Prop where
  entry : ∀ d k, hidden k = false → w'.ledger.entry d k = w.ledger.entry d k
  balance : w'.balance = w.balance
  authorized : w'.authorized = w.authorized

variable {hidden : K → Bool}

/-- Relations that do not look at events. -/
class EventBlind (R : World K V Ev → World K V Ev → Prop) : Prop where
  emitted : ∀ w events, R w { w with events }

instance : EventBlind (@Only K T V Ev tag ts) where
  emitted _ _ := ⟨fun _ _ _ => rfl, fun _ => rfl, fun _ => rfl⟩

section Primitives

variable {R : World K V Ev → World K V Ev → Prop}

instance keeps_emit [blind : EventBlind R] (event : Ev) :
    Prog.Keeps R (emit event : Prog (Env X) ε (World K V Ev) _) :=
  Prog.Keeps.of_update fun w => blind.emitted w _

theorem keeps_requireAuth_of (related : ∀ w authorized, R w { w with authorized }) (a : Address) :
    Prog.Keeps R (requireAuth a : Prog (Env X) ε (World K V Ev) _) where
  ok h := by
    obtain ⟨_, rfl⟩ := requireAuth_ok.mp h
    exact related _ _
  err h := by
    unfold requireAuth at h
    split at h <;> cases h

theorem keeps_transfer_of (related : ∀ w balance, R w { w with balance })
    (token holder recipient : Address) (amount : Int) :
    Prog.Keeps R (transfer token holder recipient amount : Prog (Env X) ε (World K V Ev) _) where
  ok h := by
    unfold transfer at h
    split at h
    · cases h
      exact related _ _
    · cases h
  err h := by
    unfold transfer at h
    split at h <;> cases h

end Primitives

instance keeps_requireAuth (a : Address) [listed : Listed (tag .authorizations) ts] :
    Prog.Keeps (Only tag ts) (requireAuth a : Prog (Env X) ε (World K V Ev) _) :=
  keeps_requireAuth_of
    (fun _ _ => ⟨fun _ _ _ => rfl, fun outside => absurd listed.mem outside, fun _ => rfl⟩) a

instance keeps_transfer (token holder recipient : Address) (amount : Int)
    [listed : Listed (tag .balances) ts] :
    Prog.Keeps (Only tag ts)
      (transfer token holder recipient amount : Prog (Env X) ε (World K V Ev) _) :=
  keeps_transfer_of
    (fun _ _ => ⟨fun _ _ _ => rfl, fun _ => rfl, fun outside => absurd listed.mem outside⟩)
    token holder recipient amount

instance respects_requireAuth (a : Address) :
    Prog.Respects (Alike hidden) (requireAuth a : Prog (Env X) ε (World K V Ev) _) where
  run {r w w'} alike := by
    unfold requireAuth
    rw [alike.authorized]
    split
    · exact .ok ⟨alike.entry, alike.balance, rfl⟩
    · exact .trap

section Reads

variable {R : World K V Ev → World K V Ev → Prop} [Std.Refl R]

instance keeps_load (d : Durability) (k : K) :
    Prog.Keeps (α := no_index (Option (V k))) R (load d k : Prog (Env X) ε (World K V Ev) _) :=
  Prog.Keeps.instReads _

instance keeps_loadOr (d : Durability) (k : K) (default : V k) :
    Prog.Keeps (α := no_index (V k)) R (loadOr d k default : Prog (Env X) ε (World K V Ev) _) :=
  Prog.Keeps.instReads _

instance keeps_has (d : Durability) (k : K) :
    Prog.Keeps R (has d k : Prog (Env X) ε (World K V Ev) _) :=
  Prog.Keeps.instReads _

end Reads

instance respects_loadOr (d : Durability) (k : K) (default : V k) [visible : Clear (hidden k)] :
    Prog.Respects (α := no_index (V k)) (Alike hidden)
      (loadOr d k default : Prog (Env X) ε (World K V Ev) _) :=
  Prog.Respects.of_reads fun _ _ alike => by rw [alike.entry d k visible.eq]

instance respects_has (d : Durability) (k : K) [visible : Clear (hidden k)] :
    Prog.Respects (Alike hidden) (has d k : Prog (Env X) ε (World K V Ev) _) :=
  Prog.Respects.of_reads fun _ _ alike => by rw [alike.entry d k visible.eq]

instance respects_load (d : Durability) (k : K) [visible : Clear (hidden k)] :
    Prog.Respects (α := no_index (Option (V k))) (Alike hidden)
      (load d k : Prog (Env X) ε (World K V Ev) _) :=
  Prog.Respects.of_reads fun _ _ alike => (alike.entry d k visible.eq).symm

variable [DecidableEq K]

private theorem only_put (w : World K V Ev) (d : Durability) (k : K) (v : Option (V k)) :
    Only tag [tag (.entry k)] w { w with ledger := w.ledger.put d k v } where
  entry d' k' outside := by
    apply Ledger.entry_put_of_ne
    rintro rfl
    exact outside List.mem_cons_self
  authorized _ := rfl
  balance _ := rfl

instance keeps_save (d : Durability) (k : K) (v : V k) [listed : Listed (tag (.entry k)) ts] :
    Prog.Keeps (Only tag ts) (save d k v : Prog (Env X) ε (World K V Ev) _) :=
  Prog.Keeps.of_update fun w => (only_put w d k (some v)).mono (by simpa using listed.mem)

instance keeps_erase (d : Durability) (k : K) [listed : Listed (tag (.entry k)) ts] :
    Prog.Keeps (Only tag ts) (erase d k : Prog (Env X) ε (World K V Ev) _) :=
  Prog.Keeps.of_update fun w => (only_put w d k none).mono (by simpa using listed.mem)

private theorem Alike.put {w w' : World K V Ev} (alike : Alike hidden w w') (d : Durability)
    (k : K) (v : Option (V k)) :
    Alike hidden { w with ledger := w.ledger.put d k v }
      { w' with ledger := w'.ledger.put d k v } where
  entry d' k' visible := by
    by_cases sameKey : k' = k
    · subst sameKey
      by_cases sameClass : d' = d
      · subst sameClass
        rw [Ledger.entry_put_self, Ledger.entry_put_self]
      · rw [Ledger.entry_put_of_durability_ne _ _ sameClass,
          Ledger.entry_put_of_durability_ne _ _ sameClass]
        exact alike.entry d' k' visible
    · rw [Ledger.entry_put_of_ne _ _ sameKey, Ledger.entry_put_of_ne _ _ sameKey]
      exact alike.entry d' k' visible
  balance := alike.balance
  authorized := alike.authorized

instance respects_erase (d : Durability) (k : K) :
    Prog.Respects (Alike hidden) (erase d k : Prog (Env X) ε (World K V Ev) _) :=
  Prog.Respects.of_update fun _ _ alike => alike.put d k none

end Frames

end Host
