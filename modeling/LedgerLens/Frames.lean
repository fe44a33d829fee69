import LedgerLens.Host.Quorum
import LedgerLens.View

/-!
Relations between states that look at some families of keys only. A program
whose footprint misses those families keeps every such relation, so that an
argument about scores, say, need not mention what is written beside them.
-/

namespace LedgerLens

open Host Host.Prog

/-- `R` looks at the places of the families `f` only: states that agree on them
are related. -/
class About (R : State → State → Prop) (f : outParam (Tag → Bool)) : Prop where
  of_only : ∀ (ts : List Tag) {w w'}, (∀ t ∈ ts, f t = false) → Only placeTag ts w w' → R w w'

/-- A footprint outside the families `f`. -/
class FreeOf (f : Tag → Bool) (ts : List Tag) : Prop where
  out : ∀ t ∈ ts, f t = false

instance (f : Tag → Bool) : FreeOf f [] := ⟨fun _ listed => absurd listed List.not_mem_nil⟩

instance (f : Tag → Bool) (t : Tag) (ts : List Tag) [first : Clear (f t)] [rest : FreeOf f ts] :
    FreeOf f (t :: ts) where
  out u listed := by
    rcases List.mem_cons.mp listed with rfl | listed
    · exact first.eq
    · exact rest.out u listed

section About

variable {R : State → State → Prop} {f : Tag → Bool} [about : About R f]

/-- As `About.of_only`, for footprints that are known. -/
theorem About.of_all {ts : List Tag} {w w' : State} (free : ts.all (fun t => !f t) = true)
    (only : Only placeTag ts w w') : R w w' := by
  refine about.of_only ts (fun t listed => ?_) only
  simpa using List.all_eq_true.mp free t listed

instance (priority := low) : Std.Refl R :=
  ⟨fun w => about.of_only [] (by simp) (Std.Refl.refl w)⟩

instance (priority := low) : EventBlind R where
  emitted w events := about.of_only [] (by simp) (EventBlind.emitted w events)

instance (priority := low) {α : Type} (m : M α) (ts : List Tag) [inner : Touches m ts]
    [free : FreeOf f ts] : Keeps R m where
  ok ran := about.of_only ts free.out (inner.keeps.ok ran)
  err failed := about.of_only ts free.out (inner.keeps.err failed)

private theorem keeps_of_only {α : Type} {m : M α} {t : Tag} (other : f t = false)
    (only : Keeps (Only placeTag [t]) m) : Keeps R m where
  ok ran := about.of_only _ (by simpa using other) (only.ok ran)
  err failed := about.of_only _ (by simpa using other) (only.err failed)

instance (priority := low) (d : Durability) (k : DataKey) (v : Val k) [other : Clear (f k.tag)] :
    Keeps R (store d k v) :=
  keeps_of_only other.eq inferInstance

instance (priority := low) (d : Durability) (k : DataKey) [other : Clear (f k.tag)] :
    Keeps R (remove d k) :=
  keeps_of_only other.eq inferInstance

instance (priority := low) (a : Address) [other : Clear (f .authorizations)] :
    Keeps R (requireAuth a : M Unit) :=
  keeps_of_only other.eq inferInstance

instance (priority := low) (token holder recipient : Address) (amount : Int)
    [other : Clear (f .balances)] : Keeps R (transfer token holder recipient amount : M Unit) :=
  keeps_of_only other.eq inferInstance

end About

/-! ### Equality on some families -/

/-- The places of the families `f` are the same. -/
structure Same (f : Tag → Bool) (w w' : State) : Prop where
  entry : ∀ d k, f k.tag = true → w'.ledger.entry d k = w.ledger.entry d k
  authorized : f .authorizations = true → w'.authorized = w.authorized
  balance : f .balances = true → w'.balance = w.balance

instance (f : Tag → Bool) : About (Same f) f where
  of_only ts w w' free only :=
    have outside {t : Tag} (inside : f t = true) : t ∉ ts := fun listed => by
      simp [free t listed] at inside
    { entry := fun d k inside => only.entry d k (outside inside)
      authorized := fun inside => only.authorized (outside inside)
      balance := fun inside => only.balance (outside inside) }

instance (f : Tag → Bool) : IsTrans State (Same f) where
  trans _ _ _ first second :=
    { entry := fun d k inside => (second.entry d k inside).trans (first.entry d k inside)
      authorized := fun inside => (second.authorized inside).trans (first.authorized inside)
      balance := fun inside => (second.balance inside).trans (first.balance inside) }

theorem Same.mono {f g : Tag → Bool} {w w' : State} (same : Same f w w')
    (fewer : ∀ t, g t = true → f t = true) : Same g w w' where
  entry d k inside := same.entry d k (fewer _ inside)
  authorized inside := same.authorized (fewer _ inside)
  balance inside := same.balance (fewer _ inside)

/-! ### The authorisations of the frame -/

@[reducible] def Tag.isAuthorizations : Tag → Bool
  | .authorizations => true
  | _ => false

instance : About SameFrame Tag.isAuthorizations where
  of_only _ _ _ free only := only.authorized fun listed => absurd (free _ listed) (by decide)

end LedgerLens
