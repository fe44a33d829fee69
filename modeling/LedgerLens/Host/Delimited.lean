import Mathlib.Logic.Function.Basic
import Mathlib.Data.List.Basic

/-!
Encodings that show where they end: from a string that starts with one the encoded value can be
read off, and what follows it. Such encodings can be written one after the other.
-/

namespace Host

variable {α β γ : Type}

/-- The encoded value and the rest can be told from the string. -/
def Delimited (encode : α → List β) : Prop :=
  ∀ ⦃a b : α⦄ ⦃rest rest' : List β⦄, encode a ++ rest = encode b ++ rest' → a = b ∧ rest = rest'

namespace Delimited

theorem of_width {encode : α → List β} {width : Nat} (fixed : ∀ a, (encode a).length = width)
    (injective : Function.Injective encode) : Delimited encode := by
  intro a b rest rest' same
  obtain ⟨first, later⟩ := List.append_inj same ((fixed a).trans (fixed b).symm)
  exact ⟨injective first, later⟩

theorem comp {encode : α → List β} (delimited : Delimited encode) {f : γ → α}
    (injective : Function.Injective f) : Delimited (encode ∘ f) := by
  intro a b rest rest' same
  obtain ⟨first, later⟩ := delimited same
  exact ⟨injective first, later⟩

/-- One value after the other. -/
theorem append {encode : α → List β} {encode' : γ → List β} (first : Delimited encode)
    (second : Delimited encode') : Delimited fun p : α × γ => encode p.1 ++ encode' p.2 := by
  rintro ⟨a, c⟩ ⟨b, d⟩ rest rest' same
  dsimp only at same
  rw [List.append_assoc, List.append_assoc] at same
  obtain ⟨rfl, later⟩ := first same
  obtain ⟨rfl, last⟩ := second later
  exact ⟨rfl, last⟩

/-- A string after its length. -/
theorem lengthPrefixed {header : Nat → List β} {bound : Nat}
    (delimited : Delimited fun n : { n : Nat // n < bound } => header n.1) :
    Delimited fun xs : { xs : List β // xs.length < bound } => header xs.1.length ++ xs.1 := by
  rintro ⟨xs, short⟩ ⟨ys, short'⟩ rest rest' same
  dsimp only at same
  rw [List.append_assoc, List.append_assoc] at same
  obtain ⟨lengths, later⟩ :=
    @delimited ⟨xs.length, short⟩ ⟨ys.length, short'⟩ _ _ same
  obtain ⟨rfl, last⟩ := List.append_inj later (congrArg Subtype.val lengths)
  exact ⟨rfl, last⟩

/-- Encodings of a list, which are not empty, can be told apart. -/
theorem flatMap_injective {encode : α → List β} (delimited : Delimited encode)
    (nonempty : ∀ a, encode a ≠ []) {as bs : List α}
    (same : as.flatMap encode = bs.flatMap encode) : as = bs := by
  induction as generalizing bs with
  | nil =>
    cases bs with
    | nil => rfl
    | cons b bs => exact absurd (List.append_eq_nil_iff.mp same.symm).1 (nonempty b)
  | cons a as ih =>
    cases bs with
    | nil => exact absurd (List.append_eq_nil_iff.mp same).1 (nonempty a)
    | cons b bs =>
      obtain ⟨rfl, rest⟩ := delimited same
      rw [ih rest]

end Delimited

end Host
