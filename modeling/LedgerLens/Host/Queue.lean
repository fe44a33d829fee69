import Mathlib.Data.List.Nodup
import Mathlib.Data.List.Pairwise

/-!
Queues in the order of a stamp. Whatever is stamped goes to the back, so the
oldest stamps stay in front, and those that are old enough are found by reading
from the front until the first that is not. Picking the largest age again and
again from the whole queue finds the same, in the same order.
-/

namespace Host

variable {α : Type}

/-! ### The queue -/

/-- No repetitions, no stamp from the future, oldest stamps in front. -/
structure Queued (stamp : α → Nat) (now : Nat) (queue : List α) : Prop where
  nodup : queue.Nodup
  stamp_le : ∀ a ∈ queue, stamp a ≤ now
  ordered : queue.Pairwise fun a b => stamp a ≤ stamp b

namespace Queued

variable {stamp : α → Nat} {now later : Nat} {queue : List α} {a : α}

theorem nil : Queued stamp now [] := ⟨.nil, nofun, .nil⟩

theorem mono (queued : Queued stamp now queue) (le : now ≤ later) : Queued stamp later queue :=
  ⟨queued.nodup, fun a listed => Nat.le_trans (queued.stamp_le a listed) le, queued.ordered⟩

theorem pushBack (queued : Queued stamp now queue) (outside : a ∉ queue) (isNow : stamp a = now) :
    Queued stamp now (queue ++ [a]) where
  nodup := List.nodup_append.mpr ⟨queued.nodup, List.nodup_singleton a, by
    intro b old c new
    rw [List.mem_singleton.mp new]
    rintro rfl
    exact outside old⟩
  stamp_le b listed := by
    rcases List.mem_append.mp listed with old | new
    · exact queued.stamp_le b old
    · exact Nat.le_of_eq (List.mem_singleton.mp new ▸ isNow)
  ordered := by
    refine List.pairwise_append.mpr ⟨queued.ordered, List.pairwise_singleton _ _, ?_⟩
    intro b old c new
    rw [List.mem_singleton.mp new, isNow]
    exact queued.stamp_le b old

/-- Stamping what is not in the queue changes nothing for it. -/
theorem restamp [DecidableEq α] (queued : Queued stamp now queue) (outside : a ∉ queue) (v : Nat) :
    Queued (Function.update stamp a v) now queue := by
  have same {b : α} (listed : b ∈ queue) : Function.update stamp a v b = stamp b := by
    refine Function.update_of_ne ?_ _ _
    rintro rfl
    exact outside listed
  refine ⟨queued.nodup, fun b listed => ?_, queued.ordered.imp_of_mem fun ha hb le => ?_⟩
  · rw [same listed]
    exact queued.stamp_le b listed
  · rwa [same ha, same hb]

variable [BEq α] [LawfulBEq α]

theorem erase (queued : Queued stamp now queue) : Queued stamp now (queue.erase a) where
  nodup := queued.nodup.erase a
  stamp_le b listed := queued.stamp_le b (List.mem_of_mem_erase listed)
  ordered := queued.ordered.sublist List.erase_sublist

/-- A stamp moves its element to the back. -/
theorem toBack [DecidableEq α] (queued : Queued stamp now queue) (le : now ≤ later) :
    Queued (Function.update stamp a later) later (queue.erase a ++ [a]) := by
  have outside : a ∉ queue.erase a := queued.nodup.not_mem_erase
  exact ((queued.erase.restamp outside later).mono le).pushBack outside (Function.update_self ..)

end Queued

/-! ### Reading from the front -/

/-- Where those that pass come first, all of them are found before the first that
does not. -/
theorem filter_eq_takeWhile {p : α → Bool} {queue : List α}
    (ordered : queue.Pairwise fun a b => p b = true → p a = true) :
    queue.filter p = queue.takeWhile p := by
  induction queue with
  | nil => rfl
  | cons a rest ih =>
    obtain ⟨first, ordered⟩ := List.pairwise_cons.mp ordered
    by_cases passes : p a = true
    · rw [List.filter_cons_of_pos passes, List.takeWhile_cons_of_pos passes, ih ordered]
    · rw [List.takeWhile_cons_of_neg passes, List.filter_eq_nil_iff]
      intro b listed pass
      rcases List.mem_cons.mp listed with rfl | later
      · exact passes pass
      · exact passes (first b later pass)

/-! ### Picking the largest -/

section Selection

variable (key : α → Nat)

/-- The position of the first largest key, given the best among those before
position `i`. -/
def bestFrom (best bestKey i : Nat) : List α → Nat
  | [] => best
  | a :: rest =>
    if key a > bestKey then bestFrom i (key a) (i + 1) rest else bestFrom best bestKey (i + 1) rest

def bestIndex : List α → Nat
  | [] => 0
  | a :: rest => bestFrom key 0 (key a) 1 rest

/-- Take out the first largest, `n` times. -/
def selectMax : Nat → List α → List α
  | 0, _ => []
  | n + 1, queue =>
    match queue[bestIndex key queue]? with
    | some a => a :: selectMax n (queue.eraseIdx (bestIndex key queue))
    | none => []

variable {key}

theorem bestFrom_of_le {best bestKey : Nat} {rest : List α} (le : ∀ a ∈ rest, key a ≤ bestKey)
    (i : Nat) : bestFrom key best bestKey i rest = best := by
  induction rest generalizing i with
  | nil => rfl
  | cons a rest ih =>
    rw [bestFrom, if_neg (Nat.not_lt.mpr (le a List.mem_cons_self))]
    exact ih (fun b listed => le b (List.mem_cons_of_mem _ listed)) _

/-- From a list that is in order already, they are taken from the front. -/
theorem selectMax_of_ordered {queue : List α} (ordered : queue.Pairwise fun a b => key b ≤ key a)
    (n : Nat) : selectMax key n queue = queue.take n := by
  induction n generalizing queue with
  | zero => rw [selectMax, List.take_zero]
  | succ n ih =>
    cases queue with
    | nil => rfl
    | cons a rest =>
      obtain ⟨first, ordered⟩ := List.pairwise_cons.mp ordered
      have best : bestIndex key (a :: rest) = 0 := bestFrom_of_le first 1
      rw [selectMax, best, List.take_succ_cons]
      exact congrArg (a :: ·) (ih ordered)

end Selection

end Host
