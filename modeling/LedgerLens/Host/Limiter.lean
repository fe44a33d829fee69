import Mathlib.Algebra.Order.BigOperators.Group.List
import Mathlib.Algebra.Order.Ring.Int
import Mathlib.Data.List.Pairwise

/-!
Rate limits. A limiter decides on the spot, from the little it remembers, how
much may pass at a given time; the results here say what that comes to over any
stretch of time.
-/

namespace Host

/-! ### Token buckets

A draw takes one token out of a bucket that gains one every `period`, up to
`capacity`. The time of the last refill moves in whole periods. -/

structure Bucket where
  tokens : Nat
  lastRefill : Nat

/-- The tokens a bucket has gained. -/
def Bucket.gained (period now : Nat) (bucket : Bucket) : Nat :=
  (now - bucket.lastRefill) / period

/-- Times of draws, from the bucket there was. The first draw finds a full one. -/
inductive Drawn (capacity period : Nat) : Option Bucket → List Nat → Prop where
  | done (last : Option Bucket) : Drawn capacity period last []
  | first {now : Nat} {next : Bucket} {rest : List Nat} :
      next.tokens + 1 ≤ capacity → next.lastRefill = now →
      Drawn capacity period (some next) rest → Drawn capacity period none (now :: rest)
  | draw {bucket next : Bucket} {now : Nat} {rest : List Nat} :
      next.tokens + 1 ≤ bucket.tokens + bucket.gained period now → next.tokens + 1 ≤ capacity →
      next.lastRefill = bucket.lastRefill + bucket.gained period now * period →
      Drawn capacity period (some next) rest → Drawn capacity period (some bucket) (now :: rest)

section Buckets

variable {capacity period : Nat} {times : List Nat}

/-- The last refill is less than a period ago. -/
theorem Bucket.lt_add_gained (positive : 0 < period) (bucket : Bucket) (now : Nat) :
    now < bucket.lastRefill + bucket.gained period now * period + period := by
  have := Nat.lt_div_mul_add positive (a := now - bucket.lastRefill)
  unfold Bucket.gained
  omega

theorem Bucket.add_gained_le {bucket : Bucket} {now : Nat} (begun : bucket.lastRefill ≤ now) :
    bucket.lastRefill + bucket.gained period now * period ≤ now := by
  have := Nat.div_mul_le_self (now - bucket.lastRefill) period
  unfold Bucket.gained
  omega

/-- Up to a given time there are no more draws than there were tokens, with those gained
until then. -/
theorem Drawn.countP_le {bucket : Bucket} (drawn : Drawn capacity period (some bucket) times)
    (sorted : times.Pairwise (· ≤ ·)) (begun : ∀ now ∈ times, bucket.lastRefill ≤ now)
    (last : Nat) : times.countP (· ≤ last) ≤ bucket.tokens + bucket.gained period last := by
  generalize isSome : some bucket = start at drawn
  induction drawn generalizing bucket with
  | done => simp
  | first => cases isSome
  | @draw bucket next now rest enough _ refilled _ ih =>
    cases isSome
    obtain ⟨first, sorted⟩ := List.pairwise_cons.mp sorted
    have started := begun now List.mem_cons_self
    have next_le : next.lastRefill ≤ now := refilled ▸ Bucket.add_gained_le started
    by_cases past : last < now
    · have none : (now :: rest).countP (· ≤ last) = 0 := by
        refine List.countP_eq_zero.mpr fun time listed => ?_
        rcases List.mem_cons.mp listed with rfl | listed
        · simpa using past
        · simpa using past.trans_le (first time listed)
      omega
    · have later := ih sorted (fun time listed => next_le.trans (first time listed)) rfl
      rw [List.countP_cons_of_pos (by simpa using past)]
      -- what is gained until `last` is what was gained until `now` and what is gained since
      have gained : next.gained period last + bucket.gained period now ≤
          bucket.gained period last := by
        rw [Bucket.gained, refilled, Nat.sub_add_eq, Nat.mul_comm _ period, Nat.sub_mul_div]
        have : bucket.gained period now ≤ bucket.gained period last :=
          Nat.div_le_div_right (by omega)
        unfold Bucket.gained at *
        omega
      omega

/-- A draw leaves less than the capacity, in a bucket refilled less than a period ago. -/
theorem Drawn.of_cons {last : Option Bucket} {now : Nat} {rest : List Nat}
    (drawn : Drawn capacity period last (now :: rest)) (positive : 0 < period)
    (begun : ∀ bucket ∈ last, bucket.lastRefill ≤ now) :
    ∃ next : Bucket, next.tokens + 1 ≤ capacity ∧ next.lastRefill ≤ now ∧
      now < next.lastRefill + period ∧ Drawn capacity period (some next) rest := by
  cases drawn with
  | @first _ next _ below isNow later =>
    exact ⟨next, below, isNow.le, isNow ▸ Nat.lt_add_of_pos_right positive, later⟩
  | @draw bucket next _ _ _ below refilled later =>
    exact ⟨next, below, refilled ▸ Bucket.add_gained_le (begun bucket rfl),
      refilled ▸ bucket.lt_add_gained positive now, later⟩

/-- In a stretch of any length, there are no more draws than the capacity, one for every
period in it and one more. -/
theorem Drawn.countP_within_le {last : Option Bucket} (drawn : Drawn capacity period last times)
    (positive : 0 < period) (sorted : times.Pairwise (· ≤ ·))
    (begun : ∀ bucket ∈ last, ∀ now ∈ times, bucket.lastRefill ≤ now) (start length : Nat) :
    times.countP (fun now => start ≤ now ∧ now ≤ start + length) ≤
      capacity + length / period + 1 := by
  induction times generalizing last with
  | nil => simp
  | cons now rest ih =>
    obtain ⟨next, below, next_le, recent, later⟩ := drawn.of_cons positive
      fun bucket isLast => begun bucket isLast now List.mem_cons_self
    obtain ⟨first, sorted⟩ := List.pairwise_cons.mp sorted
    have begun : ∀ time ∈ rest, next.lastRefill ≤ time := fun time listed =>
      next_le.trans (first time listed)
    by_cases early : now < start
    · rw [List.countP_cons_of_neg (by simp; omega)]
      exact ih later sorted fun bucket isNext => Option.mem_some.mp isNext ▸ begun
    · -- the first draw within the stretch leaves less than the capacity
      have rest_le := (List.countP_mono_left fun time _ within => by
        simpa using (of_decide_eq_true within).2 :
          rest.countP (fun now => start ≤ now ∧ now ≤ start + length) ≤
            rest.countP (· ≤ start + length)).trans
        (later.countP_le sorted begun (start + length))
      have gained : next.gained period (start + length) ≤ length / period + 1 := by
        rw [← Nat.add_div_right length positive]
        exact Nat.div_le_div_right (by omega)
      have counted : (now :: rest).countP (fun now => start ≤ now ∧ now ≤ start + length) ≤
          rest.countP (fun now => start ≤ now ∧ now ≤ start + length) + 1 := by
        rw [List.countP_cons]
        split <;> omega
      omega

end Buckets

/-! ### Meters

What may pass is computed from the state at the time of the attempt; only an attempt that
passes changes the state. -/

/-- A limiter whose state gains at most `rate` per unit of time. -/
structure Meter (σ : Type) (rate : Nat) where
  available : σ → Nat → Nat
  take : σ → Nat → σ
  steady : ∀ s {t t'}, t ≤ t' → available s t' ≤ available s t + rate * (t' - t)
  taken : ∀ s t, 0 < available s t → available (take s t) t + 1 ≤ available s t

namespace Meter

variable {σ : Type} {rate : Nat} (meter : Meter σ rate)

/-- The state after an attempt. -/
def next (s : σ) (now : Nat) : σ := if meter.available s now = 0 then s else meter.take s now

/-- The times of the attempts that pass. -/
def passes : σ → List Nat → List Nat
  | _, [] => []
  | s, now :: rest =>
    (if meter.available s now = 0 then [] else [now]) ++ passes (meter.next s now) rest

/-- Passing takes from what is available, refusing changes nothing. -/
theorem available_next_add (s : σ) (now : Nat) :
    meter.available (meter.next s now) now + (if meter.available s now = 0 then 0 else 1) ≤
      meter.available s now := by
  unfold next
  split
  · exact le_rfl
  · next available => exact meter.taken s now (Nat.pos_of_ne_zero available)

theorem passes_subset (s : σ) (times : List Nat) : ∀ time ∈ meter.passes s times, time ∈ times := by
  induction times generalizing s with
  | nil => exact fun time listed => listed
  | cons now rest ih =>
    intro time listed
    rcases List.mem_append.mp listed with here | later
    · split at here
      · exact absurd here List.not_mem_nil
      · exact List.mem_singleton.mp here ▸ List.mem_cons_self
    · exact .tail _ (ih _ time later)

/-- From a time on, up to a later one, there pass no more than is available and what is
gained until then. -/
theorem countP_passes_le {s : σ} {times : List Nat} (sorted : times.Pairwise (· ≤ ·))
    {start last : Nat} (begun : ∀ time ∈ times, start ≤ time) (within : start ≤ last) :
    (meter.passes s times).countP (· ≤ last) ≤ meter.available s start + rate * (last - start) := by
  induction times generalizing s start with
  | nil => exact Nat.zero_le _
  | cons now rest ih =>
    obtain ⟨first, tail⟩ := List.pairwise_cons.mp sorted
    have reached := begun now List.mem_cons_self
    by_cases past : last < now
    · have none : (meter.passes s (now :: rest)).countP (· ≤ last) = 0 := by
        refine List.countP_eq_zero.mpr fun time listed => ?_
        rcases List.mem_cons.mp (meter.passes_subset s _ time listed) with rfl | later
        · simpa using past
        · simpa using past.trans_le (first time later)
      omega
    · have later := ih (s := meter.next s now) tail first (Nat.le_of_not_lt past)
      have gained := meter.steady s reached
      have left := meter.available_next_add s now
      have split : rate * (last - start) = rate * (now - start) + rate * (last - now) := by
        rw [← Nat.mul_add]
        congr 1
        omega
      have counted : (if meter.available s now = 0 then [] else [now]).countP (· ≤ last) ≤
          if meter.available s now = 0 then 0 else 1 := by
        split
        · exact le_rfl
        · exact List.countP_le_length
      rw [passes, List.countP_append]
      omega

/-- In any stretch there pass no more than is ever available at once and what is gained
within it. -/
theorem countP_passes_within_le {capacity : Nat} {s : σ} {times : List Nat}
    (bounded : ∀ s t, meter.available s t ≤ capacity) (sorted : times.Pairwise (· ≤ ·))
    (start length : Nat) :
    (meter.passes s times).countP (fun time => start ≤ time ∧ time ≤ start + length) ≤
      capacity + rate * length := by
  induction times generalizing s with
  | nil => exact Nat.zero_le _
  | cons now rest ih =>
    obtain ⟨first, tail⟩ := List.pairwise_cons.mp sorted
    by_cases early : now < start
    · have outside : (if meter.available s now = 0 then [] else [now]).countP
          (fun time => start ≤ time ∧ time ≤ start + length) = 0 := by
        split
        · rfl
        · simp [Nat.not_le.mpr early]
      rw [passes, List.countP_append, outside, Nat.zero_add]
      exact ih tail
    · have begun : ∀ time ∈ now :: rest, start ≤ time := by
        intro time listed
        rcases List.mem_cons.mp listed with rfl | later
        · exact Nat.le_of_not_lt early
        · exact (Nat.le_of_not_lt early).trans (first time later)
      have all := meter.countP_passes_le (s := s) sorted begun (Nat.le_add_right start length)
      rw [Nat.add_sub_cancel_left] at all
      have fewer : (meter.passes s (now :: rest)).countP
          (fun time => start ≤ time ∧ time ≤ start + length) ≤
            (meter.passes s (now :: rest)).countP (· ≤ start + length) :=
        List.countP_mono_left fun time _ within => by
          simpa using (of_decide_eq_true within).2
      have full := bounded s start
      omega

end Meter

/-! ### Windows

A window is opened by an event and takes those that follow while they come soon enough after
it; the first that does not opens the next one. -/

section Windows

variable {α : Type} (within : α → α → Bool)

/-- The windows of the events that follow, the open one included. -/
def windowsFrom (first : α) (opened : List α) : List α → List (List α)
  | [] => [opened]
  | x :: rest =>
    if within first x then windowsFrom first (opened ++ [x]) rest
    else opened :: windowsFrom x [x] rest

def windows : List α → List (List α)
  | [] => []
  | x :: rest => windowsFrom within x [x] rest

end Windows

/-- Every event of a window has the property of its place in it. -/
def EachPlace {α : Type} (P : Nat → α → Prop) (window : List α) : Prop :=
  ∀ n x, window[n]? = some x → P n x

theorem EachPlace.append {α : Type} {P : Nat → α → Prop} {window : List α} {x : α}
    (before : EachPlace P window) (last : P window.length x) : EachPlace P (window ++ [x]) := by
  intro n y placed
  rcases Nat.lt_or_ge n window.length with inside | outside
  · rw [List.getElem?_append_left inside] at placed
    exact before n y placed
  · rw [List.getElem?_append_right outside] at placed
    cases passed : n - window.length with
    | zero =>
      rw [passed] at placed
      cases placed
      rwa [Nat.le_antisymm (Nat.sub_eq_zero_iff_le.mp passed) outside]
    | succ k =>
      rw [passed] at placed
      cases placed

theorem EachPlace.singleton {α : Type} {P : Nat → α → Prop} {x : α} (first : P 0 x) :
    EachPlace P [x] :=
  have none : EachPlace P [] := fun _ _ placed => by cases placed
  none.append first

end Host
