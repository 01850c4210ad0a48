import Mathlib

/-!
# Ranges put together

What is put together over a range of numbers, where only some of them give anything.
-/

namespace Ckmux

namespace Data

variable {A : Type}

/-- Only one number gives anything. -/
theorem flatMap_range_single {count only : Nat} {give : Nat → List A} (below : only < count)
    (others : ∀ number < count, number ≠ only → give number = []) :
    (List.range count).flatMap give = give only := by
  induction count with
  | zero => exact absurd below (Nat.not_lt_zero only)
  | succ count ih =>
      rw [List.range_succ, List.flatMap_append, List.flatMap_singleton]
      by_cases last : only = count
      · subst last
        have before : (List.range only).flatMap give = [] :=
          List.flatMap_eq_nil_iff.mpr fun number listed =>
            have small := List.mem_range.mp listed
            others number (Nat.lt_succ_of_lt small) small.ne
        rw [before, List.nil_append]
      · rw [others count (Nat.lt_succ_self count) fun same => last same.symm, List.append_nil]
        exact ih (by omega) fun number small => others number (Nat.lt_succ_of_lt small)

/-- Only the numbers between two give anything. -/
theorem flatMap_range_between (count start stop : Nat) (give : Nat → List A) :
    ((List.range count).flatMap fun number =>
        if start ≤ number ∧ number < stop then give number else []) =
      (List.range' start (min stop count - start)).flatMap give := by
  induction count with
  | zero => simp
  | succ count ih =>
      rw [List.range_succ, List.flatMap_append, List.flatMap_singleton, ih]
      split
      · rename_i inside
        have more : min stop (count + 1) - start = min stop count - start + 1 := by omega
        have last : start + (min stop count - start) = count := by omega
        rw [more, List.range'_1_concat, List.flatMap_append, last, List.flatMap_singleton]
      · rename_i outside
        have same : min stop (count + 1) - start = min stop count - start := by omega
        rw [same, List.append_nil]

/-- Parts put behind each other with something between them. -/
theorem intercalate_cons (between first : List A) (parts : List (List A)) :
    between.intercalate (first :: parts) = first ++ parts.flatMap (between ++ ·) := by
  induction parts generalizing first with
  | nil => simp [List.intercalate]
  | cons second parts ih =>
      have step : between.intercalate (first :: second :: parts) =
          first ++ (between ++ between.intercalate (second :: parts)) := by
        simp [List.intercalate, List.intersperse]
      rw [step, ih, List.flatMap_cons, List.append_assoc]

end Data

end Ckmux
