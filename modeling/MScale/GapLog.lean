import Mathlib.Data.List.Basic
import Mathlib.Order.Basic
import Mathlib.Algebra.Order.Ring.Int

/-!
# Logs of gaps in a sequence of numbers

A receiver expects numbers in succession.  When another one comes than the one
it expects, it logs both, and goes on with the successor of the one that came.
This file relates the logged ranges to the numbers that did not come.
-/

namespace MScale

namespace GapLog

/-- What is logged for a number. -/
def gap (expected number : ℤ) : List (ℤ × ℤ) :=
  if expected ≠ number then [(expected, number)] else []

/-- What is logged for numbers. -/
def gaps (expected : ℤ) : List ℤ → List (ℤ × ℤ)
  | [] => []
  | number :: numbers => gap expected number ++ gaps (number + 1) numbers

/-- The number expected after the given ones. -/
def next (expected : ℤ) (numbers : List ℤ) : ℤ :=
  numbers.foldl (fun _ number => number + 1) expected

/-- The number lies in a logged range. -/
def Reports (log : List (ℤ × ℤ)) (number : ℤ) : Prop :=
  ∃ range ∈ log, range.1 ≤ number ∧ number < range.2

theorem next_concat (expected : ℤ) (numbers : List ℤ) (number : ℤ) :
    next expected (numbers ++ [number]) = number + 1 :=
  List.foldl_concat _ _ _ _

theorem gaps_concat (expected : ℤ) (numbers : List ℤ) (number : ℤ) :
    gaps expected (numbers ++ [number]) =
      gaps expected numbers ++ gap (next expected numbers) number := by
  induction numbers generalizing expected with
  | nil => simp [gaps, next]
  | cons first numbers ih =>
      simp only [List.cons_append, gaps, ih, List.append_assoc]
      rfl

theorem reports_append (log later : List (ℤ × ℤ)) (number : ℤ) :
    Reports (log ++ later) number ↔ Reports log number ∨ Reports later number := by
  simp [Reports, or_and_right, exists_or]

theorem reports_gap_iff (expected number lost : ℤ) :
    Reports (gap expected number) lost ↔ expected ≤ lost ∧ lost < number := by
  rw [gap]
  split
  · simp [Reports]
  · next same =>
      constructor
      · simp [Reports]
      · rintro ⟨least, most⟩
        exact absurd (least.trans_lt most) (by simp [not_not.mp same])

/-- Among numbers that only increase, the log reports exactly those that did
not come although a later one did, from the number first expected on or after
a number that came. -/
theorem reports_gaps_iff {numbers : List ℤ} (increasing : numbers.Pairwise (· < ·))
    (expected lost : ℤ) :
    Reports (gaps expected numbers) lost ↔
      lost ∉ numbers ∧ (∃ later ∈ numbers, lost < later) ∧
        (expected ≤ lost ∨ ∃ earlier ∈ numbers, earlier < lost) := by
  induction numbers generalizing expected with
  | nil => simp [gaps, Reports]
  | cons number numbers ih =>
      obtain ⟨least, increasing⟩ := List.pairwise_cons.mp increasing
      have afterFirst : (∃ earlier ∈ numbers, earlier < lost) → number < lost := by
        rintro ⟨earlier, member, before⟩
        exact (least earlier member).trans before
      rw [gaps, reports_append, reports_gap_iff, ih increasing]
      simp only [List.mem_cons, not_or, exists_eq_or_imp, Int.add_one_le_iff,
        or_iff_left_of_imp afterFirst]
      rcases lt_trichotomy lost number with before | rfl | after
      · have absent : lost ∉ numbers := fun member =>
          (least lost member).not_gt before
        simp [before, before.ne, before.not_gt, absent]
      · simp
      · simp [after, after.ne', after.not_gt]

end GapLog

end MScale
