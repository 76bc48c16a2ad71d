import Mathlib.Data.List.Basic

/-!
# Streaks of successes

A watcher sees successes and failures.  It counts the successes since the last
failure and stops watching once there are more of them than a bound.  What it
saw up to then decides whether it still watches: it does exactly if the
outcomes do not end with a streak beyond the bound.
-/

namespace MScale

namespace SuccessStreaks

variable {outcomes : List Bool} {bound count : Nat}

/-- The number of successes since the last failure. -/
def streak (outcomes : List Bool) : Nat :=
  (outcomes.reverse.takeWhile id).length

@[simp]
theorem streak_success (outcomes : List Bool) :
    streak (outcomes ++ [true]) = streak outcomes + 1 := by
  simp [streak]

@[simp]
theorem streak_failure (outcomes : List Bool) :
    streak (outcomes ++ [false]) = 0 := by
  simp [streak]

theorem replicate_isPrefix_iff (count : Nat) (outcomes : List Bool) :
    List.replicate count true <+: outcomes ↔
      count ≤ (outcomes.takeWhile id).length := by
  induction outcomes generalizing count with
  | nil => simp
  | cons outcome outcomes ih =>
      cases count with
      | zero => simp
      | succ count =>
          rw [List.replicate_succ, List.cons_prefix_cons, ih]
          cases outcome <;> simp

/-- The outcomes end with as many successes as the streak has. -/
theorem replicate_isSuffix_iff :
    List.replicate count true <:+ outcomes ↔ count ≤ streak outcomes := by
  rw [← List.reverse_prefix, List.reverse_replicate, replicate_isPrefix_iff]
  rfl

/-- The state of a watcher after these outcomes: while it watches, its count
is the streak. -/
def Follows (bound : Nat) (outcomes : List Bool) (watching : Bool)
    (count : Nat) : Prop :=
  if watching then count = streak outcomes ∧ count ≤ bound
  else bound < streak outcomes

theorem follows_start (bound : Nat) : Follows bound [] true 0 :=
  ⟨rfl, Nat.zero_le bound⟩

theorem Follows.success (follows : Follows bound outcomes true count) :
    Follows bound (outcomes ++ [true]) (decide (count + 1 ≤ bound))
      (count + 1) := by
  obtain ⟨counted, _⟩ := follows
  unfold Follows
  split
  · next within =>
      exact ⟨by rw [streak_success, counted], of_decide_eq_true within⟩
  · next beyond =>
      rw [streak_success, ← counted]
      exact Nat.lt_of_not_le (by simpa using beyond)

theorem Follows.failure (bound : Nat) (outcomes : List Bool) :
    Follows bound (outcomes ++ [false]) true 0 :=
  ⟨(streak_failure outcomes).symm, Nat.zero_le bound⟩

/-- A watcher has stopped exactly if the outcomes end with a streak beyond the
bound. -/
theorem Follows.stopped_iff {watching : Bool}
    (follows : Follows bound outcomes watching count) :
    watching = false ↔ List.replicate (bound + 1) true <:+ outcomes := by
  rw [replicate_isSuffix_iff]
  cases watching with
  | true =>
      obtain ⟨counted, within⟩ := follows
      simp only [Bool.true_eq_false, false_iff]
      omega
  | false => exact iff_of_true rfl follows

end SuccessStreaks

end MScale
