import Mathlib.Data.List.Chain
import Mathlib.Algebra.Ring.Int.Defs
import Mathlib.Algebra.Ring.Divisibility.Basic

/-!
# Plans of batched changes

A quantity is brought to a target in batches of bounded size.  A plan lists
the values requested one after the other.  Growth in full batches with a last
partial batch climbs to its target whatever the numbers are; removal in full
batches down to one item only works where the batches do not end at zero.
-/

namespace MScale

namespace BatchPlans

/-- One request raises the value by at most a batch, up to the target. -/
def Climbs (batch target here next : ℤ) : Prop :=
  here < next ∧ next ≤ here + batch ∧ next ≤ target

/-- One request lowers the value by at most a batch. -/
def Descends (batch here next : ℤ) : Prop :=
  next < here ∧ here - next ≤ batch

/-! ## Growth -/

/-- Full batches while they fit below the target, then the rest. -/
def growthPlan (batch target launched : ℤ) : List ℤ :=
  if 1 ≤ batch ∧ launched < target then
    let next := min (launched + batch) target
    next :: growthPlan batch target next
  else []
termination_by (target - launched).toNat

theorem growthPlan_of_lt {batch target launched : ℤ} (batchPos : 1 ≤ batch)
    (below : launched < target) :
    growthPlan batch target launched =
      min (launched + batch) target ::
        growthPlan batch target (min (launched + batch) target) := by
  rw [growthPlan, if_pos ⟨batchPos, below⟩]

@[simp]
theorem growthPlan_self (batch target : ℤ) : growthPlan batch target target = [] := by
  rw [growthPlan, if_neg (by omega)]

/-- Every request of a growth plan raises the value by at most a batch. -/
theorem growthPlan_climbs (batch target launched : ℤ) :
    (launched :: growthPlan batch target launched).IsChain
      (Climbs batch target) := by
  fun_induction growthPlan batch target launched with
  | case1 launched room next ih =>
      rw [List.isChain_cons_cons]
      have climbs : Climbs batch target launched next := by
        unfold Climbs
        omega
      exact ⟨climbs, ih⟩
  | case2 launched => exact List.isChain_singleton _

/-- A growth plan from below ends at its target. -/
theorem growthPlan_getLast? {batch target launched : ℤ} (batchPos : 1 ≤ batch)
    (below : launched ≤ target) :
    (launched :: growthPlan batch target launched).getLast? = some target := by
  fun_induction growthPlan batch target launched with
  | case1 launched room next ih =>
      have nextLe : next ≤ target := by omega
      rw [List.getLast?_cons_cons]
      exact ih nextLe
  | case2 launched done =>
      have arrived : launched = target := by omega
      rw [arrived, List.getLast?_singleton]

/-! ## Removal -/

/-- Full batches while what remains is at least a batch, ending early at one,
then down to one. -/
def removalPlan (batch remaining : ℤ) : List ℤ :=
  if remaining < batch ∨ batch < 1 then [1]
  else
    let next := remaining - batch
    if next = 1 then [next] else next :: removalPlan batch next
termination_by (remaining - batch + 1).toNat

theorem removalPlan_of_lt {batch remaining : ℤ} (last : remaining < batch) :
    removalPlan batch remaining = [1] := by
  rw [removalPlan, if_pos (Or.inl last)]

theorem removalPlan_of_le {batch remaining : ℤ} (batchPos : 1 ≤ batch)
    (full : batch ≤ remaining) :
    removalPlan batch remaining =
      if remaining - batch = 1 then [remaining - batch]
      else (remaining - batch) :: removalPlan batch (remaining - batch) := by
  rw [removalPlan, if_neg (by omega)]

/-- The requests go down to one in batches. -/
structure DescendsToOne (batch running : ℤ) (requests : List ℤ) : Prop where
  descends : (running :: requests).IsChain (Descends batch)
  positive : ∀ request ∈ requests, 1 ≤ request
  last : requests.getLast? = some 1

theorem descendsToOne_singleton {batch running : ℤ}
    (descends : Descends batch running 1) : DescendsToOne batch running [1] := by
  constructor
  · exact List.isChain_pair.mpr descends
  · simp
  · rfl

theorem descendsToOne_cons {batch running next later : ℤ} {rest : List ℤ} :
    DescendsToOne batch running (next :: later :: rest) ↔
      Descends batch running next ∧ 1 ≤ next ∧
        DescendsToOne batch next (later :: rest) := by
  constructor
  · rintro ⟨descends, positive, last⟩
    rw [List.isChain_cons_cons] at descends
    have nextPos := positive next List.mem_cons_self
    have restPos := fun request member =>
      positive request (List.mem_cons_of_mem next member)
    rw [List.getLast?_cons_cons] at last
    exact ⟨descends.1, nextPos, descends.2, restPos, last⟩
  · rintro ⟨first, nextPos, descends, positive, last⟩
    constructor
    · exact List.isChain_cons_cons.mpr ⟨first, descends⟩
    · exact List.forall_mem_cons.mpr ⟨nextPos, positive⟩
    · rw [List.getLast?_cons_cons]
      exact last

theorem removalPlan_ne_nil (batch remaining : ℤ) :
    removalPlan batch remaining ≠ [] := by
  unfold removalPlan
  split
  · simp
  · simp only
    split <;> simp

/-- A removal plan goes down to one in batches exactly if its batches do not
end at zero. -/
theorem removalPlan_descendsToOne_iff {batch remaining : ℤ}
    (batchPos : 1 ≤ batch) (several : 2 ≤ remaining) :
    DescendsToOne batch remaining (removalPlan batch remaining) ↔
      batch = 1 ∨ ¬ batch ∣ remaining := by
  fun_induction removalPlan batch remaining with
  | case1 remaining last =>
      have descends : Descends batch remaining 1 := by
        unfold Descends
        omega
      have notDvd : ¬ batch ∣ remaining := by
        intro divides
        have le := Int.le_of_dvd (by omega) divides
        omega
      exact iff_of_true (descendsToOne_singleton descends) (Or.inr notDvd)
  | case2 remaining full next arrived =>
      have dvdIff : batch ∣ remaining ↔ batch ∣ next := by
        rw [show next = remaining - batch from rfl, dvd_sub_self_right]
      rw [dvdIff]
      have descends : Descends batch remaining 1 := by
        unfold Descends
        omega
      have descendsToOne : DescendsToOne batch remaining [next] := by
        rw [arrived]
        exact descendsToOne_singleton descends
      apply iff_of_true descendsToOne
      by_cases one : batch = 1
      · exact Or.inl one
      · refine Or.inr fun divides => one ?_
        rw [arrived] at divides
        exact Int.eq_one_of_dvd_one (by omega) divides
  | case3 remaining full next further ih =>
      have dvdIff : batch ∣ remaining ↔ batch ∣ next := by
        rw [show next = remaining - batch from rfl, dvd_sub_self_right]
      rw [dvdIff]
      obtain ⟨later, rest, restEq⟩ :=
        List.exists_cons_of_ne_nil (removalPlan_ne_nil batch next)
      have descends : Descends batch remaining next := by
        unfold Descends
        omega
      rw [restEq, descendsToOne_cons, ← restEq]
      by_cases nextPos : 1 ≤ next
      · rw [← ih (by omega)]
        exact ⟨fun ⟨_, _, rest⟩ => rest, fun rest => ⟨descends, nextPos, rest⟩⟩
      · have zero : next = 0 := by omega
        apply iff_of_false
        · exact fun ⟨_, positive, _⟩ => nextPos positive
        · rw [zero]
          have notOne : batch ≠ 1 := by omega
          simp [notOne]

end BatchPlans

end MScale
