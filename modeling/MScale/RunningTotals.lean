import Mathlib.Algebra.BigOperators.Group.List.Basic
import Mathlib.Algebra.Order.BigOperators.Group.List
import Mathlib.Algebra.Order.Field.Basic
import Mathlib.Tactic.NormNum.Basic

/-!
# Totals kept by a loop

A loop over a list adds amounts to several totals, to some of them only at the
items of one kind, so each total ends with a sum over the items of a kind.  When the amounts have a common bound, their sum reaches the
bound for all items exactly if every item does, and so does their average.
-/

namespace MScale

namespace RunningTotals

variable {State View Item Total : Type*}

section Loops

variable {step : State → Item → State} {selected : Item → Prop}
  [DecidablePred selected]

/-- A loop whose steps show in a part of the state at the selected items only
is, on that part, a loop over these items. -/
theorem foldl_view {view : State → View} {viewStep : View → Item → View}
    (steps : ∀ state item, selected item →
      view (step state item) = viewStep (view state) item)
    (keeps : ∀ state item, ¬ selected item →
      view (step state item) = view state)
    (items : List Item) (state : State) :
    view (items.foldl step state) =
      (items.filter selected).foldl viewStep (view state) := by
  induction items generalizing state with
  | nil => rfl
  | cons item items ih =>
      rw [List.foldl_cons, ih]
      by_cases chosen : selected item
      · rw [steps state item chosen,
          List.filter_cons_of_pos (by simpa using chosen), List.foldl_cons]
      · rw [keeps state item chosen,
          List.filter_cons_of_neg (by simpa using chosen)]

theorem foldl_adds [AddMonoid Total] {total : State → Total}
    {amount : Item → Total}
    (adds : ∀ state item,
      total (step state item) = total state + amount item)
    (items : List Item) (state : State) :
    total (items.foldl step state) =
      total state + (items.map amount).sum := by
  induction items generalizing state with
  | nil => exact (add_zero _).symm
  | cons item items ih =>
      rw [List.foldl_cons, ih, adds, List.map_cons, List.sum_cons, add_assoc]

/-- A total that grows by one at each selected item counts them. -/
theorem foldl_counts {total : State → ℕ}
    (counts : ∀ state item, selected item →
      total (step state item) = total state + 1)
    (keeps : ∀ state item, ¬ selected item →
      total (step state item) = total state)
    (items : List Item) (state : State) :
    total (items.foldl step state) =
      total state + (items.filter selected).length := by
  have counted : total (items.foldl step state) =
      (items.filter selected).foldl (fun count _ => count + 1) (total state) :=
    foldl_view counts keeps items state
  rw [counted, List.foldl_add_const, one_mul]

end Loops

/-- Items of two kinds that may overlap: each item is of the first kind, or of
the second only, or of neither. -/
theorem length_eq_neither_add_first_add_second (first second : Item → Prop)
    [DecidablePred first] [DecidablePred second] (items : List Item) :
    items.length =
      (items.filter fun item => ¬ first item ∧ ¬ second item).length +
        (items.filter fun item => first item).length +
        (items.filter fun item => ¬ first item ∧ second item).length := by
  induction items with
  | nil => rfl
  | cons item items ih =>
      by_cases isFirst : first item <;> by_cases isSecond : second item <;>
        simp only [List.filter_cons, List.length_cons, isFirst, isSecond,
          not_true, not_false_eq_true, and_true, and_false, decide_true,
          decide_false, if_true, Bool.false_eq_true, if_false] <;>
        omega

section Bounds

variable {amount : Item → ℕ} {bound : ℕ} {items : List Item}

theorem sum_le_length_mul (bounded : ∀ item ∈ items, amount item ≤ bound) :
    (items.map amount).sum ≤ items.length * bound := by
  have summed := List.sum_le_card_nsmul (items.map amount) bound
    (List.forall_mem_map.mpr bounded)
  rwa [List.length_map, nsmul_eq_mul, Nat.cast_id] at summed

/-- The sum reaches its bound exactly if no item falls short. -/
theorem sum_eq_length_mul_iff
    (bounded : ∀ item ∈ items, amount item ≤ bound) :
    (items.map amount).sum = items.length * bound ↔
      ∀ item ∈ items, amount item = bound := by
  induction items with
  | nil => simp
  | cons item items ih =>
      rw [List.forall_mem_cons] at bounded
      rw [List.forall_mem_cons, ← ih bounded.2, List.map_cons, List.sum_cons,
        List.length_cons, Nat.succ_mul]
      have itemLe := bounded.1
      have restLe := sum_le_length_mul bounded.2
      omega

end Bounds

section Percentages

variable {Num : Type*} [Field Num] [LinearOrder Num] [IsStrictOrderedRing Num]

/-- How much of `bound` an average misses, in percent. -/
def shortfallPercent (bound average : Num) : Num :=
  (bound - average) * 100 / bound

variable {bound average : Num}

theorem shortfallPercent_nonneg (positive : 0 < bound)
    (within : average ≤ bound) : 0 ≤ shortfallPercent bound average :=
  div_nonneg (mul_nonneg (sub_nonneg.mpr within) (by norm_num)) positive.le

theorem shortfallPercent_le_hundred (positive : 0 < bound)
    (nonneg : 0 ≤ average) : shortfallPercent bound average ≤ 100 := by
  rw [shortfallPercent, div_le_iff₀ positive, mul_comm 100 bound]
  exact mul_le_mul_of_nonneg_right (sub_le_self bound nonneg) (by norm_num)

theorem shortfallPercent_eq_zero_iff (positive : 0 < bound) :
    shortfallPercent bound average = 0 ↔ average = bound := by
  rw [shortfallPercent, div_eq_zero_iff, mul_eq_zero, sub_eq_zero]
  constructor
  · rintro ((reached | hundred) | zero)
    · exact reached.symm
    · exact absurd hundred (by norm_num)
    · exact absurd zero positive.ne'
  · intro reached
    exact .inl (.inl reached.symm)

end Percentages

end RunningTotals

end MScale
