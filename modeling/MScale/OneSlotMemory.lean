import Mathlib.Data.List.Basic
import Mathlib.Data.List.Nodup

/-!
# A memory with one slot

A memory that keeps only the value it measured last measures every value that
differs from the one asked before it.  It measures no value twice exactly when
equal values are asked one after the other.
-/

namespace MScale

namespace OneSlotMemory

variable {Value : Type*} [DecidableEq Value]

/-- The values measured for a sequence of values asked, with the value kept at
its start. -/
def measured : Option Value → List Value → List Value
  | _, [] => []
  | kept, value :: values =>
      if kept = some value then measured (some value) values
      else value :: measured (some value) values

/-- Once another value was asked, a value is not asked again. -/
def InBlocks : List Value → Prop
  | [] => True
  | value :: values =>
      value ∉ values.dropWhile (fun other => other = value) ∧ InBlocks values

theorem measured_of_kept (value : Value) (values : List Value) :
    measured (some value) (value :: values) = measured (some value) values := by
  simp [measured]

theorem measured_of_ne {kept : Option Value} {value : Value}
    (different : kept ≠ some value) (values : List Value) :
    measured kept (value :: values) = value :: measured (some value) values := by
  simp [measured, different]

theorem mem_measured_of_ne {kept value : Value} (different : kept ≠ value)
    (values : List Value) :
    value ∈ measured (some kept) values ↔ value ∈ values := by
  induction values generalizing kept with
  | nil => simp [measured]
  | cons first values ih =>
      by_cases same : first = value
      · subst same
        rw [measured_of_ne (by simpa using different)]
        simp
      · by_cases hit : kept = first
        · subst hit
          rw [measured_of_kept, ih different]
          simp [Ne.symm different]
        · rw [measured_of_ne (by simpa using hit), List.mem_cons, List.mem_cons,
            ih same]

/-- A kept value is measured again exactly if it is asked after another
one. -/
theorem mem_measured_self_iff (value : Value) (values : List Value) :
    value ∈ measured (some value) values ↔
      value ∈ values.dropWhile (fun other => other = value) := by
  induction values with
  | nil => simp [measured]
  | cons first values ih =>
      by_cases same : first = value
      · subst same
        rw [measured_of_kept, ih]
        simp
      · rw [measured_of_ne (by simpa using Ne.symm same), List.mem_cons,
          mem_measured_of_ne same]
        simp [same]

theorem inBlocks_cons_iff (value : Value) (values : List Value) :
    InBlocks (value :: values) ↔
      value ∉ measured (some value) values ∧ InBlocks values := by
  rw [mem_measured_self_iff]
  rfl

theorem nodup_measured_some_iff {kept : Value} {values : List Value}
    (apart : kept ∉ measured (some kept) values) :
    (measured (some kept) values).Nodup ↔ InBlocks values := by
  induction values generalizing kept with
  | nil => simp [measured, InBlocks]
  | cons value values ih =>
      by_cases hit : kept = value
      · subst hit
        rw [measured_of_kept] at apart ⊢
        rw [ih apart, inBlocks_cons_iff]
        exact (and_iff_right apart).symm
      · rw [measured_of_ne (by simpa using hit), List.nodup_cons,
          inBlocks_cons_iff]
        exact and_congr_right fun apart => ih apart

/-- No value is measured twice exactly if the values are asked in blocks. -/
theorem nodup_measured_iff (values : List Value) :
    (measured none values).Nodup ↔ InBlocks values := by
  cases values with
  | nil => simp [measured, InBlocks]
  | cons value values =>
      rw [measured_of_ne (by simp), List.nodup_cons, inBlocks_cons_iff]
      exact and_congr_right fun apart => nodup_measured_some_iff apart

end OneSlotMemory

end MScale
