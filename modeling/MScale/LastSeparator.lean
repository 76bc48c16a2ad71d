import Mathlib.Data.List.Basic

/-!
# Texts with a last separator

A text may be joined from a front and a tail by a separator that does not occur
in the tail.  The front may contain the separator and is still recovered by
cutting the text at its last one, so that two joined texts are equal only if
their parts are.
-/

namespace MScale

namespace LastSeparator

variable {Symbol : Type*} [DecidableEq Symbol] {separator : Symbol}
  {front tail front' tail' : List Symbol}

/-- Reading from the end, the first separator is the one between front and
tail. -/
theorem dropWhile_reverse_join (front : List Symbol) (without : separator ∉ tail) :
    (front ++ separator :: tail).reverse.dropWhile (· ≠ separator) =
      separator :: front.reverse := by
  have skipped : ∀ symbol ∈ tail.reverse,
      (decide (symbol ≠ separator)) = true := by
    intro symbol member
    apply decide_eq_true
    rintro rfl
    exact without (List.mem_reverse.mp member)
  rw [List.reverse_append, List.reverse_cons, List.append_assoc,
    List.dropWhile_append_of_pos skipped]
  simp

theorem join_inj (without : separator ∉ tail) (without' : separator ∉ tail')
    (same : front ++ separator :: tail = front' ++ separator :: tail') :
    front = front' ∧ tail = tail' := by
  have cut := dropWhile_reverse_join front without
  rw [same, dropWhile_reverse_join front' without', List.cons.injEq,
    List.reverse_inj] at cut
  obtain ⟨-, rfl⟩ := cut
  exact ⟨rfl, (List.cons.inj (List.append_cancel_left same)).2⟩

end LastSeparator

end MScale
