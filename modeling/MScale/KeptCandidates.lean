import Mathlib.Data.List.Induction

/-!
# Keeping one of several candidates

Candidates come one after the other, and one of them is kept: the first, until
another one takes the place of the kept one.  Whether a candidate takes the
place of another is an arbitrary relation, so which one is kept in the end
depends on the order.  This file proves what can be said without following the
kept candidate: it stands until the end, and it took the place of one that stood
until it came.
-/

namespace MScale

namespace KeptCandidates

variable {Candidate : Type*}

/-- None of the later candidates takes the place of this one. -/
def Stands (takes : Candidate → Candidate → Prop) (candidate : Candidate)
    (later : List Candidate) : Prop :=
  ∀ next ∈ later, ¬ takes candidate next

theorem Stands.concat {takes : Candidate → Candidate → Prop}
    {candidate next : Candidate} {later : List Candidate}
    (stands : Stands takes candidate later)
    (stays : ¬ takes candidate next) :
    Stands takes candidate (later ++ [next]) := by
  intro other member
  rcases List.mem_append.mp member with member | member
  · exact stands other member
  · rwa [List.mem_singleton.mp member]

variable (takes : Candidate → Candidate → Prop) [DecidableRel takes]

/-- The candidate that is kept of two. -/
def keep (held next : Candidate) : Candidate :=
  if takes held next then next else held

/-- The candidate that is kept of a sequence. -/
def kept (first : Candidate) (rest : List Candidate) : Candidate :=
  rest.foldl (keep takes) first

variable {takes} {first candidate held next : Candidate}
  {earlier later rest : List Candidate}

theorem keep_of_takes (taken : takes held next) : keep takes held next = next :=
  if_pos taken

theorem keep_of_not_takes (stays : ¬ takes held next) :
    keep takes held next = held :=
  if_neg stays

@[simp]
theorem kept_concat :
    kept takes first (rest ++ [next]) =
      keep takes (kept takes first rest) next := by
  simp [kept]

theorem kept_append_cons :
    kept takes first (earlier ++ next :: later) =
      kept takes (keep takes (kept takes first earlier) next) later := by
  simp [kept]

/-- A candidate that stands until the end is kept once it is. -/
theorem Stands.kept_eq (stands : Stands takes candidate later) :
    kept takes candidate later = candidate := by
  induction later using List.reverseRecOn with
  | nil => rfl
  | append_singleton later last ih =>
      rw [kept_concat,
        ih fun next member => stands next (List.mem_append_left _ member)]
      exact keep_of_not_takes (stands last List.mem_concat_self)

/-- The kept candidate stands until the end.  It is the first one, or took the
place of one that stood until it came. -/
theorem exists_kept_split (first : Candidate) (rest : List Candidate) :
    ∃ earlier later,
      first :: rest = earlier ++ kept takes first rest :: later ∧
      Stands takes (kept takes first rest) later ∧
      (earlier = [] ∨ ∃ before held between,
        earlier = before ++ held :: between ∧ Stands takes held between ∧
          takes held (kept takes first rest)) := by
  induction rest using List.reverseRecOn with
  | nil => exact ⟨[], [], rfl, by simp [Stands], Or.inl rfl⟩
  | append_singleton rest last ih =>
      obtain ⟨earlier, later, split, stands, tookPlace⟩ := ih
      rw [kept_concat]
      by_cases taken : takes (kept takes first rest) last
      · rw [keep_of_takes taken]
        refine ⟨first :: rest, [], rfl, by simp [Stands], Or.inr ?_⟩
        exact ⟨earlier, kept takes first rest, later, split, stands, taken⟩
      · rw [keep_of_not_takes taken]
        refine ⟨earlier, later ++ [last], ?_, stands.concat taken, tookPlace⟩
        rw [← List.cons_append, split, List.append_assoc, List.cons_append]

theorem kept_mem (first : Candidate) (rest : List Candidate) :
    kept takes first rest ∈ first :: rest := by
  obtain ⟨earlier, later, split, _⟩ :=
    @exists_kept_split _ takes _ first rest
  rw [split]
  exact List.mem_append_right _ List.mem_cons_self

/-- A candidate that takes the place of every one that stands until it comes,
and then stands until the end, is kept. -/
theorem kept_eq_of_takes_standing
    (split : first :: rest = earlier ++ candidate :: later)
    (takesStanding : ∀ before held between,
      earlier = before ++ held :: between → Stands takes held between →
        takes held candidate)
    (stands : Stands takes candidate later) :
    kept takes first rest = candidate := by
  cases earlier with
  | nil =>
      obtain ⟨rfl, rfl⟩ := List.cons_eq_cons.mp split
      exact stands.kept_eq
  | cons head middle =>
      obtain ⟨rfl, rfl⟩ := List.cons_eq_cons.mp split
      obtain ⟨before, between, splitHeld, standsHeld, _⟩ :=
        @exists_kept_split _ takes _ first middle
      have taken := takesStanding _ _ _ splitHeld standsHeld
      change kept takes first (middle ++ candidate :: later) = candidate
      rw [kept_append_cons, keep_of_takes taken]
      exact stands.kept_eq

end KeptCandidates

end MScale
