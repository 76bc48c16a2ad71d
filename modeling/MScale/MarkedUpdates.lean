import Mathlib.Data.List.Induction

/-!
# Updates at some of the steps

A system goes through labelled steps.  Some of them, depending on the state and
the label, apply a function to a value that the state holds, and the others
leave the value alone.  Every one of these updates gives the value that a single
update gives exactly if applying the function twice is the same as applying it
once, or if there is at most one update.
-/

namespace MScale

namespace MarkedUpdates

variable {State Label Value : Type*} (step : State → Label → State)
  (value : State → Value) (marked : State → Label → Prop)
  (change : Value → Value)

/-- Exactly the marked steps apply `change` to the value. -/
structure Updates : Prop where
  changed : ∀ state label, marked state label →
    value (step state label) = change (value state)
  kept : ∀ state label, ¬ marked state label →
    value (step state label) = value state

/-- Every marked step leaves the value that one update makes of the first. -/
def LikeOnce (start : State) (labels : List Label) : Prop :=
  ∀ earlier label later, labels = earlier ++ label :: later →
    marked (earlier.foldl step start) label →
      value (step (earlier.foldl step start) label) = change (value start)

/-- No marked step follows another. -/
def AtMostOnce (start : State) (labels : List Label) : Prop :=
  ∀ earlier first middle second later,
    labels = earlier ++ first :: (middle ++ second :: later) →
      marked (earlier.foldl step start) first →
        ¬ marked ((earlier ++ first :: middle).foldl step start) second

variable {step value marked change} {start : State} {labels : List Label}

/-- Without marked steps the value stays. -/
theorem Updates.value_foldl (updates : Updates step value marked change)
    (without : ∀ earlier label later, labels = earlier ++ label :: later →
      ¬ marked (earlier.foldl step start) label) :
    value (labels.foldl step start) = value start := by
  induction labels generalizing start with
  | nil => rfl
  | cons label labels ih =>
      have later : value (labels.foldl step (step start label)) =
          value (step start label) :=
        ih fun earlier other later split =>
          without (label :: earlier) other later (by rw [split]; rfl)
      rw [List.foldl_cons, later]
      exact updates.kept _ _ (without [] label labels rfl)

/-- After a marked step that left `current` the value stays there, as long as
every marked step leaves `current`. -/
theorem Updates.value_foldl_of_left (updates : Updates step value marked change)
    {current : Value} (begins : value start = current)
    (left : ∀ earlier label later, labels = earlier ++ label :: later →
      marked (earlier.foldl step start) label →
        value (step (earlier.foldl step start) label) = current) :
    value (labels.foldl step start) = current := by
  induction labels generalizing start with
  | nil => exact begins
  | cons label labels ih =>
      have next : value (step start label) = current := by
        by_cases here : marked start label
        · exact left [] label labels rfl here
        · rw [updates.kept _ _ here, begins]
      exact ih next fun earlier other later split =>
        left (label :: earlier) other later (by rw [split]; rfl)

/-- The value is the first one, or one update was made of it. -/
theorem Updates.value_of_idempotent (updates : Updates step value marked change)
    (idempotent : change (change (value start)) = change (value start))
    (labels : List Label) :
    value (labels.foldl step start) = value start ∨
      value (labels.foldl step start) = change (value start) := by
  induction labels using List.reverseRecOn with
  | nil => exact Or.inl rfl
  | append_singleton labels label ih =>
      rw [List.foldl_append, List.foldl_cons, List.foldl_nil]
      by_cases here : marked (labels.foldl step start) label
      · right
        rw [updates.changed _ _ here]
        rcases ih with first | once
        · rw [first]
        · rw [once, idempotent]
      · rw [updates.kept _ _ here]
        exact ih

theorem Updates.idempotent_or_once (updates : Updates step value marked change)
    (likeOnce : LikeOnce step value marked change start labels) :
    change (change (value start)) = change (value start) ∨
      AtMostOnce step marked start labels := by
  by_cases once : AtMostOnce step marked start labels
  · exact Or.inr once
  · left
    unfold AtMostOnce at once
    push Not at once
    obtain ⟨earlier, first, middle, second, later, rfl, marksFirst, marksSecond⟩ :=
      once
    have afterFirst := likeOnce earlier first _ rfl marksFirst
    have afterSecond := likeOnce (earlier ++ first :: middle) second later
      (by simp) marksSecond
    have between : value ((earlier ++ first :: middle).foldl step start) =
        change (value start) := by
      rw [List.foldl_append, List.foldl_cons]
      apply updates.value_foldl_of_left afterFirst
      intro before label after split marks
      have left := likeOnce (earlier ++ first :: before) label
        (after ++ second :: later) (by rw [split]; simp)
      rw [List.foldl_append, List.foldl_cons] at left
      exact left marks
    rw [updates.changed _ _ marksSecond, between] at afterSecond
    exact afterSecond

/-- Every update is like a single one exactly if the function is idempotent at
the first value or there is at most one update. -/
theorem Updates.likeOnce_iff (updates : Updates step value marked change) :
    LikeOnce step value marked change start labels ↔
      change (change (value start)) = change (value start) ∨
        AtMostOnce step marked start labels := by
  refine ⟨updates.idempotent_or_once, ?_⟩
  rintro (idempotent | once) earlier label later rfl marks
  · rw [updates.changed _ _ marks]
    rcases updates.value_of_idempotent idempotent earlier with first | changed
    · rw [first]
    · rw [changed, idempotent]
  · rw [updates.changed _ _ marks, updates.value_foldl]
    rintro before first middle rfl marksFirst
    exact once before first middle label later (by simp) marksFirst marks

end MarkedUpdates

end MScale
