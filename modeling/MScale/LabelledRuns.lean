import Mathlib.Data.List.Basic

/-!
# Runs of a labelled transition relation

A run records every step with the state before it, its label and the state
after it.  Besides the invariant rule, this file proves the rule for properties
that only some steps preserve: where the steps that do so are exactly those
that meet a condition, a run keeps the property throughout if and only if all
of its steps meet the condition.  A last rule is about properties that hold
until a step spoils the run.
-/

namespace MScale

namespace LabelledRuns

variable {State Label : Type*}

/-- One step of a run. -/
structure Step (State Label : Type*) where
  before : State
  label : Label
  after : State

/-- `Run relation start steps final` holds when `steps` lead from `start` to
`final`, each related by `relation`. -/
inductive Run (relation : State → Label → State → Prop) :
    State → List (Step State Label) → State → Prop
  | stop {state : State} : Run relation state [] state
  | next {before after final : State} {label : Label}
      {steps : List (Step State Label)}
      (taken : relation before label after)
      (rest : Run relation after steps final) :
      Run relation before (⟨before, label, after⟩ :: steps) final

variable {relation : State → Label → State → Prop}

/-- What every step preserves holds in every state of a run, before and after
each of its steps. -/
theorem Run.invariant {Invariant : State → Prop}
    (preserved : ∀ before label after, Invariant before →
      relation before label after → Invariant after)
    {start final : State} {steps : List (Step State Label)}
    (run : Run relation start steps final) (initially : Invariant start) :
    ∀ step ∈ steps, relation step.before step.label step.after ∧
      Invariant step.before ∧ Invariant step.after := by
  induction run with
  | stop => simp
  | next taken rest ih =>
      have afterwards := preserved _ _ _ initially taken
      intro step member
      rcases List.mem_cons.mp member with rfl | member
      · exact ⟨taken, initially, afterwards⟩
      · exact ih afterwards step member

/-- A run whose steps all meet a condition is one of the relation with the
condition. -/
theorem Run.restrict {Condition : State → Label → Prop}
    {start final : State} {steps : List (Step State Label)}
    (run : Run relation start steps final)
    (met : ∀ step ∈ steps, Condition step.before step.label) :
    Run (fun before label after =>
      relation before label after ∧ Condition before label) start steps final := by
  induction run with
  | stop => exact .stop
  | next taken rest ih =>
      rw [List.forall_mem_cons] at met
      exact .next ⟨taken, met.1⟩ (ih met.2)

/-- A run keeps a property throughout exactly if all of its steps meet the
condition that characterizes the steps preserving it.  The invariant may rely
on the property. -/
theorem Run.forall_iff {Condition : State → Label → Prop}
    {start final : State} {steps : List (Step State Label)}
    (run : Run relation start steps final) (Invariant Property : State → Prop)
    (preserved : ∀ before label after, Invariant before → Property before →
      relation before label after → Invariant after)
    (exact : ∀ before label after, Invariant before → Property before →
      relation before label after →
      (Property after ↔ Condition before label))
    (invariant : Invariant start) (initially : Property start) :
    (∀ step ∈ steps, Property step.after) ↔
      ∀ step ∈ steps, Condition step.before step.label := by
  induction run with
  | stop => simp
  | next taken rest ih =>
      have here := exact _ _ _ invariant initially taken
      simp only [List.forall_mem_cons]
      constructor
      · rintro ⟨afterwards, later⟩
        exact ⟨here.mp afterwards,
          (ih (preserved _ _ _ invariant initially taken) afterwards).mp later⟩
      · rintro ⟨met, later⟩
        have afterwards := here.mpr met
        exact ⟨afterwards,
          (ih (preserved _ _ _ invariant initially taken) afterwards).mpr later⟩

section Spoiling

variable {Good Bad : State → Prop} {Property : Step State Label → Prop}
  {Spoils Spares : State → Label → Prop} {start final : State}
  {steps : List (Step State Label)}

/-- In a spoiled run exactly the steps that spare the property have it. -/
theorem Run.forall_iff_of_bad
    (bad : ∀ before label after, Bad before → relation before label after →
      (Property ⟨before, label, after⟩ ↔ Spares before label) ∧
        (Spares before label → Bad after))
    (run : Run relation start steps final) (spoiled : Bad start) :
    (∀ step ∈ steps, Property step) ↔
      ∀ step ∈ steps, Spares step.before step.label := by
  induction run with
  | stop => simp
  | next taken rest ih =>
      obtain ⟨here, remains⟩ := bad _ _ _ spoiled taken
      rw [List.forall_mem_cons, List.forall_mem_cons, here]
      exact and_congr_right fun spares => ih (remains spares)

/-- Where every step from a good state has the property, and some of them spoil
the run, all steps have it exactly if only steps that spare it follow one that
spoils. -/
theorem Run.forall_iff_pairwise
    (good : ∀ before label after, Good before → relation before label after →
      Property ⟨before, label, after⟩ ∧
        (¬ Spoils before label → Good after) ∧
        (Spoils before label → Bad after))
    (bad : ∀ before label after, Bad before → relation before label after →
      (Property ⟨before, label, after⟩ ↔ Spares before label) ∧
        (Spares before label → Bad after))
    (run : Run relation start steps final) (initially : Good start) :
    (∀ step ∈ steps, Property step) ↔
      steps.Pairwise fun step later =>
        Spoils step.before step.label → Spares later.before later.label := by
  induction run with
  | stop => simp
  | @next before after final label steps taken rest ih =>
      obtain ⟨here, remains, spoiled⟩ := good _ _ _ initially taken
      simp only [List.forall_mem_cons, List.pairwise_cons, here, true_and]
      by_cases spoils : Spoils before label
      · rw [rest.forall_iff_of_bad bad (spoiled spoils)]
        constructor
        · intro spares
          refine ⟨fun later member _ => spares later member,
            List.pairwise_of_forall_mem_list ?_⟩
          intro step _ later member _
          exact spares later member
        · rintro ⟨spares, _⟩ later member
          exact spares later member spoils
      · rw [ih (remains spoils)]
        constructor
        · intro pairwise
          exact ⟨fun later member spoils' => (spoils spoils').elim, pairwise⟩
        · exact And.right

end Spoiling

end LabelledRuns

end MScale
