import Mathlib.Data.List.Basic
import Mathlib.Order.Basic

/-!
# Loops that end at a break

A `while True` loop is given by its body: from a loop state the body either
breaks with a result or continues with the next loop state.  This file defines
the finite runs of such a loop together with the states its body was entered
in, the executable bounded version, and the invariant rules used to reason
about loops that need not terminate.
-/

namespace MScale

namespace BreakLoop

variable {State Result : Type*}

/-- A finite run of the loop.  The list holds the states in which the body was
entered, in order; the last of them is the one in which it broke. -/
inductive Run (body : State → Result ⊕ State) :
    State → List State → Result → Prop
  | stop {state : State} {result : Result}
      (broke : body state = .inl result) : Run body state [state] result
  | next {state later : State} {visited : List State} {result : Result}
      (continued : body state = .inr later)
      (rest : Run body later visited result) :
      Run body state (state :: visited) result

/-- Rounds that go on lead from one loop state to a later one.  The list holds
the states in which the body was entered before the later one, in order. -/
inductive Path (body : State → Result ⊕ State) :
    State → List State → State → Prop
  | refl {state : State} : Path body state [] state
  | snoc {state middle later : State} {visited : List State}
      (path : Path body state visited middle)
      (continued : body middle = .inr later) :
      Path body state (visited ++ [middle]) later

/-- Execute at most `fuel` rounds of the loop. -/
def run (body : State → Result ⊕ State) : Nat → State → Option Result
  | 0, _ => none
  | fuel + 1, state =>
      match body state with
      | .inl result => some result
      | .inr later => run body fuel later

/-- The states in which the body is entered during these rounds. -/
def visits (body : State → Result ⊕ State) : Nat → State → List State
  | 0, _ => []
  | fuel + 1, state =>
      match body state with
      | .inl _ => [state]
      | .inr later => state :: visits body fuel later

/-- The loop started in `state` reaches its break after finitely many
rounds. -/
def Terminates (body : State → Result ⊕ State) (state : State) : Prop :=
  ∃ visited result, Run body state visited result

variable {body : State → Result ⊕ State}

theorem Run.start_mem {state : State} {visited : List State}
    {result : Result} (finished : Run body state visited result) :
    state ∈ visited := by
  cases finished <;> simp

/-- What holds at the start and is kept by every round that goes on holds of
every state of the loop and the states visited before it. -/
theorem Path.invariant {Good : List State → State → Prop} {state : State}
    (start : Good [] state)
    (kept : ∀ visited middle later, Good visited middle →
      body middle = .inr later → Good (visited ++ [middle]) later)
    {visited : List State} {later : State}
    (path : Path body state visited later) : Good visited later := by
  induction path with
  | refl => exact start
  | snoc path continued ih => exact kept _ _ _ ih continued

theorem run_eq_of_run {state : State} {visited : List State}
    {result : Result} (finished : Run body state visited result)
    {fuel : Nat} (enough : visited.length ≤ fuel) :
    run body fuel state = some result := by
  induction finished generalizing fuel with
  | stop broke =>
      cases fuel with
      | zero => simp at enough
      | succ fuel => simp [run, broke]
  | next continued rest ih =>
      cases fuel with
      | zero => simp at enough
      | succ fuel =>
          simp only [run, continued]
          exact ih (by simpa using enough)

/-- An execution that breaks is a finite run. -/
theorem run_visits {state : State} {result : Result} {fuel : Nat}
    (finished : run body fuel state = some result) :
    Run body state (visits body fuel state) result := by
  induction fuel generalizing state with
  | zero => simp [run] at finished
  | succ fuel ih =>
      cases outcome : body state with
      | inl value =>
          simp only [run, outcome, Option.some.injEq] at finished
          subst finished
          simp only [visits, outcome]
          exact .stop outcome
      | inr later =>
          simp only [run, outcome] at finished
          simp only [visits, outcome]
          exact .next outcome (ih finished)

theorem terminates_of_stop {state : State} {result : Result}
    (broke : body state = .inl result) : Terminates body state :=
  ⟨[state], result, .stop broke⟩

theorem terminates_iff_of_next {state later : State}
    (continued : body state = .inr later) :
    Terminates body state ↔ Terminates body later := by
  constructor
  · rintro ⟨visited, result, finished⟩
    cases finished with
    | stop broke =>
        rw [continued] at broke
        cases broke
    | next continued' rest =>
        rw [continued] at continued'
        cases Sum.inr.inj continued'
        exact ⟨_, _, rest⟩
  · rintro ⟨visited, result, rest⟩
    exact ⟨_, _, .next continued rest⟩

/-- A loop that can always go on never breaks. -/
theorem not_terminates_of_invariant (Good : State → Prop)
    (goesOn : ∀ state, Good state → ∃ later, body state = .inr later ∧
      Good later)
    {state : State} (start : Good state) : ¬ Terminates body state := by
  rintro ⟨visited, result, finished⟩
  induction finished with
  | stop broke =>
      obtain ⟨later, continued, _⟩ := goesOn _ start
      rw [broke] at continued
      cases continued
  | next continued rest ih =>
      obtain ⟨later, continued', good⟩ := goesOn _ start
      rw [continued] at continued'
      cases Sum.inr.inj continued'
      exact ih good

end BreakLoop

end MScale
