import MScale.BreakLoop
import MScale.LabelledRuns
import MScale.StateErrors

/-!
# Loops that ask

In every round such a loop puts one question to a computation with a state and
goes by the answer.  A loop that returns is a loop without the state, against
the answers that it was given.
-/

namespace MScale

namespace AskingLoop

open StateErrors LabelledRuns

variable {Loop Query Answer Result Error State : Type}

/-- The body of a loop that asks one question in each round. -/
def body (ask : Query → EStateM Error State Answer) (query : Loop → Query)
    (goBy : Answer → Loop → Result ⊕ Loop) (loop : Loop) :
    EStateM Error State (Result ⊕ Loop) := do
  let answer ← ask (query loop)
  pure (goBy answer loop)

/-- The question of the label is answered as the label says. -/
def Answers (ask : Query → EStateM Error State Answer) (before : State)
    (label : Query × Answer) (after : State) : Prop :=
  ask label.1 before = .ok label.2 after

variable {ask : Query → EStateM Error State Answer} {query : Loop → Query}
  {goBy : Answer → Loop → Result ⊕ Loop} {count : Loop → Nat}

/-- A loop that counts its rounds visits no smaller count than its first. -/
theorem le_count_of_mem {body : Loop → Result ⊕ Loop}
    (counts : ∀ loop later, body loop = .inr later →
      count later = count loop + 1)
    {loop : Loop} {visited : List Loop} {result : Result}
    (run : BreakLoop.Run body loop visited result) :
    ∀ other ∈ visited, count loop ≤ count other := by
  induction run with
  | stop broke =>
      intro other member
      obtain rfl := List.mem_singleton.mp member
      exact Nat.le_refl _
  | next continued rest ih =>
      intro other member
      rcases List.mem_cons.mp member with rfl | member
      · exact Nat.le_refl _
      · have counted := counts _ _ continued
        have later := ih other member
        omega

/-- What a loop does depends on its body in the states it visits. -/
theorem run_congr {body other : Loop → Result ⊕ Loop} {loop : Loop}
    {visited : List Loop} {result : Result}
    (run : BreakLoop.Run body loop visited result)
    (same : ∀ state ∈ visited, body state = other state) :
    BreakLoop.Run other loop visited result := by
  induction run with
  | stop broke =>
      exact .stop ((same _ (List.mem_singleton_self _)).symm.trans broke)
  | next continued rest ih =>
      refine .next ((same _ List.mem_cons_self).symm.trans continued) (ih ?_)
      exact fun state member => same state (List.mem_cons_of_mem _ member)

/-- A loop visits its first state first. -/
theorem visited_eq_cons {body : Loop → Result ⊕ Loop} {loop : Loop}
    {visited : List Loop} {result : Result}
    (run : BreakLoop.Run body loop visited result) :
    ∃ rest, visited = loop :: rest := by
  cases run with
  | stop broke => exact ⟨[], rfl⟩
  | next continued rest => exact ⟨_, rfl⟩

/-- The loop with the given answer to each round. -/
def answered (goBy : Answer → Loop → Result ⊕ Loop) (count : Loop → Nat)
    (answers : Nat → Answer) (loop : Loop) : Result ⊕ Loop :=
  goBy (answers (count loop)) loop

/-- A question with the answer to its round. -/
def answeredQuery (query : Loop → Query) (count : Loop → Nat)
    (answers : Nat → Answer) (loop : Loop) : Query × Answer :=
  (query loop, answers (count loop))

/-- The loop asked its questions in order and went by the answers. -/
structure Asks (ask : Query → EStateM Error State Answer)
    (query : Loop → Query) (goBy : Answer → Loop → Result ⊕ Loop)
    (count : Loop → Nat) (loop : Loop) (state : State)
    (steps : List (Step State (Query × Answer))) (answers : Nat → Answer)
    (visited : List Loop) (result : Result) (final : State) : Prop where
  asked : Run (Answers ask) state steps final
  followed : BreakLoop.Run (answered goBy count answers) loop visited result
  labels : steps.map Step.label =
    visited.map (answeredQuery query count answers)

/-- A loop that counts its rounds and returns has asked its questions. -/
theorem repeatUntil_asks {exhausted : Error}
    (counts : ∀ answer loop later, goBy answer loop = .inr later →
      count later = count loop + 1)
    {fuel : Nat} {loop : Loop} {state final : State} {result : Result}
    (returned : repeatUntil exhausted (body ask query goBy) fuel loop state =
      .ok result final) :
    ∃ steps answers visited,
      Asks ask query goBy count loop state steps answers visited result
        final := by
  induction fuel generalizing loop state with
  | zero => cases returned
  | succ fuel ih =>
      obtain ⟨next, middle, round, rest⟩ := bind_ok_iff.mp returned
      obtain ⟨answer, after, answeredAt, goesBy⟩ := bind_ok_iff.mp round
      cases goesBy
      cases went : goBy answer loop with
      | inl broke =>
          rw [went] at rest
          cases rest
          exact ⟨[⟨state, (query loop, answer), _⟩], fun _ => answer,
            [loop], .next answeredAt .stop, .stop went, rfl⟩
      | inr later =>
          rw [went] at rest
          obtain ⟨steps, answers, visited, asks⟩ := ih rest
          -- The rounds that follow have larger counts than this one.
          have larger : ∀ other ∈ visited, count other ≠ count loop := by
            intro other member
            have counted := counts _ _ _ went
            have atLeast := le_count_of_mem
              (fun loop later => counts _ loop later) asks.followed other
              member
            omega
          have here : answered goBy count
              (Function.update answers (count loop) answer) loop =
              .inr later := by
            rw [answered, Function.update_self, went]
          have there : BreakLoop.Run (answered goBy count
              (Function.update answers (count loop) answer)) later visited
              result := by
            refine run_congr asks.followed fun other member => ?_
            rw [answered, answered, Function.update_of_ne (larger other member)]
          refine ⟨⟨state, (query loop, answer), _⟩ :: steps,
            Function.update answers (count loop) answer, loop :: visited,
            .next answeredAt asks.asked, .next here there, ?_⟩
          rw [List.map_cons, List.map_cons, asks.labels, answeredQuery,
            Function.update_self]
          congr 1
          refine List.map_congr_left fun other member => ?_
          rw [answeredQuery, answeredQuery,
            Function.update_of_ne (larger other member)]

end AskingLoop

end MScale
