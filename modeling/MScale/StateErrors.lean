import Mathlib.Logic.Basic
import Mathlib.Order.Basic

/-!
# Computations with a state and exceptions

A computation in `EStateM` ends with a value or with an exception, and in both
cases leaves a state behind: an exception does not undo what was done before
it.  This file collects the rules by which a sequence of such computations is
taken apart, lifts computations on a part of the state, and defines loops with
an explicit bound on the number of rounds.
-/

namespace MScale

namespace StateErrors

variable {Error State Part Value Result Loop : Type}

theorem get_ok (state : State) :
    (get : EStateM Error State State) state = .ok state state :=
  rfl

theorem modify_ok (change : State → State) (state : State) :
    (modify change : EStateM Error State PUnit) state =
      .ok ⟨⟩ (change state) :=
  rfl

theorem bind_of_ok {first : EStateM Error State Value}
    {rest : Value → EStateM Error State Result} {state middle : State}
    {value : Value} (ended : first state = .ok value middle) :
    (first >>= rest) state = rest value middle := by
  simp [bind, EStateM.bind, ended]

theorem bind_of_error {first : EStateM Error State Value}
    {rest : Value → EStateM Error State Result} {state middle : State}
    {error : Error} (failed : first state = .error error middle) :
    (first >>= rest) state = .error error middle := by
  simp [bind, EStateM.bind, failed]

/-- A sequence returns when its parts return one after the other. -/
theorem bind_ok_iff {first : EStateM Error State Value}
    {rest : Value → EStateM Error State Result} {state final : State}
    {result : Result} :
    (first >>= rest) state = .ok result final ↔
      ∃ value middle, first state = .ok value middle ∧
        rest value middle = .ok result final := by
  cases ended : first state with
  | ok value middle =>
      rw [bind_of_ok ended]
      constructor
      · intro finished
        exact ⟨value, middle, rfl, finished⟩
      · rintro ⟨value', middle', same, finished⟩
        cases same
        exact finished
  | error error middle =>
      rw [bind_of_error ended]
      simp

/-- A sequence fails where its first part fails, or where the rest fails in
the state the first part left. -/
theorem bind_error_iff {first : EStateM Error State Value}
    {rest : Value → EStateM Error State Result} {state final : State}
    {error : Error} :
    (first >>= rest) state = .error error final ↔
      first state = .error error final ∨
        ∃ value middle, first state = .ok value middle ∧
          rest value middle = .error error final := by
  cases ended : first state with
  | ok value middle =>
      rw [bind_of_ok ended]
      constructor
      · intro failed
        exact Or.inr ⟨value, middle, rfl, failed⟩
      · rintro (same | ⟨value', middle', same, failed⟩)
        · cases same
        · cases same
          exact failed
  | error error' middle =>
      rw [bind_of_error ended]
      simp

theorem tryCatch_of_ok {body : EStateM Error State Value}
    {handler : Error → EStateM Error State Value} {state after : State}
    {value : Value} (ended : body state = .ok value after) :
    (tryCatch body handler) state = .ok value after := by
  simp [tryCatch, tryCatchThe, MonadExceptOf.tryCatch, EStateM.tryCatch, ended]

/-- An exception is handled in the state it left behind. -/
theorem tryCatch_of_error {body : EStateM Error State Value}
    {handler : Error → EStateM Error State Value} {state after : State}
    {error : Error} (failed : body state = .error error after) :
    (tryCatch body handler) state = handler error after := by
  simp [tryCatch, tryCatchThe, MonadExceptOf.tryCatch, EStateM.tryCatch, failed]
  rfl

/-- The state an outcome leaves behind. -/
def stateAfter : EStateM.Result Error State Value → State
  | .ok _ state => state
  | .error _ state => state

theorem discard_ok_iff {computation : EStateM Error State Value}
    {state final : State} :
    (discard computation : EStateM Error State PUnit) state = .ok ⟨⟩ final ↔
      ∃ value, computation state = .ok value final := by
  cases ended : computation state <;>
    simp [discard, Functor.mapConst, Functor.discard, EStateM.map, ended]

@[simp]
theorem stateAfter_discard (computation : EStateM Error State Value)
    (state : State) :
    stateAfter ((discard computation : EStateM Error State PUnit) state) =
      stateAfter (computation state) := by
  cases ended : computation state <;>
    simp [discard, Functor.mapConst, Functor.discard, EStateM.map, ended,
      stateAfter]

/-- Whether an outcome is a value. -/
def returns : EStateM.Result Error State Value → Bool
  | .ok _ _ => true
  | .error _ _ => false

theorem eq_ok_of_returns {outcome : EStateM.Result Error State Unit}
    (returned : returns outcome = true) :
    outcome = .ok () (stateAfter outcome) := by
  cases outcome with
  | ok value state => rfl
  | error error state => cases returned

/-- Whether an outcome is the given exception. -/
def fails [DecidableEq Error] (error : Error) :
    EStateM.Result Error State Value → Bool
  | .ok _ _ => false
  | .error error' _ => error' = error

theorem eq_error_of_fails [DecidableEq Error] {error : Error}
    {outcome : EStateM.Result Error State Value}
    (failed : fails error outcome = true) :
    outcome = .error error (stateAfter outcome) := by
  cases outcome with
  | ok value state => cases failed
  | error error' state =>
      have same : error' = error := of_decide_eq_true failed
      rw [same]
      rfl

/-- Run a computation on a part of the state. -/
def onPart (get : State → Part) (set : Part → State → State)
    (computation : EStateM Error Part Value) : EStateM Error State Value :=
  fun state =>
    match computation (get state) with
    | .ok value part => .ok value (set part state)
    | .error error part => .error error (set part state)

section OnPart

variable {get : State → Part} {set : Part → State → State}
    {computation : EStateM Error Part Value} {state final : State}

theorem onPart_ok_iff {value : Value} :
    onPart get set computation state = .ok value final ↔
      ∃ part, computation (get state) = .ok value part ∧
        final = set part state := by
  unfold onPart
  cases computation (get state) with
  | ok value' part =>
      constructor
      · intro ended
        cases ended
        exact ⟨part, rfl, rfl⟩
      · rintro ⟨part', same, rfl⟩
        cases same
        rfl
  | error error part => simp

theorem stateAfter_onPart :
    stateAfter (onPart get set computation state) =
      set (stateAfter (computation (get state))) state := by
  unfold onPart
  split
  · next value part ended => rw [ended]; rfl
  · next error part ended => rw [ended]; rfl

end OnPart

/-- Repeat a loop body until it breaks with a result.  A bound on the number of
rounds makes the loop executable; the error `exhausted` reports that the bound
was too small. -/
def repeatUntil (exhausted : Error)
    (body : Loop → EStateM Error State (Result ⊕ Loop)) :
    Nat → Loop → EStateM Error State Result
  | 0, _ => throw exhausted
  | fuel + 1, loop => do
      match ← body loop with
      | .inl result => pure result
      | .inr later => repeatUntil exhausted body fuel later

/-- A loop that returns breaks in a state that its invariant holds of. -/
theorem repeatUntil_returned {exhausted : Error}
    {body : Loop → EStateM Error State (Result ⊕ Loop)}
    {Good : Loop → State → Prop}
    (preserved : ∀ loop later state after, Good loop state →
      body loop state = .ok (.inr later) after → Good later after)
    {fuel : Nat} {loop : Loop} {state final : State} {result : Result}
    (start : Good loop state)
    (returned : repeatUntil exhausted body fuel loop state =
      .ok result final) :
    ∃ last before, Good last before ∧
      body last before = .ok (.inl result) final := by
  induction fuel generalizing loop state with
  | zero => cases returned
  | succ fuel ih =>
      obtain ⟨next, middle, round, rest⟩ := bind_ok_iff.mp returned
      cases next with
      | inl broke =>
          cases rest
          exact ⟨loop, state, start, round⟩
      | inr later => exact ih (preserved _ _ _ _ start round) rest

/-- A loop whose rounds keep its invariant and lower its rank breaks within as
many rounds. -/
theorem repeatUntil_ends {exhausted : Error}
    {body : Loop → EStateM Error State (Result ⊕ Loop)}
    {Good : Loop → State → Prop} {Done : Result → State → Prop}
    (rank : Loop → Nat)
    (progress : ∀ loop state, Good loop state →
      (∃ result after, body loop state = .ok (.inl result) after ∧
        Done result after) ∨
      ∃ later after, body loop state = .ok (.inr later) after ∧
        Good later after ∧ rank later < rank loop)
    {fuel : Nat} {loop : Loop} {state : State} (start : Good loop state)
    (enough : rank loop < fuel) :
    ∃ result final,
      repeatUntil exhausted body fuel loop state = .ok result final ∧
        Done result final := by
  induction fuel generalizing loop state with
  | zero => omega
  | succ fuel ih =>
      rcases progress loop state start with
        ⟨result, after, round, done⟩ | ⟨later, after, round, good, lower⟩
      · exact ⟨result, after, bind_of_ok round, done⟩
      · obtain ⟨result, final, ended, done⟩ := ih good (by omega)
        exact ⟨result, final, (bind_of_ok round).trans ended, done⟩

/-- A loop whose rounds never fail can only exhaust its bound. -/
theorem repeatUntil_error {exhausted : Error}
    {body : Loop → EStateM Error State (Result ⊕ Loop)}
    (total : ∀ loop state error after, body loop state ≠ .error error after)
    {fuel : Nat} {loop : Loop} {state final : State} {error : Error}
    (failed : repeatUntil exhausted body fuel loop state = .error error final) :
    error = exhausted := by
  induction fuel generalizing loop state with
  | zero =>
      cases failed
      rfl
  | succ fuel ih =>
      rcases bind_error_iff.mp failed with here | ⟨round, middle, _, later⟩
      · exact (total _ _ _ _ here).elim
      · cases round with
        | inl result => cases later
        | inr loop => exact ih later

/-- A round that does not break is followed by the rest of the loop. -/
theorem repeatUntil_continue {exhausted : Error}
    {body : Loop → EStateM Error State (Result ⊕ Loop)} {fuel : Nat}
    {loop later : Loop} {state after : State}
    (round : body loop state = .ok (.inr later) after) :
    repeatUntil exhausted body (fuel + 1) loop state =
      repeatUntil exhausted body fuel later after :=
  bind_of_ok round

/-- However a computation ends, it leads from a state to a related one. -/
def LeadsAlong (relation : State → State → Prop)
    (computation : EStateM Error State Value) : Prop :=
  ∀ state, relation state (stateAfter (computation state))

section LeadsAlong

variable {relation : State → State → Prop}

theorem leadsAlong_pure (reflexive : ∀ state, relation state state)
    (value : Value) :
    LeadsAlong relation (pure value : EStateM Error State Value) :=
  reflexive

theorem leadsAlong_throw (reflexive : ∀ state, relation state state)
    (error : Error) :
    LeadsAlong relation (throw error : EStateM Error State Value) :=
  reflexive

theorem LeadsAlong.bind
    (transitive : ∀ first second third, relation first second →
      relation second third → relation first third)
    {first : EStateM Error State Value}
    {rest : Value → EStateM Error State Result}
    (leads : LeadsAlong relation first)
    (leadsRest : ∀ value, LeadsAlong relation (rest value)) :
    LeadsAlong relation (first >>= rest) := by
  intro state
  have led := leads state
  cases ended : first state with
  | error error middle =>
      rw [bind_of_error ended]
      rw [ended] at led
      exact led
  | ok value middle =>
      rw [bind_of_ok ended]
      rw [ended] at led
      exact transitive _ _ _ led (leadsRest value middle)

/-- What a sequence does after its first part leads on from the state the first
part left. -/
theorem leads_bind (reflexive : ∀ state, relation state state)
    (first : EStateM Error State Value)
    {rest : Value → EStateM Error State Result}
    (leadsRest : ∀ value, LeadsAlong relation (rest value)) (state : State) :
    relation (stateAfter (first state)) (stateAfter ((first >>= rest) state)) := by
  cases ended : first state with
  | error error middle =>
      rw [bind_of_error ended]
      exact reflexive middle
  | ok value middle =>
      rw [bind_of_ok ended]
      exact leadsRest value middle

theorem leadsAlong_repeatUntil (reflexive : ∀ state, relation state state)
    (transitive : ∀ first second third, relation first second →
      relation second third → relation first third)
    {exhausted : Error} {body : Loop → EStateM Error State (Result ⊕ Loop)}
    (leads : ∀ loop, LeadsAlong relation (body loop)) (fuel : Nat)
    (loop : Loop) :
    LeadsAlong relation (repeatUntil exhausted body fuel loop) := by
  induction fuel generalizing loop with
  | zero => exact leadsAlong_throw reflexive exhausted
  | succ fuel ih =>
      apply (leads loop).bind transitive
      intro next
      cases next with
      | inl result => exact leadsAlong_pure reflexive result
      | inr later => exact ih later

end LeadsAlong

/-- The bound was not what ended the computation. -/
def Settled (exhausted : Error) (outcome : EStateM.Result Error State Value) :
    Prop :=
  ∀ state, outcome ≠ .error exhausted state

theorem settled_of_ok {exhausted : Error}
    {outcome : EStateM.Result Error State Value} {value : Value}
    {state : State} (returned : outcome = .ok value state) :
    Settled exhausted outcome := by
  intro state unfinished
  rw [returned] at unfinished
  cases unfinished

theorem Settled.bind {exhausted : Error} {first : EStateM Error State Value}
    {rest : Value → EStateM Error State Result} {state : State}
    (settled : Settled exhausted (first state))
    (settledRest : ∀ value middle, Settled exhausted (rest value middle)) :
    Settled exhausted ((first >>= rest) state) := by
  intro final unfinished
  rcases bind_error_iff.mp unfinished with failed | ⟨value, middle, _, failed⟩
  · exact settled final failed
  · exact settledRest value middle final failed

theorem Settled.of_bind {exhausted : Error} {first : EStateM Error State Value}
    {rest : Value → EStateM Error State Result} {state : State}
    (settled : Settled exhausted ((first >>= rest) state)) :
    Settled exhausted (first state) :=
  fun final unfinished => settled final (bind_of_error unfinished)

theorem Settled.of_discard {exhausted : Error}
    {computation : EStateM Error State Value} {state : State}
    (settled : Settled exhausted
      ((discard computation : EStateM Error State PUnit) state)) :
    Settled exhausted (computation state) := by
  intro final unfinished
  apply settled final
  simp [discard, Functor.discard, Functor.mapConst, EStateM.map, unfinished]

theorem Settled.onPart {exhausted : Error} {get : State → Part}
    {set : Part → State → State} {computation : EStateM Error Part Value}
    {state : State} (settled : Settled exhausted (computation (get state))) :
    Settled exhausted (onPart get set computation state) := by
  intro final unfinished
  unfold StateErrors.onPart at unfinished
  split at unfinished
  · cases unfinished
  · next error part failed =>
      cases unfinished
      exact settled part failed

theorem Settled.of_onPart {exhausted : Error} {get : State → Part}
    {set : Part → State → State} {computation : EStateM Error Part Value}
    {state : State}
    (settled : Settled exhausted (StateErrors.onPart get set computation state)) :
    Settled exhausted (computation (get state)) := by
  intro final unfinished
  apply settled (set final state)
  simp [StateErrors.onPart, unfinished]

/-- Bounded computations whose outcome no longer depends on the bound once it
was large enough. -/
def Settles (exhausted : Error)
    (computation : Nat → EStateM Error State Value) : Prop :=
  ∀ fuel state, Settled exhausted (computation fuel state) →
    computation (fuel + 1) state = computation fuel state

theorem Settles.eq_of_le {exhausted : Error}
    {computation : Nat → EStateM Error State Value}
    (settles : Settles exhausted computation) {fuel more : Nat}
    (le : fuel ≤ more) {state : State}
    (settled : Settled exhausted (computation fuel state)) :
    computation more state = computation fuel state := by
  induction le with
  | refl => rfl
  | step le ih =>
      rw [settles _ _ (by rw [ih]; exact settled), ih]

/-- Any two sufficient bounds give the same outcome. -/
theorem Settles.unique {exhausted : Error}
    {computation : Nat → EStateM Error State Value}
    (settles : Settles exhausted computation) {first second : Nat}
    {state : State} (firstSettled : Settled exhausted (computation first state))
    (secondSettled : Settled exhausted (computation second state)) :
    computation first state = computation second state := by
  rcases Nat.le_total first second with le | le
  · exact (settles.eq_of_le le firstSettled).symm
  · exact settles.eq_of_le le secondSettled

/-- What a computation returns within some bound it returns within any
sufficient one. -/
theorem Settles.eq_ok_of_settled {exhausted : Error}
    {computation : Nat → EStateM Error State Value}
    (settles : Settles exhausted computation) {fuel other : Nat}
    {state after : State} {value : Value}
    (settled : Settled exhausted (computation fuel state))
    (returned : computation other state = .ok value after) :
    computation fuel state = .ok value after := by
  rw [← returned]
  exact settles.unique settled (settled_of_ok returned)

/-- A condition on whatever a computation returns is a condition on what it
did return. -/
theorem forall_ok_iff {outcome : EStateM.Result Error State Value}
    {value : Value} {after : State} (returned : outcome = .ok value after)
    {holds : State → Prop} :
    (∀ after', outcome = .ok value after' → holds after') ↔ holds after := by
  constructor
  · intro always
    exact always after returned
  · intro held after' same
    rw [returned] at same
    cases same
    exact held

/-- The same, within any bound. -/
theorem Settles.forall_ok_iff {exhausted : Error}
    {computation : Nat → EStateM Error State Value}
    (settles : Settles exhausted computation) {fuel : Nat}
    {state after : State} {value : Value}
    (returned : computation fuel state = .ok value after)
    {holds : State → Prop} :
    (∀ other after', computation other state = .ok value after' →
      holds after') ↔ holds after := by
  constructor
  · intro always
    exact always fuel after returned
  · intro held other after' returned'
    have same := settles.eq_ok_of_settled (settled_of_ok returned) returned'
    exact (StateErrors.forall_ok_iff returned).mpr held after' same

theorem settles_const {exhausted : Error}
    (computation : EStateM Error State Value) :
    Settles exhausted fun _ => computation :=
  fun _ _ _ => rfl

theorem settles_repeatUntil (exhausted : Error)
    (body : Loop → EStateM Error State (Result ⊕ Loop)) (loop : Loop) :
    Settles exhausted fun fuel => repeatUntil exhausted body fuel loop := by
  intro fuel
  induction fuel generalizing loop with
  | zero =>
      intro state settled
      exact absurd rfl (settled state)
  | succ fuel ih =>
      intro state settled
      cases round : body loop state with
      | error error middle =>
          have stops : ∀ more, repeatUntil exhausted body (more + 1) loop state =
              .error error middle := fun more => bind_of_error round
          simp only [stops]
      | ok next middle =>
          cases next with
          | inl result =>
              have breaks : ∀ more,
                  repeatUntil exhausted body (more + 1) loop state =
                    .ok result middle := fun more => bind_of_ok round
              simp only [breaks]
          | inr later =>
              have continues : ∀ more,
                  repeatUntil exhausted body (more + 1) loop state =
                    repeatUntil exhausted body more later middle :=
                fun more => bind_of_ok round
              simp only [continues] at settled ⊢
              exact ih later middle settled

/-- A loop whose rounds keep its invariant and lower a rank of the state breaks
within as many rounds. -/
theorem repeatUntil_endsInState {exhausted : Error}
    {body : Loop → EStateM Error State (Result ⊕ Loop)}
    {Good : Loop → State → Prop} {Done : Result → State → Prop}
    (rank : State → Nat)
    (progress : ∀ loop state, Good loop state →
      (∃ result after, body loop state = .ok (.inl result) after ∧
        Done result after) ∨
      ∃ later after, body loop state = .ok (.inr later) after ∧
        Good later after ∧ rank after < rank state)
    {fuel : Nat} {loop : Loop} {state : State} (start : Good loop state)
    (enough : rank state < fuel) :
    ∃ result final,
      repeatUntil exhausted body fuel loop state = .ok result final ∧
        Done result final := by
  induction fuel generalizing loop state with
  | zero => omega
  | succ fuel ih =>
      rcases progress loop state start with
        ⟨result, after, round, done⟩ | ⟨later, after, round, good, lower⟩
      · exact ⟨result, after, bind_of_ok round, done⟩
      · obtain ⟨result, final, ended, done⟩ := ih good (by omega)
        exact ⟨result, final, (bind_of_ok round).trans ended, done⟩

/-- Two computations agree on the good states, and lead to good states again. -/
def AgreeOn (Good : State → Prop) (first second : EStateM Error State Value) :
    Prop :=
  ∀ state, Good state →
    first state = second state ∧ Good (stateAfter (first state))

section AgreeOn

variable {Good : State → Prop}

theorem agreeOn_pure (value : Value) :
    AgreeOn Good (pure value : EStateM Error State Value) (pure value) :=
  fun _ good => ⟨rfl, good⟩

theorem agreeOn_throw (error : Error) :
    AgreeOn Good (throw error : EStateM Error State Value) (throw error) :=
  fun _ good => ⟨rfl, good⟩

theorem AgreeOn.bind {first second : EStateM Error State Value}
    {rest later : Value → EStateM Error State Result}
    (agree : AgreeOn Good first second)
    (agreeRest : ∀ value, AgreeOn Good (rest value) (later value)) :
    AgreeOn Good (first >>= rest) (second >>= later) := by
  intro state good
  obtain ⟨same, goodAfter⟩ := agree state good
  cases ended : first state with
  | error error middle =>
      rw [ended] at same goodAfter
      rw [bind_of_error ended, bind_of_error same.symm]
      exact ⟨rfl, goodAfter⟩
  | ok value middle =>
      rw [ended] at same goodAfter
      rw [bind_of_ok ended, bind_of_ok same.symm]
      exact agreeRest value middle goodAfter

/-- Loops agree where their bodies do, as long as the loop state keeps the
invariant on which the bodies rely. -/
theorem agreeOn_repeatUntil {exhausted : Error}
    {body other : Loop → EStateM Error State (Result ⊕ Loop)}
    {Invariant : Loop → Prop}
    (agree : ∀ loop, Invariant loop → AgreeOn Good (body loop) (other loop))
    (kept : ∀ loop later state after, Invariant loop →
      body loop state = .ok (.inr later) after → Invariant later)
    (fuel : Nat) {loop : Loop} (start : Invariant loop) :
    AgreeOn Good (repeatUntil exhausted body fuel loop)
      (repeatUntil exhausted other fuel loop) := by
  induction fuel generalizing loop with
  | zero => exact agreeOn_throw exhausted
  | succ fuel ih =>
      intro state good
      obtain ⟨same, goodAfter⟩ := agree loop start state good
      rw [repeatUntil, repeatUntil]
      cases round : body loop state with
      | error error middle =>
          rw [round] at same goodAfter
          rw [bind_of_error round, bind_of_error same.symm]
          exact ⟨rfl, goodAfter⟩
      | ok next middle =>
          rw [round] at same goodAfter
          rw [bind_of_ok round, bind_of_ok same.symm]
          cases next with
          | inl result => exact ⟨rfl, goodAfter⟩
          | inr later =>
              exact ih (kept loop later state middle start round) middle
                goodAfter

end AgreeOn

/-- Started as required, a computation ends in a value with its postcondition
or in an exception with another one. -/
def Ensures (Before : State → Prop) (computation : EStateM Error State Value)
    (After : Value → State → Prop) (Failed : State → Prop) : Prop :=
  ∀ state, Before state →
    (∀ value final, computation state = .ok value final → After value final) ∧
    ∀ error final, computation state = .error error final → Failed final

section Ensures

variable {Before Failed : State → Prop} {Middle : Value → State → Prop}
  {After : Result → State → Prop} {computation : EStateM Error State Value}

theorem Ensures.bind {rest : Value → EStateM Error State Result}
    (ensures : Ensures Before computation Middle Failed)
    (ensuresRest : ∀ value, Ensures (Middle value) (rest value) After Failed) :
    Ensures Before (computation >>= rest) After Failed := by
  intro state holds
  obtain ⟨returned, failed⟩ := ensures state holds
  constructor
  · intro result final ended
    obtain ⟨value, middle, first, second⟩ := bind_ok_iff.mp ended
    exact (ensuresRest value middle (returned value middle first)).1 result
      final second
  · intro error final ended
    rcases bind_error_iff.mp ended with first | ⟨value, middle, first, second⟩
    · exact failed error final first
    · exact (ensuresRest value middle (returned value middle first)).2 error
        final second

theorem Ensures.imp {Stronger : State → Prop} {Weaker : Value → State → Prop}
    (ensures : Ensures Before computation Middle Failed)
    (required : ∀ state, Stronger state → Before state)
    (implies : ∀ value state, Middle value state → Weaker value state) :
    Ensures Stronger computation Weaker Failed := by
  intro state holds
  obtain ⟨returned, failed⟩ := ensures state (required state holds)
  exact ⟨fun value final ended => implies value final (returned value final ended),
    failed⟩

theorem ensures_pure {value : Value}
    (holds : ∀ state, Before state → Middle value state) :
    Ensures Before (pure value : EStateM Error State Value) Middle Failed := by
  intro state before
  constructor
  · rintro value final ended
    cases ended
    exact holds state before
  · rintro error final impossible
    cases impossible

theorem ensures_throw {error : Error}
    (holds : ∀ state, Before state → Failed state) :
    Ensures Before (throw error : EStateM Error State Value) Middle Failed := by
  intro state before
  constructor
  · rintro value final impossible
    cases impossible
  · rintro error final ended
    cases ended
    exact holds state before

theorem ensures_modify {change : State → State} {Changed : State → Prop}
    (holds : ∀ state, Before state → Changed (change state)) :
    Ensures Before (modify change : EStateM Error State PUnit)
      (fun _ => Changed) Failed := by
  intro state before
  constructor
  · rintro value final ended
    cases ended
    exact holds state before
  · rintro error final impossible
    cases impossible

/-- What holds of all values and of all exceptions holds at the end. -/
theorem Ensures.stateAfter {Finally : State → Prop}
    (ensures : Ensures Before computation (fun _ => Finally) Finally)
    {state : State} (holds : Before state) :
    Finally (StateErrors.stateAfter (computation state)) := by
  obtain ⟨returned, failed⟩ := ensures state holds
  cases ended : computation state with
  | ok value final => exact returned value final ended
  | error error final => exact failed error final ended

end Ensures

end StateErrors

end MScale
