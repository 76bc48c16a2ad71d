import MScale.StateErrors
import Mathlib.Algebra.Order.Floor.Semiring
import Mathlib.Data.Rat.Floor
import Mathlib.Tactic.Linarith

/-!
# Retrying until a deadline

A loop looks at the clock, makes an attempt while its time is not over, and
pauses after an attempt that failed.  It ends with the value of the first
attempt that succeeds, or with an exception once the clock has passed the
deadline.  Since every failed round takes at least one pause, the deadline
bounds the number of attempts.
-/

namespace MScale

namespace RetryDeadline

/-- A clock that is not set back.  Time may pass while it is looked at. -/
structure Clock (State : Type) where
  now : State → ℚ
  look : State → State
  sleep : ℚ → State → State
  le_look : ∀ state, now state ≤ now (look state)
  le_sleep : ∀ duration state, now state + duration ≤ now (sleep duration state)

variable {Error Failure State Value : Type}

/-- Attempt until the clock reaches `deadline`.  A bound on the number of rounds
makes the loop executable; the error `exhausted` reports that the bound was too
small. -/
def retry (clock : Clock State) (timedOut exhausted : Error)
    (pause deadline : ℚ) (attempt : EStateM Failure State Value) :
    Nat → EStateM Error State Value
  | 0, state => .error exhausted state
  | fuel + 1, state =>
      if clock.now (clock.look state) < deadline then
        match attempt (clock.look state) with
        | .ok value after => .ok value after
        | .error _ after =>
            retry clock timedOut exhausted pause deadline attempt fuel
              (clock.sleep pause after)
      else .error timedOut (clock.look state)

/-- Rounds that began before the deadline and whose attempts failed lead from
a state to a later one. -/
inductive FailedRounds (clock : Clock State) (pause deadline : ℚ)
    (attempt : EStateM Failure State Value) :
    State → List Failure → State → Prop
  | none {state : State} : FailedRounds clock pause deadline attempt state [] state
  | more {state after final : State} {failure : Failure}
      {failures : List Failure}
      (early : clock.now (clock.look state) < deadline)
      (failed : attempt (clock.look state) = .error failure after)
      (rest : FailedRounds clock pause deadline attempt
        (clock.sleep pause after) failures final) :
      FailedRounds clock pause deadline attempt state (failure :: failures)
        final

/-- How the loop ends in the round it enters in `state`: with a value, or with
an exception because the deadline has passed. -/
inductive LastRound (clock : Clock State) (timedOut : Error) (deadline : ℚ)
    (attempt : EStateM Failure State Value) (state : State) :
    EStateM.Result Error State Value → Prop
  | succeeded {value : Value} {after : State}
      (early : clock.now (clock.look state) < deadline)
      (ended : attempt (clock.look state) = .ok value after) :
      LastRound clock timedOut deadline attempt state (.ok value after)
  | expired (late : deadline ≤ clock.now (clock.look state)) :
      LastRound clock timedOut deadline attempt state
        (.error timedOut (clock.look state))

section Rules

variable {clock : Clock State} {timedOut exhausted : Error}
  {pause deadline : ℚ} {attempt : EStateM Failure State Value}
  {state after final : State} {failures : List Failure} {fuel : Nat}

theorem retry_of_failed {failure : Failure}
    (early : clock.now (clock.look state) < deadline)
    (failed : attempt (clock.look state) = .error failure after) :
    retry clock timedOut exhausted pause deadline attempt (fuel + 1) state =
      retry clock timedOut exhausted pause deadline attempt fuel
        (clock.sleep pause after) := by
  rw [retry, if_pos early, failed]

/-- The loop comes to its last round after some failed ones, or uses up its
bound with failed rounds. -/
theorem failedRounds_total (clock : Clock State) (timedOut exhausted : Error)
    (pause deadline : ℚ) (attempt : EStateM Failure State Value) (fuel : Nat)
    (state : State) :
    (∃ failures last, FailedRounds clock pause deadline attempt state failures
        last ∧ failures.length < fuel ∧
      LastRound clock timedOut deadline attempt last
        (retry clock timedOut exhausted pause deadline attempt fuel state)) ∨
    ∃ failures last, FailedRounds clock pause deadline attempt state failures
      last ∧ failures.length = fuel := by
  induction fuel generalizing state with
  | zero => exact Or.inr ⟨[], state, .none, rfl⟩
  | succ fuel ih =>
      by_cases early : clock.now (clock.look state) < deadline
      · cases outcome : attempt (clock.look state) with
        | ok value after =>
            refine Or.inl ⟨[], state, .none, Nat.succ_pos fuel, ?_⟩
            rw [retry, if_pos early, outcome]
            exact .succeeded early outcome
        | error failure after =>
            rw [retry_of_failed early outcome]
            rcases ih (clock.sleep pause after) with
              ⟨failures, last, rounds, fewer, lastRound⟩ |
              ⟨failures, last, rounds, lengthEq⟩
            · exact Or.inl ⟨failure :: failures, last,
                .more early outcome rounds, Nat.succ_lt_succ fewer, lastRound⟩
            · exact Or.inr ⟨failure :: failures, last,
                .more early outcome rounds, congrArg Nat.succ lengthEq⟩
      · refine Or.inl ⟨[], state, .none, Nat.succ_pos fuel, ?_⟩
        rw [retry, if_neg early]
        exact .expired (not_lt.mp early)

section Time

variable (patient : ∀ state,
  clock.now state ≤ clock.now (StateErrors.stateAfter (attempt state)))

include patient

/-- All failed rounds but the last are over before the deadline. -/
theorem FailedRounds.length_lt
    (rounds : FailedRounds clock pause deadline attempt state failures final)
    (failedOnce : failures ≠ []) :
    clock.now state + (failures.length - 1) * pause < deadline := by
  induction rounds with
  | none => exact (failedOnce rfl).elim
  | @more state after final failure failures early failed rest ih =>
      have looked := clock.le_look state
      by_cases onlyOne : failures = []
      · subst onlyOne
        simp
        linarith
      · have attempted := patient (clock.look state)
        rw [failed] at attempted
        have slept := clock.le_sleep pause after
        have later := ih onlyOne
        simp only [StateErrors.stateAfter] at attempted
        push_cast [List.length_cons]
        linarith

/-- The deadline bounds the number of failed rounds. -/
theorem FailedRounds.length_le {start timeout : ℚ} (pausePos : 0 < pause)
    (rounds : FailedRounds clock pause (start + timeout) attempt state failures
      final) (begun : start ≤ clock.now state) :
    failures.length ≤ ⌈timeout / pause⌉₊ := by
  by_cases failedOnce : failures = []
  · simp [failedOnce]
  · have within := rounds.length_lt patient failedOnce
    have quotient : ((failures.length - 1 : ℕ) : ℚ) < timeout / pause := by
      rw [lt_div_iff₀ pausePos,
        Nat.cast_pred (List.length_pos_iff.mpr failedOnce)]
      linarith
    have := Nat.lt_ceil.mpr quotient
    omega

/-- With a bound above the number of pauses that fit before the deadline, the
loop comes to its last round. -/
theorem retry_ends {start timeout : ℚ} (pausePos : 0 < pause)
    (begun : start ≤ clock.now state) (enough : ⌈timeout / pause⌉₊ < fuel)
    (timedOut exhausted : Error) :
    ∃ failures last, FailedRounds clock pause (start + timeout) attempt state
        failures last ∧
      failures.length ≤ ⌈timeout / pause⌉₊ ∧
      LastRound clock timedOut (start + timeout) attempt last
        (retry clock timedOut exhausted pause (start + timeout) attempt fuel
          state) := by
  rcases failedRounds_total clock timedOut exhausted pause (start + timeout)
      attempt fuel state with
    ⟨failures, last, rounds, fewer, lastRound⟩ |
    ⟨failures, last, rounds, lengthEq⟩
  · exact ⟨failures, last, rounds, rounds.length_le patient pausePos begun,
      lastRound⟩
  · have := rounds.length_le patient pausePos begun
    omega

end Time

end Rules

end RetryDeadline

end MScale
