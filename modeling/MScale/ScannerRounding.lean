import MScale.ScannerSearch

/-!
# The boundary search in rounded arithmetic

The rates and results that `search` compares are floats, so its sums,
differences, products and quotients are rounded.  This file embeds the search
with the rounding as a parameter; without rounding it is the search in exact
arithmetic.
-/

namespace MScale

namespace Scanner

section Definitions

variable (round : ℚ → ℚ)

/-- The increase chosen after a result.  The sign and the absolute value of a
number are exact. -/
def roundedInc (expectedResult : ℚ) (state : SearchState) (res : ℚ) : ℚ :=
  if res ≤ expectedResult then
    if !state.firstToggle then
      state.value
    else
      |round (round (1 * state.lastIncrease) / 2)|
  else
    -1 * |round (round (1 * state.lastIncrease) / 2)|

/-- The comparison by which a new result displaces the best one so far. -/
def RoundedDisplaces (expectedResult bestRes res : ℚ) : Prop :=
  |round (expectedResult - res)| < |round (bestRes - res)|

instance (expectedResult bestRes res : ℚ) :
    Decidable (RoundedDisplaces round expectedResult bestRes res) :=
  inferInstanceAs (Decidable (_ < _))

/-- The condition under which a measurement becomes the best one. -/
def RoundedTakesBest (expectedResult bestRes bestRate : ℚ)
    (measurement : Measurement) : Prop :=
  bestRes = -1 ∨ RoundedDisplaces round expectedResult bestRes measurement.res ∨
    (measurement.res = bestRes ∧ measurement.rate > bestRate)

instance (expectedResult bestRes bestRate : ℚ) (measurement : Measurement) :
    Decidable
      (RoundedTakesBest round expectedResult bestRes bestRate measurement) :=
  inferInstanceAs (Decidable (_ ∨ _ ∨ _))

/-- `(best_res, best_rate)` after a measurement. -/
def roundedBest (expectedResult : ℚ) (best : ℚ × ℚ)
    (measurement : Measurement) : ℚ × ℚ :=
  if RoundedTakesBest round expectedResult best.1 best.2 measurement then
    (measurement.res, measurement.rate)
  else
    best

/-- The loop state after a round that does not break. -/
def roundedAdvance (expectedResult : ℚ) (state : SearchState)
    (measurement : Measurement) : SearchState :=
  let inc := roundedInc round expectedResult state measurement.res
  let firstToggle := nextToggle expectedResult state measurement.res
  let best :=
    roundedBest round expectedResult (state.bestRes, state.bestRate) measurement
  { value := round (state.value + inc)
    inc := inc
    lastIncrease := inc
    firstToggle := firstToggle
    cnt := state.cnt + 1
    initalToggleCount :=
      if !firstToggle then state.initalToggleCount + 1
      else state.initalToggleCount
    bestRes := best.1
    bestRate := best.2 }

/-- One round of the `while True` loop of `search`. -/
def roundedBody (runfn : RunFn) (expectedResult errorPercentage : ℚ)
    (state : SearchState) : SearchExit ⊕ SearchState :=
  let measurement := runfn state.cnt state.value
  if !measurement.status then
    .inl ⟨measurement.status, state.cnt, state.bestRes, state.bestRate⟩
  else
    let best := roundedBest round expectedResult
      (state.bestRes, state.bestRate) measurement
    if |state.lastIncrease| < round (state.value * errorPercentage) then
      .inl ⟨measurement.status, state.cnt, best.1, best.2⟩
    else
      .inr (roundedAdvance round expectedResult state measurement)

/-- A finite run of `search` in rounded arithmetic. -/
abbrev RoundedRun (runfn : RunFn) (expectedResult errorPercentage : ℚ) :=
  BreakLoop.Run (roundedBody round runfn expectedResult errorPercentage)

end Definitions

/-- Without rounding it is the search in exact arithmetic. -/
theorem roundedBody_id (runfn : RunFn) (expectedResult errorPercentage : ℚ) :
    roundedBody id runfn expectedResult errorPercentage =
      searchBody runfn expectedResult errorPercentage :=
  rfl

section Rounds

variable {round : ℚ → ℚ} {runfn : RunFn} {expectedResult errorPercentage : ℚ}
  {state later : SearchState} {exit : SearchExit}

/-- A round that goes on takes over the measurement that it made. -/
theorem roundedBody_eq_next
    (continued : roundedBody round runfn expectedResult errorPercentage state =
      .inr later) :
    later = roundedAdvance round expectedResult state (measured runfn state) := by
  simp only [roundedBody] at continued
  split_ifs at continued
  exact (Sum.inr.inj continued).symm

/-- So does a round that breaks by the accuracy test. -/
theorem roundedBody_eq_exit (passed : exit.status = true)
    (broke : roundedBody round runfn expectedResult errorPercentage state =
      .inl exit) :
    (exit.bestRes, exit.bestRate) =
      roundedBest round expectedResult (state.bestRes, state.bestRate)
        (measured runfn state) := by
  simp only [roundedBody] at broke
  split_ifs at broke with failed accurate
  · rw [← Sum.inl.inj broke] at passed
    simp only at passed
    simp [passed] at failed
  · rw [← Sum.inl.inj broke]
    rfl

end Rounds

end Scanner

end MScale
