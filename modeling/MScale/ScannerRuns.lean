import MScale.AskingLoops
import MScale.ScannerMaxRate

/-!
# The scanner over a run function with a state

The run function that a `Scanner` is given runs a test, which changes the state
of the runner and may raise.  This file embeds `search` and `find_max_rate` over
such a run function, and connects them to the two searches over plain answers.
A search never asks for its starting value again.
-/

namespace MScale

namespace Scanner

open StateErrors LabelledRuns AskingLoop

section Definitions

variable {Error State : Type} (runfn : ℚ → EStateM Error State Measurement)
  (unfinished : Error)

/-- `search`, with a bound on the number of its rounds. -/
def searchWith (startValue expectedResult errorPercentage : ℚ) (fuel : Nat) :
    EStateM Error State SearchResult := do
  let exit ← repeatUntil unfinished
    (AskingLoop.body runfn SearchState.value fun measurement =>
      searchBody (fun _ _ => measurement) expectedResult errorPercentage)
    fuel (searchStart startValue)
  pure exit.result

/-- `find_max_rate`, with a bound on the number of its rounds. -/
def findMaxRateWith (startValue : ℚ) (fuel : Nat) :
    EStateM Error State (Except ZeroDivision MaxRateResult) :=
  repeatUntil unfinished
    (AskingLoop.body runfn MaxRateState.value fun measurement =>
      findMaxRateBody fun _ _ => measurement)
    fuel (findMaxRateStart startValue)

end Definitions

/-! ### The searches over the answers that they got -/

section Answers

variable {Error State : Type} {runfn : ℚ → EStateM Error State Measurement}
  {unfinished : Error} {startValue expectedResult errorPercentage : ℚ}
  {fuel : Nat} {before after : State}

theorem searchBody_cnt {answer : Measurement} {loop later : SearchState}
    (continued : searchBody (fun _ _ => answer) expectedResult errorPercentage
      loop = .inr later) :
    later.cnt = loop.cnt + 1 := by
  obtain ⟨_, _, laterEq⟩ := searchBody_eq_next_iff.mp continued
  rw [laterEq]
  rfl

theorem findMaxRateBody_calls {answer : Measurement} {loop later : MaxRateState}
    (continued : findMaxRateBody (fun _ _ => answer) loop = .inr later) :
    later.calls = loop.calls + 1 := by
  simp only [findMaxRateBody] at continued
  split_ifs at continued
  cases continued
  rfl

/-- A search that returns is a search over the answers to its runs. -/
theorem searchWith_asks {result : SearchResult}
    (returned : searchWith runfn unfinished startValue expectedResult
      errorPercentage fuel before = .ok result after) :
    ∃ (steps : List (Step State (ℚ × Measurement))) (answers : Nat → Measurement)
      (visited : List SearchState) (exit : SearchExit),
      Run (Answers runfn) before steps after ∧
      SearchRun (fun call _ => answers call) expectedResult errorPercentage
        (searchStart startValue) visited exit ∧
      steps.map Step.label = visited.map (fun loop =>
        (loop.value, answers loop.cnt)) ∧
      exit.result = result := by
  obtain ⟨exit, middle, ended, same⟩ := bind_ok_iff.mp returned
  cases same
  obtain ⟨steps, answers, visited, asks⟩ :=
    repeatUntil_asks (fun _ _ _ => searchBody_cnt) ended
  exact ⟨steps, answers, visited, exit, asks.asked, asks.followed, asks.labels,
    rfl⟩

theorem findMaxRateWith_asks {ending : Except ZeroDivision MaxRateResult}
    (returned : findMaxRateWith runfn unfinished startValue fuel before =
      .ok ending after) :
    ∃ (steps : List (Step State (ℚ × Measurement))) (answers : Nat → Measurement)
      (visited : List MaxRateState),
      Run (Answers runfn) before steps after ∧
      MaxRateRun (fun call _ => answers call) (findMaxRateStart startValue)
        visited ending ∧
      steps.map Step.label = visited.map (fun loop =>
        (loop.value, answers loop.calls)) := by
  obtain ⟨steps, answers, visited, asks⟩ :=
    repeatUntil_asks (fun _ _ _ => findMaxRateBody_calls) returned
  exact ⟨steps, answers, visited, asks.asked, asks.followed, asks.labels⟩

end Answers

/-! ### The starting value is asked for once -/

section Leaves

variable {runfn : RunFn} {startValue expectedResult errorPercentage : ℚ}
  {state later : SearchState} {visited : List SearchState} {exit : SearchExit}

/-- The next value differs from the starting value, and by at least the last
increase.  Before the first toggle the value is twice the last increase, which
is a positive multiple of the starting value. -/
structure Away (startValue : ℚ) (state : SearchState) : Prop where
  moved : state.lastIncrease ≠ 0
  far : |state.lastIncrease| ≤ |state.value - startValue|
  growing : state.firstToggle = false →
    state.value = 2 * state.lastIncrease ∧
      ∃ factor, 1 ≤ factor ∧ state.lastIncrease = factor * startValue

theorem Away.value_ne (away : Away startValue state) :
    state.value ≠ startValue := by
  intro same
  have far := away.far
  rw [same, sub_self, abs_zero] at far
  exact away.moved (abs_eq_zero.mp (le_antisymm far (abs_nonneg _)))

/-- A step of half the last increase does not lead back. -/
theorem Away.half_le {step : ℚ} (away : Away startValue state)
    (half : |step| = |state.lastIncrease| / 2) :
    |step| ≤ |state.value + step - startValue| := by
  have triangle : |state.value - startValue| ≤
      |state.value + step - startValue| + |step| := by
    calc |state.value - startValue|
        = |state.value + step - startValue - step| := by ring_nf
      _ ≤ |state.value + step - startValue| + |step| := abs_sub _ _
  have far := away.far
  linarith

theorem abs_nextInc_of_halved {res : ℚ}
    (halved : expectedResult < res ∨ state.firstToggle = true) :
    |nextInc expectedResult state res| = |state.lastIncrease| / 2 := by
  have half : |1 * state.lastIncrease / 2| = |state.lastIncrease| / 2 := by
    rw [one_mul, abs_div, abs_two]
  unfold nextInc
  split
  · next met =>
      have toggled := halved.resolve_left (not_lt_of_ge met)
      rw [toggled, Bool.not_true, if_neg Bool.false_ne_true, abs_abs, half]
  · rw [neg_one_mul, abs_neg, abs_abs, half]

theorem nextToggle_eq_false_iff {res : ℚ} :
    nextToggle expectedResult state res = false ↔
      res ≤ expectedResult ∧ state.firstToggle = false := by
  unfold nextToggle
  split <;> simp_all

/-- The first round leads away from the starting value. -/
theorem away_first (nonzero : startValue ≠ 0) (measurement : Measurement) :
    Away startValue
      (advance expectedResult (searchStart startValue) measurement) := by
  by_cases met : measurement.res ≤ expectedResult
  · have inc : nextInc expectedResult (searchStart startValue)
        measurement.res = startValue := by
      simp [nextInc, met, searchStart]
    constructor
    · simpa only [advance, inc] using nonzero
    · simp only [advance, inc]
      simp [searchStart]
    · intro _
      have value : (searchStart startValue).value = startValue := rfl
      simp only [advance, inc, value]
      exact ⟨(two_mul _).symm, 1, le_rfl, (one_mul _).symm⟩
  · have inc : |nextInc expectedResult (searchStart startValue)
        measurement.res| = |startValue| / 2 :=
      abs_nextInc_of_halved (.inl (lt_of_not_ge met))
    have positive := abs_pos.mpr nonzero
    constructor
    · simp only [advance]
      rw [← abs_pos, inc]
      exact half_pos positive
    · simp [advance, searchStart]
    · intro untoggled
      exact absurd (nextToggle_eq_false_iff.mp untoggled).1 met

theorem Away.advance (away : Away startValue state)
    (measurement : Measurement) :
    Away startValue (advance expectedResult state measurement) := by
  by_cases grows : nextToggle expectedResult state measurement.res = false
  · obtain ⟨met, untoggled⟩ := nextToggle_eq_false_iff.mp grows
    obtain ⟨double, factor, atLeast, multiple⟩ := away.growing untoggled
    have inc : nextInc expectedResult state measurement.res =
        2 * state.lastIncrease := by
      simp [nextInc, met, untoggled, double]
    constructor
    · simp only [Scanner.advance, inc]
      exact mul_ne_zero two_ne_zero away.moved
    · simp only [Scanner.advance, inc, double, multiple]
      have left : 2 * (factor * startValue) = 2 * factor * startValue := by ring
      have right : 2 * (factor * startValue) + 2 * (factor * startValue) -
          startValue = (4 * factor - 1) * startValue := by ring
      have doubled : 0 < 2 * factor := by linarith
      have grown : 0 < 4 * factor - 1 := by linarith
      rw [right, left, abs_mul (2 * factor), abs_mul (4 * factor - 1),
        abs_of_pos doubled, abs_of_pos grown]
      exact mul_le_mul_of_nonneg_right (by linarith) (abs_nonneg _)
    · intro _
      simp only [Scanner.advance, inc, double]
      refine ⟨by ring, 2 * factor, by linarith, ?_⟩
      rw [multiple]
      ring
  · have halved : expectedResult < measurement.res ∨
        state.firstToggle = true := by
      by_contra neither
      obtain ⟨met, untoggled⟩ := not_or.mp neither
      exact grows (nextToggle_eq_false_iff.mpr
        ⟨le_of_not_gt met, Bool.eq_false_iff.mpr untoggled⟩)
    have half := abs_nextInc_of_halved halved
    constructor
    · simp only [Scanner.advance]
      rw [← abs_pos, half]
      exact half_pos (abs_pos.mpr away.moved)
    · exact away.half_le half
    · exact fun untoggled => (grows untoggled).elim

theorem Away.value_ne_of_mem (away : Away startValue state)
    (run : SearchRun runfn expectedResult errorPercentage state visited exit) :
    ∀ other ∈ visited, other.value ≠ startValue := by
  induction run with
  | stop broke =>
      intro other member
      rw [List.mem_singleton.mp member]
      exact away.value_ne
  | next continued rest ih =>
      obtain ⟨_, _, rfl⟩ := searchBody_eq_next_iff.mp continued
      intro other member
      rcases List.mem_cons.mp member with rfl | member
      · exact away.value_ne
      · exact ih (away.advance _) other member

/-- A search whose first test does not pass ends with it. -/
theorem search_fails
    (failed : (runfn 0 startValue).status = false)
    (run : SearchRun runfn expectedResult errorPercentage
      (searchStart startValue) visited exit) :
    visited = [searchStart startValue] ∧ exit = ⟨false, 0, -1, 0⟩ := by
  have ends : searchBody runfn expectedResult errorPercentage
      (searchStart startValue) = .inl ⟨false, 0, -1, 0⟩ :=
    searchBody_of_failed failed
  cases run with
  | stop broke =>
      rw [ends] at broke
      exact ⟨rfl, (Sum.inl.inj broke).symm⟩
  | next continued rest =>
      rw [ends] at continued
      cases continued

theorem coarse_start (positive : 0 ≤ errorPercentage)
    (small : errorPercentage ≤ 1) :
    ¬ |(searchStart startValue).lastIncrease| <
      (searchStart startValue).value * errorPercentage := by
  have below : startValue * errorPercentage ≤ |startValue| * 1 :=
    mul_le_mul (le_abs_self _) small positive (abs_nonneg _)
  rw [mul_one] at below
  exact not_lt_of_ge below

theorem searchBody_exit_cnt
    (broke : searchBody runfn expectedResult errorPercentage state = .inl exit) :
    exit.cnt = state.cnt := by
  simp only [searchBody] at broke
  split_ifs at broke <;> cases broke <;> rfl

theorem le_exit_cnt
    (run : SearchRun runfn expectedResult errorPercentage state visited exit) :
    state.cnt ≤ exit.cnt := by
  induction run with
  | stop broke => exact (searchBody_exit_cnt broke).ge
  | next continued rest ih =>
      obtain ⟨_, _, rfl⟩ := searchBody_eq_next_iff.mp continued
      exact (Nat.le_succ _).trans ih

/-- A search whose first test passes goes on. -/
theorem search_passes (passed : (runfn 0 startValue).status = true)
    (positive : 0 ≤ errorPercentage) (small : errorPercentage ≤ 1)
    (run : SearchRun runfn expectedResult errorPercentage
      (searchStart startValue) visited exit) :
    ∃ rest, visited = searchStart startValue :: rest ∧ rest ≠ [] ∧
      exit.cnt ≠ 0 ∧
      SearchRun runfn expectedResult errorPercentage
        (Scanner.advance expectedResult (searchStart startValue)
          (runfn 0 startValue)) rest exit := by
  have continues : searchBody runfn expectedResult errorPercentage
      (searchStart startValue) = .inr (Scanner.advance expectedResult
        (searchStart startValue) (runfn 0 startValue)) :=
    searchBody_of_continuing passed (coarse_start positive small)
  cases run with
  | stop broke =>
      rw [continues] at broke
      cases broke
  | next continued rest =>
      rw [continues] at continued
      cases continued
      refine ⟨_, rfl, List.ne_nil_of_mem rest.start_mem, ?_, rest⟩
      exact Nat.ne_of_gt (le_exit_cnt rest)

/-- It never asks for its starting value again, unless that is zero. -/
theorem search_leaves (nonzero : startValue ≠ 0) (measurement : Measurement)
    (run : SearchRun runfn expectedResult errorPercentage
      (Scanner.advance expectedResult (searchStart startValue) measurement)
      visited exit) :
    ∀ other ∈ visited, other.value ≠ startValue :=
  (away_first nonzero measurement).value_ne_of_mem run

theorem advance_zero (value : state.value = 0) (last : state.lastIncrease = 0)
    (measurement : Measurement) :
    (Scanner.advance expectedResult state measurement).value = 0 ∧
      (Scanner.advance expectedResult state measurement).lastIncrease = 0 := by
  simp [Scanner.advance, nextInc, value, last]

/-- A search at zero asks for nothing but zero. -/
theorem search_zero_value (value : state.value = 0)
    (last : state.lastIncrease = 0)
    (run : SearchRun runfn expectedResult errorPercentage state visited exit) :
    ∀ other ∈ visited, other.value = 0 := by
  induction run with
  | stop broke => simpa using value
  | next continued rest ih =>
      obtain ⟨_, _, rfl⟩ := searchBody_eq_next_iff.mp continued
      obtain ⟨value', last'⟩ := advance_zero value last _
      exact List.forall_mem_cons.mpr ⟨value, ih value' last'⟩

/-- It does not end as long as its tests pass. -/
theorem search_zero_goes_on (value : state.value = 0)
    (last : state.lastIncrease = 0)
    (run : SearchRun runfn expectedResult errorPercentage state visited exit) :
    ∃ other ∈ visited, (measured runfn other).status = false := by
  induction run with
  | stop broke =>
      refine ⟨_, List.mem_singleton_self _, ?_⟩
      by_contra passed
      rw [Bool.not_eq_false] at passed
      rw [searchBody_of_continuing passed] at broke
      · cases broke
      · rw [value, last, abs_zero, zero_mul]
        exact lt_irrefl 0
  | next continued rest ih =>
      obtain ⟨_, _, rfl⟩ := searchBody_eq_next_iff.mp continued
      obtain ⟨value', last'⟩ := advance_zero value last _
      obtain ⟨other, member, failed⟩ := ih value' last'
      exact ⟨other, List.mem_cons_of_mem _ member, failed⟩

end Leaves

end Scanner

end MScale
