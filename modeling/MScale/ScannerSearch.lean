import MScale.BreakLoop
import MScale.BracketSearch
import Mathlib.Algebra.Order.Archimedean.Real.Basic
import Mathlib.Data.Rat.Floor

/-!
# The boundary search of the scanner

`Scanner.search` tunes one parameter: it runs a test at a value, looks at the
result and goes up or down.  Its interval is not stored anywhere; it is
encoded in the current value, the last increase and the toggle flag.  This
file embeds the search and connects its loop states to the explicit brackets
of `MScale.Bracket`.
-/

namespace MScale

namespace Scanner

/-- What the run function reports for one value. -/
structure Measurement where
  status : Bool
  rate : ℚ
  res : ℚ
  deriving DecidableEq, Repr

/-- A run function may answer differently on every call, so it sees the number
of calls made before. -/
abbrev RunFn := Nat → ℚ → Measurement

/-- The local variables of `search` at the head of its loop. -/
structure SearchState where
  value : ℚ
  inc : ℚ
  lastIncrease : ℚ
  firstToggle : Bool
  cnt : Nat
  initalToggleCount : Nat
  bestRes : ℚ
  bestRate : ℚ
  deriving DecidableEq, Repr

/-- The variables `search` leaves its loop with. -/
structure SearchExit where
  status : Bool
  cnt : Nat
  bestRes : ℚ
  bestRate : ℚ
  deriving DecidableEq, Repr

/-- The tuple returned by `search`. -/
structure SearchResult where
  status : Bool
  stepCnt : Nat
  bestRes : ℤ
  bestRate : ℚ
  deriving DecidableEq, Repr

/-- Python's `int` on a number truncates toward zero. -/
def truncate (number : ℚ) : ℤ :=
  if 0 ≤ number then ⌊number⌋ else ⌈number⌉

def SearchExit.result (exit : SearchExit) : SearchResult where
  status := exit.status
  stepCnt := exit.cnt
  bestRes := truncate exit.bestRes
  bestRate := exit.bestRate

def searchStart (startValue : ℚ) : SearchState where
  value := startValue
  inc := 0
  lastIncrease := startValue
  firstToggle := false
  cnt := 0
  initalToggleCount := 0
  bestRes := -1
  bestRate := 0

/-- The increase chosen after a result, before the exit test. -/
def nextInc (expectedResult : ℚ) (state : SearchState) (res : ℚ) : ℚ :=
  if res ≤ expectedResult then
    if !state.firstToggle then
      state.value
    else
      |1 * state.lastIncrease / 2|
  else
    -1 * |1 * state.lastIncrease / 2|

/-- The toggle flag is set by the first result above the target. -/
def nextToggle (expectedResult : ℚ) (state : SearchState) (res : ℚ) : Bool :=
  if res ≤ expectedResult then state.firstToggle else true

/-- The comparison by which a new result displaces the best one so far. -/
def Displaces (expectedResult bestRes res : ℚ) : Prop :=
  |expectedResult - res| < |bestRes - res|

instance (expectedResult bestRes res : ℚ) :
    Decidable (Displaces expectedResult bestRes res) :=
  inferInstanceAs (Decidable (_ < _))

/-- The condition under which a measurement becomes the best one. -/
def TakesBest (expectedResult bestRes bestRate : ℚ)
    (measurement : Measurement) : Prop :=
  bestRes = -1 ∨ Displaces expectedResult bestRes measurement.res ∨
    (measurement.res = bestRes ∧ measurement.rate > bestRate)

instance (expectedResult bestRes bestRate : ℚ) (measurement : Measurement) :
    Decidable (TakesBest expectedResult bestRes bestRate measurement) :=
  inferInstanceAs (Decidable (_ ∨ _ ∨ _))

/-- `(best_res, best_rate)` after a measurement. -/
def nextBest (expectedResult : ℚ) (best : ℚ × ℚ) (measurement : Measurement) :
    ℚ × ℚ :=
  if TakesBest expectedResult best.1 best.2 measurement then
    (measurement.res, measurement.rate)
  else
    best

/-- The loop state after a round that does not break. -/
def advance (expectedResult : ℚ) (state : SearchState)
    (measurement : Measurement) : SearchState :=
  let inc := nextInc expectedResult state measurement.res
  let firstToggle := nextToggle expectedResult state measurement.res
  let best := nextBest expectedResult (state.bestRes, state.bestRate) measurement
  { value := state.value + inc
    inc := inc
    lastIncrease := inc
    firstToggle := firstToggle
    cnt := state.cnt + 1
    initalToggleCount :=
      if !firstToggle then state.initalToggleCount + 1
      else state.initalToggleCount
    bestRes := best.1
    bestRate := best.2 }

/-- One round of the `while True` loop of `search`. -/
def searchBody (runfn : RunFn) (expectedResult errorPercentage : ℚ)
    (state : SearchState) : SearchExit ⊕ SearchState :=
  let measurement := runfn state.cnt state.value
  if !measurement.status then
    .inl ⟨measurement.status, state.cnt, state.bestRes, state.bestRate⟩
  else
    let best :=
      nextBest expectedResult (state.bestRes, state.bestRate) measurement
    if |state.lastIncrease| < state.value * errorPercentage then
      .inl ⟨measurement.status, state.cnt, best.1, best.2⟩
    else
      .inr (advance expectedResult state measurement)

/-- `Scanner.search`, executed for at most `fuel` rounds. -/
def search (runfn : RunFn) (startValue expectedResult errorPercentage : ℚ)
    (fuel : Nat) : Option SearchResult :=
  (BreakLoop.run (searchBody runfn expectedResult errorPercentage) fuel
    (searchStart startValue)).map SearchExit.result

/-- It asks for 100, 200, 400, 800, 600, 700 and 750. -/
example : search (fun _ value => ⟨true, value, if value ≤ 700 then 0 else 5⟩)
    100 0 (1 / 10) 20 = some ⟨true, 6, 0, 700⟩ := by
  decide +kernel

/-- A finite run of `search`: the loop states in which a test was run, and the
variables it was left with. -/
abbrev SearchRun (runfn : RunFn) (expectedResult errorPercentage : ℚ) :=
  BreakLoop.Run (searchBody runfn expectedResult errorPercentage)

/-- The measurement taken in a loop state. -/
def measured (runfn : RunFn) (state : SearchState) : Measurement :=
  runfn state.cnt state.value

variable {runfn : RunFn} {expectedResult errorPercentage : ℚ}
variable {state later : SearchState} {exit : SearchExit}

theorem searchBody_of_failed (failed : (measured runfn state).status = false) :
    searchBody runfn expectedResult errorPercentage state =
      .inl ⟨false, state.cnt, state.bestRes, state.bestRate⟩ := by
  simp only [measured] at failed
  simp [searchBody, failed]

theorem searchBody_of_accurate
    (succeeded : (measured runfn state).status = true)
    (accurate : |state.lastIncrease| < state.value * errorPercentage) :
    searchBody runfn expectedResult errorPercentage state =
      .inl ⟨true, state.cnt,
        (nextBest expectedResult (state.bestRes, state.bestRate)
          (measured runfn state)).1,
        (nextBest expectedResult (state.bestRes, state.bestRate)
          (measured runfn state)).2⟩ := by
  simp only [measured] at succeeded
  simp [searchBody, succeeded, accurate, measured]

theorem searchBody_of_continuing
    (succeeded : (measured runfn state).status = true)
    (coarse : ¬ |state.lastIncrease| < state.value * errorPercentage) :
    searchBody runfn expectedResult errorPercentage state =
      .inr (advance expectedResult state (measured runfn state)) := by
  simp only [measured] at succeeded
  simp only [searchBody, succeeded, coarse, measured]
  simp

/-- A round continues exactly when its test succeeded and the last step was
still too large. -/
theorem searchBody_eq_next_iff :
    searchBody runfn expectedResult errorPercentage state = .inr later ↔
      (measured runfn state).status = true ∧
        ¬ |state.lastIncrease| < state.value * errorPercentage ∧
        later = advance expectedResult state (measured runfn state) := by
  cases succeeded : (measured runfn state).status with
  | false => simp [searchBody_of_failed succeeded]
  | true =>
      by_cases accurate : |state.lastIncrease| < state.value * errorPercentage
      · simp [searchBody_of_accurate succeeded accurate, accurate]
      · simp [searchBody_of_continuing succeeded accurate, accurate, eq_comm]

/-! ## The bracket behind a loop state -/

/-- A loop state encodes a bracket: its value is the next probe, its last
increase the stride, and its flag tells whether a probe was rejected. -/
structure Tracks (state : SearchState) (bracket : Bracket ℚ) : Prop where
  value_eq : state.value = bracket.probe
  stride_eq : |state.lastIncrease| = bracket.stride
  toggle_eq : state.firstToggle = bracket.closed

theorem tracks_start {startValue : ℚ} (positive : 0 < startValue) :
    Tracks (searchStart startValue) (Bracket.start startValue positive) where
  value_eq := rfl
  stride_eq := by
    simp [searchStart, Bracket.stride, Bracket.probe, Bracket.start,
      abs_of_pos positive]
  toggle_eq := rfl

theorem Tracks.accurate_iff {bracket : Bracket ℚ}
    (tracks : Tracks state bracket) :
    |state.lastIncrease| < state.value * errorPercentage ↔
      bracket.Narrow errorPercentage := by
  rw [tracks.stride_eq, tracks.value_eq]
  rfl

private theorem abs_one_mul_div_two (number : ℚ) :
    |1 * number / 2| = |number| / 2 := by
  rw [one_mul, abs_div, abs_two]

/-- A round that does not break follows the answer to its probe. -/
theorem Tracks.advance {bracket : Bracket ℚ} (tracks : Tracks state bracket)
    (expectedResult : ℚ) (measurement : Measurement) :
    Tracks (advance expectedResult state measurement)
      (bracket.answer (measurement.res ≤ expectedResult)) := by
  have stridePositive := bracket.stride_pos
  have probePositive := bracket.probe_pos
  by_cases met : measurement.res ≤ expectedResult
  · cases closed : bracket.closed with
    | false =>
        have incEq : nextInc expectedResult state measurement.res =
            bracket.probe := by
          simp [nextInc, met, tracks.toggle_eq, closed, tracks.value_eq]
        constructor
        · simp only [Scanner.advance, incEq, tracks.value_eq, met,
            decide_true, Bracket.answer_true,
            Bracket.accept_probe_of_open closed]
          ring
        · simp only [Scanner.advance, incEq, met, decide_true,
            Bracket.answer_true, Bracket.accept_stride_of_open closed,
            abs_of_pos probePositive]
        · simp [Scanner.advance, nextToggle, met, tracks.toggle_eq]
    | true =>
        have incEq : nextInc expectedResult state measurement.res =
            bracket.stride / 2 := by
          simp [nextInc, met, tracks.toggle_eq, closed, abs_div,
            tracks.stride_eq]
        constructor
        · simp only [Scanner.advance, incEq, tracks.value_eq, met,
            decide_true, Bracket.answer_true,
            Bracket.accept_probe_of_closed closed]
        · simp only [Scanner.advance, incEq, met, decide_true,
            Bracket.answer_true, Bracket.accept_stride_of_closed closed]
          exact abs_of_pos (by linarith)
        · simp [Scanner.advance, nextToggle, met, tracks.toggle_eq]
  · have incEq : nextInc expectedResult state measurement.res =
        -(bracket.stride / 2) := by
      simp only [nextInc, met, if_false, abs_one_mul_div_two,
        tracks.stride_eq]
      ring
    constructor
    · simp only [Scanner.advance, incEq, tracks.value_eq, met,
        decide_false, Bracket.answer_false, Bracket.reject_probe]
      ring
    · simp only [Scanner.advance, incEq, met, decide_false,
        Bracket.answer_false, Bracket.reject_stride, abs_neg]
      exact abs_of_pos (by linarith)
    · simp [Scanner.advance, nextToggle, met]

end Scanner

end MScale
