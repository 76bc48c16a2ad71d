import MScale.ScannerSearch

/-!
# Termination of the boundary search

A responder of finite capacity rejects every value above some bound.  Once the
search has accepted one value it ends: the doubling phase reaches the bound,
and afterwards the stride halves while the accepted value does not fall.
Before the first acceptance value and stride halve together, and the exit test
compares them with each other.
-/

namespace MScale

namespace Scanner

variable {runfn : RunFn} {expectedResult errorPercentage : ℚ}
variable {state : SearchState} {bracket : Bracket ℚ}

/-- Every test above `capacity` fails or misses the target. -/
def FiniteCapacity (runfn : RunFn) (expectedResult capacity : ℚ) : Prop :=
  ∀ call value, capacity < value →
    (runfn call value).status = false ∨
      expectedResult < (runfn call value).res

/-- The loop of `search` ends when started in `state`. -/
abbrev Terminates (runfn : RunFn) (expectedResult errorPercentage : ℚ) :=
  BreakLoop.Terminates (searchBody runfn expectedResult errorPercentage)

/-- Only rounds with a successful test and a wide bracket go on. -/
theorem terminates_of_advance (tracks : Tracks state bracket)
    (goesOn : (measured runfn state).status = true →
      ¬ bracket.Narrow errorPercentage →
      Terminates runfn expectedResult errorPercentage
        (advance expectedResult state (measured runfn state))) :
    Terminates runfn expectedResult errorPercentage state := by
  cases succeeded : (measured runfn state).status with
  | false =>
      exact BreakLoop.terminates_of_stop (searchBody_of_failed succeeded)
  | true =>
      by_cases accurate : |state.lastIncrease| < state.value * errorPercentage
      · exact BreakLoop.terminates_of_stop
          (searchBody_of_accurate succeeded accurate)
      · rw [Terminates, BreakLoop.terminates_iff_of_next
          (searchBody_of_continuing succeeded accurate)]
        exact goesOn succeeded (mt tracks.accurate_iff.mpr accurate)

/-- After the first rejection every round halves the stride and keeps the
accepted value, so the number of remaining rounds is bounded. -/
theorem terminates_of_closed (positive : 0 < errorPercentage) (rounds : Nat) :
    ∀ {state : SearchState} {bracket : Bracket ℚ},
      Tracks state bracket → bracket.closed = true → 0 < bracket.lo →
      bracket.stride < 2 ^ rounds * (bracket.lo * errorPercentage) →
      Terminates runfn expectedResult errorPercentage state := by
  induction rounds with
  | zero =>
      intro state bracket tracks _ _ thin
      apply terminates_of_advance tracks
      intro _ wide
      rw [pow_zero, one_mul] at thin
      exact absurd (Bracket.narrow_of_stride_lt positive thin) wide
  | succ rounds ih =>
      intro state bracket tracks closed loPositive thin
      apply terminates_of_advance tracks
      intro _ _
      let accepted : Bool := (measured runfn state).res ≤ expectedResult
      have loLe := bracket.lo_le_answer_lo accepted
      have scaled : 2 ^ rounds * (bracket.lo * errorPercentage) ≤
          2 ^ rounds * ((bracket.answer accepted).lo * errorPercentage) := by
        gcongr
      have halved : bracket.stride / 2 <
          2 ^ rounds * (bracket.lo * errorPercentage) := by
        rw [pow_succ] at thin
        linarith
      refine ih (tracks.advance _ _)
        (Bracket.answer_closed_of_closed closed accepted)
        (lt_of_lt_of_le loPositive loLe) ?_
      rw [Bracket.answer_stride_of_closed closed]
      exact lt_of_lt_of_le halved scaled

/-- While every probe is accepted the probe doubles, until it exceeds the
capacity and is rejected. -/
theorem terminates_of_open {capacity : ℚ}
    (finite : FiniteCapacity runfn expectedResult capacity)
    (positive : 0 < errorPercentage) (rounds : Nat) :
    ∀ {state : SearchState} {bracket : Bracket ℚ},
      Tracks state bracket → bracket.closed = false → 0 < bracket.lo →
      capacity < 2 ^ rounds * bracket.probe →
      Terminates runfn expectedResult errorPercentage state := by
  have rejected {state : SearchState} {bracket : Bracket ℚ}
      (tracks : Tracks state bracket) (loPositive : 0 < bracket.lo)
      (missed : ¬ (measured runfn state).res ≤ expectedResult) :
      Terminates runfn expectedResult errorPercentage
        (advance expectedResult state (measured runfn state)) := by
    have next := tracks.advance expectedResult (measured runfn state)
    simp only [missed, decide_false, Bracket.answer_false] at next
    obtain ⟨rounds, enough⟩ := Bracket.exists_lt_two_pow_mul
      bracket.reject.stride (mul_pos loPositive positive)
    exact terminates_of_closed positive rounds next (by simp)
      (by simpa using loPositive) (by simpa using enough)
  induction rounds with
  | zero =>
      intro state bracket tracks _ loPositive beyond
      apply terminates_of_advance tracks
      intro succeeded _
      rw [pow_zero, one_mul, ← tracks.value_eq] at beyond
      rcases finite state.cnt state.value beyond with failed | missed
      · simp only [measured, failed, Bool.false_eq_true] at succeeded
      · exact rejected tracks loPositive (not_le_of_gt missed)
  | succ rounds ih =>
      intro state bracket tracks isOpen loPositive beyond
      apply terminates_of_advance tracks
      intro _ _
      by_cases met : (measured runfn state).res ≤ expectedResult
      · have next := tracks.advance expectedResult
          (measured runfn state)
        simp only [met, decide_true, Bracket.answer_true] at next
        refine ih next (by simpa using isOpen)
          (by simpa using bracket.probe_pos) ?_
        rw [Bracket.accept_probe_of_open isOpen]
        rw [pow_succ] at beyond
        linarith
      · exact rejected tracks loPositive met

/-- One accepted value is enough. -/
theorem terminates_of_lo_pos {capacity : ℚ}
    (finite : FiniteCapacity runfn expectedResult capacity)
    (positive : 0 < errorPercentage) (tracks : Tracks state bracket)
    (loPositive : 0 < bracket.lo) :
    Terminates runfn expectedResult errorPercentage state := by
  cases closed : bracket.closed with
  | true =>
      obtain ⟨rounds, enough⟩ := Bracket.exists_lt_two_pow_mul
        bracket.stride (mul_pos loPositive positive)
      exact terminates_of_closed positive rounds tracks closed loPositive
        enough
  | false =>
      obtain ⟨rounds, enough⟩ :=
        Bracket.exists_lt_two_pow_mul capacity bracket.probe_pos
      exact terminates_of_open finite positive rounds tracks closed loPositive
        enough

/-- Nothing was accepted in the first `calls` rounds: the probed value is the
start value halved that many times. -/
structure Halving (startValue : ℚ) (calls : Nat) (state : SearchState)
    (bracket : Bracket ℚ) : Prop where
  tracks : Tracks state bracket
  lo_eq : bracket.lo = 0
  probe_eq : bracket.probe = startValue / 2 ^ calls
  cnt_eq : state.cnt = calls

theorem halving_start {startValue : ℚ} (positive : 0 < startValue) :
    Halving startValue 0 (searchStart startValue)
      (Bracket.start startValue positive) where
  tracks := tracks_start positive
  lo_eq := rfl
  probe_eq := by simp [Bracket.probe, Bracket.start]
  cnt_eq := rfl

theorem Halving.measured_eq {startValue : ℚ} {calls : Nat}
    (halving : Halving startValue calls state bracket) (runfn : RunFn) :
    measured runfn state = runfn calls (startValue / 2 ^ calls) := by
  rw [measured, halving.cnt_eq, halving.tracks.value_eq, halving.probe_eq]

theorem Halving.next {startValue : ℚ} {calls : Nat}
    (halving : Halving startValue calls state bracket)
    {measurement : Measurement}
    (missed : ¬ measurement.res ≤ expectedResult) :
    Halving startValue (calls + 1)
      (advance expectedResult state measurement) bracket.reject where
  tracks := by
    simpa [missed] using halving.tracks.advance expectedResult measurement
  lo_eq := by simpa using halving.lo_eq
  probe_eq := by
    rw [Bracket.reject_probe, Bracket.stride, halving.lo_eq,
      halving.probe_eq, pow_succ, ← div_div]
    ring
  cnt_eq := by simp [advance, halving.cnt_eq]

/-- A bracket without an accepted value is never narrow. -/
theorem Halving.wide {startValue : ℚ} {calls : Nat}
    (halving : Halving startValue calls state bracket)
    (small : errorPercentage ≤ 1 / 2) :
    ¬ bracket.Narrow errorPercentage := by
  intro narrow
  have loPositive :=
    Bracket.lo_pos_of_narrow (by linarith : errorPercentage ≤ 1) narrow
  rw [halving.lo_eq] at loPositive
  exact lt_irrefl 0 loPositive

/-- The first test that fails or meets the target ends the halving. -/
theorem Halving.terminates {startValue capacity : ℚ}
    (finite : FiniteCapacity runfn expectedResult capacity)
    (positive : 0 < errorPercentage) {last : Nat}
    (ends : (runfn last (startValue / 2 ^ last)).status = false ∨
      (runfn last (startValue / 2 ^ last)).res ≤ expectedResult)
    (remaining : Nat) :
    ∀ {calls : Nat} {state : SearchState} {bracket : Bracket ℚ},
      Halving startValue calls state bracket → calls + remaining = last →
      Terminates runfn expectedResult errorPercentage state := by
  have accepted {calls : Nat} {state : SearchState} {bracket : Bracket ℚ}
      (halving : Halving startValue calls state bracket)
      (met : (measured runfn state).res ≤ expectedResult) :
      Terminates runfn expectedResult errorPercentage
        (advance expectedResult state (measured runfn state)) := by
    have next := halving.tracks.advance expectedResult (measured runfn state)
    simp only [met, decide_true, Bracket.answer_true] at next
    exact terminates_of_lo_pos finite positive next
      (by simpa using bracket.probe_pos)
  induction remaining with
  | zero =>
      intro calls state bracket halving atLast
      apply terminates_of_advance halving.tracks
      intro succeeded _
      rw [Nat.add_zero] at atLast
      subst atLast
      rw [← halving.measured_eq runfn] at ends
      rcases ends with failed | met
      · rw [succeeded] at failed
        cases failed
      · exact accepted halving met
  | succ remaining ih =>
      intro calls state bracket halving atLast
      apply terminates_of_advance halving.tracks
      intro _ _
      by_cases met : (measured runfn state).res ≤ expectedResult
      · exact accepted halving met
      · exact ih (halving.next met) (by omega)

/-- A search against finite capacity ends exactly when one of the halved
start values fails or meets the target. -/
theorem search_terminates_iff {startValue capacity : ℚ}
    (startPositive : 0 < startValue) (positive : 0 < errorPercentage)
    (small : errorPercentage ≤ 1 / 2)
    (finite : FiniteCapacity runfn expectedResult capacity) :
    Terminates runfn expectedResult errorPercentage
        (searchStart startValue) ↔
      ∃ calls, (runfn calls (startValue / 2 ^ calls)).status = false ∨
        (runfn calls (startValue / 2 ^ calls)).res ≤ expectedResult := by
  constructor
  · intro terminates
    by_contra allMiss
    push Not at allMiss
    refine BreakLoop.not_terminates_of_invariant
      (fun state => ∃ calls bracket,
        Halving startValue calls state bracket) ?_
      ⟨0, _, halving_start startPositive⟩ terminates
    rintro state ⟨calls, bracket, halving⟩
    obtain ⟨notFailed, missed⟩ := allMiss calls
    rw [← halving.measured_eq runfn] at notFailed missed
    exact ⟨_, searchBody_eq_next_iff.mpr ⟨by simpa using notFailed,
        mt halving.tracks.accurate_iff.mp (halving.wide small), rfl⟩,
      calls + 1, bracket.reject, halving.next (not_le_of_gt missed)⟩
  · rintro ⟨last, ends⟩
    exact Halving.terminates finite positive ends last
      (halving_start startPositive) (by omega)

/-- A system that drops one percent at every rate. -/
def alwaysDrops : RunFn := fun _ value => ⟨true, value, 1⟩

/-- Against it the search for half a percent never returns. -/
theorem alwaysDrops_not_terminates :
    FiniteCapacity alwaysDrops (1 / 2) 0 ∧
      ¬ Terminates alwaysDrops (1 / 2) (1 / 100) (searchStart 1000) := by
  have finite : FiniteCapacity alwaysDrops (1 / 2) 0 := by
    intro call value _
    right
    norm_num [alwaysDrops]
  refine ⟨finite, fun terminates => ?_⟩
  refine BreakLoop.not_terminates_of_invariant
    (fun state => ∃ calls bracket, Halving 1000 calls state bracket) ?_
    ⟨0, _, halving_start (by norm_num)⟩ terminates
  rintro state ⟨calls, bracket, halving⟩
  refine ⟨_, searchBody_eq_next_iff.mpr ⟨rfl,
      mt halving.tracks.accurate_iff.mp (halving.wide (by norm_num)), rfl⟩,
    calls + 1, bracket.reject, halving.next ?_⟩
  norm_num [measured, alwaysDrops]

/-- A system that is clean up to 700 messages per second. -/
def cleanToSevenHundred : RunFn := fun _ value =>
  ⟨true, value, if value ≤ 700 then 0 else 1⟩

theorem cleanToSevenHundred_terminates_iff :
    Terminates cleanToSevenHundred (1 / 2) (1 / 100) (searchStart 1000) ↔
      ∃ calls,
        (cleanToSevenHundred calls (1000 / 2 ^ calls)).status = false ∨
        (cleanToSevenHundred calls (1000 / 2 ^ calls)).res ≤ 1 / 2 := by
  have finite : FiniteCapacity cleanToSevenHundred (1 / 2) 700 := by
    intro call value above
    right
    simp only [cleanToSevenHundred, not_le_of_gt above, if_false]
    norm_num
  exact search_terminates_iff (by norm_num) (by norm_num) (by norm_num) finite

end Scanner

end MScale
