import MScale.ScannerTermination

/-!
# The boundary search against a threshold

When a value meets the target exactly below some threshold, the bracket behind
the loop state encloses the threshold, so the largest value that met the
target is the lower end of the last bracket.  With the two-valued responder of
the unit tests the kept pair follows that lower end.
-/

namespace MScale

namespace Scanner

variable {runfn : RunFn} {expectedResult errorPercentage threshold : ℚ}
variable {state : SearchState} {bracket : Bracket ℚ}

/-- Every test succeeds, and it meets the target exactly below the
threshold. -/
structure ThresholdResponder (runfn : RunFn)
    (expectedResult threshold : ℚ) : Prop where
  succeeds : ∀ call value, 0 < value → (runfn call value).status = true
  meets_iff : ∀ call value, 0 < value →
    ((runfn call value).res ≤ expectedResult ↔ value < threshold)

/-- The probed values that met the target, in order. -/
def metValues (runfn : RunFn) (expectedResult : ℚ)
    (visited : List SearchState) : List ℚ :=
  (visited.filter fun state =>
    (measured runfn state).res ≤ expectedResult).map SearchState.value

@[simp]
theorem metValues_nil : metValues runfn expectedResult [] = [] :=
  rfl

theorem metValues_cons (visited : List SearchState) :
    metValues runfn expectedResult (state :: visited) =
      (if (measured runfn state).res ≤ expectedResult then [state.value]
        else []) ++ metValues runfn expectedResult visited := by
  by_cases met : (measured runfn state).res ≤ expectedResult <;>
    simp [metValues, met]

theorem ThresholdResponder.finiteCapacity
    (responder : ThresholdResponder runfn expectedResult threshold)
    (positive : 0 < threshold) :
    FiniteCapacity runfn expectedResult threshold := by
  intro call value above
  right
  refine lt_of_not_ge fun met => ?_
  have below := (responder.meets_iff call value
    (lt_trans positive above)).mp met
  exact lt_asymm above below

theorem ThresholdResponder.terminates {startValue : ℚ}
    (responder : ThresholdResponder runfn expectedResult threshold)
    (thresholdPositive : 0 < threshold) (startPositive : 0 < startValue)
    (positive : 0 < errorPercentage) (small : errorPercentage ≤ 1 / 2) :
    Terminates runfn expectedResult errorPercentage
      (searchStart startValue) := by
  rw [search_terminates_iff startPositive positive small
    (responder.finiteCapacity thresholdPositive)]
  obtain ⟨rounds, enough⟩ :=
    Bracket.exists_lt_two_pow_mul startValue thresholdPositive
  have scalePositive : (0 : ℚ) < 2 ^ rounds := by positivity
  refine ⟨rounds, Or.inr ((responder.meets_iff _ _
    (div_pos startPositive scalePositive)).mpr ?_)⟩
  rw [div_lt_iff₀ scalePositive]
  linarith

/-- A test answers correctly for the bracket it probes. -/
theorem ThresholdResponder.correct
    (responder : ThresholdResponder runfn expectedResult threshold)
    (tracks : Tracks state bracket) :
    decide ((measured runfn state).res ≤ expectedResult) = true ↔
      bracket.probe < threshold := by
  have probed : 0 < state.value := tracks.value_eq ▸ bracket.probe_pos
  rw [decide_eq_true_eq, ← tracks.value_eq]
  exact responder.meets_iff state.cnt state.value probed

theorem ThresholdResponder.measured_status
    (responder : ThresholdResponder runfn expectedResult threshold)
    (tracks : Tracks state bracket) :
    (measured runfn state).status = true :=
  responder.succeeds state.cnt state.value
    (tracks.value_eq ▸ bracket.probe_pos)

/-- What is known of the lower end `lo` reached at the end of a run from
`bracket`: it is close to the threshold, no value that met the target is
above it, and unless nothing met the target it is one of those values. -/
structure Reached (errorPercentage threshold : ℚ) (met : List ℚ)
    (bracket : Bracket ℚ) (lo : ℚ) : Prop where
  close : (1 - errorPercentage) * threshold < lo
  below : lo < threshold
  from_le : bracket.lo ≤ lo
  maximal : ∀ value ∈ met, value ≤ lo
  mem_or_eq : lo ∈ met ∨ lo = bracket.lo

/-- One more round in front of a run. -/
theorem Reached.cons {met : List ℚ} {accepted : Bool} {lo : ℚ}
    (reached : Reached errorPercentage threshold met
      (bracket.answer accepted) lo) :
    Reached errorPercentage threshold
      ((if accepted = true then [bracket.probe] else []) ++ met)
      bracket lo where
  close := reached.close
  below := reached.below
  from_le := le_trans (bracket.lo_le_answer_lo accepted) reached.from_le
  maximal := by
    intro value member
    cases accepted with
    | false => exact reached.maximal value (by simpa using member)
    | true =>
        have probeLe : bracket.probe ≤ lo := by
          simpa using reached.from_le
        rcases List.mem_append.mp member with probed | later
        · have valueEq : value = bracket.probe := by simpa using probed
          exact valueEq ▸ probeLe
        · exact reached.maximal value later
  mem_or_eq := by
    cases accepted with
    | false => simpa using reached.mem_or_eq
    | true =>
        rcases reached.mem_or_eq with member | equal
        · exact Or.inl (by simp [member])
        · exact Or.inl (by simpa using Or.inl equal)

/-- The two-valued responder of the unit tests: nothing is dropped below the
threshold, a fixed amount from it on, and the rate is the probed value. -/
def MocGen (threshold excess : ℚ) : RunFn := fun _ value =>
  ⟨true, value, if value < threshold then 0 else excess⟩

/-- Against the two-valued responder the kept pair is the lower end of the
bracket, once there is one. -/
structure KeepsLo (excess : ℚ) (best : ℚ × ℚ) (bracket : Bracket ℚ) :
    Prop where
  of_pos : 0 < bracket.lo → best = (0, bracket.lo)
  of_zero : bracket.lo = 0 → best.1 = -1 ∨ best.1 = excess

theorem KeepsLo.answer {excess : ℚ} {best : ℚ × ℚ}
    (positive : 0 < excess) (keeps : KeepsLo excess best bracket)
    (accepted : Bool) :
    KeepsLo excess
      (nextBest 0 best
        ⟨true, bracket.probe, if accepted = true then 0 else excess⟩)
      (bracket.answer accepted) := by
  have probePositive := bracket.probe_pos
  have ordered := bracket.lo_lt_probe
  cases accepted with
  | true =>
      have takes : TakesBest 0 best.1 best.2 ⟨true, bracket.probe, 0⟩ := by
        rcases eq_or_lt_of_le bracket.lo_nonneg with zero | loPositive
        · rcases keeps.of_zero zero.symm with first | rejected
          · exact Or.inl first
          · right; left
            simp [Displaces, rejected, positive.ne']
        · right; right
          rw [keeps.of_pos loPositive]
          exact ⟨rfl, ordered⟩
      constructor
      · intro _
        simp [nextBest, takes]
      · intro zero
        simp only [Bracket.answer_true, Bracket.accept_lo] at zero
        exact absurd zero probePositive.ne'
  | false =>
      have undisplaced : ¬ Displaces 0 0 excess := by
        simp [Displaces]
      constructor
      · intro loPositive
        rw [keeps.of_pos (by simpa using loPositive)]
        have keepsZero : ¬ TakesBest 0 0 bracket.lo
            ⟨true, bracket.probe, excess⟩ := by
          rintro (sentinel | displaces | ⟨same, _⟩)
          · norm_num at sentinel
          · exact undisplaced displaces
          · exact positive.ne' same
        simp [nextBest, keepsZero]
      · intro zero
        right
        by_cases takes : TakesBest 0 best.1 best.2
            ⟨true, bracket.probe, excess⟩
        · simp [nextBest, takes]
        · rcases keeps.of_zero (by simpa using zero) with first | rejected
          · exact absurd (Or.inl first) takes
          · simpa [nextBest, takes] using rejected

/-- The generator's answer to the next probe. -/
theorem measured_of_mocGen {bracket : Bracket ℚ} (tracks : Tracks state bracket)
    {excess : ℚ} (excessPositive : 0 < excess) (zero : expectedResult = 0)
    (generated : ∀ call value, 0 < value →
      runfn call value = MocGen threshold excess call value) :
    measured runfn state = ⟨true, bracket.probe,
      if decide ((measured runfn state).res ≤ expectedResult) = true
        then 0 else excess⟩ := by
  have answered := generated state.cnt state.value
    (tracks.value_eq ▸ bracket.probe_pos)
  rw [measured, answered, MocGen, ← tracks.value_eq, zero]
  by_cases below : state.value < threshold
  · simp [below]
  · simp [below, excessPositive]

/-- The next probe is among the values that met the target if it did. -/
theorem metValues_cons_of_tracks {bracket : Bracket ℚ}
    (tracks : Tracks state bracket) (visited : List SearchState) :
    metValues runfn expectedResult (state :: visited) =
      (if decide ((measured runfn state).res ≤ expectedResult) = true
        then [bracket.probe] else []) ++
        metValues runfn expectedResult visited := by
  rw [metValues_cons, tracks.value_eq]
  simp

theorem ThresholdResponder.reached_of_run
    (responder : ThresholdResponder runfn expectedResult threshold)
    (positive : 0 < errorPercentage) (small : errorPercentage ≤ 1 / 2)
    {visited : List SearchState} {exit : SearchExit}
    (finite : SearchRun runfn expectedResult errorPercentage state visited
      exit) :
    ∀ {bracket : Bracket ℚ}, Tracks state bracket →
      bracket.Encloses threshold →
      exit.status = true ∧
      ∃ lo, Reached errorPercentage threshold
          (metValues runfn expectedResult visited) bracket lo ∧
        ∀ excess, 0 < excess → expectedResult = 0 →
          (∀ call value, 0 < value →
            runfn call value = MocGen threshold excess call value) →
          KeepsLo excess (state.bestRes, state.bestRate) bracket →
          0 < lo → (exit.bestRes, exit.bestRate) = (0, lo) := by
  -- Both parts follow the run backwards; the kept pair is carried forwards.
  induction finite with
  | @stop state exit broke =>
      intro bracket tracks encloses
      have succeeded := responder.measured_status tracks
      have correct := responder.correct tracks
      by_cases accurate : |state.lastIncrease| < state.value * errorPercentage
      · rw [searchBody_of_accurate succeeded accurate, Sum.inl.injEq] at broke
        subst broke
        let accepted := decide ((measured runfn state).res ≤ expectedResult)
        have close := encloses.accurate positive small
          (tracks.accurate_iff.mp accurate) correct
        have still := encloses.answer correct
        refine ⟨rfl, (bracket.answer accepted).lo, ?_, ?_⟩
        · rw [metValues_cons_of_tracks tracks []]
          exact Reached.cons ⟨close, still.1, le_refl _, by simp, Or.inr rfl⟩
        · intro excess excessPositive zero generated keeps loPositive
          have kept := (keeps.answer excessPositive accepted).of_pos loPositive
          have answered :=
            measured_of_mocGen tracks excessPositive zero generated
          subst zero
          rw [← kept, ← answered]
      · rw [searchBody_of_continuing succeeded accurate] at broke
        cases broke
  | @next state later visited exit continued rest ih =>
      intro bracket tracks encloses
      obtain ⟨_, _, rfl⟩ := searchBody_eq_next_iff.mp continued
      have correct := responder.correct tracks
      obtain ⟨passed, lo, reached, keepsOn⟩ :=
        ih (tracks.advance expectedResult _) (encloses.answer correct)
      refine ⟨passed, lo, ?_, ?_⟩
      · rw [metValues_cons_of_tracks tracks visited]
        exact reached.cons
      · intro excess excessPositive zero generated keeps loPositive
        have answered := measured_of_mocGen tracks excessPositive zero generated
        refine keepsOn excess excessPositive zero generated ?_ loPositive
        have kept := keeps.answer excessPositive
          (decide ((measured runfn state).res ≤ expectedResult))
        rw [← answered] at kept
        subst zero
        exact kept

/-- Against a threshold the search ends; the largest value that met the target
misses the threshold by less than the fraction `errorPercentage`, and with the
generator of the unit tests it is the returned rate. -/
theorem search_threshold {startValue : ℚ} (startPositive : 0 < startValue)
    (positive : 0 < errorPercentage) (small : errorPercentage ≤ 1 / 2)
    (thresholdPositive : 0 < threshold)
    (responder : ThresholdResponder runfn expectedResult threshold) :
    ∃ visited exit,
      SearchRun runfn expectedResult errorPercentage (searchStart startValue)
        visited exit ∧
      ∃ lo ∈ metValues runfn expectedResult visited,
        (∀ value ∈ metValues runfn expectedResult visited, value ≤ lo) ∧
        (1 - errorPercentage) * threshold < lo ∧ lo < threshold ∧
        ∀ excess, 0 < excess → expectedResult = 0 →
          (∀ call value, 0 < value →
            runfn call value = MocGen threshold excess call value) →
          ∃ stepCnt, exit.result = ⟨true, stepCnt, 0, lo⟩ := by
  obtain ⟨visited, exit, finite⟩ :=
    responder.terminates thresholdPositive startPositive positive small
  obtain ⟨passed, lo, reached, keepsLo⟩ :=
    responder.reached_of_run positive small finite
      (tracks_start startPositive)
      (Bracket.start_encloses startPositive thresholdPositive)
  have loPositive : 0 < lo :=
    lt_trans (mul_pos (by linarith) thresholdPositive) reached.close
  have member : lo ∈ metValues runfn expectedResult visited := by
    rcases reached.mem_or_eq with member | atStart
    · exact member
    · exact absurd atStart loPositive.ne'
  refine ⟨visited, exit, finite, lo, member, reached.maximal, reached.close,
    reached.below, ?_⟩
  intro excess excessPositive zero generated
  have best := keepsLo excess excessPositive zero generated
    ⟨fun positive => absurd positive (lt_irrefl 0), fun _ => Or.inl rfl⟩
    loPositive
  rw [Prod.mk.injEq] at best
  refine ⟨exit.cnt, ?_⟩
  rw [SearchExit.result, passed, best.1, best.2]
  simp [truncate]

theorem mocGen_thresholdResponder {threshold excess : ℚ}
    (excessPositive : 0 < excess) :
    ThresholdResponder (MocGen threshold excess) 0 threshold where
  succeeds _ _ _ := rfl
  meets_iff _ value _ := by
    by_cases below : value < threshold
    · simp [MocGen, below]
    · simp [MocGen, below, excessPositive]

/-- The first unit test: the boundary 12345 searched from 1000. -/
theorem search_threshold_12345 :
    ∃ visited exit,
      SearchRun (MocGen 12345 1) 0 (1 / 10000) (searchStart 1000)
        visited exit ∧
      ∃ lo ∈ metValues (MocGen 12345 1) 0 visited,
        (∀ value ∈ metValues (MocGen 12345 1) 0 visited, value ≤ lo) ∧
        (1 - 1 / 10000) * 12345 < lo ∧ lo < 12345 ∧
        ∀ excess, 0 < excess → (0 : ℚ) = 0 →
          (∀ call value, 0 < value →
            MocGen 12345 1 call value = MocGen 12345 excess call value) →
          ∃ stepCnt, exit.result = ⟨true, stepCnt, 0, lo⟩ :=
  search_threshold (by norm_num) (by norm_num) (by norm_num) (by norm_num)
    (mocGen_thresholdResponder (by norm_num))

end Scanner

end MScale
