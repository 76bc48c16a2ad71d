import MScale.ScannerSearch
import Mathlib.Analysis.SpecialFunctions.Log.Base

/-!
# The boundary search against noisy responses

Nothing is assumed here about the responses but that every test succeeds: they
may contradict each other, as those of the random responders in the unit tests
do.  The bracket behind the loop state still keeps the probed value positive,
and once a probe met the target and another one missed it the stride halves
until it is below the accuracy that was asked for.
-/

namespace MScale

namespace Scanner

variable {runfn : RunFn} {expectedResult errorPercentage : ℚ}
variable {state : SearchState} {bracket : Bracket ℚ}

/-- Rounds of `search` that go on, from one loop state to a later one. -/
abbrev SearchPath (runfn : RunFn) (expectedResult errorPercentage : ℚ) :=
  BreakLoop.Path (searchBody runfn expectedResult errorPercentage)

/-- Some probe met the target. -/
def SomeMet (runfn : RunFn) (expectedResult : ℚ)
    (visited : List SearchState) : Prop :=
  ∃ state ∈ visited, (measured runfn state).res ≤ expectedResult

/-- Some probe exceeded the target. -/
def SomeExceeded (runfn : RunFn) (expectedResult : ℚ)
    (visited : List SearchState) : Prop :=
  ∃ state ∈ visited, expectedResult < (measured runfn state).res

/-- A loop state tracks a bracket that has seen the answers of the probes made
before. -/
def FollowsAnswers (runfn : RunFn) (expectedResult : ℚ)
    (visited : List SearchState) (state : SearchState) : Prop :=
  ∃ bracket accepted rejected, Tracks state bracket ∧
    bracket.Seen accepted rejected ∧
    (accepted = true ↔ SomeMet runfn expectedResult visited) ∧
    (rejected = true ↔ SomeExceeded runfn expectedResult visited)

theorem followsAnswers_start {startValue : ℚ} (positive : 0 < startValue) :
    FollowsAnswers runfn expectedResult [] (searchStart startValue) :=
  ⟨_, false, false, tracks_start positive, Bracket.start_seen positive,
    by simp [SomeMet], by simp [SomeExceeded]⟩

/-- A round that goes on adds one answer. -/
theorem FollowsAnswers.advance {visited : List SearchState}
    (follows : FollowsAnswers runfn expectedResult visited state) :
    FollowsAnswers runfn expectedResult (visited ++ [state])
      (advance expectedResult state (measured runfn state)) := by
  obtain ⟨bracket, accepted, rejected, tracks, seen, acceptedIff,
    rejectedIff⟩ := follows
  refine ⟨_, _, _, tracks.advance expectedResult (measured runfn state),
    seen.answer _, ?_, ?_⟩
  · rw [Bool.or_eq_true, decide_eq_true_eq, acceptedIff]
    simp [SomeMet, or_and_right, exists_or]
  · rw [Bool.or_eq_true, Bool.not_eq_true', decide_eq_false_iff_not, not_le,
      rejectedIff]
    simp [SomeExceeded, or_and_right, exists_or]

theorem SearchPath.followsAnswers {startValue : ℚ}
    (positive : 0 < startValue) {visited : List SearchState}
    (path : SearchPath runfn expectedResult errorPercentage
      (searchStart startValue) visited state) :
    FollowsAnswers runfn expectedResult visited state := by
  refine path.invariant (followsAnswers_start positive) ?_
  intro visited middle later follows continued
  obtain ⟨_, _, rfl⟩ := searchBody_eq_next_iff.mp continued
  exact follows.advance

/-- With both kinds of answers seen, `remaining` more probes are enough if they
halve the stride below the accuracy asked for. -/
theorem run_of_crossed
    (succeeds : ∀ call value, (runfn call value).status = true)
    (positive : 0 < errorPercentage) (remaining : Nat) :
    ∀ {state : SearchState} {bracket : Bracket ℚ} {base : ℚ} {rounds : Nat},
      Tracks state bracket → bracket.Crossed base rounds →
      1 / errorPercentage ≤ 2 ^ (rounds + 1 + remaining) →
      ∃ further exit,
        SearchRun runfn expectedResult errorPercentage state further exit ∧
        further.length ≤ remaining + 1 ∧ exit.status = true := by
  induction remaining with
  | zero =>
      intro state bracket base rounds tracks crossed enough
      have accurate := tracks.accurate_iff.mpr (crossed.narrow positive enough)
      exact ⟨[state], _, .stop (searchBody_of_accurate (succeeds _ _) accurate),
        by simp, rfl⟩
  | succ remaining ih =>
      intro state bracket base rounds tracks crossed enough
      by_cases accurate :
          |state.lastIncrease| < state.value * errorPercentage
      · exact ⟨[state], _,
          .stop (searchBody_of_accurate (succeeds _ _) accurate), by simp, rfl⟩
      · have next := tracks.advance expectedResult (measured runfn state)
        have nextEnough :
            1 / errorPercentage ≤ 2 ^ (rounds + 1 + 1 + remaining) := by
          rwa [Nat.add_right_comm _ 1 remaining]
        obtain ⟨further, exit, run, lengthLe, passed⟩ :=
          ih next (crossed.answer _) nextEnough
        exact ⟨state :: further, exit,
          .next (searchBody_of_continuing (succeeds _ _) accurate) run,
          by simpa using lengthLe, passed⟩

/-- The number of halvings the accuracy asks for. -/
theorem one_div_le_two_pow_ceil (positive : 0 < errorPercentage) :
    1 / errorPercentage ≤
      2 ^ ⌈Real.logb 2 ((1 / errorPercentage : ℚ) : ℝ)⌉₊ := by
  have inversePositive : (0 : ℝ) < ((1 / errorPercentage : ℚ) : ℝ) := by
    exact_mod_cast one_div_pos.mpr positive
  have enough := (Real.logb_le_iff_le_rpow one_lt_two inversePositive).mp
    (Nat.le_ceil (Real.logb 2 ((1 / errorPercentage : ℚ) : ℝ)))
  rw [Real.rpow_natCast] at enough
  exact_mod_cast enough

theorem one_le_ceil_logb (positive : 0 < errorPercentage)
    (small : errorPercentage ≤ 1 / 2) :
    1 ≤ ⌈Real.logb 2 ((1 / errorPercentage : ℚ) : ℝ)⌉₊ := by
  have twoLe : (2 : ℚ) ≤ 1 / errorPercentage := by
    rw [le_div_iff₀ positive]
    linarith
  rw [Nat.one_le_ceil_iff]
  exact Real.logb_pos one_lt_two (by exact_mod_cast one_lt_two.trans_le twoLe)

/-- However the probes answer, every probed value is positive, and from any
moment at which one has met the target and one has exceeded it at most
`⌈log₂ (1 / errorPercentage)⌉` further probes are made before `search`
returns. -/
theorem search_halts_after_crossing {startValue : ℚ}
    (startPositive : 0 < startValue) (positive : 0 < errorPercentage)
    (small : errorPercentage ≤ 1 / 2)
    (succeeds : ∀ call value, (runfn call value).status = true)
    {visited : List SearchState}
    (path : SearchPath runfn expectedResult errorPercentage
      (searchStart startValue) visited state) :
    0 < state.value ∧
      (SomeMet runfn expectedResult visited →
        SomeExceeded runfn expectedResult visited →
        ∃ further exit,
          SearchRun runfn expectedResult errorPercentage state further exit ∧
          further.length ≤
            ⌈Real.logb 2 ((1 / errorPercentage : ℚ) : ℝ)⌉₊ ∧
          exit.status = true) := by
  obtain ⟨bracket, accepted, rejected, tracks, seen, acceptedIff,
    rejectedIff⟩ := path.followsAnswers startPositive
  refine ⟨tracks.value_eq ▸ bracket.probe_pos, fun met exceeded => ?_⟩
  rw [acceptedIff.mpr met, rejectedIff.mpr exceeded] at seen
  obtain ⟨base, rounds, crossed⟩ := seen
  have enough := one_div_le_two_pow_ceil positive
  have atLeastOne := one_le_ceil_logb positive small
  obtain ⟨remaining, remainingEq⟩ := Nat.exists_eq_add_of_le' atLeastOne
  rw [remainingEq] at enough ⊢
  refine run_of_crossed succeeds positive remaining tracks crossed
    (enough.trans ?_)
  exact pow_le_pow_right₀ one_le_two (by omega)

/-- Every other test drops one percent, whatever the probed value. -/
def contradictory : RunFn := fun call value =>
  ⟨true, value, if call % 2 = 0 then 0 else 1⟩

/-- The loop state after some probes of this responder at a target of half a
percent. -/
def contradictoryState : Nat → SearchState
  | 0 => searchStart 1000
  | calls + 1 =>
      advance (1 / 2) (contradictoryState calls)
        (measured contradictory (contradictoryState calls))

theorem contradictory_halts_after_crossing :
    SomeMet contradictory (1 / 2)
        [contradictoryState 0, contradictoryState 1] ∧
      SomeExceeded contradictory (1 / 2)
        [contradictoryState 0, contradictoryState 1] ∧
      0 < (contradictoryState 2).value ∧
      (SomeMet contradictory (1 / 2)
          [contradictoryState 0, contradictoryState 1] →
        SomeExceeded contradictory (1 / 2)
          [contradictoryState 0, contradictoryState 1] →
        ∃ further exit,
          SearchRun contradictory (1 / 2) (1 / 100) (contradictoryState 2)
            further exit ∧
          further.length ≤ ⌈Real.logb 2 ((1 / (1 / 100) : ℚ) : ℝ)⌉₊ ∧
          exit.status = true) := by
  have path : SearchPath contradictory (1 / 2) (1 / 100) (searchStart 1000)
      [contradictoryState 0, contradictoryState 1] (contradictoryState 2) :=
    BreakLoop.Path.snoc (BreakLoop.Path.snoc .refl (by decide +kernel))
      (by decide +kernel)
  refine ⟨⟨contradictoryState 0, by simp, by decide +kernel⟩,
    ⟨contradictoryState 1, by simp, by decide +kernel⟩, ?_⟩
  exact search_halts_after_crossing (by norm_num) (by norm_num) (by norm_num)
    (fun _ _ => rfl) path

end Scanner

end MScale
