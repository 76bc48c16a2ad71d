import MScale.BoundaryCalls
import MScale.LabelledRuns

/-!
# The retry discipline of the boundary runner

`boundary_run` tests a further value on the applications that are launched, and
launches them anew after a failure.  This file describes the calls it makes on
the subclass, and determines the sequences of runs in which every rerun finds
the applications as a successful test left them.
-/

namespace MScale

namespace BoundaryRunnerBase

open StateErrors LabelledRuns

variable {Val Res Answer : Type}

/-- The most recent call was a test that succeeded. -/
def EndedWell (runner : Runner Val Res) (calls : List (TestCall Val)) : Prop :=
  ∃ earlier call, calls = earlier ++ [call] ∧ call.isTest = true ∧
    runner.Succeeds earlier call

/-- The applications may be tested again unless they are to be launched. -/
def Ready (runner : Runner Val Res) (state : State Val Res) : Prop :=
  state.boundaryFirstRun = false → EndedWell runner state.calls

/-- The next test is a rerun, but the last call was not a test that
succeeded. -/
def Stranded (runner : Runner Val Res) (state : State Val Res) : Prop :=
  state.boundaryFirstRun = false ∧ ¬ EndedWell runner state.calls

/-! ## All attempts of one value -/

section Attempts

variable {runner : Runner Val Res} {arg1 : Val} {state : State Val Res}

theorem not_endedWell_of_deletion (calls : List (TestCall Val)) :
    ¬ EndedWell runner (calls ++ [.deleteAllLaunchedApps]) := by
  rintro ⟨earlier, call, callsEq, isTest, _⟩
  have callEq : TestCall.deleteAllLaunchedApps = call :=
    (List.append_inj' callsEq rfl).2 |> List.singleton_inj.mp
  rw [← callEq] at isTest
  cases isTest

/-- The applications are deleted halfway, and the next test is a rerun. -/
structure Strands (runner : Runner Val Res) (arg1 : Val)
    (before : State Val Res) : Prop where
  launched : before.boundaryFirstRun = false
  failed : ¬ runner.Succeeds before.calls (nextTest arg1 before)
  kept : ¬ runner.Succeeds (before.calls ++ [nextTest arg1 before])
    .deleteAllLaunchedApps

/-- What the attempts leave behind.  Only the first of them may be a rerun. -/
structure Attempted (runner : Runner Val Res) (arg1 : Val) (retries : Nat)
    (before after : State Val Res) (rest : List (TestCall Val)) : Prop where
  calls : after.calls = before.calls ++ nextTest arg1 before :: rest
  launches : ∀ options, TestCall.rerunTest options ∉ rest
  retried : rest.countP TestCall.isTest ≤ retries
  results : after.boundaryRunResult = before.boundaryRunResult ∨
    after.boundaryRunResult = ∅
  ready : ¬ Strands runner arg1 before → Ready runner after
  stranded : Strands runner arg1 before → Stranded runner after

theorem attempted_of_ok {res : Res} (retries : Nat)
    (succeeded : (nextReply runner arg1 state).outcome = .ok res) :
    Attempted runner arg1 retries state
      { tested runner arg1 state with boundaryFirstRun := false } [] where
  calls := tested_calls
  launches := by simp
  retried := by simp
  results := tested_results
  ready _ _ := ⟨state.calls, nextTest arg1 state, tested_calls,
    isTest_nextTest, succeeds_nextTest_iff.mpr ⟨res, succeeded⟩⟩
  stranded strands :=
    (strands.failed (succeeds_nextTest_iff.mpr ⟨res, succeeded⟩)).elim

theorem attempted_of_kept {error : PyError} (retries : Nat)
    (failed : (nextReply runner arg1 state).outcome = .error error)
    (kept : ¬ runner.Succeeds (tested runner arg1 state).calls
      .deleteAllLaunchedApps) :
    Attempted runner arg1 retries state
      (afterDeletion (tested runner arg1 state)) [.deleteAllLaunchedApps] where
  calls := by simp [afterDeletion]
  launches := by simp
  retried := by simp [TestCall.isTest]
  results := tested_results
  ready spared launched := by
    have launchedBefore : state.boundaryFirstRun = false := by
      rw [← launched]
      simp [afterDeletion]
    rw [tested_calls] at kept
    exact (spared ⟨launchedBefore, not_succeeds_of_error failed, kept⟩).elim
  stranded strands := by
    refine ⟨?_, not_endedWell_of_deletion _⟩
    rw [← strands.launched]
    simp [afterDeletion]

theorem attempted_of_deleted
    (deleted : runner.Succeeds (tested runner arg1 state).calls
      .deleteAllLaunchedApps) :
    Attempted runner arg1 0 state (cleaned runner arg1 state)
      [.deleteAllLaunchedApps] where
  calls := cleaned_calls
  launches := by simp
  retried := by simp [TestCall.isTest]
  results := tested_results
  ready _ launched := by cases launched
  stranded strands := by
    rw [tested_calls] at deleted
    exact (strands.kept deleted).elim

/-- After a clean-up the applications are launched anew. -/
theorem Attempted.retry {retries : Nat} {after : State Val Res}
    {rest : List (TestCall Val)}
    (deleted : runner.Succeeds (tested runner arg1 state).calls
      .deleteAllLaunchedApps)
    (attempted : Attempted runner arg1 retries (cleaned runner arg1 state) after
      rest) :
    Attempted runner arg1 (retries + 1) state after
      (.deleteAllLaunchedApps :: nextTest arg1 (cleaned runner arg1 state) ::
        rest) where
  calls := by
    rw [attempted.calls, cleaned_calls, List.append_assoc]
    rfl
  launches options member := by
    rw [nextTest_of_firstRun rfl] at member
    simp only [List.mem_cons, reduceCtorEq, false_or] at member
    exact attempted.launches options member
  retried := by
    have retried := attempted.retried
    have notTest :
        (TestCall.deleteAllLaunchedApps : TestCall Val).isTest = false := rfl
    simp only [List.countP_cons, isTest_nextTest, notTest, if_true,
      Bool.false_eq_true, if_false]
    omega
  results := by
    rcases attempted.results with same | empty
    · rw [same]
      exact tested_results
    · exact Or.inr empty
  ready _ := by
    apply attempted.ready
    intro strands
    cases strands.launched
  stranded strands := by
    rw [tested_calls] at deleted
    exact (strands.kept deleted).elim

/-- The attempts on a value, in any state: by induction on the retries left. -/
theorem attempts_attempted (runner : Runner Val Res) (arg1 : Val)
    (retries : Nat) (state : State Val Res) :
    ∃ rest, Attempted runner arg1 retries state
      (stateAfter (attempts runner arg1 retries state)) rest := by
  induction retries generalizing state with
  | zero =>
      cases ended : (nextReply runner arg1 state).outcome with
      | ok res =>
          rw [attempts_of_ok 0 ended]
          exact ⟨_, attempted_of_ok 0 ended⟩
      | error error =>
          by_cases deleted : runner.Succeeds (tested runner arg1 state).calls
            .deleteAllLaunchedApps
          · rw [attempts_zero_of_deleted ended deleted]
            exact ⟨_, attempted_of_deleted deleted⟩
          · obtain ⟨raised, stopped⟩ := attempts_of_kept 0 ended deleted
            rw [stopped]
            exact ⟨_, attempted_of_kept 0 ended deleted⟩
  | succ retries ih =>
      cases ended : (nextReply runner arg1 state).outcome with
      | ok res =>
          rw [attempts_of_ok (retries + 1) ended]
          exact ⟨_, attempted_of_ok (retries + 1) ended⟩
      | error error =>
          by_cases deleted : runner.Succeeds (tested runner arg1 state).calls
            .deleteAllLaunchedApps
          · rw [attempts_succ_of_deleted retries ended deleted]
            obtain ⟨rest, attempted⟩ := ih (cleaned runner arg1 state)
            exact ⟨_, attempted.retry deleted⟩
          · obtain ⟨raised, stopped⟩ :=
              attempts_of_kept (retries + 1) ended deleted
            rw [stopped]
            exact ⟨_, attempted_of_kept (retries + 1) ended deleted⟩

theorem strands_setArg1_iff :
    Strands runner arg1 (setArg1 arg1 state) ↔ Strands runner arg1 state := by
  by_cases launched : state.boundaryFirstRun = false
  · have next : nextTest arg1 (setArg1 arg1 state) = nextTest arg1 state := by
      have set : toTest arg1 state = setArg1 arg1 state := by
        simp [toTest, launched]
      unfold nextTest
      rw [toTest_setArg1, set]
      rfl
    constructor
    · intro strands
      exact ⟨launched, next ▸ strands.failed, next ▸ strands.kept⟩
    · intro strands
      refine ⟨launched, ?_, ?_⟩
      · rw [next]
        exact strands.failed
      · rw [next]
        exact strands.kept
  · exact iff_of_false (fun strands => launched strands.launched)
      (fun strands => launched strands.launched)

/-- A rerun can only be the first of the attempts. -/
theorem Attempted.endedWell {before after : State Val Res} {rest : List (TestCall Val)}
    (attempted : Attempted runner arg1 4 before after rest)
    (ready : Ready runner before) {earlier later : List (TestCall Val)}
    {options : Options Val}
    (rerun : after.calls =
      before.calls ++ earlier ++ .rerunTest options :: later) :
    EndedWell runner (before.calls ++ earlier) := by
  rw [attempted.calls, List.append_assoc, List.append_cancel_left_eq] at rerun
  cases earlier with
  | nil =>
      have launched : before.boundaryFirstRun = false := by
        cases first : before.boundaryFirstRun with
        | false => rfl
        | true =>
            rw [nextTest_of_firstRun first] at rerun
            cases (List.cons.inj rerun).1
      rw [List.append_nil]
      exact ready launched
  | cons call earlier =>
      have member : TestCall.rerunTest options ∈ rest := by
        rw [(List.cons.inj rerun).2]
        simp
      exact (attempted.launches options member).elim

end Attempts

/-! ## Runs of `boundary_run` -/

section Runs

variable [DecidableEq Val] {runner : Runner Val Res}
  {resfn : Options Val → Res → Answer} {arg1 : Val}
  {before after : State Val Res}

/-- A call of `boundary_run`, which returns or raises. -/
def BoundaryStep (runner : Runner Val Res) (resfn : Options Val → Res → Answer)
    (before : State Val Res) (arg1 : Val) (after : State Val Res) : Prop :=
  after = stateAfter (boundaryRun runner resfn arg1 before)

/-- Every rerun follows a test that succeeded, at most five attempts are made,
and a value whose run raises is not remembered. -/
structure KeepsDiscipline (runner : Runner Val Res)
    (resfn : Options Val → Res → Answer) (before : State Val Res) (arg1 : Val)
    (after : State Val Res) : Prop where
  reruns : ∀ earlier options later,
    after.calls = before.calls ++ earlier ++ .rerunTest options :: later →
      EndedWell runner (before.calls ++ earlier)
  attempts : ∃ made, after.calls = before.calls ++ made ∧
    made.countP TestCall.isTest ≤ 5
  forgets : ∀ error, boundaryRun runner resfn arg1 before = .error error after →
    arg1 ∉ after.boundaryRunResult

/-- The value has to be measured by a rerun, the rerun fails, and the deletion
of the applications in the clean-up raises. -/
def StrandsApps (runner : Runner Val Res) (before : State Val Res)
    (arg1 : Val) : Prop :=
  arg1 ∉ before.boundaryRunResult ∧ Strands runner arg1 before

/-- A run of a value that is not remembered. -/
theorem BoundaryStep.attempted (step : BoundaryStep runner resfn before arg1 after)
    (unknown : arg1 ∉ before.boundaryRunResult) :
    ∃ measured rest, Attempted runner arg1 4 (setArg1 arg1 before) measured rest ∧
      after.calls = measured.calls ∧
      after.boundaryFirstRun = measured.boundaryFirstRun ∧
      ∀ error, boundaryRun runner resfn arg1 before = .error error after →
        after = measured := by
  obtain ⟨rest, attempted⟩ :=
    attempts_attempted runner arg1 4 (setArg1 arg1 before)
  refine ⟨_, rest, attempted, ?_⟩
  rw [step, boundaryRun_measured unknown]
  cases ended : attempts runner arg1 4 (setArg1 arg1 before) with
  | ok res state =>
      refine ⟨rfl, rfl, ?_⟩
      intro error raised
      cases raised
  | error error state => exact ⟨rfl, rfl, fun _ _ => rfl⟩

/-- A remembered value makes no calls. -/
theorem BoundaryStep.eq_of_remembered
    (step : BoundaryStep runner resfn before arg1 after)
    (known : arg1 ∈ before.boundaryRunResult) : after = before := by
  obtain ⟨res, _, returned⟩ :=
    boundaryRun_remembered runner resfn known
  rw [step, returned]
  rfl

theorem keepsDiscipline_of_remembered
    (step : BoundaryStep runner resfn before arg1 after)
    (known : arg1 ∈ before.boundaryRunResult) :
    KeepsDiscipline runner resfn before arg1 after := by
  have same := step.eq_of_remembered known
  refine ⟨?_, ⟨[], by simp [same], by simp⟩, ?_⟩
  · intro earlier options later rerun
    rw [same, List.append_assoc, List.self_eq_append_right] at rerun
    simp at rerun
  · intro error raised
    obtain ⟨res, _, returned⟩ :=
      boundaryRun_remembered runner resfn known
    rw [returned] at raised
    cases raised

theorem BoundaryStep.keepsDiscipline
    (step : BoundaryStep runner resfn before arg1 after)
    (ready : Ready runner before) :
    KeepsDiscipline runner resfn before arg1 after := by
  by_cases known : arg1 ∈ before.boundaryRunResult
  · exact keepsDiscipline_of_remembered step known
  · obtain ⟨measured, rest, attempted, callsEq, _, raisedEq⟩ :=
      step.attempted known
    refine ⟨?_, ⟨_, callsEq.trans attempted.calls, ?_⟩, ?_⟩
    · intro earlier options later rerun
      rw [callsEq] at rerun
      exact attempted.endedWell ready rerun
    · have retried := attempted.retried
      simp only [List.countP_cons, isTest_nextTest, if_true]
      omega
    · intro error raised
      rw [raisedEq error raised]
      rcases attempted.results with same | empty
      · rw [same]
        exact known
      · rw [empty]
        exact AList.notMem_empty arg1

/-- A run leaves the applications ready unless it strands them. -/
theorem BoundaryStep.ready (step : BoundaryStep runner resfn before arg1 after)
    (ready : Ready runner before) (spared : ¬ StrandsApps runner before arg1) :
    Ready runner after := by
  by_cases known : arg1 ∈ before.boundaryRunResult
  · rw [step.eq_of_remembered known]
    exact ready
  · obtain ⟨measured, rest, attempted, callsEq, firstEq, _⟩ :=
      step.attempted known
    have readyMeasured : Ready runner measured := by
      apply attempted.ready
      rw [strands_setArg1_iff]
      exact fun strands => spared ⟨known, strands⟩
    intro launched
    rw [callsEq]
    exact readyMeasured (firstEq ▸ launched)

theorem BoundaryStep.stranded
    (step : BoundaryStep runner resfn before arg1 after)
    (strands : StrandsApps runner before arg1) : Stranded runner after := by
  obtain ⟨measured, rest, attempted, callsEq, firstEq, _⟩ :=
    step.attempted strands.1
  have strandedMeasured :=
    attempted.stranded (strands_setArg1_iff.mpr strands.2)
  refine ⟨firstEq.trans strandedMeasured.1, ?_⟩
  rw [callsEq]
  exact strandedMeasured.2

/-- On stranded applications only remembered values keep the discipline. -/
theorem Stranded.keepsDiscipline_iff (stranded : Stranded runner before)
    (step : BoundaryStep runner resfn before arg1 after) :
    KeepsDiscipline runner resfn before arg1 after ↔
      arg1 ∈ before.boundaryRunResult := by
  refine ⟨?_, keepsDiscipline_of_remembered step⟩
  intro keeps
  by_contra unknown
  obtain ⟨measured, rest, attempted, callsEq, _⟩ := step.attempted unknown
  have launched : (setArg1 arg1 before).boundaryFirstRun = false := stranded.1
  have next : nextTest arg1 (setArg1 arg1 before) =
      .rerunTest (toTest arg1 (setArg1 arg1 before)).boundaryOptions := by
    simp [nextTest, launched]
  have endedWell := keeps.reruns [] _ rest (by
    rw [callsEq, attempted.calls, next, List.append_nil]
    rfl)
  rw [List.append_nil] at endedWell
  exact stranded.2 endedWell

variable {start final : State Val Res} {steps : List (Step (State Val Res) Val)}

/-- From the first run on, every run keeps the retry discipline exactly if,
once a run strands the applications, only remembered values are run. -/
theorem retryDiscipline_throughout_iff (first : start.boundaryFirstRun = true)
    (run : Run (BoundaryStep runner resfn) start steps final) :
    (∀ step ∈ steps,
      KeepsDiscipline runner resfn step.before step.label step.after) ↔
    steps.Pairwise fun step later => StrandsApps runner step.before step.label →
      later.label ∈ later.before.boundaryRunResult := by
  have ready : Ready runner start := by
    intro launched
    rw [first] at launched
    cases launched
  have good (before : State Val Res) (arg1 : Val) (after : State Val Res)
      (ready : Ready runner before)
      (taken : BoundaryStep runner resfn before arg1 after) :
      KeepsDiscipline runner resfn before arg1 after ∧
        (¬ StrandsApps runner before arg1 → Ready runner after) ∧
        (StrandsApps runner before arg1 → Stranded runner after) :=
    ⟨BoundaryStep.keepsDiscipline taken ready,
      BoundaryStep.ready taken ready, BoundaryStep.stranded taken⟩
  have bad (before : State Val Res) (arg1 : Val) (after : State Val Res)
      (stranded : Stranded runner before)
      (taken : BoundaryStep runner resfn before arg1 after) :
      (KeepsDiscipline runner resfn before arg1 after ↔
          arg1 ∈ before.boundaryRunResult) ∧
        (arg1 ∈ before.boundaryRunResult → Stranded runner after) := by
    refine ⟨stranded.keepsDiscipline_iff taken, ?_⟩
    intro known
    rw [BoundaryStep.eq_of_remembered taken known]
    exact stranded
  exact @Run.forall_iff_pairwise _ _ _ (Ready runner) (Stranded runner)
    (fun step => KeepsDiscipline runner resfn step.before step.label step.after)
    (StrandsApps runner) (fun before arg1 => arg1 ∈ before.boundaryRunResult)
    _ _ _ good bad run ready

/-- Every run of every test keeps the retry discipline. -/
def RetryDiscipline : Prop :=
  ∀ (Val Res Answer : Type) [DecidableEq Val] (runner : Runner Val Res)
    (resfn : Options Val → Res → Answer) (start final : State Val Res)
    (steps : List (Step (State Val Res) Val)),
    start.boundaryFirstRun = true →
    Run (BoundaryStep runner resfn) start steps final →
    ∀ step ∈ steps,
      KeepsDiscipline runner resfn step.before step.label step.after

/-- The first test succeeds; after that the publisher does not answer, and
Marathon cannot be reached when the applications are to be deleted. -/
def lostMarathon : Runner Nat Nat where
  runTest _ _ := ⟨true, .ok 0⟩
  rerunTest _ _ := ⟨false, .error .assertionError⟩
  deleteAllLaunchedApps _ := .error (.exception "timed out")

def firstRates : State Nat Nat where
  boundaryOptions := fun _ => 0
  boundaryArg1name := "msg_rate"
  boundaryRunResult := ∅
  boundaryFirstRun := true
  calls := []

def runRate (state : State Nat Nat) (rate : Nat) : State Nat Nat :=
  stateAfter (boundaryRun lostMarathon (fun _ res => res) rate state)

/-- The second rate strands the applications, and the third is run on them. -/
def strandedRates : List (Step (State Nat Nat) Nat) :=
  [⟨firstRates, 100, runRate firstRates 100⟩,
    ⟨runRate firstRates 100, 200, runRate (runRate firstRates 100) 200⟩,
    ⟨runRate (runRate firstRates 100) 200, 300,
      runRate (runRate (runRate firstRates 100) 200) 300⟩]

theorem strandedRates_run :
    Run (BoundaryStep lostMarathon fun _ res => res) firstRates strandedRates
      (runRate (runRate (runRate firstRates 100) 200) 300) :=
  .next rfl (.next rfl (.next rfl .stop))

theorem strandedRates_retryDiscipline_iff :
    (∀ step ∈ strandedRates,
      KeepsDiscipline lostMarathon (fun _ res => res) step.before step.label
        step.after) ↔
    strandedRates.Pairwise fun step later =>
      StrandsApps lostMarathon step.before step.label →
        later.label ∈ later.before.boundaryRunResult :=
  retryDiscipline_throughout_iff rfl strandedRates_run

/-- A rerun is started right after the deletion of the applications failed. -/
theorem strandedRates_breaks_discipline : ¬ RetryDiscipline := by
  intro discipline
  have keeps := discipline Nat Nat Nat lostMarathon (fun _ res => res) _ _ _ rfl
    strandedRates_run
  have third := keeps _ (List.mem_cons_of_mem _ (List.mem_cons_of_mem _
    (List.mem_singleton_self _)))
  have endedWell := third.reruns [] _ [.deleteAllLaunchedApps] rfl
  exact not_endedWell_of_deletion [.runTest _, .rerunTest _] endedWell

end Runs

end BoundaryRunnerBase

end MScale
