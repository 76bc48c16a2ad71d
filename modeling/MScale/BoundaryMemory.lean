import MScale.BoundaryCache
import MScale.BoundaryRetries
import MScale.OneSlotMemory

/-!
# What the real runners remember

The runners of the ZMQ and the Kafka test call `boundary_setup` whenever they
measure a value, so `boundary_run_result` forgets all earlier values.  This
file determines the sequences of runs in which no value is measured twice all
the same.
-/

namespace MScale

namespace BoundaryRunnerBase

open StateErrors LabelledRuns OneSlotMemory

variable {Val Res Answer : Type}

/-- What a real test does besides the set-up: it launches the applications,
measures the value on them, and deletes them. -/
structure TestParts (Val Res : Type) where
  launch : List (TestCall Val) → Options Val → Except PyError Unit
  measure : List (TestCall Val) → Options Val → Except PyError Res
  delete : List (TestCall Val) → Except PyError Unit

/-- The `rerun_test` of the real runners begins with `boundary_setup`. -/
def TestParts.rerunTest (parts : TestParts Val Res)
    (calls : List (TestCall Val)) (options : Options Val) : TestReply Res :=
  ⟨true, parts.measure calls options⟩

/-- Their `run_test` launches the applications and ends with `rerun_test`. -/
def TestParts.runTest (parts : TestParts Val Res)
    (calls : List (TestCall Val)) (options : Options Val) : TestReply Res :=
  match parts.launch calls options with
  | .ok _ => parts.rerunTest calls options
  | .error error => ⟨false, .error error⟩

def TestParts.runner (parts : TestParts Val Res) : Runner Val Res where
  runTest := parts.runTest
  rerunTest := parts.rerunTest
  deleteAllLaunchedApps := parts.delete

/-- `RunTestZMQ` as a subclass of `BoundaryRunnerBase`. -/
def RunTestZMQ (parts : TestParts Val Res) : Runner Val Res :=
  parts.runner

/-- `RunTestKAFKA` as a subclass of `BoundaryRunnerBase`. -/
def RunTestKAFKA (parts : TestParts Val Res) : Runner Val Res :=
  parts.runner

/-- A runner after its construction, which sets up the tuned option and may
run a test at once. -/
def constructed (options : Options Val) (runtest : Bool) : State Val Res :=
  { start options "msg_rate" true with
    calls := if runtest then [.runTest options] else [] }

/-- All tests called in a run succeed. -/
def TestsSucceed (runner : Runner Val Res) (before after : State Val Res) :
    Prop :=
  ∀ earlier call later,
    after.calls = before.calls ++ earlier ++ call :: later →
      call.isTest = true → runner.Succeeds (before.calls ++ earlier) call

/-- The value of the option that a test measures. -/
def TestCall.value (arg1name : String) : TestCall Val → Option Val
  | .runTest options => some (options arg1name)
  | .rerunTest options => some (options arg1name)
  | .deleteAllLaunchedApps => none

/-- `boundary_run_result` has the kept value as its only key. -/
structure Keeps (kept : Option Val) (state : State Val Res) : Prop where
  arg1name : state.boundaryArg1name = "msg_rate"
  known : ∀ value, value ∈ state.boundaryRunResult ↔ kept = some value

theorem value_nextTest (arg1 : Val) (state : State Val Res) :
    (nextTest arg1 (setArg1 arg1 state)).value state.boundaryArg1name =
      some arg1 := by
  have tuned : (toTest arg1 (setArg1 arg1 state)).boundaryOptions
      state.boundaryArg1name = arg1 := by
    rw [toTest_setArg1]
    simp [setArg1, setattr]
  unfold nextTest
  split
  · exact congrArg some tuned
  · exact congrArg some tuned

theorem TestParts.runTest_setsUp {parts : TestParts Val Res}
    {calls : List (TestCall Val)} {options : Options Val} {res : Res}
    (succeeded : (parts.runTest calls options).outcome = .ok res) :
    (parts.runTest calls options).setsUp = true := by
  unfold TestParts.runTest at succeeded ⊢
  split at succeeded
  · rfl
  · cases succeeded

/-- A test of the real runners that succeeds has set up again. -/
theorem TestParts.setsUp_of_ok {parts : TestParts Val Res} {arg1 : Val}
    {state : State Val Res} {res : Res}
    (succeeded : (nextReply parts.runner arg1 state).outcome = .ok res) :
    (nextReply parts.runner arg1 state).setsUp = true := by
  cases first : state.boundaryFirstRun with
  | true =>
      simp only [nextReply, first, if_true] at succeeded ⊢
      exact TestParts.runTest_setsUp succeeded
  | false =>
      simp only [nextReply, first, Bool.false_eq_true, if_false]
      rfl

theorem constructed_keeps (options : Options Val) (runtest : Bool) :
    Keeps none (constructed options runtest : State Val Res) := by
  refine ⟨rfl, ?_⟩
  intro value
  exact iff_of_false (AList.notMem_empty value) (by simp)

section Step

variable [DecidableEq Val] {parts : TestParts Val Res}
  {resfn : Options Val → Res → Answer} {before after : State Val Res}
  {kept : Option Val} {arg1 : Val}

/-- Measuring a value forgets the value kept before. -/
theorem Keeps.measures (keeps : Keeps kept before)
    (unknown : kept ≠ some arg1)
    (step : BoundaryStep parts.runner resfn before arg1 after)
    (succeed : TestsSucceed parts.runner before after) :
    Keeps (some arg1) after ∧ ∃ call : TestCall Val,
      after.calls = before.calls ++ [call] ∧
      call.value "msg_rate" = some arg1 := by
  have forgotten : arg1 ∉ before.boundaryRunResult := by
    rw [keeps.known]
    exact unknown
  obtain ⟨measured, rest, attempted, callsEq, _⟩ := step.attempted forgotten
  have succeeds : parts.runner.Succeeds before.calls
      (nextTest arg1 (setArg1 arg1 before)) := by
    have succeeds := succeed [] _ rest
      (by rw [callsEq, attempted.calls, List.append_nil]; rfl) isTest_nextTest
    rw [List.append_nil] at succeeds
    exact succeeds
  obtain ⟨res, ended⟩ := succeeds_nextTest_iff.mp succeeds
  have setsUp := TestParts.setsUp_of_ok ended
  have afterEq : after = measuredState parts.runner arg1 res before := by
    rw [step, boundaryRun_of_ok forgotten ended]
    rfl
  rw [afterEq]
  refine ⟨⟨?_, ?_⟩, nextTest arg1 (setArg1 arg1 before), ?_, ?_⟩
  · rw [measuredState_boundaryArg1name]
    exact keeps.arg1name
  · intro value
    rw [measuredState_boundaryRunResult, if_pos setsUp, AList.mem_insert,
      Option.some.injEq]
    simp [AList.notMem_empty, eq_comm]
  · exact measuredState_calls parts.runner arg1 res before
  · rw [← keeps.arg1name]
    exact value_nextTest arg1 before

end Step

/-! ## Runs of the real runners -/

section Runs

variable [DecidableEq Val] {parts : TestParts Val Res}
  {resfn : Options Val → Res → Answer} {begin final : State Val Res}
  {steps : List (Step (State Val Res) Val)} {kept : Option Val}

/-- The calls of a run measure the values as a memory with one slot does. -/
theorem Keeps.run_calls (keeps : Keeps kept begin)
    (run : Run (BoundaryStep parts.runner resfn) begin steps final)
    (succeed : ∀ step ∈ steps,
      TestsSucceed parts.runner step.before step.after) :
    ∃ made, final.calls = begin.calls ++ made ∧
      made.filterMap (TestCall.value "msg_rate") =
        measured kept (steps.map Step.label) := by
  induction run generalizing kept with
  | stop => exact ⟨[], by simp, rfl⟩
  | @next before after final arg1 steps taken rest ih =>
      obtain ⟨succeedsHere, succeedLater⟩ := List.forall_mem_cons.mp succeed
      rw [List.map_cons]
      by_cases hit : kept = some arg1
      · have same := BoundaryStep.eq_of_remembered taken
          ((keeps.known arg1).mpr hit)
        rw [same] at ih
        obtain ⟨made, callsEq, valuesEq⟩ := ih keeps succeedLater
        refine ⟨made, callsEq, ?_⟩
        rw [valuesEq, hit, measured_of_kept]
      · obtain ⟨keepsAfter, call, callEq, valueEq⟩ :=
          keeps.measures hit taken succeedsHere
        obtain ⟨made, callsEq, valuesEq⟩ := ih keepsAfter succeedLater
        refine ⟨call :: made, ?_, ?_⟩
        · rw [callsEq, callEq, List.append_assoc, List.singleton_append]
        · rw [List.filterMap_cons_some valueEq, valuesEq,
            measured_of_ne hit]

theorem Keeps.step (keeps : Keeps kept begin) {arg1 : Val}
    {after : State Val Res}
    (taken : BoundaryStep parts.runner resfn begin arg1 after)
    (succeeds : TestsSucceed parts.runner begin after) :
    Keeps (some arg1) after := by
  by_cases hit : kept = some arg1
  · rw [BoundaryStep.eq_of_remembered taken ((keeps.known arg1).mpr hit),
      ← hit]
    exact keeps
  · exact (keeps.measures hit taken succeeds).1

/-- A value is remembered whenever it is asked exactly if it is not measured
again. -/
theorem Keeps.run_known_iff (keeps : Keeps kept begin)
    (run : Run (BoundaryStep parts.runner resfn) begin steps final)
    (succeed : ∀ step ∈ steps,
      TestsSucceed parts.runner step.before step.after) (value : Val) :
    (∀ step ∈ steps, value = step.label →
      value ∈ step.before.boundaryRunResult) ↔
    value ∉ measured kept (steps.map Step.label) := by
  induction run generalizing kept with
  | stop => simp [measured]
  | @next before after final arg1 steps taken rest ih =>
      obtain ⟨succeedsHere, succeedLater⟩ := List.forall_mem_cons.mp succeed
      have later := ih (keeps.step taken succeedsHere) succeedLater
      rw [List.forall_mem_cons, later, List.map_cons]
      simp only [keeps.known]
      by_cases hit : kept = some arg1
      · rw [hit, measured_of_kept]
        exact and_iff_right fun same => by rw [same]
      · rw [measured_of_ne hit, List.mem_cons, not_or]
        refine and_congr_left fun _ => ?_
        constructor
        · intro known same
          exact hit (same ▸ known same)
        · intro different same
          exact (different same).elim

/-- A further run of a value is answered from `boundary_run_result`, without a
new call. -/
def AnsweredFromMemory (runner : Runner Val Res)
    (resfn : Options Val → Res → Answer) (step : Step (State Val Res) Val) :
    Prop :=
  ∃ res, step.before.boundaryRunResult.lookup step.label = some res ∧
    boundaryRun runner resfn step.label step.before =
      .ok (resfn step.before.boundaryOptions res) step.before

theorem answeredFromMemory_iff (runner : Runner Val Res)
    (resfn : Options Val → Res → Answer) (step : Step (State Val Res) Val) :
    AnsweredFromMemory runner resfn step ↔
      step.label ∈ step.before.boundaryRunResult := by
  constructor
  · rintro ⟨res, found, _⟩
    rw [← AList.lookup_isSome, found]
    rfl
  · exact boundaryRun_remembered runner resfn

theorem Keeps.run_answered_iff (keeps : Keeps kept begin)
    (run : Run (BoundaryStep parts.runner resfn) begin steps final)
    (succeed : ∀ step ∈ steps,
      TestsSucceed parts.runner step.before step.after) :
    (steps.Pairwise fun step later => step.label = later.label →
      AnsweredFromMemory parts.runner resfn later) ↔
    InBlocks (steps.map Step.label) := by
  induction run generalizing kept with
  | stop => simp [InBlocks]
  | @next before after final arg1 steps taken rest ih =>
      obtain ⟨succeedsHere, succeedLater⟩ := List.forall_mem_cons.mp succeed
      have keepsAfter := keeps.step taken succeedsHere
      rw [List.pairwise_cons, ih keepsAfter succeedLater, List.map_cons,
        inBlocks_cons_iff, ← keepsAfter.run_known_iff rest succeedLater arg1]
      refine and_congr_left fun _ => ?_
      simp only [answeredFromMemory_iff]
      constructor
      · intro answered step member same
        rw [same]
        exact answered step member same
      · intro known step member same
        rw [← same]
        exact known step member same

/-- Every value is measured by at most one test. -/
def MeasuredOnce (begin final : State Val Res) : Prop :=
  ∀ made, final.calls = begin.calls ++ made →
    ∀ value, (made.filterMap (TestCall.value "msg_rate")).count value ≤ 1

theorem Keeps.nodup_iff (keeps : Keeps none begin)
    (run : Run (BoundaryStep parts.runner resfn) begin steps final)
    (succeed : ∀ step ∈ steps,
      TestsSucceed parts.runner step.before step.after) :
    MeasuredOnce begin final ↔ InBlocks (steps.map Step.label) := by
  obtain ⟨made, callsEq, valuesEq⟩ := keeps.run_calls run succeed
  rw [← nodup_measured_iff, ← valuesEq, List.nodup_iff_count_le_one]
  constructor
  · intro once
    exact once made callsEq
  · intro once made' callsEq'
    rw [callsEq, List.append_cancel_left_eq] at callsEq'
    rw [← callsEq']
    exact once

/-- After the construction of a real runner, as long as the tests succeed, every
value is measured by one test and answered from memory after that exactly if
equal values are run one after the other. -/
theorem measuredOnce_iff {runner : Runner Val Res} {options : Options Val}
    {runtest : Bool}
    (real : runner = RunTestZMQ parts ∨ runner = RunTestKAFKA parts)
    (run : Run (BoundaryStep runner resfn) (constructed options runtest) steps
      final)
    (succeed : ∀ step ∈ steps, TestsSucceed runner step.before step.after) :
    (MeasuredOnce (constructed options runtest) final ∧
      steps.Pairwise fun step later => step.label = later.label →
        AnsweredFromMemory runner resfn later) ↔
    InBlocks (steps.map Step.label) := by
  obtain rfl : runner = parts.runner := real.elim id id
  have keeps := @constructed_keeps Val Res options runtest
  rw [keeps.nodup_iff run succeed, keeps.run_answered_iff run succeed,
    and_self]

/-- In every run of a real runner whose tests succeed, no value is measured
twice. -/
def MeasuredOnceThroughout : Prop :=
  ∀ (Val Res Answer : Type) [DecidableEq Val] (parts : TestParts Val Res)
    (runner : Runner Val Res) (resfn : Options Val → Res → Answer)
    (options : Options Val) (runtest : Bool)
    (steps : List (Step (State Val Res) Val)) (final : State Val Res),
    runner = RunTestZMQ parts ∨ runner = RunTestKAFKA parts →
    Run (BoundaryStep runner resfn) (constructed options runtest) steps final →
    (∀ step ∈ steps, TestsSucceed runner step.before step.after) →
    MeasuredOnce (constructed options runtest) final ∧
      steps.Pairwise fun step later => step.label = later.label →
        AnsweredFromMemory runner resfn later

/-- A test that reports the rate it was run with. -/
def reportRate : TestParts Nat Nat where
  launch _ _ := .ok ()
  measure _ options := .ok (options "msg_rate")
  delete _ := .ok ()

theorem reportRate_succeeds (before after : State Nat Nat) :
    TestsSucceed (RunTestZMQ reportRate) before after := by
  intro earlier call later _ isTest
  cases call with
  | runTest options => exact ⟨_, rfl⟩
  | rerunTest options => exact ⟨_, rfl⟩
  | deleteAllLaunchedApps => cases isTest

def newRunner : State Nat Nat :=
  constructed (fun _ => 0) false

def reportedRate (state : State Nat Nat) (rate : Nat) : State Nat Nat :=
  stateAfter (boundaryRun (RunTestZMQ reportRate) (fun _ res => res) rate state)

/-- The rate 100 is run again after the rate 200. -/
def rateRevisited : List (Step (State Nat Nat) Nat) :=
  [⟨newRunner, 100, reportedRate newRunner 100⟩,
    ⟨reportedRate newRunner 100, 200,
      reportedRate (reportedRate newRunner 100) 200⟩,
    ⟨reportedRate (reportedRate newRunner 100) 200, 100,
      reportedRate (reportedRate (reportedRate newRunner 100) 200) 100⟩]

theorem rateRevisited_run :
    Run (BoundaryStep (RunTestZMQ reportRate) fun _ res => res) newRunner
      rateRevisited
      (reportedRate (reportedRate (reportedRate newRunner 100) 200) 100) :=
  .next rfl (.next rfl (.next rfl .stop))

theorem rateRevisited_measuredOnce_iff :
    (MeasuredOnce newRunner
        (reportedRate (reportedRate (reportedRate newRunner 100) 200) 100) ∧
      rateRevisited.Pairwise fun step later => step.label = later.label →
        AnsweredFromMemory (RunTestZMQ reportRate) (fun _ res => res) later) ↔
    InBlocks (rateRevisited.map Step.label) :=
  measuredOnce_iff (Or.inl rfl) rateRevisited_run
    fun _ _ => reportRate_succeeds _ _

/-- The rate 100 is measured twice. -/
theorem rateRevisited_measures_again : ¬ MeasuredOnceThroughout := by
  intro throughout
  obtain ⟨once, _⟩ := throughout Nat Nat Nat reportRate _ (fun _ res => res) _ _
    _ _ (Or.inl rfl) rateRevisited_run fun _ _ => reportRate_succeeds _ _
  have atMostOnce := once [.runTest _, .rerunTest _, .rerunTest _] rfl 100
  exact absurd atMostOnce (by decide)

end Runs

end BoundaryRunnerBase

end MScale
