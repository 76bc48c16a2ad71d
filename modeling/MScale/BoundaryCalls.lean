import MScale.BoundaryRunner

/-!
# The calls of one run

`boundary_run` answers a remembered value without a call.  Any other value it
tests, at most five times, on the applications that are launched or with an own
launch, and each test that fails is followed by a clean-up.  This file says what
one test, one attempt and one run return and leave behind.
-/

namespace MScale

namespace BoundaryRunnerBase

open StateErrors

variable {Val Res Answer : Type}

/-- A call of `run_test` or `rerun_test`. -/
def TestCall.isTest : TestCall Val → Bool
  | .runTest _ => true
  | .rerunTest _ => true
  | .deleteAllLaunchedApps => false

/-- The call succeeds after the given earlier calls. -/
def Runner.Succeeds (runner : Runner Val Res) (earlier : List (TestCall Val)) :
    TestCall Val → Prop
  | .runTest options =>
      ∃ res, (runner.runTest earlier options).outcome = .ok res
  | .rerunTest options =>
      ∃ res, (runner.rerunTest earlier options).outcome = .ok res
  | .deleteAllLaunchedApps => runner.deleteAllLaunchedApps earlier = .ok ()

/-! ## One test -/

section Test

/-- The state after a call of a test. -/
def afterCall (call : TestCall Val) (setsUp : Bool) (state : State Val Res) :
    State Val Res :=
  let state := { state with calls := state.calls ++ [call] }
  if setsUp then
    boundarySetup state.boundaryOptions state.boundaryArg1name state
  else state

section AfterCall

variable (call : TestCall Val) (setsUp : Bool) (state : State Val Res)

@[simp]
theorem afterCall_calls :
    (afterCall call setsUp state).calls = state.calls ++ [call] := by
  cases setsUp <;> rfl

@[simp]
theorem afterCall_boundaryFirstRun :
    (afterCall call setsUp state).boundaryFirstRun =
      state.boundaryFirstRun := by
  cases setsUp <;> rfl

@[simp]
theorem afterCall_boundaryOptions :
    (afterCall call setsUp state).boundaryOptions = state.boundaryOptions := by
  cases setsUp <;> rfl

@[simp]
theorem afterCall_boundaryArg1name :
    (afterCall call setsUp state).boundaryArg1name =
      state.boundaryArg1name := by
  cases setsUp <;> rfl

@[simp]
theorem afterCall_boundaryRunResult :
    (afterCall call setsUp state).boundaryRunResult =
      if setsUp then ∅ else state.boundaryRunResult := by
  cases setsUp <;> rfl

end AfterCall

theorem callTest_of_ok {call : TestCall Val}
    {reply : List (TestCall Val) → TestReply Res} {state : State Val Res}
    {res : Res} (succeeded : (reply state.calls).outcome = .ok res) :
    callTest call reply state =
      .ok res (afterCall call (reply state.calls).setsUp state) := by
  simp [callTest, afterCall, succeeded]

theorem callTest_of_error {call : TestCall Val}
    {reply : List (TestCall Val) → TestReply Res} {state : State Val Res}
    {error : PyError} (failed : (reply state.calls).outcome = .error error) :
    callTest call reply state =
      .error error (afterCall call (reply state.calls).setsUp state) := by
  simp [callTest, afterCall, failed]

variable (runner : Runner Val Res) (arg1 : Val)

/-- The state in which `boundary_run` calls the test. -/
def toTest (state : State Val Res) : State Val Res :=
  if state.boundaryFirstRun then state else setArg1 arg1 state

/-- The test that `boundary_run` calls. -/
def nextTest (state : State Val Res) : TestCall Val :=
  let options := (toTest arg1 state).boundaryOptions
  if state.boundaryFirstRun then .runTest options else .rerunTest options

/-- The reply of the subclass to the next test. -/
def nextReply (state : State Val Res) : TestReply Res :=
  let options := (toTest arg1 state).boundaryOptions
  if state.boundaryFirstRun then runner.runTest state.calls options
  else runner.rerunTest state.calls options

/-- The state after the next test. -/
def tested (state : State Val Res) : State Val Res :=
  afterCall (nextTest arg1 state) (nextReply runner arg1 state).setsUp
    (toTest arg1 state)

section NextTest

variable {runner : Runner Val Res} {arg1 : Val} {state : State Val Res}

theorem isTest_nextTest : (nextTest arg1 state).isTest = true := by
  unfold nextTest
  split <;> rfl

theorem succeeds_nextTest_iff :
    runner.Succeeds state.calls (nextTest arg1 state) ↔
      ∃ res, (nextReply runner arg1 state).outcome = .ok res := by
  unfold nextTest nextReply
  split <;> rfl

@[simp]
theorem toTest_calls : (toTest arg1 state).calls = state.calls := by
  unfold toTest
  split <;> rfl

@[simp]
theorem tested_calls : (tested runner arg1 state).calls =
    state.calls ++ [nextTest arg1 state] := by
  simp [tested]

@[simp]
theorem tested_boundaryFirstRun :
    (tested runner arg1 state).boundaryFirstRun = state.boundaryFirstRun := by
  simp only [tested, afterCall_boundaryFirstRun, toTest]
  split <;> rfl

theorem tested_results :
    (tested runner arg1 state).boundaryRunResult = state.boundaryRunResult ∨
      (tested runner arg1 state).boundaryRunResult = ∅ := by
  have results : (toTest arg1 state).boundaryRunResult =
      state.boundaryRunResult := by
    unfold toTest
    split <;> rfl
  simp only [tested, afterCall_boundaryRunResult, results]
  split
  · exact Or.inr rfl
  · exact Or.inl rfl

/-- After a test that succeeds the applications are launched. -/
theorem tryTest_of_ok {res : Res}
    (succeeded : (nextReply runner arg1 state).outcome = .ok res) :
    tryTest runner arg1 state =
      .ok (.ok res)
        { tested runner arg1 state with boundaryFirstRun := false } := by
  cases first : state.boundaryFirstRun with
  | true =>
      simp only [nextReply, toTest, first, if_true] at succeeded
      apply tryCatch_of_ok
      rw [bind_of_ok (get_ok state)]
      simp only [first, if_true]
      rw [bind_of_ok (callTest_of_ok succeeded), bind_of_ok (modify_ok _ _)]
      simp [tested, nextTest, nextReply, toTest, first, pure, EStateM.pure]
  | false =>
      have launched : (tested runner arg1 state).boundaryFirstRun = false := by
        rw [tested_boundaryFirstRun, first]
      have same : { tested runner arg1 state with boundaryFirstRun := false } =
          tested runner arg1 state := by
        rw [← launched]
      simp only [nextReply, toTest, first, Bool.false_eq_true, if_false]
        at succeeded
      rw [same]
      apply tryCatch_of_ok
      rw [bind_of_ok (get_ok state)]
      simp only [first, Bool.false_eq_true, if_false]
      rw [bind_of_ok (modify_ok _ _), bind_of_ok (get_ok _),
        bind_of_ok (callTest_of_ok succeeded)]
      simp [tested, nextTest, nextReply, toTest, first, pure, EStateM.pure]
      rfl

theorem tryTest_of_error {error : PyError}
    (failed : (nextReply runner arg1 state).outcome = .error error) :
    tryTest runner arg1 state =
      .ok (.error error) (tested runner arg1 state) := by
  cases first : state.boundaryFirstRun with
  | true =>
      simp only [nextReply, toTest, first, if_true] at failed
      refine (@tryCatch_of_error _ _ _ _ _ _ _ error ?_).trans rfl
      rw [bind_of_ok (get_ok state)]
      simp only [first, if_true]
      rw [bind_of_error (callTest_of_error failed)]
      simp [tested, nextTest, nextReply, toTest, first]
  | false =>
      simp only [nextReply, toTest, first, Bool.false_eq_true, if_false]
        at failed
      refine (@tryCatch_of_error _ _ _ _ _ _ _ error ?_).trans rfl
      rw [bind_of_ok (get_ok state)]
      simp only [first, Bool.false_eq_true, if_false]
      rw [bind_of_ok (modify_ok _ _), bind_of_ok (get_ok _),
        bind_of_error (callTest_of_error failed)]
      simp [tested, nextTest, nextReply, toTest, first]
      rfl

theorem nextTest_of_firstRun (first : state.boundaryFirstRun = true) :
    nextTest arg1 state = .runTest state.boundaryOptions := by
  simp [nextTest, toTest, first]

theorem toTest_setArg1 :
    toTest arg1 (setArg1 arg1 state) = setArg1 arg1 state := by
  unfold toTest
  split
  · rfl
  · simp [setArg1, setattr]

theorem not_succeeds_of_error {error : PyError}
    (failed : (nextReply runner arg1 state).outcome = .error error) :
    ¬ runner.Succeeds state.calls (nextTest arg1 state) := by
  rw [succeeds_nextTest_iff, failed]
  rintro ⟨res, impossible⟩
  cases impossible

end NextTest

end Test

/-! ## Attempts -/

section Attempts

variable {runner : Runner Val Res} {arg1 : Val} {state : State Val Res}

/-- The state in which the applications are deleted. -/
def afterDeletion (state : State Val Res) : State Val Res :=
  { state with calls := state.calls ++ [.deleteAllLaunchedApps] }

theorem cleanUp_of_succeeds
    (deleted : runner.Succeeds state.calls .deleteAllLaunchedApps) :
    cleanUp runner state =
      .ok () { afterDeletion state with boundaryFirstRun := true } := by
  have ended : runner.deleteAllLaunchedApps state.calls = .ok () := deleted
  rw [cleanUp, bind_of_ok (get_ok state)]
  simp only [ended]
  rfl

theorem cleanUp_of_fails
    (kept : ¬ runner.Succeeds state.calls .deleteAllLaunchedApps) :
    ∃ error, cleanUp runner state = .error error (afterDeletion state) := by
  cases ended : runner.deleteAllLaunchedApps state.calls with
  | ok _ => exact (kept ended).elim
  | error error =>
      refine ⟨error, ?_⟩
      rw [cleanUp, bind_of_ok (get_ok state)]
      simp only [ended]
      rfl

/-- The attempts end with the first test that succeeds. -/
theorem attempts_of_ok {res : Res} (retries : Nat)
    (succeeded : (nextReply runner arg1 state).outcome = .ok res) :
    attempts runner arg1 retries state =
      .ok res { tested runner arg1 state with boundaryFirstRun := false } := by
  cases retries with
  | zero =>
      rw [attempts, bind_of_ok (tryTest_of_ok succeeded)]
      rfl
  | succ retries =>
      rw [attempts, bind_of_ok (tryTest_of_ok succeeded)]
      rfl

/-- They end as well when the clean-up after a failed test raises. -/
theorem attempts_of_kept {error : PyError} (retries : Nat)
    (failed : (nextReply runner arg1 state).outcome = .error error)
    (kept : ¬ runner.Succeeds (tested runner arg1 state).calls
      .deleteAllLaunchedApps) :
    ∃ raised, attempts runner arg1 retries state =
      .error raised (afterDeletion (tested runner arg1 state)) := by
  obtain ⟨raised, cleaned⟩ := cleanUp_of_fails kept
  refine ⟨raised, ?_⟩
  cases retries with
  | zero =>
      rw [attempts, bind_of_ok (tryTest_of_error failed)]
      exact bind_of_error cleaned
  | succ retries =>
      rw [attempts, bind_of_ok (tryTest_of_error failed)]
      exact bind_of_error cleaned

/-- The state after a failed test and its clean-up. -/
def cleaned (runner : Runner Val Res) (arg1 : Val) (state : State Val Res) :
    State Val Res :=
  { afterDeletion (tested runner arg1 state) with boundaryFirstRun := true }

theorem cleaned_calls :
    (cleaned runner arg1 state).calls =
      state.calls ++ [nextTest arg1 state, .deleteAllLaunchedApps] := by
  simp [cleaned, afterDeletion]

theorem attempts_zero_of_deleted {error : PyError}
    (failed : (nextReply runner arg1 state).outcome = .error error)
    (deleted : runner.Succeeds (tested runner arg1 state).calls
      .deleteAllLaunchedApps) :
    attempts runner arg1 0 state =
      .error error (cleaned runner arg1 state) := by
  rw [attempts, bind_of_ok (tryTest_of_error failed)]
  exact bind_of_ok (cleanUp_of_succeeds deleted)

theorem attempts_succ_of_deleted {error : PyError} (retries : Nat)
    (failed : (nextReply runner arg1 state).outcome = .error error)
    (deleted : runner.Succeeds (tested runner arg1 state).calls
      .deleteAllLaunchedApps) :
    attempts runner arg1 (retries + 1) state =
      attempts runner arg1 retries (cleaned runner arg1 state) := by
  rw [attempts, bind_of_ok (tryTest_of_error failed)]
  exact bind_of_ok (cleanUp_of_succeeds deleted)

end Attempts

/-! ## One run -/

section Run

variable [DecidableEq Val] {runner : Runner Val Res}
  {resfn : Options Val → Res → Answer} {arg1 : Val} {before : State Val Res}

theorem boundaryRun_remembered (runner : Runner Val Res)
    (resfn : Options Val → Res → Answer) (known : arg1 ∈ before.boundaryRunResult) :
    ∃ res, before.boundaryRunResult.lookup arg1 = some res ∧
      boundaryRun runner resfn arg1 before =
        .ok (resfn before.boundaryOptions res) before := by
  obtain ⟨res, found⟩ := Option.isSome_iff_exists.mp
    (AList.lookup_isSome.mpr known)
  refine ⟨res, found, ?_⟩
  rw [boundaryRun, bind_of_ok (get_ok before)]
  simp only [found]
  rfl

/-- Insert a result into `boundary_run_result`. -/
def remember (arg1 : Val) (res : Res) (state : State Val Res) :
    State Val Res :=
  { state with
    boundaryRunResult := state.boundaryRunResult.insert arg1 res }

theorem boundaryRun_measured (unknown : arg1 ∉ before.boundaryRunResult) :
    boundaryRun runner resfn arg1 before =
      match attempts runner arg1 4 (setArg1 arg1 before) with
      | .ok res state =>
          .ok (resfn state.boundaryOptions res) (remember arg1 res state)
      | .error error state => .error error state := by
  have forgotten := AList.lookup_eq_none.mpr unknown
  rw [boundaryRun, bind_of_ok (get_ok before)]
  simp only [forgotten]
  rw [bind_of_ok (modify_ok _ _)]
  cases ended : attempts runner arg1 4 (setArg1 arg1 before) with
  | ok res state =>
      rw [bind_of_ok ended]
      rfl
  | error error state => exact bind_of_error ended

/-- The state after a run whose first test succeeds. -/
def measuredState (runner : Runner Val Res) (arg1 : Val) (res : Res)
    (before : State Val Res) : State Val Res :=
  remember arg1 res
    { tested runner arg1 (setArg1 arg1 before) with boundaryFirstRun := false }

section MeasuredState

variable (runner : Runner Val Res) (arg1 : Val) (res : Res)
  (before : State Val Res)

@[simp]
theorem measuredState_calls :
    (measuredState runner arg1 res before).calls =
      before.calls ++ [nextTest arg1 (setArg1 arg1 before)] :=
  tested_calls

@[simp]
theorem measuredState_boundaryOptions :
    (measuredState runner arg1 res before).boundaryOptions =
      setattr before.boundaryOptions before.boundaryArg1name arg1 := by
  simp only [measuredState, remember, tested, afterCall_boundaryOptions,
    toTest_setArg1]
  rfl

@[simp]
theorem measuredState_boundaryArg1name :
    (measuredState runner arg1 res before).boundaryArg1name =
      before.boundaryArg1name := by
  simp only [measuredState, remember, tested, afterCall_boundaryArg1name,
    toTest_setArg1]
  rfl

@[simp]
theorem measuredState_boundaryRunResult :
    (measuredState runner arg1 res before).boundaryRunResult =
      (if (nextReply runner arg1 (setArg1 arg1 before)).setsUp then ∅
        else before.boundaryRunResult).insert arg1 res := by
  simp only [measuredState, remember, tested, afterCall_boundaryRunResult,
    toTest_setArg1]
  rfl

end MeasuredState

/-- A value whose first test succeeds is remembered. -/
theorem boundaryRun_of_ok {res : Res}
    (unknown : arg1 ∉ before.boundaryRunResult)
    (succeeded :
      (nextReply runner arg1 (setArg1 arg1 before)).outcome = .ok res) :
    boundaryRun runner resfn arg1 before =
      .ok (resfn (setattr before.boundaryOptions before.boundaryArg1name arg1)
        res) (measuredState runner arg1 res before) := by
  rw [boundaryRun_measured unknown, attempts_of_ok 4 succeeded,
    ← measuredState_boundaryOptions runner arg1 res before]
  rfl

/-- It makes one call. -/
theorem boundaryRun_calls_of_ok {res : Res}
    (unknown : arg1 ∉ before.boundaryRunResult)
    (succeeded :
      (nextReply runner arg1 (setArg1 arg1 before)).outcome = .ok res) :
    (stateAfter (boundaryRun runner resfn arg1 before)).calls =
      before.calls ++ [nextTest arg1 (setArg1 arg1 before)] := by
  rw [boundaryRun_of_ok unknown succeeded]
  exact measuredState_calls runner arg1 res before

/-- A value whose first test fails makes one more call when that raises. -/
theorem boundaryRun_calls_of_kept {error : PyError}
    (unknown : arg1 ∉ before.boundaryRunResult)
    (failed :
      (nextReply runner arg1 (setArg1 arg1 before)).outcome = .error error)
    (kept : ¬ runner.Succeeds
      (before.calls ++ [nextTest arg1 (setArg1 arg1 before)])
      .deleteAllLaunchedApps) :
    (stateAfter (boundaryRun runner resfn arg1 before)).calls =
      before.calls ++
        [nextTest arg1 (setArg1 arg1 before), .deleteAllLaunchedApps] := by
  have keptAfter : ¬ runner.Succeeds
      (tested runner arg1 (setArg1 arg1 before)).calls
      .deleteAllLaunchedApps := by
    rw [tested_calls]
    exact kept
  obtain ⟨raised, stopped⟩ := attempts_of_kept 4 failed keptAfter
  rw [boundaryRun_measured unknown, stopped]
  simp [stateAfter, afterDeletion, setArg1]

end Run

end BoundaryRunnerBase

end MScale
