import MScale.BoundaryMemory

/-!
# The options during a run

`boundary_run` sets no option but the tuned one: all tests of a run, retries
included, have the options that were in force at its start, apart from it.
-/

namespace MScale

namespace BoundaryRunnerBase

open StateErrors

variable {Val Res Answer : Type} {runner : Runner Val Res} {arg1 : Val}

/-- All tests between two states run with the options of the first, apart from
the tuned one, and the options stay so. -/
structure SameOptions (before after : State Val Res) : Prop where
  arg1name : after.boundaryArg1name = before.boundaryArg1name
  options : ∀ name ≠ before.boundaryArg1name,
    after.boundaryOptions name = before.boundaryOptions name
  calls : ∃ made, after.calls = before.calls ++ made ∧
    ∀ call ∈ made, call.isTest = true → ∀ name ≠ before.boundaryArg1name,
      call.value name = some (before.boundaryOptions name)

theorem SameOptions.refl (state : State Val Res) : SameOptions state state where
  arg1name := rfl
  options _ _ := rfl
  calls := ⟨[], by simp, by simp⟩

theorem SameOptions.trans {first second third : State Val Res}
    (same : SameOptions first second) (later : SameOptions second third) :
    SameOptions first third where
  arg1name := later.arg1name.trans same.arg1name
  options name other := by
    rw [later.options name (by rwa [same.arg1name]), same.options name other]
  calls := by
    obtain ⟨made, callsEq, agree⟩ := same.calls
    obtain ⟨more, moreEq, moreAgree⟩ := later.calls
    refine ⟨made ++ more, by rw [moreEq, callsEq, List.append_assoc], ?_⟩
    intro call member isTest name other
    rcases List.mem_append.mp member with member | member
    · exact agree call member isTest name other
    · rw [moreAgree call member isTest name (by rwa [same.arg1name]),
        same.options name other]

/-- Changes that spare the name, the options and the calls. -/
theorem SameOptions.of_eq {before after : State Val Res}
    (arg1name : after.boundaryArg1name = before.boundaryArg1name)
    (options : after.boundaryOptions = before.boundaryOptions)
    (calls : after.calls = before.calls) : SameOptions before after where
  arg1name := arg1name
  options name _ := by rw [options]
  calls := ⟨[], by simp [calls], by simp⟩

theorem sameOptions_setArg1 (state : State Val Res) :
    SameOptions state (setArg1 arg1 state) where
  arg1name := rfl
  options name other := Function.update_of_ne other _ _
  calls := ⟨[], by simp [setArg1], by simp⟩

theorem sameOptions_toTest (arg1 : Val) (state : State Val Res) :
    SameOptions state (toTest arg1 state) := by
  unfold toTest
  split
  · exact .refl state
  · exact sameOptions_setArg1 state

theorem sameOptions_tested (state : State Val Res) :
    SameOptions state (tested runner arg1 state) where
  arg1name := by
    rw [tested, afterCall_boundaryArg1name]
    exact (sameOptions_toTest arg1 state).arg1name
  options name other := by
    rw [tested, afterCall_boundaryOptions]
    exact (sameOptions_toTest arg1 state).options name other
  calls := by
    refine ⟨[nextTest arg1 state], tested_calls, ?_⟩
    intro call member _ name other
    have kept := (sameOptions_toTest arg1 state).options name other
    rw [List.mem_singleton.mp member, nextTest]
    split <;> exact congrArg some kept

theorem sameOptions_afterDeletion (state : State Val Res) :
    SameOptions state (afterDeletion state) where
  arg1name := rfl
  options _ _ := rfl
  calls := by
    refine ⟨[.deleteAllLaunchedApps], rfl, ?_⟩
    intro call member isTest
    rw [List.mem_singleton.mp member] at isTest
    cases isTest

theorem sameOptions_cleaned (state : State Val Res) :
    SameOptions state (cleaned runner arg1 state) :=
  ((sameOptions_tested state).trans (sameOptions_afterDeletion _)).trans
    (.of_eq rfl rfl rfl)

/-- What comes after a failed test and a clean-up that succeeds. -/
def retry (runner : Runner Val Res) (arg1 : Val) (error : PyError)
    (state : State Val Res) : Nat → EStateM.Result PyError (State Val Res) Res
  | 0 => .error error (cleaned runner arg1 state)
  | retries + 1 => attempts runner arg1 retries (cleaned runner arg1 state)

/-- The attempts end with a test that succeeds or with a clean-up that fails,
or go on. -/
theorem attempts_cases (runner : Runner Val Res) (arg1 : Val) (retries : Nat)
    (state : State Val Res) :
    (∃ res, (nextReply runner arg1 state).outcome = .ok res ∧
      attempts runner arg1 retries state =
        .ok res { tested runner arg1 state with boundaryFirstRun := false }) ∨
    (∃ raised, attempts runner arg1 retries state =
      .error raised (afterDeletion (tested runner arg1 state))) ∨
    ∃ error, attempts runner arg1 retries state =
      retry runner arg1 error state retries := by
  cases outcome : (nextReply runner arg1 state).outcome with
  | ok res => exact .inl ⟨res, rfl, attempts_of_ok retries outcome⟩
  | error error =>
      by_cases deleted : runner.Succeeds (tested runner arg1 state).calls
          .deleteAllLaunchedApps
      · refine .inr (.inr ⟨error, ?_⟩)
        cases retries with
        | zero => exact attempts_zero_of_deleted outcome deleted
        | succ retries => exact attempts_succ_of_deleted retries outcome deleted
      · exact .inr (.inl (attempts_of_kept retries outcome deleted))

theorem attempts_sameOptions (runner : Runner Val Res) (arg1 : Val)
    (retries : Nat) :
    LeadsAlong SameOptions (attempts runner arg1 retries) := by
  intro state
  induction retries using Nat.strong_induction_on generalizing state with
  | h retries ih =>
      rcases attempts_cases runner arg1 retries state with
        ⟨res, _, ended⟩ | ⟨raised, ended⟩ | ⟨error, ended⟩
      · rw [ended]
        exact (sameOptions_tested state).trans (.of_eq rfl rfl rfl)
      · rw [ended]
        exact (sameOptions_tested state).trans (sameOptions_afterDeletion _)
      · rw [ended]
        cases retries with
        | zero => exact sameOptions_cleaned state
        | succ retries =>
            exact (sameOptions_cleaned state).trans
              (ih retries (Nat.lt_succ_self retries) _)

variable [DecidableEq Val]

theorem boundaryRun_sameOptions (resfn : Options Val → Res → Answer) :
    LeadsAlong SameOptions (boundaryRun runner resfn arg1) := by
  intro before
  by_cases known : arg1 ∈ before.boundaryRunResult
  · obtain ⟨res, _, returned⟩ := boundaryRun_remembered runner resfn known
    rw [returned]
    exact .refl before
  · have attempted := attempts_sameOptions runner arg1 4
      (setArg1 arg1 before)
    rw [boundaryRun_measured known]
    have whole := (sameOptions_setArg1 before).trans attempted
    cases ended : attempts runner arg1 4 (setArg1 arg1 before) with
    | ok res state =>
        rw [ended] at whole
        exact whole.trans (.of_eq rfl rfl rfl)
    | error error state =>
        rw [ended] at whole
        exact whole

end BoundaryRunnerBase

end MScale
