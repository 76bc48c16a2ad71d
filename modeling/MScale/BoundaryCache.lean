import MScale.BoundaryCalls

/-!
# When remembered results may be reused

`boundary_run` answers a value it has run before from its memory: it looks at
the value alone, and leaves the options as they are.  The memory is described
by the options under which each value was measured.  Answers are what a fresh
run would give, for every test and every result function, exactly when each
remembered value is asked for under the options it was measured under.
-/

namespace MScale

namespace BoundaryRunnerBase

open StateErrors

/-- An operation between two runs, or a run. -/
inductive Op (Val : Type)
  | setattr (name : String) (value : Val)
  | boundaryRun (arg1 : Val)

variable {Val Res Answer : Type}

/-- A subclass whose tests all succeed with a function of the options. -/
def Runner.ofTest (setsUp : Bool) (test : Options Val → Res) :
    Runner Val Res where
  runTest _ options := ⟨setsUp, .ok (test options)⟩
  rerunTest _ options := ⟨setsUp, .ok (test options)⟩
  deleteAllLaunchedApps _ := .ok ()

theorem nextReply_ofTest (setsUp : Bool) (test : Options Val → Res) (arg1 : Val)
    (state : State Val Res) :
    nextReply (Runner.ofTest setsUp test) arg1 (setArg1 arg1 state) =
      ⟨setsUp, .ok (test (setattr state.boundaryOptions state.boundaryArg1name
        arg1))⟩ := by
  rw [nextReply, toTest_setArg1]
  split <;> rfl

section Transparency

variable [DecidableEq Val]

/-- The runner after `boundary_setup`. -/
def start (options : Options Val) (arg1name : String) (firstRun : Bool) :
    State Val Res where
  boundaryOptions := options
  boundaryArg1name := arg1name
  boundaryRunResult := ∅
  boundaryFirstRun := firstRun
  calls := []

/-- Every run of the sequence returns what the result function makes of a test
under the options in force with the tuned option set. -/
def Transparent (setsUp : Bool) (test : Options Val → Res)
    (resfn : Options Val → Res → Answer) : State Val Res → List (Op Val) → Prop
  | _, [] => True
  | state, .setattr name value :: ops =>
      Transparent setsUp test resfn
        { state with
          boundaryOptions := setattr state.boundaryOptions name value } ops
  | state, .boundaryRun arg1 :: ops =>
      let options := setattr state.boundaryOptions state.boundaryArg1name arg1
      ∃ after, boundaryRun (Runner.ofTest setsUp test) resfn arg1 state =
          .ok (resfn options (test options)) after ∧
        Transparent setsUp test resfn after ops

/-- Reuse of remembered results is never noticed. -/
def CacheTransparent (setsUp : Bool) : Prop :=
  ∀ (Val Res Answer : Type) [DecidableEq Val] (test : Options Val → Res)
    (resfn : Options Val → Res → Answer) (options : Options Val)
    (arg1name : String) (firstRun : Bool) (ops : List (Op Val)),
    Transparent setsUp test resfn (start options arg1name firstRun) ops

/-- The options in force, and for each remembered value the options under which
it was measured. -/
structure Measurements (Val : Type) where
  options : Options Val
  measured : AList (fun _ : Val => Options Val)

/-- What a run does to the measurements.  A test that sets up again forgets the
earlier values. -/
def Measurements.run (setsUp : Bool) (arg1name : String)
    (measurements : Measurements Val) (arg1 : Val) : Measurements Val :=
  match measurements.measured.lookup arg1 with
  | some _ => measurements
  | none =>
      let options := setattr measurements.options arg1name arg1
      ⟨options, (if setsUp then ∅ else measurements.measured).insert arg1
        options⟩

/-- Every run of a remembered value happens under the options it was measured
under. -/
def MeasuredAsInForce (setsUp : Bool) (arg1name : String) :
    Measurements Val → List (Op Val) → Prop
  | _, [] => True
  | measurements, .setattr name value :: ops =>
      MeasuredAsInForce setsUp arg1name
        { measurements with
          options := setattr measurements.options name value } ops
  | measurements, .boundaryRun arg1 :: ops =>
      (∀ options, measurements.measured.lookup arg1 = some options →
        options = measurements.options) ∧
      MeasuredAsInForce setsUp arg1name
        (measurements.run setsUp arg1name arg1) ops

/-- The runner remembers the results of the measurements, and each was made
with the tuned option set to its value. -/
structure Remembers (test : Options Val → Res) (state : State Val Res)
    (measurements : Measurements Val) : Prop where
  options : state.boundaryOptions = measurements.options
  results : ∀ arg1, state.boundaryRunResult.lookup arg1 =
    (measurements.measured.lookup arg1).map test
  tuned : ∀ arg1 options, measurements.measured.lookup arg1 = some options →
    options state.boundaryArg1name = arg1

variable {setsUp : Bool} {test : Options Val → Res}
  {resfn : Options Val → Res → Answer} {state : State Val Res}
  {measurements : Measurements Val}

theorem start_remembers (options : Options Val) (arg1name : String)
    (firstRun : Bool) :
    Remembers test (start options arg1name firstRun) ⟨options, ∅⟩ := by
  refine ⟨rfl, ?_, ?_⟩
  · intro arg1
    simp [start]
  · intro arg1 options' found
    simp at found

/-- Setting an option keeps what is remembered. -/
theorem Remembers.setattr (remembers : Remembers test state measurements)
    (name : String) (value : Val) :
    Remembers test
      { state with
        boundaryOptions :=
          BoundaryRunnerBase.setattr state.boundaryOptions name value }
      { measurements with
        options :=
          BoundaryRunnerBase.setattr measurements.options name value } :=
  ⟨by simp [remembers.options], remembers.results, remembers.tuned⟩

/-- A run of a functional runner, in terms of the measurements: a remembered
value is answered with the options in force and the test under the options of
its measurement. -/
theorem Remembers.boundaryRun (remembers : Remembers test state measurements)
    (setsUp : Bool) (resfn : Options Val → Res → Answer) (arg1 : Val) :
    let measuredUnder := (measurements.measured.lookup arg1).getD
      (BoundaryRunnerBase.setattr measurements.options state.boundaryArg1name
        arg1)
    let later := measurements.run setsUp state.boundaryArg1name arg1
    ∃ after,
      BoundaryRunnerBase.boundaryRun (Runner.ofTest setsUp test) resfn arg1
          state = .ok (resfn later.options (test measuredUnder)) after ∧
      Remembers test after later ∧
      after.boundaryArg1name = state.boundaryArg1name := by
  cases known : measurements.measured.lookup arg1 with
  | some options =>
      have remembered : state.boundaryRunResult.lookup arg1 =
          some (test options) := by
        rw [remembers.results, known]
        rfl
      have isKnown : arg1 ∈ state.boundaryRunResult :=
        AList.lookup_isSome.mp (by rw [remembered]; rfl)
      obtain ⟨res, found, answered⟩ :=
        boundaryRun_remembered (Runner.ofTest setsUp test) resfn isKnown
      rw [remembered, Option.some.injEq] at found
      simp only [Measurements.run, known]
      refine ⟨state, ?_, remembers, rfl⟩
      rw [answered, ← found, remembers.options]
      rfl
  | none =>
      have unknown : arg1 ∉ state.boundaryRunResult := by
        rw [← AList.lookup_eq_none, remembers.results, known]
        rfl
      have replied := nextReply_ofTest setsUp test arg1 state
      have measured := @boundaryRun_of_ok Val Res Answer _
        (Runner.ofTest setsUp test) resfn arg1 state _ unknown
        (congrArg TestReply.outcome replied)
      simp only [Measurements.run, known]
      rw [remembers.options] at measured
      refine ⟨_, measured, ⟨?_, ?_, ?_⟩, measuredState_boundaryArg1name _ _ _ _⟩
      · rw [measuredState_boundaryOptions, remembers.options]
      · intro other
        rw [measuredState_boundaryRunResult, replied]
        by_cases same : other = arg1
        · subst same
          simp
        · rw [AList.lookup_insert_ne same, AList.lookup_insert_ne same]
          cases setsUp with
          | true => simp
          | false => exact remembers.results other
      · intro other options found
        rw [measuredState_boundaryArg1name]
        by_cases same : other = arg1
        · subst same
          have optionsEq : BoundaryRunnerBase.setattr measurements.options
              state.boundaryArg1name other = options := by
            simpa using found
          rw [← optionsEq]
          simp [BoundaryRunnerBase.setattr]
        · rw [AList.lookup_insert_ne same] at found
          cases setsUp with
          | true => simp at found
          | false => exact remembers.tuned other options found

/-- Under the options they were measured under, remembered results are what a
fresh run would give. -/
theorem Remembers.transparent (setsUp : Bool)
    (resfn : Options Val → Res → Answer) {ops : List (Op Val)}
    (remembers : Remembers test state measurements)
    (asInForce : MeasuredAsInForce setsUp state.boundaryArg1name measurements
      ops) :
    Transparent setsUp test resfn state ops := by
  induction ops generalizing state measurements with
  | nil => trivial
  | cons op ops ih =>
      cases op with
      | setattr name value => exact ih (remembers.setattr name value) asInForce
      | boundaryRun arg1 =>
          obtain ⟨sameOptions, asInForce⟩ := asInForce
          obtain ⟨after, returned, remembersAfter, nameEq⟩ :=
            remembers.boundaryRun setsUp resfn arg1
          refine ⟨after, ?_, ih remembersAfter (nameEq ▸ asInForce)⟩
          rw [returned, remembers.options]
          cases known : measurements.measured.lookup arg1 with
          | none => simp [Measurements.run, known]
          | some options =>
              have tuned := remembers.tuned arg1 options known
              have optionsEq := sameOptions options known
              subst optionsEq
              have unchanged : BoundaryRunnerBase.setattr measurements.options
                  state.boundaryArg1name arg1 = measurements.options := by
                rw [← tuned]
                exact Function.update_eq_self _ _
              simp [Measurements.run, known, unchanged]

/-- The runner that reports its options tells remembered results from fresh
ones. -/
theorem Remembers.measuredAsInForce {setsUp : Bool} {ops : List (Op Val)}
    {state : State Val (Options Val)}
    (remembers : Remembers id state measurements)
    (transparent : Transparent setsUp id Prod.mk state ops) :
    MeasuredAsInForce setsUp state.boundaryArg1name measurements ops := by
  induction ops generalizing state measurements with
  | nil => trivial
  | cons op ops ih =>
      cases op with
      | setattr name value =>
          have later := ih (remembers.setattr name value) transparent
          exact later
      | boundaryRun arg1 =>
          obtain ⟨after, answered, transparentAfter⟩ := transparent
          obtain ⟨after', returned, remembersAfter, nameEq⟩ :=
            remembers.boundaryRun setsUp Prod.mk arg1
          rw [returned] at answered
          obtain ⟨answerEq, rfl⟩ : _ ∧ after' = after := by
            simpa using answered
          have later := ih remembersAfter transparentAfter
          rw [nameEq] at later
          refine ⟨?_, later⟩
          intro options known
          simp only [Measurements.run, known, Option.getD_some,
            remembers.options] at answerEq
          exact answerEq.2.trans answerEq.1.symm

/-- A sequence of option changes and runs gets the answers of fresh runs from
every test and every result function exactly if each remembered value is asked
for under the options it was measured under. -/
theorem transparent_iff_measuredAsInForce (setsUp : Bool)
    (options : Options Val) (arg1name : String) (firstRun : Bool)
    (ops : List (Op Val)) :
    (∀ (Res Answer : Type) (test : Options Val → Res)
      (resfn : Options Val → Res → Answer),
      Transparent setsUp test resfn (start options arg1name firstRun) ops) ↔
    MeasuredAsInForce setsUp arg1name ⟨options, ∅⟩ ops := by
  constructor
  · intro transparent
    exact (start_remembers options arg1name firstRun).measuredAsInForce
      (transparent (Options Val) (Options Val × Options Val) id Prod.mk)
  · intro asInForce Res Answer test resfn
    exact (start_remembers options arg1name firstRun).transparent setsUp resfn
      asInForce

/-- A result measured without slow clients answers for a run with slow clients.
The tests of this runner set up again, as those of the real runners do. -/
def slowClientsAdded : List (Op Nat) :=
  [.boundaryRun 100, .setattr "slow_clients_percent" 10, .boundaryRun 100]

/-- The result for 100 is judged by the rate 200 that was run in between. -/
def rateReturned : List (Op Nat) :=
  [.boundaryRun 100, .boundaryRun 200, .boundaryRun 100]

/-- Reuse of remembered results is noticed, whether or not the tests set up
again. -/
theorem cache_not_transparent :
    ¬ CacheTransparent true ∧ ¬ CacheTransparent false := by
  constructor
  · intro transparent
    have asInForce :=
      (start_remembers (fun _ => 0) "msg_rate" true).measuredAsInForce
        (transparent Nat (Options Nat) (Options Nat × Options Nat) id Prod.mk
          (fun _ => 0) "msg_rate" true slowClientsAdded)
    have sameOptions := asInForce.2.1
      (setattr (fun _ => 0) "msg_rate" 100) rfl
    have slowEq := congrFun sameOptions "slow_clients_percent"
    exact absurd slowEq (by decide)
  · intro transparent
    have asInForce :=
      (start_remembers (fun _ => 0) "msg_rate" true).measuredAsInForce
        (transparent Nat (Options Nat) (Options Nat × Options Nat) id Prod.mk
          (fun _ => 0) "msg_rate" true rateReturned)
    have sameOptions := asInForce.2.2.1
      (setattr (fun _ => 0) "msg_rate" 100) rfl
    have rateEq := congrFun sameOptions "msg_rate"
    exact absurd rateEq (by decide)

end Transparency

end BoundaryRunnerBase

end MScale
