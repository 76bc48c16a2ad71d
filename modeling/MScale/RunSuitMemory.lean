import MScale.RunSuitSchedule

/-!
# Searches that are answered from memory

The three searches below the highest rate start at the same value, and the
runner remembers the value that it measured last.  A search that ends with its
first measurement, because the test did not pass, leaves this value in memory.
So the next search is answered from memory, without a test of its own, although
it is about other clients.
-/

namespace MScale

namespace BoundaryRunnerBase

open StateErrors

variable {Val Res Answer : Type} {parts : TestParts Val Res} {arg1 : Val}

/-- Attempts that return have made a test and forgotten all results. -/
theorem attempts_returned {retries : Nat} {state final : State Val Res}
    {res : Res}
    (returned : attempts parts.runner arg1 retries state = .ok res final) :
    final.boundaryRunResult = ∅ ∧ state.calls.length < final.calls.length := by
  induction retries using Nat.strong_induction_on generalizing state with
  | h retries ih =>
      rcases attempts_cases parts.runner arg1 retries state with
        ⟨res, succeeded, ended⟩ | ⟨raised, ended⟩ | ⟨error, ended⟩
      · rw [ended] at returned
        cases returned
        have setsUp := TestParts.setsUp_of_ok succeeded
        simp [tested, setsUp]
      · rw [ended] at returned
        cases returned
      · rw [ended] at returned
        cases retries with
        | zero => cases returned
        | succ retries =>
            obtain ⟨forgotten, more⟩ :=
              ih retries (Nat.lt_succ_self retries) returned
            refine ⟨forgotten, ?_⟩
            rw [cleaned_calls, List.length_append] at more
            omega

variable [DecidableEq Val] {kept : Option Val} {before after : State Val Res}
  {resfn : Options Val → Res → Answer} {answer : Answer}

/-- The runner remembers a value alone, and has the given answer to it. -/
structure KeepsAnswer (resfn : Options Val → Res → Answer) (value : Val)
    (answer : Answer) (state : State Val Res) : Prop where
  keeps : Keeps (some value) state
  answers : ∃ res, state.boundaryRunResult.lookup value = some res ∧
    resfn state.boundaryOptions res = answer

/-- A value that is remembered is answered without a call. -/
theorem KeepsAnswer.boundaryRun (keepsAnswer : KeepsAnswer resfn arg1 answer before)
    (runner : Runner Val Res) :
    boundaryRun runner resfn arg1 before = .ok answer before := by
  obtain ⟨res, found, rfl⟩ := keepsAnswer.answers
  obtain ⟨res', found', returned⟩ := boundaryRun_remembered runner resfn
    ((keepsAnswer.keeps.known arg1).mpr rfl)
  rw [found] at found'
  cases found'
  exact returned

/-- Any other value is tested, and remembered with its answer. -/
theorem Keeps.boundaryRun_returned (keeps : Keeps kept before)
    (returned : boundaryRun parts.runner resfn arg1 before = .ok answer after) :
    KeepsAnswer resfn arg1 answer after ∧
      before.calls.length ≤ after.calls.length ∧
      (kept ≠ some arg1 → before.calls.length < after.calls.length) := by
  by_cases known : arg1 ∈ before.boundaryRunResult
  · have same : kept = some arg1 := (keeps.known arg1).mp known
    obtain ⟨res, found, remembered⟩ :=
      boundaryRun_remembered parts.runner resfn known
    rw [remembered] at returned
    cases returned
    rw [same] at keeps
    exact ⟨⟨keeps, res, found, rfl⟩, le_rfl, fun other => (other same).elim⟩
  · rw [boundaryRun_measured known] at returned
    cases ended : attempts parts.runner arg1 4 (setArg1 arg1 before) with
    | error error state =>
        rw [ended] at returned
        cases returned
    | ok res state =>
        rw [ended] at returned
        cases returned
        obtain ⟨forgotten, more⟩ := attempts_returned ended
        have same := attempts_sameOptions parts.runner arg1 4
          (setArg1 arg1 before)
        rw [ended] at same
        refine ⟨⟨⟨same.arg1name.trans keeps.arg1name, fun value => ?_⟩, res, ?_,
          rfl⟩, more.le, fun _ => more⟩
        · simp only [remember, forgotten, AList.mem_insert, Option.some.injEq]
          simp [AList.notMem_empty, eq_comm]
        · simp [remember]

end BoundaryRunnerBase

namespace RunSuitMaxRate

open BoundaryRunnerBase StateErrors Scanner LabelledRuns AskingLoop

section Runs

variable {suit : Suit} {parts : TestParts OptionValue Results}
  {kept : Option OptionValue} {before after : SuitState} {value : ℚ}
  {measurement : Measurement}

/-- The measurement of an answer of the result function. -/
def measurementOf (answer : Bool × PyNumber × PyNumber) : Measurement :=
  ⟨answer.1, answer.2.1.value, answer.2.2.value⟩

/-- The runner remembers the value alone, with the given measurement. -/
def KeepsMeasurement (suit : Suit) (value : ℚ) (measurement : Measurement)
    (runner : State OptionValue Results) : Prop :=
  ∃ answer, measurement = measurementOf answer ∧
    KeepsAnswer (resfn suit) (.number value) (.ok answer) runner

theorem onRunner_ok_iff {Value : Type}
    {method : BoundaryM OptionValue Results Value} {result : Value} :
    onRunner method before = .ok result after ↔
      method before.runner = .ok result after.runner ∧
        after.log = before.log := by
  unfold onRunner
  cases ended : method before.runner with
  | error error runner => simp
  | ok value runner =>
      constructor
      · intro same
        cases same
        exact ⟨rfl, rfl⟩
      · rintro ⟨same, log⟩
        cases same
        cases after
        cases log
        rfl

/-- A run that returns goes by the answer of the runner. -/
theorem run_ok_iff :
    run suit parts value before = .ok measurement after ↔
      ∃ answer, measurement = measurementOf answer ∧
        boundaryRun parts.runner (resfn suit) (.number value) before.runner =
          .ok (.ok answer) after.runner ∧
        after.log = before.log := by
  constructor
  · intro returned
    obtain ⟨answer, middle, ended, rest⟩ := bind_ok_iff.mp returned
    obtain ⟨runs, log⟩ := onRunner_ok_iff.mp ended
    cases answer with
    | error error => cases rest
    | ok answer =>
        cases rest
        exact ⟨answer, rfl, runs, log⟩
  · rintro ⟨answer, rfl, runs, log⟩
    exact bind_of_ok (onRunner_ok_iff.mpr ⟨runs, log⟩)

/-- A run of the value that is remembered. -/
theorem KeepsMeasurement.run
    (keeps : KeepsMeasurement suit value measurement before.runner) :
    run suit parts value before = .ok measurement before := by
  obtain ⟨answer, rfl, keepsAnswer⟩ := keeps
  exact run_ok_iff.mpr ⟨answer, rfl, keepsAnswer.boundaryRun parts.runner, rfl⟩

/-- After a run its value is remembered. -/
theorem keepsMeasurement_of_run (keeps : Keeps kept before.runner)
    (returned : run suit parts value before = .ok measurement after) :
    KeepsMeasurement suit value measurement after.runner ∧
      after.log = before.log ∧
      before.runner.calls.length ≤ after.runner.calls.length ∧
      (kept ≠ some (.number value) →
        before.runner.calls.length < after.runner.calls.length) := by
  obtain ⟨answer, rfl, runs, log⟩ := run_ok_iff.mp returned
  obtain ⟨keepsAnswer, more⟩ := keeps.boundaryRun_returned runs
  exact ⟨⟨answer, rfl, keepsAnswer⟩, log, more⟩

variable {steps : List (Step SuitState (ℚ × Measurement))}

/-- Runs that return leave the log alone, and the last one is remembered. -/
theorem runs_keep (asked : Run (Answers (run suit parts)) before steps after)
    (keeps : Keeps kept before.runner) :
    after.log = before.log ∧
      before.runner.calls.length ≤ after.runner.calls.length ∧
      ∀ step ∈ steps.getLast?,
        KeepsMeasurement suit step.label.1 step.label.2 after.runner := by
  induction asked generalizing kept with
  | stop => simp
  | @next before middle final label steps answered rest ih =>
      obtain ⟨remembered, log, more, _⟩ := keepsMeasurement_of_run keeps answered
      have keepsLabel : Keeps (some (.number label.1)) middle.runner := by
        obtain ⟨answer, _, keepsAnswer⟩ := remembered
        exact keepsAnswer.keeps
      obtain ⟨sameLog, grown, last⟩ := ih keepsLabel
      refine ⟨sameLog.trans log, more.trans grown, ?_⟩
      cases rest with
      | stop => simpa using remembered
      | next answered rest =>
          rw [List.getLast?_cons_cons]
          exact last

theorem runs_keeps (asked : Run (Answers (run suit parts)) before steps after)
    (keeps : Keeps kept before.runner) : ∃ kept, Keeps kept after.runner := by
  induction asked generalizing kept with
  | stop => exact ⟨kept, keeps⟩
  | next answered rest ih =>
      obtain ⟨answer, _, keepsAnswer⟩ :=
        (keepsMeasurement_of_run keeps answered).1
      exact ih keepsAnswer.keeps

/-- As long as the remembered value is asked for, the answer is the same. -/
theorem runs_of_remembered
    (asked : Run (Answers (run suit parts)) before steps after)
    (remembered : KeepsMeasurement suit value measurement before.runner)
    (same : ∀ step ∈ steps, step.label.1 = value) :
    after = before ∧ ∀ step ∈ steps, step.label.2 = measurement := by
  induction asked with
  | stop => simp
  | @next before middle final label steps answered rest ih =>
      obtain ⟨here, later⟩ := List.forall_mem_cons.mp same
      have repeated : run suit parts label.1 before =
          .ok measurement before := by
        rw [show label.1 = value from here]
        exact remembered.run
      have answeredSo : run suit parts label.1 before = .ok label.2 middle :=
        answered
      rw [repeated] at answeredSo
      cases answeredSo
      obtain ⟨unchanged, answers⟩ := ih remembered later
      exact ⟨unchanged, List.forall_mem_cons.mpr ⟨rfl, answers⟩⟩

end Runs

/-! ### One search -/

section Searches

variable {suit : Suit} {parts : TestParts OptionValue Results} {fuel : Nat}
  {kept : Option OptionValue} {before after : SuitState}
  {startValue expectedResult errorPercentage : ℚ} {result : SearchResult}

/-- What a search ends with if its first test does not pass. -/
def failedAtOnce : SearchResult :=
  ⟨false, 0, -1, 0⟩

/-- What the runner remembers after a search: the starting value with a test
that did not pass if the search ended at once, else another value. -/
structure Searched (suit : Suit) (startValue : ℚ) (result : SearchResult)
    (runner : State OptionValue Results) : Prop where
  atOnce : result.stepCnt = 0 → result = failedAtOnce ∧
    ∃ measurement, measurement.status = false ∧
      KeepsMeasurement suit startValue measurement runner
  further : result.stepCnt ≠ 0 →
    ∃ kept, Keeps kept runner ∧ kept ≠ some (.number startValue)

/-- The runs of a search, with their labels as the search sees them. -/
structure Searching (suit : Suit) (parts : TestParts OptionValue Results)
    (startValue expectedResult errorPercentage : ℚ) (before : SuitState)
    (steps : List (Step SuitState (ℚ × Measurement)))
    (answers : Nat → Measurement) (visited : List SearchState)
    (exit : SearchExit) (after : SuitState) : Prop where
  asked : Run (Answers (run suit parts)) before steps after
  search : SearchRun (fun call _ => answers call) expectedResult errorPercentage
    (searchStart startValue) visited exit
  labels : steps.map Step.label =
    visited.map fun loop => (loop.value, answers loop.cnt)

section Searching

variable {steps : List (Step SuitState (ℚ × Measurement))}
  {answers : Nat → Measurement} {visited : List SearchState}
  {exit : SearchExit}

/-- The first run of a search is at its starting value. -/
theorem Searching.first (searching : Searching suit parts startValue
      expectedResult errorPercentage before steps answers visited exit after) :
    ∃ middle rest, steps = ⟨before, (startValue, answers 0), middle⟩ :: rest ∧
      run suit parts startValue before = .ok (answers 0) middle ∧
      Run (Answers (run suit parts)) middle rest after := by
  obtain ⟨others, rfl⟩ := visited_eq_cons searching.search
  have labels := searching.labels
  cases searching.asked with
  | stop => cases labels
  | next answered rest =>
      obtain ⟨label, _⟩ := List.cons.inj labels
      cases label
      exact ⟨_, _, rfl, answered, rest⟩

/-- A search whose first test does not pass is its only run. -/
theorem Searching.of_failed (searching : Searching suit parts startValue
      expectedResult errorPercentage before steps answers visited exit after)
    (failed : (answers 0).status = false) :
    run suit parts startValue before = .ok (answers 0) after ∧
      exit.result = failedAtOnce := by
  obtain ⟨rfl, rfl⟩ := search_fails failed searching.search
  obtain ⟨middle, rest, rfl, answered, later⟩ := searching.first
  have labels := searching.labels
  obtain ⟨_, rfl⟩ : _ ∧ rest = [] := by simpa using labels
  cases later
  exact ⟨answered, by decide⟩

/-- A search at zero does not end if its first test passes, as zero is
remembered then. -/
theorem Searching.nonzero_of_passed (searching : Searching suit parts startValue
      expectedResult errorPercentage before steps answers visited exit after)
    (keeps : Keeps kept before.runner) (passed : (answers 0).status = true) :
    startValue ≠ 0 := by
  rintro rfl
  obtain ⟨middle, rest, rfl, answered, later⟩ := searching.first
  have zero : (searchStart 0).value = 0 := rfl
  have labels := searching.labels
  have values : ∀ step ∈ rest, step.label.1 = 0 := by
    intro step member
    have within : step.label ∈ visited.map fun loop =>
        (loop.value, answers loop.cnt) := by
      rw [← labels]
      exact List.mem_map_of_mem (List.mem_cons_of_mem _ member)
    obtain ⟨loop, loopMember, labelEq⟩ := List.mem_map.mp within
    rw [← labelEq]
    exact search_zero_value zero rfl searching.search loop loopMember
  obtain ⟨_, same⟩ := runs_of_remembered later
    (keepsMeasurement_of_run keeps answered).1 values
  obtain ⟨loop, member, failed⟩ :=
    search_zero_goes_on zero rfl searching.search
  have within : (loop.value, answers loop.cnt) ∈ List.map Step.label
      (⟨before, (0, answers 0), middle⟩ :: rest) := by
    rw [labels]
    exact List.mem_map_of_mem member
  obtain ⟨step, stepMember, labelEq⟩ := List.mem_map.mp within
  have answer : answers loop.cnt = answers 0 := by
    rw [show answers loop.cnt = step.label.2 from (congrArg Prod.snd labelEq).symm]
    rcases List.mem_cons.mp stepMember with rfl | stepMember
    · rfl
    · exact same step stepMember
  rw [measured, answer, passed] at failed
  cases failed

/-- A search whose first test passes remembers another value at its end. -/
theorem Searching.of_passed (searching : Searching suit parts startValue
      expectedResult errorPercentage before steps answers visited exit after)
    (positive : 0 ≤ errorPercentage) (small : errorPercentage ≤ 1)
    (keeps : Keeps kept before.runner) (passed : (answers 0).status = true) :
    exit.cnt ≠ 0 ∧
      ∃ kept, Keeps kept after.runner ∧ kept ≠ some (.number startValue) := by
  have nonzero := searching.nonzero_of_passed keeps passed
  obtain ⟨others, rfl, nonempty, goesOn, continued⟩ :=
    search_passes passed positive small searching.search
  refine ⟨goesOn, ?_⟩
  have lastLabel : (steps.map Step.label).getLast? =
      some ((others.getLast nonempty).value,
        answers (others.getLast nonempty).cnt) := by
    rw [searching.labels, List.getLast?_map,
      List.getLast?_cons_of_ne_nil nonempty,
      List.getLast?_eq_some_getLast nonempty]
    rfl
  rw [List.getLast?_map, Option.map_eq_some_iff] at lastLabel
  obtain ⟨step, isLast, labelEq⟩ := lastLabel
  obtain ⟨answer, _, keepsAnswer⟩ :=
    (runs_keep searching.asked keeps).2.2 step isLast
  refine ⟨_, keepsAnswer.keeps, fun same => ?_⟩
  rw [labelEq] at same
  have value := OptionValue.number.inj (Option.some.inj same)
  exact search_leaves nonzero _ continued _ (List.getLast_mem nonempty) value

end Searching

/-- A search leaves the log alone.  It makes a test unless its starting value is
remembered, and none if it is remembered with a test that did not pass. -/
theorem searchWith_returned (positive : 0 ≤ errorPercentage)
    (small : errorPercentage ≤ 1) (keeps : Keeps kept before.runner)
    (returned : searchWith (run suit parts) .unfinished startValue
      expectedResult errorPercentage fuel before = .ok result after) :
    after.log = before.log ∧ Searched suit startValue result after.runner ∧
      (kept ≠ some (.number startValue) →
        before.runner.calls.length < after.runner.calls.length) ∧
      ∀ measurement, measurement.status = false →
        KeepsMeasurement suit startValue measurement before.runner →
        after = before ∧ result = failedAtOnce := by
  obtain ⟨steps, answers, visited, exit, asked, search, labels, rfl⟩ :=
    searchWith_asks returned
  have searching : Searching suit parts startValue expectedResult
      errorPercentage before steps answers visited exit after :=
    ⟨asked, search, labels⟩
  obtain ⟨middle, rest, _, answered, later⟩ := searching.first
  obtain ⟨remembered, _, _, more⟩ := keepsMeasurement_of_run keeps answered
  refine ⟨(runs_keep asked keeps).1, ?_, ?_, ?_⟩
  · cases status : (answers 0).status with
    | false =>
        obtain ⟨only, exitEq⟩ := searching.of_failed status
        have kept := (keepsMeasurement_of_run keeps only).1
        refine ⟨fun _ => ⟨exitEq, answers 0, status, kept⟩, fun further => ?_⟩
        rw [exitEq] at further
        exact (further rfl).elim
    | true =>
        obtain ⟨goesOn, other⟩ :=
          searching.of_passed positive small keeps status
        exact ⟨fun atOnce => (goesOn atOnce).elim, fun _ => other⟩
  · intro other
    have keepsStart : Keeps (some (.number startValue)) middle.runner := by
      obtain ⟨answer, _, keepsAnswer⟩ := remembered
      exact keepsAnswer.keeps
    exact (more other).trans_le (runs_keep later keepsStart).2.1
  · intro measurement failed known
    have repeated : run suit parts startValue before =
        .ok measurement before := known.run
    rw [answered] at repeated
    cases repeated
    obtain ⟨only, exitEq⟩ := searching.of_failed failed
    rw [answered] at only
    cases only
    exact ⟨rfl, exitEq⟩

end Searches

/-! ### The log of a suite -/

/-- Two lines of the log that report searches below the same highest rate: the
second search made no test exactly if the first ended at once, and then it found
the same. -/
def FollowsFrom (line later : Found) : Prop :=
  ∀ first second, line.result = .inr first → later.result = .inr second →
    (later.calls = line.calls ↔ first.stepCnt = 0) ∧
      (first.stepCnt = 0 → second = first)

/-- The log so far, and a runner that remembers one value at most. -/
structure Sound (state : SuitState) : Prop where
  log : state.log.IsChain FollowsFrom
  keeps : ∃ kept, Keeps kept state.runner

/-- Between the searches that start at the given value: no test was made since
the last line of the log, and the runner remembers what its search left. -/
structure Between (suit : Suit) (startValue : ℚ) (state : SuitState) : Prop
    extends Sound state where
  last : ∀ line ∈ state.log.getLast?, ∀ result, line.result = .inr result →
    line.calls = state.runner.calls.length ∧
      Searched suit startValue result state.runner

section Log

variable {suit : Suit} {apps : Applications}
  {parts : TestParts OptionValue Results} {fuel : Nat}

/-- The log stays as it is. -/
def SameLog (before after : SuitState) : Prop :=
  after.log = before.log

theorem onRunner_sameLog {Value : Type}
    (method : BoundaryM OptionValue Results Value) :
    LeadsAlong SameLog (onRunner method) := by
  intro state
  unfold onRunner
  cases method state.runner <;> rfl

theorem asking_sameLog {Loop Result : Type} (value : Loop → ℚ)
    (goBy : Measurement → Loop → Result ⊕ Loop) (loop : Loop) :
    LeadsAlong SameLog
      (repeatUntil .unfinished
        (AskingLoop.body (run suit parts) value goBy) fuel loop) := by
  have refl : ∀ state, SameLog state state := fun _ => rfl
  have trans : ∀ first second third, SameLog first second →
      SameLog second third → SameLog first third :=
    fun _ _ _ same later => Eq.trans later same
  refine leadsAlong_repeatUntil refl trans (fun loop => ?_) fuel loop
  refine LeadsAlong.bind trans ?_ fun answer => leadsAlong_pure refl _
  refine LeadsAlong.bind trans (onRunner_sameLog _) fun answer => ?_
  cases answer with
  | ok answer => exact leadsAlong_pure refl _
  | error error => exact leadsAlong_throw refl _

theorem asking_failed {Loop Result : Type} {value : Loop → ℚ}
    {goBy : Measurement → Loop → Result ⊕ Loop} {loop : Loop}
    {error : SuitStop} {state final : SuitState}
    (failed : repeatUntil .unfinished
      (AskingLoop.body (run suit parts) value goBy) fuel loop state =
        .error error final) :
    final.log = state.log := by
  have log : SameLog state (stateAfter (repeatUntil .unfinished
      (AskingLoop.body (run suit parts) value goBy) fuel loop state)) :=
    asking_sameLog value goBy loop state
  rw [failed] at log
  exact log

/-- Lines are appended to the log. -/
theorem isChain_concat {log : List Found} {line : Found}
    (chain : log.IsChain FollowsFrom)
    (follows : ∀ earlier ∈ log.getLast?, FollowsFrom earlier line) :
    (log ++ [line]).IsChain FollowsFrom := by
  refine chain.append (List.isChain_singleton line) ?_
  intro earlier isLast later isFirst
  rw [List.head?_cons, Option.mem_some_iff] at isFirst
  subst isFirst
  exact follows earlier isLast

theorem suitErrorPercentage : (0 : ℚ) ≤ 1 / 100 ∧ (1 / 100 : ℚ) ≤ 1 := by
  norm_num

/-- A search follows from the line of the search before it. -/
theorem Searched.followsFrom {startValue : ℚ} {before after : SuitState}
    {first second : SearchResult}
    (earlier : Searched suit startValue first before.runner)
    (returned : searchWith (run suit parts) .unfinished startValue (1 / 2)
      (1 / 100) fuel before = .ok second after) :
    (after.runner.calls.length = before.runner.calls.length ↔
        first.stepCnt = 0) ∧
      (first.stepCnt = 0 → second = first) := by
  obtain ⟨positive, small⟩ := suitErrorPercentage
  by_cases atOnce : first.stepCnt = 0
  · obtain ⟨firstEq, measurement, failed, known⟩ := earlier.atOnce atOnce
    have keeps : Keeps (some (.number startValue)) before.runner := by
      obtain ⟨answer, _, keepsAnswer⟩ := known
      exact keepsAnswer.keeps
    obtain ⟨unchanged, secondEq⟩ :=
      (searchWith_returned positive small keeps returned).2.2.2 measurement
        failed known
    rw [unchanged]
    exact ⟨iff_of_true rfl atOnce, fun _ => secondEq.trans firstEq.symm⟩
  · obtain ⟨kept, keeps, other⟩ := earlier.further atOnce
    have more := (searchWith_returned positive small keeps returned).2.2.1 other
    exact ⟨iff_of_false more.ne' atOnce, fun same => (atOnce same).elim⟩

theorem Searched.keeps {startValue : ℚ} {runner : State OptionValue Results}
    {result : SearchResult} (searched : Searched suit startValue result runner) :
    ∃ kept, Keeps kept runner := by
  by_cases atOnce : result.stepCnt = 0
  · obtain ⟨_, measurement, _, answer, _, keepsAnswer⟩ := searched.atOnce atOnce
    exact ⟨_, keepsAnswer.keeps⟩
  · obtain ⟨kept, keeps, _⟩ := searched.further atOnce
    exact ⟨kept, keeps⟩

theorem searchBelow_ensures (clientCount : Nat) (search : Search) (rate : ℚ) :
    Ensures (Between suit (rate / 2))
      (searchBelow suit parts fuel clientCount search rate)
      (fun _ => Between suit (rate / 2))
      fun state => state.log.IsChain FollowsFrom := by
  intro state between
  constructor
  · intro result final returned
    obtain ⟨result', middle, searched, logged⟩ := bind_ok_iff.mp returned
    cases logged
    obtain ⟨kept, keeps⟩ := between.keeps
    obtain ⟨positive, small⟩ := suitErrorPercentage
    obtain ⟨log, memory, _, _⟩ :=
      searchWith_returned positive small keeps searched
    refine ⟨⟨?_, memory.keeps⟩, ?_⟩
    · refine isChain_concat (log ▸ between.log) fun line isLast => ?_
      rw [log] at isLast
      rintro first second firstEq secondEq
      cases secondEq
      obtain ⟨calls, earlier⟩ := between.last line isLast first firstEq
      rw [calls]
      exact earlier.followsFrom searched
    · intro line isLast result'' lineEq
      simp only [List.getLast?_append, List.getLast?_singleton, Option.some_or,
        Option.mem_some_iff] at isLast
      subst isLast
      cases lineEq
      exact ⟨rfl, memory⟩
  · intro error final failed
    rcases bind_error_iff.mp failed with failed | ⟨result, middle, _, failed⟩
    · rcases bind_error_iff.mp failed with failed | ⟨exit, middle, _, failed⟩
      · rw [asking_failed failed]
        exact between.log
      · cases failed
    · cases failed

/-- The search for the highest rate reports no search below it. -/
theorem findMaxRate_ensures (clientCount : Nat) :
    Ensures Sound (findMaxRate suit parts fuel clientCount)
      (fun found => Between suit (found.1 / 2))
      fun state => state.log.IsChain FollowsFrom := by
  intro state sound
  constructor
  · intro found final returned
    obtain ⟨ending, middle, searched, reported⟩ := bind_ok_iff.mp returned
    obtain ⟨steps, answers, visited, asked, _, _⟩ :=
      findMaxRateWith_asks searched
    obtain ⟨kept, keeps⟩ := sound.keeps
    have log := (runs_keep asked keeps).1
    have remembers := runs_keeps asked keeps
    split at reported
    · cases reported
      refine ⟨⟨?_, remembers⟩, ?_⟩
      · refine isChain_concat (log ▸ sound.log) fun line isLast => ?_
        rintro first second firstEq secondEq
        cases secondEq
      · intro line isLast result lineEq
        simp only [List.getLast?_append, List.getLast?_singleton,
          Option.some_or, Option.mem_some_iff] at isLast
        subst isLast
        cases lineEq
    · cases reported
    · cases reported
  · intro error final failed
    rcases bind_error_iff.mp failed with failed | ⟨ending, middle, searched, failed⟩
    · rw [asking_failed failed]
      exact sound.log
    · obtain ⟨steps, answers, visited, asked, _, _⟩ :=
        findMaxRateWith_asks searched
      obtain ⟨kept, keeps⟩ := sound.keeps
      have log := (runs_keep asked keeps).1
      split at failed
      · cases failed
      · cases failed
        exact log ▸ sound.log
      · cases failed
        exact log ▸ sound.log

theorem setOption_sound (name : String) (value : OptionValue) :
    Ensures Sound (setOption name value) (fun _ => Sound)
      fun state => state.log.IsChain FollowsFrom := by
  refine ensures_modify fun state sound => ⟨sound.log, ?_⟩
  obtain ⟨kept, keeps⟩ := sound.keeps
  exact ⟨kept, keeps.arg1name, keeps.known⟩

theorem setOptions_sound (options : List (String × OptionValue)) :
    Ensures Sound (setOptions options) (fun _ => Sound)
      fun state => state.log.IsChain FollowsFrom := by
  induction options with
  | nil => exact ensures_pure fun _ sound => sound
  | cons setting options ih => exact (setOption_sound _ _).bind fun _ => ih

theorem resfn_setattr {name : String} (untuned : "msg_rate" ≠ name)
    (options : Options OptionValue) (value : OptionValue) (res : Results) :
    resfn suit (setattr options name value) res = resfn suit options res := by
  rw [resfn, resfn, setattr, Function.update_of_ne untuned]

/-- Options that are not tuned do not change what is remembered. -/
theorem Searched.setOption {startValue : ℚ} {name : String}
    {result : SearchResult} {runner : State OptionValue Results}
    (searched : Searched suit startValue result runner)
    (untuned : "msg_rate" ≠ name) (value : OptionValue) :
    Searched suit startValue result
      { runner with
        boundaryOptions := setattr runner.boundaryOptions name value } where
  atOnce ended := by
    obtain ⟨resultEq, measurement, failed, answer, measurementEq, keeps, res,
      found, answers⟩ := searched.atOnce ended
    refine ⟨resultEq, measurement, failed, answer, measurementEq,
      ⟨keeps.arg1name, keeps.known⟩, res, found, ?_⟩
    rw [← answers]
    exact resfn_setattr untuned _ _ _
  further goesOn := by
    obtain ⟨kept, keeps, other⟩ := searched.further goesOn
    exact ⟨kept, ⟨keeps.arg1name, keeps.known⟩, other⟩

theorem setOption_between {startValue : ℚ} {name : String} (value : OptionValue)
    (untuned : "msg_rate" ≠ name) :
    Ensures (Between suit startValue) (setOption name value)
      (fun _ => Between suit startValue)
      fun state => state.log.IsChain FollowsFrom := by
  refine ensures_modify fun state between => ⟨⟨between.log, ?_⟩, ?_⟩
  · obtain ⟨kept, keeps⟩ := between.keeps
    exact ⟨kept, keeps.arg1name, keeps.known⟩
  · intro line isLast result lineEq
    obtain ⟨calls, searched⟩ := between.last line isLast result lineEq
    exact ⟨calls, searched.setOption untuned value⟩

theorem findNoDropRate_ensures (clientCount : Nat) (rate drop : ℚ) :
    Ensures (Between suit (rate / 2))
      (findNoDropRate suit parts fuel clientCount rate drop)
      (fun _ => Between suit (rate / 2))
      fun state => state.log.IsChain FollowsFrom := by
  unfold findNoDropRate
  split
  · exact (searchBelow_ensures _ _ _).bind fun _ =>
      ensures_pure fun _ between => between
  · exact ensures_pure fun _ between => between

theorem findFlakyRates_ensures (clientCount : Nat) (rate noDropRate : ℚ) :
    Ensures (Between suit (rate / 2))
      (findFlakyRates suit parts fuel clientCount rate noDropRate)
      (fun _ => Between suit (rate / 2))
      fun state => state.log.IsChain FollowsFrom := by
  unfold findFlakyRates
  refine (setOption_between _ (by decide)).bind fun _ => ?_
  refine (setOption_between _ (by decide)).bind fun _ => ?_
  refine (setOption_between _ (by decide)).bind fun _ => ?_
  refine (setOption_between _ (by decide)).bind fun _ => ?_
  refine (searchBelow_ensures _ _ _).bind fun _ => ?_
  refine (setOption_between _ (by decide)).bind fun _ => ?_
  refine (setOption_between _ (by decide)).bind fun _ => ?_
  refine (setOption_between _ (by decide)).bind fun _ => ?_
  refine (setOption_between _ (by decide)).bind fun _ => ?_
  exact (searchBelow_ensures _ _ _).bind fun _ =>
    ensures_pure fun _ between => between

theorem liftExcept_ensures {Before : SuitState → Prop}
    (outcome : Except PyError Unit)
    (holds : ∀ state, Before state → state.log.IsChain FollowsFrom) :
    Ensures Before (liftExcept outcome) (fun _ => Before)
      fun state => state.log.IsChain FollowsFrom := by
  cases outcome with
  | ok done => exact ensures_pure fun _ before => before
  | error error => exact ensures_throw holds

theorem prepareRunner_ensures (first : Bool) :
    Ensures Sound (prepareRunner apps first) (fun _ => Sound)
      fun state => state.log.IsChain FollowsFrom := by
  intro state sound
  rw [prepareRunner, bind_of_ok (get_ok state)]
  cases first with
  | false => exact liftExcept_ensures _ (fun _ sound => sound.log) state sound
  | true =>
      have constructs : Ensures (fun other => other = state ∧ Sound other)
          (set { state with
            runner := constructed state.runner.boundaryOptions false } :
            SuitM PUnit)
          (fun _ => Sound) fun other => other.log.IsChain FollowsFrom := by
        rintro other ⟨rfl, sound⟩
        constructor
        · intro value final ended
          cases ended
          exact ⟨sound.log, none, constructed_keeps _ _⟩
        · intro error final impossible
          cases impossible
      have started : Ensures (fun other => other = state ∧ Sound other)
          (liftExcept (apps.construct state.runner.boundaryOptions))
          (fun _ other => other = state ∧ Sound other)
          fun other => other.log.IsChain FollowsFrom :=
        liftExcept_ensures _ fun other both => both.2.log
      have whole := started.bind fun _ => constructs.bind fun _ =>
        liftExcept_ensures apps.startAppserver fun _ sound => sound.log
      exact whole state ⟨rfl, sound⟩

theorem searchClients_ensures (first : Bool) (clientCount : Nat) :
    Ensures Sound (searchClients suit apps parts fuel first clientCount)
      (fun _ => Sound) fun state => state.log.IsChain FollowsFrom := by
  refine (setOption_sound _ _).bind fun _ => ?_
  refine (setOptions_sound _).bind fun _ => ?_
  refine (prepareRunner_ensures first).bind fun _ => ?_
  refine (findMaxRate_ensures clientCount).bind fun found => ?_
  refine (findNoDropRate_ensures _ _ _).bind fun noDropRate => ?_
  have read : Ensures (Between suit (found.1 / 2)) (getOption "flaky_clients")
      (fun _ => Between suit (found.1 / 2))
      fun state => state.log.IsChain FollowsFrom := by
    intro state between
    constructor
    · intro value final ended
      cases ended
      exact between
    · intro error final impossible
      cases impossible
  refine read.bind fun flaky => ?_
  split
  · exact (findFlakyRates_ensures _ _ _).imp (fun _ between => between)
      fun _ _ between => between.toSound
  · exact ensures_pure fun _ between => between.toSound

theorem searchAll_ensures (first : Bool) (clientSet : List Nat) :
    Ensures Sound (searchAll suit apps parts fuel first clientSet)
      (fun _ => Sound) fun state => state.log.IsChain FollowsFrom := by
  induction clientSet generalizing first with
  | nil => exact ensures_pure fun _ sound => sound
  | cons clientCount clientSet ih =>
      exact (searchClients_ensures first clientCount).bind fun _ => ih false

end Log

/-- In every run of a suite, finished or not, of two searches below the highest
rate that are logged one after the other, the second makes no test exactly if
the first ended with its first test; and then it reports the same. -/
theorem runSuit_log_follows (suit : Suit) (apps : Applications)
    (parts : TestParts OptionValue Results) (fuel : Nat)
    (options : Options OptionValue) :
    (stateAfter (runSuit suit apps parts fuel
      (suitStart options))).log.IsChain FollowsFrom := by
  have deleted : Ensures Sound (onRunner (deleteAllLaunchedApps parts))
      (fun _ state => state.log.IsChain FollowsFrom)
      fun state => state.log.IsChain FollowsFrom := by
    intro state sound
    have log : (stateAfter (onRunner (deleteAllLaunchedApps parts) state)).log =
        state.log := onRunner_sameLog _ state
    constructor
    · intro value final ended
      rw [ended] at log
      exact log ▸ sound.log
    · intro error final failed
      rw [failed] at log
      exact log ▸ sound.log
  have whole : Ensures Sound (runSuit suit apps parts fuel)
      (fun _ state => state.log.IsChain FollowsFrom)
      fun state => state.log.IsChain FollowsFrom := by
    refine (setOptions_sound _).bind fun _ => ?_
    refine (searchAll_ensures true suit.clientSet).bind fun _ => ?_
    exact deleted.bind fun _ => liftExcept_ensures _ fun _ chain => chain
  exact whole.stateAfter ⟨List.isChain_nil, none, constructed_keeps _ _⟩

end RunSuitMaxRate

end MScale
