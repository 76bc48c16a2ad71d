import MScale.MarkedUpdates
import MScale.RunTestRMQGroups
import Mathlib.Tactic.Linarith

/-!
# Repeated launches of the RabbitMQ test

`launch_rmq_sub` writes the number of subscriber tasks back into
`options.total_sub_apps`, from which the next launch computes it again.  This
file determines the histories of `boundary_run` calls in which every launch of
the test has the same size.
-/

namespace MScale

namespace RunTestRMQ

open StateErrors LabelledRuns HydraBase BoundaryRunnerBase MarkedUpdates

variable {Res : Type} {setting : Setting Res}

/-! ## The parts of a launch -/

/-- `run_test` up to the call of `launch_rmq_sub`. -/
def launchUntilSub (setting : Setting Res) (options : Options ℚ) :
    MasterM Unit := do
  deleteAllLaunchedApps setting
  launchRmqPub setting options

/-- `launch_rmq_sub` up to the call of `scale_sub_app`, with the count that
this passes to `scale_app`. -/
def createSub (setting : Setting Res) : MasterM Int := do
  let master ← get
  let totalSubApps ← floorDiv master.totalSubApps setting.appsInGroup
  modify fun master => { master with totalSubApps }
  match master.haPub with
  | some (pubIp, _, _) =>
      let _ ← createHydraApp setting.backend rmqsub "hydra.rmqtest.rmq_sub.run10"
        pubIp (1 / 100) 32 (some [0, 0, 0, 0, 0, 0, 0, 0, 0, 0])
        (some (clusterConstraints setting 1))
      pure totalSubApps
  | none => throw (.raised .attributeError)

theorem launch_eq (options : Options ℚ) :
    launch setting options =
      (do
        launchUntilSub setting options
        launchRmqSub setting) := by
  simp only [launch, launchUntilSub, bind_assoc]

theorem launchRmqSub_eq :
    launchRmqSub setting =
      (do
        let totalSubApps ← createSub setting
        scaleApp setting.backend setting.fuel rmqsub totalSubApps 1 300 500) := by
  simp only [launchRmqSub, createSub, bind_assoc]
  congr
  funext master
  congr
  funext totalSubApps
  congr
  funext _
  cases master.haPub with
  | none => rfl
  | some haPub => simp only [bind_assoc, pure_bind]

/-- The call is a `run_test` that comes to launch the subscribers. -/
def LaunchesSub (setting : Setting Res) (master : Master) : TestCall ℚ → Prop
  | .runTest options =>
      ∃ after, launchUntilSub setting options master = .ok () after
  | .rerunTest _ => False
  | .deleteAllLaunchedApps => False

/-- The call is a `run_test` that comes to scale the subscribers to `count`. -/
def ScalesTo (setting : Setting Res) (master : Master) (count : Int) :
    TestCall ℚ → Prop
  | .runTest options =>
      ∃ after, (do launchUntilSub setting options; createSub setting) master =
        .ok count after
  | .rerunTest _ => False
  | .deleteAllLaunchedApps => False

/-! ## The option that a launch changes -/

/-- The number of subscriber tasks is the same afterwards. -/
def KeepsTotal (before after : Master) : Prop :=
  after.totalSubApps = before.totalSubApps

theorem KeepsTotal.refl (master : Master) : KeepsTotal master master :=
  rfl

theorem KeepsTotal.trans (first second third : Master)
    (kept : KeepsTotal first second) (keptToo : KeepsTotal second third) :
    KeepsTotal first third :=
  Eq.trans keptToo kept

theorem onHydra_keepsTotal {Value : Type} (program : HydraM Value) :
    LeadsAlong KeepsTotal (onHydra program) := by
  intro master
  rw [KeepsTotal, onHydra, stateAfter_onPart]

theorem launchUntilSub_keepsTotal (setting : Setting Res)
    (options : Options ℚ) :
    LeadsAlong KeepsTotal (launchUntilSub setting options) := by
  apply (onHydra_keepsTotal _).bind KeepsTotal.trans
  intro _
  apply (onHydra_keepsTotal _).bind KeepsTotal.trans
  intro _
  apply (onHydra_keepsTotal _).bind KeepsTotal.trans
  intro ipm
  split
  · exact fun master => KeepsTotal.refl master
  · exact leadsAlong_throw KeepsTotal.refl _

theorem launchUntilSub_total {options : Options ℚ} {master after : Master}
    (launched : launchUntilSub setting options master = .ok () after) :
    after.totalSubApps = master.totalSubApps := by
  have kept := launchUntilSub_keepsTotal setting options master
  rw [launched] at kept
  exact kept

theorem rerunTest_keepsTotal (options : Options ℚ) :
    LeadsAlong KeepsTotal (rerunTest setting options) := by
  apply LeadsAlong.bind KeepsTotal.trans
  · apply LeadsAlong.bind KeepsTotal.trans
    · exact KeepsTotal.refl
    · intro master
      split
      · exact onHydra_keepsTotal _
      · exact leadsAlong_throw KeepsTotal.refl _
  · intro _
    apply (onHydra_keepsTotal _).bind KeepsTotal.trans
    exact fun groups => onHydra_keepsTotal _

theorem floorDiv_ok {dividend divisor : Int} (nonzero : divisor ≠ 0)
    (master : Master) :
    floorDiv dividend divisor master = .ok (dividend.fdiv divisor) master := by
  rw [floorDiv, if_neg nonzero]
  rfl

theorem createSub_total (nonzero : setting.appsInGroup ≠ 0)
    (master : Master) :
    (stateAfter (createSub setting master)).totalSubApps =
      master.totalSubApps.fdiv setting.appsInGroup := by
  rw [createSub, bind_of_ok (get_ok master), bind_of_ok (floorDiv_ok nonzero _),
    bind_of_ok (modify_ok _ _)]
  cases master.haPub with
  | none => rfl
  | some haPub =>
      exact (onHydra_keepsTotal _).bind KeepsTotal.trans
        (fun _ => leadsAlong_pure KeepsTotal.refl _) _

/-- A launch of the subscribers divides their number, however it ends. -/
theorem launchRmqSub_total (nonzero : setting.appsInGroup ≠ 0)
    (master : Master) :
    (stateAfter (launchRmqSub setting master)).totalSubApps =
      master.totalSubApps.fdiv setting.appsInGroup := by
  have scaled : KeepsTotal (stateAfter (createSub setting master))
      (stateAfter (launchRmqSub setting master)) := by
    rw [launchRmqSub_eq]
    exact leads_bind KeepsTotal.refl _ (fun _ => onHydra_keepsTotal _) master
  rw [scaled, createSub_total nonzero master]

theorem createSub_ok (nonzero : setting.appsInGroup ≠ 0) {master after : Master}
    {count : Int} (created : createSub setting master = .ok count after) :
    count = master.totalSubApps.fdiv setting.appsInGroup := by
  rw [createSub, bind_of_ok (get_ok master), bind_of_ok (floorDiv_ok nonzero _),
    bind_of_ok (modify_ok _ _)] at created
  cases found : master.haPub with
  | none =>
      rw [found] at created
      cases created
  | some haPub =>
      rw [found] at created
      obtain ⟨_, _, _, returned⟩ := bind_ok_iff.mp created
      cases returned
      rfl

/-- A `run_test` that scales launches the subscribers, and scales them to the
quotient. -/
theorem ScalesTo.launches (nonzero : setting.appsInGroup ≠ 0) {master : Master}
    {count : Int} {call : TestCall ℚ}
    (scales : ScalesTo setting master count call) :
    LaunchesSub setting master call ∧
      count = master.totalSubApps.fdiv setting.appsInGroup := by
  cases call with
  | runTest options =>
      obtain ⟨after, reached⟩ := scales
      obtain ⟨_, middle, launched, created⟩ := bind_ok_iff.mp reached
      refine ⟨⟨middle, launched⟩, ?_⟩
      rw [createSub_ok nonzero created, launchUntilSub_total launched]
  | rerunTest options => exact scales.elim
  | deleteAllLaunchedApps => exact scales.elim

/-- Of the calls, exactly the launches of the subscribers change the option:
they divide it. -/
theorem perform_updates (nonzero : setting.appsInGroup ≠ 0) :
    Updates (fun master call => stateAfter (perform setting call master))
      Master.totalSubApps (LaunchesSub setting)
      (·.fdiv setting.appsInGroup) where
  changed := by
    intro master call launches
    cases call with
    | runTest options =>
        obtain ⟨after, launched⟩ := launches
        have divided := launchRmqSub_total nonzero after
        have rerun : KeepsTotal (stateAfter (launchRmqSub setting after))
            (stateAfter ((launchRmqSub setting >>= fun _ =>
              rerunTest setting options) after)) :=
          leads_bind KeepsTotal.refl _ (fun _ => rerunTest_keepsTotal options)
            after
        rw [perform, stateAfter_discard, runTest, launch_eq, bind_assoc,
          bind_of_ok launched, rerun, divided, launchUntilSub_total launched]
    | rerunTest options => exact launches.elim
    | deleteAllLaunchedApps => exact launches.elim
  kept := by
    intro master call without
    cases call with
    | runTest options =>
        have kept := launchUntilSub_keepsTotal setting options master
        cases launched : launchUntilSub setting options master with
        | ok _ after => exact (without ⟨after, launched⟩).elim
        | error stop after =>
            rw [launched] at kept
            rw [perform, stateAfter_discard, runTest, launch_eq, bind_assoc,
              bind_of_error launched]
            exact kept
    | rerunTest options =>
        rw [perform, stateAfter_discard]
        exact rerunTest_keepsTotal options master
    | deleteAllLaunchedApps => exact onHydra_keepsTotal _ master

/-! ## Launches in a history -/

/-- A quotient that is not divided further. -/
theorem fdiv_eq_self_iff {number divisor : Int} (positive : 0 < divisor) :
    number.fdiv divisor = number ↔
      divisor = 1 ∨ number = 0 ∨ number = -1 := by
  rw [Int.fdiv_eq_ediv_of_nonneg number positive.le]
  constructor
  · intro same
    have least := Int.ediv_mul_le number positive.ne'
    have most := Int.lt_ediv_add_one_mul_self number positive
    rw [same] at least most
    by_contra other
    push Not at other
    obtain ⟨notOne, notZero, notMinusOne⟩ := other
    have larger : 2 ≤ divisor := by omega
    rcases lt_or_gt_of_ne notZero with negative | isPositive
    · have below : number + 1 ≤ -1 := by omega
      nlinarith
    · nlinarith
  · rintro (rfl | rfl | rfl)
    · exact Int.ediv_one number
    · exact Int.zero_ediv divisor
    · rw [Int.neg_one_ediv, Int.sign_eq_one_of_pos positive]

/-- A history of `boundary_run` calls in which every call of a test ended. -/
structure LaunchHistory (setting : Setting Res) (start : Master)
    {Answer : Type} (resfn : Options ℚ → Res → Answer) (options : Options ℚ)
    (runtest : Bool) where
  steps : List (Step (State ℚ Res) ℚ)
  final : State ℚ Res
  run : Run (BoundaryStep (runner setting start) resfn)
    (constructed options runtest) steps final
  ended : ∀ earlier call later, final.calls = earlier ++ call :: later →
    Settled .unfinished
      (perform setting call (replay setting start earlier))

section Histories

variable {start : Master} {Answer : Type} {resfn : Options ℚ → Res → Answer}
  {options : Options ℚ} {runtest : Bool}

/-- Every `run_test` scales the subscribers to the number of groups that were
requested, and launching again leaves the options as launching once does. -/
def LaunchHistory.LaunchesAlike
    (history : LaunchHistory setting start resfn options runtest) : Prop :=
  (∀ earlier call later count, history.final.calls = earlier ++ call :: later →
    ScalesTo setting (replay setting start earlier) count call →
      count = start.totalSubApps.fdiv setting.appsInGroup) ∧
  ∀ earlier call later, history.final.calls = earlier ++ call :: later →
    LaunchesSub setting (replay setting start earlier) call →
      (stateAfter (perform setting call
        (replay setting start earlier))).totalSubApps =
          start.totalSubApps.fdiv setting.appsInGroup

/-- At most one `run_test` of the history comes to launch the subscribers. -/
def LaunchHistory.LaunchesOnce
    (history : LaunchHistory setting start resfn options runtest) : Prop :=
  ∀ earlier first middle second later,
    history.final.calls = earlier ++ first :: (middle ++ second :: later) →
      LaunchesSub setting (replay setting start earlier) first →
        ¬ LaunchesSub setting (replay setting start (earlier ++ first :: middle))
          second

/-- What a `run_test` scales to is what it leaves in the options. -/
theorem launchesAlike_of_likeOnce (positive : 0 < setting.appsInGroup)
    {history : LaunchHistory setting start resfn options runtest}
    (likeOnce : LikeOnce
      (fun master call => stateAfter (perform setting call master))
      Master.totalSubApps (LaunchesSub setting) (·.fdiv setting.appsInGroup)
      start history.final.calls) :
    history.LaunchesAlike := by
  refine ⟨?_, likeOnce⟩
  intro earlier call later count callsEq scales
  obtain ⟨launches, countEq⟩ := scales.launches positive.ne'
  have left := likeOnce earlier call later callsEq launches
  have divided := (perform_updates positive.ne').changed _ _ launches
  rw [countEq, ← divided]
  exact left

/-- The launches of a new `RunTestRMQ` are alike exactly if there is at most
one, or if the number of groups is not divided further. -/
theorem launchesAlike_iff (positive : 0 < setting.appsInGroup) {myaddr : String}
    {totalSubApps : Int}
    (history : LaunchHistory setting (newMaster myaddr totalSubApps) resfn
      options runtest) :
    history.LaunchesAlike ↔
      setting.appsInGroup = 1 ∨ totalSubApps.fdiv setting.appsInGroup = 0 ∨
        totalSubApps.fdiv setting.appsInGroup = -1 ∨ history.LaunchesOnce := by
  have likeOnce_iff := @(perform_updates positive.ne').likeOnce_iff _ _ _ _ _ _ _
    (newMaster myaddr totalSubApps) history.final.calls
  have undivided := @fdiv_eq_self_iff (totalSubApps.fdiv setting.appsInGroup) _
    positive
  have alike : history.LaunchesAlike ↔ LikeOnce _ _ _ _ _ _ :=
    ⟨And.right, launchesAlike_of_likeOnce positive⟩
  rw [alike, likeOnce_iff]
  exact (or_congr undivided Iff.rfl).trans (by tauto)

end Histories

section Example

/-- Two tasks with ten subscriber instances each, and one publisher.  Scaling
to 20 tasks fails. -/
def noRoom : Backend := fun history request =>
  match request with
  | .scaleApp _ 20 => .error (.exception "mcli scale_app timed out")
  | request => twoTasks history request

/-- The local test with groups of ten subscribers. -/
def relaunchTest : Setting Unit where
  backend := noRoom
  fuel := 20
  testDuration := 10
  msgBatch := 50
  appsInGroup := 10
  mesosCluster _ := none
  str _ := "10"
  finish _ := pure ()

/-- 200 subscribers are requested. -/
abbrev relaunchMaster : Master :=
  newMaster "http://127.0.0.1:9800" 200

-- The calls of the example are only ever evaluated by the kernel.
attribute [irreducible] relaunchTest

abbrev relaunchRunner : Runner ℚ Unit :=
  runner relaunchTest relaunchMaster

def beforeRelaunch : State ℚ Unit :=
  setArg1 100 beforeRates

def firstLaunch : TestCall ℚ :=
  nextTest 100 beforeRelaunch

def secondLaunch : TestCall ℚ :=
  nextTest 100 (cleaned relaunchRunner 100 beforeRelaunch)

def afterRelaunch : State ℚ Unit :=
  stateAfter (boundaryRun relaunchRunner (fun _ res => res) 100 beforeRates)

theorem relaunch_outcomes :
    (nextReply relaunchRunner 100 beforeRelaunch).outcome.toBool = false ∧
    (relaunchRunner.deleteAllLaunchedApps
      (tested relaunchRunner 100 beforeRelaunch).calls).toBool = true ∧
    (nextReply relaunchRunner 100
      (cleaned relaunchRunner 100 beforeRelaunch)).outcome.toBool = true := by
  decide +kernel

theorem afterRelaunch_calls :
    afterRelaunch.calls =
      [firstLaunch, .deleteAllLaunchedApps, secondLaunch] := by
  obtain ⟨failed, deleted, succeeded⟩ := relaunch_outcomes
  obtain ⟨error, failed⟩ := exists_error_of_toBool failed
  obtain ⟨_, deleted⟩ := exists_ok_of_toBool deleted
  obtain ⟨res, succeeded⟩ := exists_ok_of_toBool succeeded
  have ended := (attempts_succ_of_deleted 3 failed deleted).trans
    (attempts_of_ok 3 succeeded)
  rw [beforeRelaunch] at ended
  rw [afterRelaunch, boundaryRun_measured (AList.notMem_empty (100 : ℚ)), ended]
  have both := @tested_calls _ _ relaunchRunner 100
    (cleaned relaunchRunner 100 beforeRelaunch)
  rw [cleaned_calls] at both
  exact both

theorem relaunch_ended :
    fails (.raised (.exception "mcli scale_app timed out"))
      (perform relaunchTest firstLaunch relaunchMaster) = true ∧
    returns (perform relaunchTest .deleteAllLaunchedApps
      (replay relaunchTest relaunchMaster [firstLaunch])) = true ∧
    returns (perform relaunchTest secondLaunch
      (replay relaunchTest relaunchMaster
        [firstLaunch, .deleteAllLaunchedApps])) = true := by
  decide +kernel

/-- The first launch fails, the applications are deleted, and the test is
launched again. -/
def relaunched : LaunchHistory relaunchTest relaunchMaster (fun _ res => res)
    (fun _ => 0) false where
  steps := [⟨beforeRates, 100, afterRelaunch⟩]
  final := afterRelaunch
  run := .next rfl .stop
  ended := by
    intro earlier call later callsEq
    rw [afterRelaunch_calls] at callsEq
    obtain ⟨first, second, third⟩ := relaunch_ended
    rcases call_of_three callsEq with
      ⟨rfl, rfl⟩ | ⟨rfl, rfl⟩ | ⟨rfl, rfl⟩
    · exact settled_of_fails first
    · exact settled_of_ok (eq_ok_of_returns second)
    · exact settled_of_ok (eq_ok_of_returns third)

theorem relaunched_launchesAlike_iff :
    0 < relaunchTest.appsInGroup ∧
      (relaunched.LaunchesAlike ↔
        relaunchTest.appsInGroup = 1 ∨
          (200 : Int).fdiv relaunchTest.appsInGroup = 0 ∨
          (200 : Int).fdiv relaunchTest.appsInGroup = -1 ∨
          relaunched.LaunchesOnce) :=
  ⟨by decide +kernel, launchesAlike_iff (by decide +kernel) relaunched⟩

/-- Whether a computation returns the count. -/
def countIs (count : Int) : EStateM.Result Stop Master Int → Bool
  | .ok value _ => value = count
  | .error _ _ => false

theorem eq_ok_of_countIs {count : Int} {outcome : EStateM.Result Stop Master Int}
    (counted : countIs count outcome = true) :
    ∃ after, outcome = .ok count after := by
  cases outcome with
  | ok value after =>
      have same : value = count := of_decide_eq_true counted
      exact ⟨after, by rw [same]⟩
  | error stop after => cases counted

/-- The second launch scales to 2 tasks, not to 20. -/
theorem relaunched_not_launchesAlike :
    0 < relaunchTest.appsInGroup ∧ ¬ relaunched.LaunchesAlike := by
  refine ⟨by decide +kernel, ?_⟩
  rintro ⟨scaled, _⟩
  have second := scaled [firstLaunch, .deleteAllLaunchedApps] secondLaunch [] 2
    afterRelaunch_calls (by
      rw [secondLaunch, nextTest_of_firstRun rfl]
      exact eq_ok_of_countIs (by decide +kernel))
  exact absurd second (by decide +kernel)

end Example

end RunTestRMQ

end MScale
