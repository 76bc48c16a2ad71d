import MScale.BatchPlans
import MScale.ScalingCluster

/-!
# Deleting in batches

`delete_app` scales a large application down before it deletes it: in full
batches while as many instances remain, ending early when one is left, and
then to one.  When the batches end at zero the last request starts an instance
again.
-/

namespace MScale

namespace HydraBase

open StateErrors BatchPlans

section Loop

variable {backend : Backend} {app : String} {past : History} {count : Nat}
  {instanceBatch : Int}

/-- Between two rounds: the requests made and the removal plan for what remains
make up the whole plan, or the plan has arrived at one instance. -/
structure Removing (app : String) (past : History) (count : Nat)
    (instanceBatch : Int) (plan : List Int) (remaining : Int)
    (history : History) : Prop where
  possible : 0 ≤ remaining
  planned : ∃ since requests current, history = past ++ since ∧
    SettledAt app count requests current since ∧
    (current ≠ 1 ∧ requests ++ removalPlan instanceBatch remaining = plan ∨
      current = 1 ∧ requests = plan)

/-- The plan was carried out down to one instance. -/
def Removed (app : String) (past : History) (count : Nat) (plan : List Int)
    (history : History) : Prop :=
  ∃ since, history = past ++ since ∧ SettledAt app count plan 1 since

/-- One round of the batch loop requests the next value of the plan, or ends
where the plan does. -/
theorem Removing.deleteBody (follows : FollowsScale backend app past count)
    (batchPos : 1 ≤ instanceBatch) {plan : List Int} {remaining : Int}
    {history : History}
    (removing : Removing app past count instanceBatch plan remaining history) :
    (∃ result after,
      HydraBase.deleteBody backend app instanceBatch remaining history =
        .ok (.inl result) after ∧
      Removed app past count plan after) ∨
    ∃ later after,
      HydraBase.deleteBody backend app instanceBatch remaining history =
        .ok (.inr later) after ∧
      Removing app past count instanceBatch plan later after ∧
      later.toNat < remaining.toNat := by
  obtain ⟨possible, since, requests, current, rfl, settled, planned⟩ := removing
  obtain ⟨tasks, asked, answered, lengthEq, settledAsked, _⟩ :=
    settled.getAppTasks follows
  unfold HydraBase.deleteBody
  rw [bind_of_ok answered]
  rcases planned with ⟨several, planEq⟩ | ⟨one, planEq⟩
  · have notOne : tasks.length ≠ 1 := by omega
    rw [if_neg notOne]
    by_cases last : remaining < instanceBatch
    · obtain ⟨scaled, waited, settledScaled⟩ := settledAsked.scaleAndWait
        follows 1 (by omega) 1
      obtain ⟨tasks', checked, answered', lengthEq', settledChecked, _⟩ :=
        settledScaled.getAppTasks follows
      have single : tasks'.length = 1 := by omega
      rw [removalPlan_of_lt last] at planEq
      rw [planEq] at settledChecked
      rw [if_pos last, bind_of_ok waited, bind_of_ok answered',
        assertThat_bind, single, decide_eq_true rfl, if_pos rfl]
      exact Or.inl ⟨(), _, rfl, checked, rfl, settledChecked⟩
    · have full : instanceBatch ≤ remaining := by omega
      obtain ⟨scaled, waited, settledScaled⟩ := settledAsked.scaleAndWait
        follows (remaining - instanceBatch) (by omega) 1
      rw [removalPlan_of_le batchPos full] at planEq
      rw [if_neg last, bind_of_ok waited]
      refine Or.inr ⟨_, _, rfl, ⟨by omega, scaled, _, _, rfl, settledScaled, ?_⟩,
        by omega⟩
      by_cases arrived : remaining - instanceBatch = 1
      · rw [if_pos arrived] at planEq
        exact Or.inr ⟨arrived, planEq⟩
      · rw [if_neg arrived] at planEq
        refine Or.inl ⟨arrived, ?_⟩
        rw [List.append_assoc, List.singleton_append]
        exact planEq
  · have single : tasks.length = 1 := by omega
    rw [if_pos single]
    rw [planEq, one] at settledAsked
    exact Or.inl ⟨(), _, rfl, asked, rfl, settledAsked⟩

theorem deleteLoop_removed (follows : FollowsScale backend app past count)
    (batchPos : 1 ≤ instanceBatch) {running : Int} (several : 2 ≤ running)
    (enoughTasks : running ≤ count) {fuel : Nat}
    (enough : running.toNat < fuel) {asked : History}
    (settled : SettledAt app count [] count asked) :
    ∃ after, repeatUntil .unfinished (deleteBody backend app instanceBatch)
        fuel running (past ++ asked) = .ok () after ∧
      Removed app past count (removalPlan instanceBatch running) after := by
  have removing : Removing app past count instanceBatch
      (removalPlan instanceBatch running) running (past ++ asked) := by
    refine ⟨by omega, asked, [], count, rfl, settled, Or.inl ⟨by omega, rfl⟩⟩
  obtain ⟨_, after, ended, removed⟩ := repeatUntil_ends Int.toNat
    (fun remaining history removing => removing.deleteBody follows batchPos)
    removing enough
  exact ⟨after, ended, removed⟩

end Loop

/-! ## After the loop -/

section Rest

variable (backend : Backend)

theorem deleteDeployments_adds (deployments : List String) :
    LeadsAlong (Adds Quiet) (deleteDeployments backend deployments) := by
  induction deployments with
  | nil => exact leadsAlong_pure Adds.refl ()
  | cons deployment deployments ih =>
      apply (remote_adds backend (.deleteDeployment deployment)
        fun answer => rfl).bind Adds.trans
      exact fun _ => ih

/-- The part of `delete_app` after the batch loop. -/
def finishDeletion (app : String) (timeout : Int) (wait : Bool)
    (deployments : List String) : RemoteM Unit := do
  deleteDeployments backend deployments
  remote backend (.deleteAppIfexisting app timeout)
  if wait then
    remote backend (.waitAppRemoval app)

theorem finishDeletion_adds (app : String) (timeout : Int) (wait : Bool)
    (deployments : List String) :
    LeadsAlong (Adds Quiet)
      (finishDeletion backend app timeout wait deployments) := by
  apply (deleteDeployments_adds backend deployments).bind Adds.trans
  intro _
  apply (remote_adds backend (.deleteAppIfexisting app timeout)
    fun answer => rfl).bind Adds.trans
  intro _
  cases wait with
  | true => exact remote_adds backend (.waitAppRemoval app) fun answer => rfl
  | false => exact leadsAlong_pure Adds.refl ()

theorem remote_settled (request : Request) (history : History) :
    Settled .unfinished (remote backend request history) := by
  intro state
  unfold remote
  split <;> simp

theorem deleteDeployments_settled (deployments : List String)
    (history : History) :
    Settled .unfinished (deleteDeployments backend deployments history) := by
  induction deployments generalizing history with
  | nil => exact settled_of_ok rfl
  | cons deployment deployments ih =>
      apply Settled.bind (remote_settled backend _ history)
      exact fun _ middle => ih middle

theorem finishDeletion_settled (app : String) (timeout : Int) (wait : Bool)
    (deployments : List String) (history : History) :
    Settled .unfinished
      (finishDeletion backend app timeout wait deployments history) := by
  apply Settled.bind (deleteDeployments_settled backend deployments history)
  intro _ middle
  apply Settled.bind (remote_settled backend _ middle)
  intro _ later
  cases wait with
  | true => exact remote_settled backend _ later
  | false => exact settled_of_ok rfl

end Rest

/-! ## The requests of a call -/

section Calls

variable {backend : Backend} {app : String} {past : History} {count : Nat}
  {threshold instanceBatch : Int}

/-- Above the threshold `delete_app` runs the batch loop and finishes the
deletion. -/
theorem deleteRequests_above {fuel : Nat} {timeout : Int} {wait : Bool}
    {a : App} {history later : History}
    (started : backend history (.getApp app) = .ok (some a))
    (above : threshold < a.tasksRunning)
    (ended : repeatUntil .unfinished (deleteBody backend app instanceBatch)
      fuel a.tasksRunning (history ++ [⟨.getApp app, .ok (some a)⟩]) =
        .ok () later) :
    deleteRequests backend fuel app timeout wait threshold instanceBatch
        history =
      finishDeletion backend app timeout wait a.deployments later := by
  have bound : a.tasksRunning > threshold := above
  rw [deleteRequests, bind_of_ok (remote_ok started)]
  simp only [if_pos bound]
  exact bind_of_ok ended

theorem deleteApp_eq (backend : Backend) (fuel : Nat) (app : String)
    (timeout : Int) (wait : Bool) (threshold instanceBatch : Int)
    (world : World) :
    deleteApp backend fuel app timeout wait threshold instanceBatch world =
      onBackend
        (deleteRequests backend fuel app timeout wait threshold instanceBatch)
        { world with
          hydra := { world.hydra with apps := world.hydra.apps.erase app } } :=
  rfl

/-- The scale requests of `delete_app` go down from the running instances to
one in batches, and the loop that makes them ends. -/
def DeletesDownToOne (backend : Backend) (app : String) (past : History)
    (fuel : Nat) (timeout : Int) (wait : Bool)
    (threshold instanceBatch running : Int) (world : World) : Prop :=
  let outcome := deleteApp backend fuel app timeout wait threshold
    instanceBatch world
  Settled .unfinished outcome ∧
    ∃ since, (stateAfter outcome).history = past ++ since ∧
      DescendsToOne instanceBatch running (scales app since)

/-- However the rest of the call ends, its scale requests carry out the removal
plan. -/
theorem deleteApp_planned (follows : FollowsScale backend app past count)
    (batchPos : 1 ≤ instanceBatch) {a : App}
    (started : backend past (.getApp app) = .ok (some a))
    (thresholdPos : 1 ≤ threshold) (above : threshold < a.tasksRunning)
    (enoughTasks : a.tasksRunning ≤ count) (timeout : Int) (wait : Bool)
    {fuel : Nat} (enough : a.tasksRunning.toNat < fuel) {world : World}
    (reached : world.history = past) :
    Settled .unfinished
        (deleteApp backend fuel app timeout wait threshold instanceBatch
          world) ∧
      ∃ since,
        (stateAfter (deleteApp backend fuel app timeout wait threshold
          instanceBatch world)).history = past ++ since ∧
        scales app since = removalPlan instanceBatch a.tasksRunning := by
  have settled : SettledAt app count [] count
      ([] ++ [⟨.getApp app, .ok (some a)⟩]) := by
    apply (settledAt_nil app count).append_quiet
    intro exchange member
    rw [List.mem_singleton.mp member]
    rfl
  obtain ⟨_, ended, since, rfl, removed⟩ := deleteLoop_removed follows batchPos
    (by omega) enoughTasks enough settled
  have requested : deleteRequests backend fuel app timeout wait threshold
      instanceBatch world.history =
        finishDeletion backend app timeout wait a.deployments
          (past ++ since) := by
    rw [reached]
    exact deleteRequests_above started above ended
  obtain ⟨more, historyEq, quiet⟩ := finishDeletion_adds backend app timeout
    wait a.deployments (past ++ since)
  rw [deleteApp_eq]
  constructor
  · apply Settled.onPart
    rw [requested]
    exact finishDeletion_settled backend app timeout wait a.deployments _
  · refine ⟨since ++ more, ?_, ?_⟩
    · rw [onBackend, stateAfter_onPart]
      dsimp only
      rw [requested, historyEq, List.append_assoc]
    · rw [scales_append_quiet quiet, removed.scales_eq]

/-- The requests of `delete_app` go down to one in batches exactly if the
batches do not end at zero. -/
theorem deletesDownToOne_iff (follows : FollowsScale backend app past count)
    (batchPos : 1 ≤ instanceBatch) {a : App}
    (started : backend past (.getApp app) = .ok (some a))
    (thresholdPos : 1 ≤ threshold) (above : threshold < a.tasksRunning)
    (enoughTasks : a.tasksRunning ≤ count) (timeout : Int) (wait : Bool)
    {fuel : Nat} (enough : a.tasksRunning.toNat < fuel) {world : World}
    (reached : world.history = past) :
    DeletesDownToOne backend app past fuel timeout wait threshold instanceBatch
        a.tasksRunning world ↔
      instanceBatch = 1 ∨ ¬ instanceBatch ∣ a.tasksRunning := by
  obtain ⟨ends, since, historyEq, scalesEq⟩ := deleteApp_planned follows
    batchPos started thresholdPos above enoughTasks timeout wait enough reached
  rw [← removalPlan_descendsToOne_iff batchPos (by omega), ← scalesEq,
    DeletesDownToOne, historyEq]
  constructor
  · rintro ⟨_, since', same, descends⟩
    rw [List.append_cancel_left same]
    exact descends
  · exact fun descends => ⟨ends, since, rfl, descends⟩

/-- The application of a test with 400 subscribers, as the cluster reports
it. -/
def fourHundred : App :=
  ⟨List.replicate 400 ⟨"task", "slave-0", [31000]⟩, 400, []⟩

theorem fourHundred_started :
    scalingBackend "/zst-sub" 400 [] (.getApp "/zst-sub") =
      .ok (some fourHundred) :=
  rfl

theorem deletesDownToOne_zmq_iff :
    DeletesDownToOne (scalingBackend "/zst-sub" 400) "/zst-sub" [] 401 1 true
        200 100 400 beforeLaunch ↔
      (100 : Int) = 1 ∨ ¬ (100 : Int) ∣ 400 :=
  deletesDownToOne_iff (scalingBackend_followsScale "/zst-sub" 400)
    (by decide) fourHundred_started (by decide)
    (show (200 : Int) < fourHundred.tasksRunning by decide) (by decide) 1 true
    (by decide) rfl

/-- Every deletion of a large application goes down to one instance in
batches. -/
def DeletionsGoDownToOne : Prop :=
  ∀ (backend : Backend) (app : String) (past : History) (count : Nat) (a : App)
    (timeout : Int) (wait : Bool) (threshold instanceBatch : Int)
    (world : World), FollowsScale backend app past count →
    1 ≤ instanceBatch → backend past (.getApp app) = .ok (some a) →
    1 ≤ threshold → threshold < a.tasksRunning → a.tasksRunning ≤ count →
    world.history = past →
    ∃ bound, ∀ fuel ≥ bound,
      DeletesDownToOne backend app past fuel timeout wait threshold
        instanceBatch a.tasksRunning world

/-- Four batches of 100 take 400 instances down to none, and the last request
starts one again. -/
theorem deletion_starts_instance_again : ¬ DeletionsGoDownToOne := by
  intro always
  have follows := scalingBackend_followsScale "/zst-sub" 400
  obtain ⟨bound, goesDown⟩ := always _ _ _ _ fourHundred 1 true 200 100
    beforeLaunch follows (by decide) fourHundred_started (by decide) (by decide)
    (by decide) rfl
  obtain ⟨_, since, historyEq, scalesEq⟩ := deleteApp_planned follows
    (show (1 : Int) ≤ 100 by decide) fourHundred_started
    (show (1 : Int) ≤ 200 by decide)
    (by decide) (by decide) 1 true
    (show fourHundred.tasksRunning.toNat < max bound 401 by
      exact lt_of_lt_of_le (by decide) (le_max_right bound 401))
    (show beforeLaunch.history = [] from rfl)
  obtain ⟨_, since', same, descends⟩ :=
    goesDown (max bound 401) (le_max_left bound 401)
  rw [historyEq] at same
  rw [← List.append_cancel_left same, scalesEq,
    removalPlan_descendsToOne_iff (by decide) (by decide)] at descends
  exact absurd descends (by decide)

end Calls

end HydraBase

end MScale
