import MScale.HydraCleanup
import MScale.LabelledRuns

/-!
# The two records of the instances under exceptions

`all_task_ids[name]` is meant to list the keys of `apps[name]['ip_port_map']`.
The operations update the two in separate steps with remote calls in between,
so an exception can leave them apart.  This file determines for every call
exactly when it does, and with it the runs in which the two records agree after
every call.
-/

namespace MScale

namespace HydraBase

open StateErrors LabelledRuns

/-- The calls that launch, change and delete applications. -/
def Call.IsAppCall : Call → Prop
  | .createAppInstancesGroup _ _ _ _ => False
  | .deleteAppInstancesGroup _ => False
  | .deleteTasksFromGroup _ _ => False
  | .deleteTasksFromDetached _ _ => False
  | _ => True

/-- An application call that has returned or raised. -/
def AppCallStep (backend : Backend) (before : World) (call : Call)
    (after : World) : Prop :=
  call.IsAppCall ∧
    (Completes backend before call after ∨ Raises backend before call after)

variable {backend : Backend} {before after : World}

/-- No group is registered. -/
def NoGroups (hydra : HydraBase) : Prop :=
  ∀ groupName, hydra.appGroup.lookup groupName = none

/-- The state an ended call leaves is the one its bounded execution leaves. -/
theorem stateAfter_of_ended {call : Call}
    (ended : Completes backend before call after ∨
      Raises backend before call after) :
    ∃ fuel, stateAfter (perform backend fuel call before) = after ∧
      Settled .unfinished (perform backend fuel call before) := by
  rcases ended with ⟨fuel, returned⟩ | ⟨fuel, error, raised⟩
  · exact ⟨fuel, by rw [returned]; rfl, settled_of_ok returned⟩
  · refine ⟨fuel, by rw [raised]; rfl, ?_⟩
    intro state
    rw [raised]
    simp

/-- Removing the same clients from both records keeps them in agreement. -/
theorem UnresponsiveRemoved.taskIdsAgree {name : String}
    {removeList : List String} {hydra hydra' : HydraBase}
    (removed : UnresponsiveRemoved name removeList hydra hydra')
    (agree : hydra.TaskIdsAgree) : hydra'.TaskIdsAgree := by
  intro other record found
  by_cases same : other = name
  · subst same
    obtain ⟨info, ipPortMap, foundBefore, foundAfter, lookups⟩ := removed.info
    obtain ⟨ids, listedBefore, listedAfter⟩ := removed.ids
    obtain ⟨_, _, recordEq, idsEq, perm⟩ := agree _ _ foundBefore
    cases recordEq
    rw [listedBefore] at idsEq
    cases idsEq
    rw [foundAfter] at found
    cases found
    refine ⟨_, _, rfl, listedAfter, ?_⟩
    have idsNodup : ids.Nodup := perm.nodup_iff.mpr info.ipPortMap.keys_nodup
    apply (List.perm_ext_iff_of_nodup idsNodup.diff ipPortMap.keys_nodup).mpr
    intro key
    rw [idsNodup.mem_sdiff_iff, perm.mem_iff, ← AList.mem_keys, ← AList.mem_keys,
      ← AList.lookup_isSome, ← AList.lookup_isSome, lookups]
    by_cases gone : key ∈ removeList <;> simp [gone]
  · rw [removed.otherApps other same] at found
    rw [removed.otherIds other same]
    exact agree other record found

theorem TaskIdsAgree.erase {hydra : HydraBase} (agree : hydra.TaskIdsAgree)
    (app : String) :
    ({ hydra with apps := hydra.apps.erase app } : HydraBase).TaskIdsAgree := by
  intro other record found
  by_cases same : other = app
  · subst same
    simp at found
  · exact agree other record (by
      simpa [AList.lookup_erase_ne same] using found)

theorem NoGroups.groupsNodup {hydra : HydraBase} (noGroups : hydra.NoGroups) :
    hydra.GroupsNodup := by
  intro groupName group found
  rw [noGroups groupName] at found
  cases found

/-- Application calls do not create groups. -/
theorem AppCallStep.noGroups {call : Call}
    (step : AppCallStep backend before call after)
    (noGroups : before.hydra.NoGroups) (agree : before.hydra.TaskIdsAgree) :
    after.hydra.NoGroups := by
  obtain ⟨isAppCall, ended⟩ := step
  obtain ⟨fuel, rfl, _⟩ := stateAfter_of_ended ended
  have keeps : ∀ hydra' : HydraBase,
      hydra'.appGroup = before.hydra.appGroup → hydra'.NoGroups := by
    intro hydra' same groupName
    rw [same]
    exact noGroups groupName
  cases call with
  | createHydraApp name appPath appArgs cpus mem ports constraints =>
      apply keeps
      rw [perform, stateAfter_discard]
      exact launchApp_appGroup name "script" _ before
  | createBinaryApp name appScript cpus mem ports constraints =>
      apply keeps
      rw [perform, stateAfter_discard]
      exact launchApp_appGroup name "binary" _ before
  | scaleApp name scaleCnt sleepBeforeNextTry instanceBatch
      instanceThreshold =>
      exact keeps _ (scaleApp_appGroup _ _ _ _ _ _ _)
  | refreshAppInfo name =>
      apply keeps
      rw [perform, stateAfter_discard]
      exact refreshAppInfo_appGroup name before
  | removeUnresponsiveTasks name groupName =>
      rcases removeUnresponsiveTasks_outcome backend agree
        noGroups.groupsNodup name groupName with
        ⟨stop, history, failed⟩ | ⟨removeList, hydra', history, ended, _, removed⟩
      · rw [perform, failed]
        exact noGroups
      · rw [perform, ended]
        intro other
        rw [stateAfter, removed.groups, noGroups other]
        rfl
  | deleteApp app timeout wait threshold instanceBatch =>
      apply keeps
      rw [perform, deleteApp_after]
  | createAppInstancesGroup appName groupName numAppInstances analyser =>
      exact isAppCall.elim
  | deleteAppInstancesGroup groupName => exact isAppCall.elim
  | deleteTasksFromGroup groupName numTasksToDelete => exact isAppCall.elim
  | deleteTasksFromDetached group numTasksToDelete => exact isAppCall.elim

theorem launchApp_listsNodup (listsNodup : before.hydra.TaskListsNodup)
    (name type : String) (app : MarathonApp) :
    (stateAfter (launchApp backend name app type before)).hydra.TaskListsNodup := by
  by_cases registered : name ∈ before.hydra.apps
  · simpa [launchApp_registered registered, stateAfter] using listsNodup
  · rw [launchApp_eq registered]
    split
    · exact listsNodup
    · split
      · exact listsNodup
      · rw [RefreshReply.stateAfter_outcome]
        exact listsNodup.withReply name _

theorem refreshAppInfo_listsNodup (listsNodup : before.hydra.TaskListsNodup)
    (name : String) :
    (stateAfter (refreshAppInfo backend name before)).hydra.TaskListsNodup := by
  by_cases registered : name ∈ before.hydra.apps
  · rw [refreshAppInfo_eq backend before registered,
      RefreshReply.stateAfter_outcome]
    exact listsNodup.withReply name _
  · simpa [refreshAppInfo_unregistered registered, stateAfter] using listsNodup

theorem scaleApp_listsNodup (listsNodup : before.hydra.TaskListsNodup)
    (fuel : Nat) (name : String)
    (scaleCnt sleepBeforeNextTry instanceBatch instanceThreshold : Int) :
    (stateAfter (scaleApp backend fuel name scaleCnt sleepBeforeNextTry
      instanceBatch instanceThreshold before)).hydra.TaskListsNodup := by
  by_cases registered : name ∈ before.hydra.apps
  · cases scaled : scaleRequests backend fuel name scaleCnt sleepBeforeNextTry
        instanceBatch instanceThreshold before.history with
    | error stop history =>
        rw [scaleApp_eq registered, scaled]
        exact listsNodup
    | ok value history =>
        rw [scaleApp_hydra registered scaled]
        exact listsNodup.withReply name _
  · simpa [scaleApp_unregistered registered, stateAfter] using listsNodup

theorem UnresponsiveRemoved.listsNodup {name : String}
    {removeList : List String} {hydra hydra' : HydraBase}
    (removed : UnresponsiveRemoved name removeList hydra hydra')
    (listsNodup : hydra.TaskListsNodup) : hydra'.TaskListsNodup := by
  intro other listed found
  by_cases same : other = name
  · subst same
    obtain ⟨ids, listedBefore, listedAfter⟩ := removed.ids
    rw [listedAfter] at found
    cases found
    exact (listsNodup _ _ listedBefore).diff
  · rw [removed.otherIds other same] at found
    exact listsNodup other listed found

/-- Application calls keep the lists free of duplicates. -/
theorem AppCallStep.listsNodup {call : Call}
    (step : AppCallStep backend before call after)
    (noGroups : before.hydra.NoGroups) (agree : before.hydra.TaskIdsAgree)
    (listsNodup : before.hydra.TaskListsNodup) :
    after.hydra.TaskListsNodup := by
  obtain ⟨isAppCall, ended⟩ := step
  obtain ⟨fuel, rfl, _⟩ := stateAfter_of_ended ended
  cases call with
  | createHydraApp name appPath appArgs cpus mem ports constraints =>
      rw [perform, stateAfter_discard]
      exact launchApp_listsNodup listsNodup name "script" _
  | createBinaryApp name appScript cpus mem ports constraints =>
      rw [perform, stateAfter_discard]
      exact launchApp_listsNodup listsNodup name "binary" _
  | scaleApp name scaleCnt sleepBeforeNextTry instanceBatch
      instanceThreshold =>
      exact scaleApp_listsNodup listsNodup _ _ _ _ _ _
  | refreshAppInfo name =>
      rw [perform, stateAfter_discard]
      exact refreshAppInfo_listsNodup listsNodup name
  | removeUnresponsiveTasks name groupName =>
      rcases removeUnresponsiveTasks_outcome backend agree
        noGroups.groupsNodup name groupName with
        ⟨stop, history, failed⟩ | ⟨removeList, hydra', history, ended, _, removed⟩
      · rw [perform, failed]
        exact listsNodup
      · rw [perform, ended]
        exact removed.listsNodup listsNodup
  | deleteApp app timeout wait threshold instanceBatch =>
      rw [perform, deleteApp_after]
      exact listsNodup
  | createAppInstancesGroup appName groupName numAppInstances analyser =>
      exact isAppCall.elim
  | deleteAppInstancesGroup groupName => exact isAppCall.elim
  | deleteTasksFromGroup groupName numTasksToDelete => exact isAppCall.elim
  | deleteTasksFromDetached group numTasksToDelete => exact isAppCall.elim

theorem newWorld_taskIdsAgree (testName myaddr : String) (history : History) :
    (newWorld testName myaddr history).hydra.TaskIdsAgree := by
  intro name record found
  simp [newWorld] at found

theorem newWorld_noGroups (testName myaddr : String) (history : History) :
    (newWorld testName myaddr history).hydra.NoGroups := by
  intro groupName
  rfl

end HydraBase

end MScale
