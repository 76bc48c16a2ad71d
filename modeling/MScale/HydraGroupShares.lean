import MScale.ExclusiveShares
import MScale.HydraGroupMembers

/-!
# Groups never share an instance

A new group only takes instances that are in no group, and every other
operation at most takes instances out of groups.  So no instance is in two
groups or twice in one, whichever operations run in which order and wherever
they raise.
-/

namespace MScale

namespace HydraBase

open StateErrors LabelledRuns ExclusiveShares

/-- The task lists of the registered groups. -/
def taskLists (hydra : HydraBase) : Shares String String :=
  fun groupName => (hydra.appGroup.lookup groupName).map (·.tasksList)

/-- No operation of the kind gives a group a task. -/
abbrev GroupsShrink (before after : World) : Prop :=
  Shrinks before.hydra.taskLists after.hydra.taskLists

theorem GroupsShrink.refl (world : World) : GroupsShrink world world :=
  Shrinks.refl _

theorem GroupsShrink.trans (first second third : World)
    (shrink : GroupsShrink first second)
    (shrinkMore : GroupsShrink second third) : GroupsShrink first third :=
  Shrinks.trans shrink shrinkMore

theorem groupsShrink_of_appGroup {before after : World}
    (same : after.hydra.appGroup = before.hydra.appGroup) :
    GroupsShrink before after := by
  have listsEq : after.hydra.taskLists = before.hydra.taskLists := by
    funext groupName
    rw [taskLists, taskLists, same]
  rw [GroupsShrink, listsEq]
  exact Shrinks.refl _

theorem taskLists_setGroup (hydra : HydraBase) (groupName : String)
    (group : AppGroup) :
    (hydra.setGroup groupName group).taskLists =
      Function.update hydra.taskLists groupName (some group.tasksList) := by
  funext other
  by_cases same : other = groupName
  · rw [same, Function.update_self]
    simp [taskLists, setGroup]
  · rw [Function.update_of_ne same]
    simp [taskLists, setGroup, AList.lookup_insert_ne same]

theorem taskLists_eraseGroup (hydra : HydraBase) (groupName : String) :
    ({ hydra with appGroup := hydra.appGroup.erase groupName } :
      HydraBase).taskLists =
      Function.update hydra.taskLists groupName none := by
  funext other
  by_cases same : other = groupName
  · rw [same, Function.update_self]
    simp [taskLists]
  · rw [Function.update_of_ne same]
    simp [taskLists, AList.lookup_erase_ne same]

/-- Every group is still there, and tasks only left the groups. -/
structure GroupsTrimmed (before after : World) : Prop where
  names : ∀ groupName, groupName ∈ after.hydra.appGroup ↔
    groupName ∈ before.hydra.appGroup
  shrink : GroupsShrink before after

theorem GroupsTrimmed.refl (world : World) : GroupsTrimmed world world :=
  ⟨fun _ => Iff.rfl, GroupsShrink.refl world⟩

theorem GroupsTrimmed.trans (first second third : World)
    (trim : GroupsTrimmed first second) (trimMore : GroupsTrimmed second third) :
    GroupsTrimmed first third :=
  ⟨fun groupName => (trimMore.names groupName).trans (trim.names groupName),
    GroupsShrink.trans first second third trim.shrink trimMore.shrink⟩

theorem groupsTrimmed_of_appGroup {before after : World}
    (same : after.hydra.appGroup = before.hydra.appGroup) :
    GroupsTrimmed before after :=
  ⟨fun groupName => by rw [same], groupsShrink_of_appGroup same⟩

/-- Tasks leave a group that is registered. -/
theorem groupsTrimmed_setGroup {world : World} {groupName : String}
    {group smaller : AppGroup}
    (registered : world.hydra.appGroup.lookup groupName = some group)
    (sublist : smaller.tasksList.Sublist group.tasksList)
    (history : History) :
    GroupsTrimmed world ⟨world.hydra.setGroup groupName smaller, history⟩ := by
  constructor
  · intro other
    have member : groupName ∈ world.hydra.appGroup := by
      rw [← AList.lookup_isSome, registered]
      rfl
    rw [setGroup, AList.mem_insert]
    constructor
    · rintro (rfl | already)
      · exact member
      · exact already
    · exact Or.inr
  · rw [GroupsShrink, taskLists_setGroup]
    apply shrinks_update
    intro members membersEq
    rw [← Option.some.inj membersEq]
    refine ⟨group.tasksList, ?_, sublist⟩
    rw [taskLists, registered]
    rfl

/-! ## Operations that give no group a task -/

section Trimming

variable {Value : Type}

theorem onBackend_trims (program : RemoteM Value) :
    LeadsAlong GroupsTrimmed (onBackend program) := by
  intro world
  rw [onBackend, stateAfter_onPart]
  exact groupsTrimmed_of_appGroup rfl

theorem updateHydra_trims {update : HydraBase → HydraBase}
    (same : ∀ hydra, (update hydra).appGroup = hydra.appGroup) :
    LeadsAlong GroupsTrimmed (updateHydra update) :=
  fun world => groupsTrimmed_of_appGroup (same world.hydra)

theorem getHydra_trims : LeadsAlong GroupsTrimmed getHydra :=
  GroupsTrimmed.refl

theorem index_trims (dict : Dict Value) (key : String) :
    LeadsAlong GroupsTrimmed (index dict key : HydraM Value) := by
  unfold index
  split
  · exact leadsAlong_pure GroupsTrimmed.refl _
  · exact leadsAlong_throw GroupsTrimmed.refl _

theorem assertThat_trims (condition : Bool) :
    LeadsAlong GroupsTrimmed (assertThat condition : HydraM Unit) := by
  cases condition with
  | true => exact leadsAlong_pure GroupsTrimmed.refl ()
  | false => exact leadsAlong_throw GroupsTrimmed.refl _

theorem refreshAppInfo_trims (backend : Backend) (name : String) :
    LeadsAlong GroupsTrimmed (refreshAppInfo backend name) :=
  fun world => groupsTrimmed_of_appGroup (refreshAppInfo_appGroup name world)

theorem listRemove_trims (list : List String) (item : String) :
    LeadsAlong GroupsTrimmed (listRemove list item : HydraM (List String)) := by
  unfold listRemove
  split
  · exact leadsAlong_pure GroupsTrimmed.refl _
  · exact leadsAlong_throw GroupsTrimmed.refl _

theorem getAppIpportMap_trims (name : String) :
    LeadsAlong GroupsTrimmed (getAppIpportMap name) := by
  apply getHydra_trims.bind GroupsTrimmed.trans
  intro hydra
  apply (index_trims hydra.apps name).bind GroupsTrimmed.trans
  intro record
  cases record with
  | refreshed info => exact leadsAlong_pure GroupsTrimmed.refl _
  | launched app type => exact leadsAlong_throw GroupsTrimmed.refl _

theorem modifyIpPortMap_appGroup (name : String)
    (change : Dict (Int × String) → Dict (Int × String)) (hydra : HydraBase) :
    (modifyIpPortMap name change hydra).appGroup = hydra.appGroup := by
  unfold modifyIpPortMap
  split <;> rfl

theorem removeClients_trims (name : String) (removeList : List String) :
    LeadsAlong GroupsTrimmed (removeClients name removeList) := by
  induction removeList with
  | nil => exact leadsAlong_pure GroupsTrimmed.refl ()
  | cons item removeList ih =>
      apply (getAppIpportMap_trims name).bind GroupsTrimmed.trans
      intro ipPortMap
      apply (index_trims ipPortMap item).bind GroupsTrimmed.trans
      intro _
      apply (updateHydra_trims (modifyIpPortMap_appGroup name _)).bind
        GroupsTrimmed.trans
      intro _
      apply getHydra_trims.bind GroupsTrimmed.trans
      intro hydra
      apply (index_trims hydra.allTaskIds name).bind GroupsTrimmed.trans
      intro ids
      apply (listRemove_trims ids item).bind GroupsTrimmed.trans
      intro left
      apply LeadsAlong.bind GroupsTrimmed.trans
      · exact updateHydra_trims fun hydra => rfl
      · exact fun _ => ih

theorem removeFromGroup_trims (groupName : String) (badList : List String) :
    LeadsAlong GroupsTrimmed (removeFromGroup groupName badList) := by
  induction badList with
  | nil => exact leadsAlong_pure GroupsTrimmed.refl ()
  | cons badClient badList ih =>
      intro world
      simp only [removeFromGroup, getHydra_bind, index_bind]
      split
      · next group found =>
          rw [listRemove_bind]
          split
          · exact GroupsTrimmed.trans _ _ _
              (groupsTrimmed_setGroup found List.erase_sublist _) (ih _)
          · exact GroupsTrimmed.refl world
      · exact GroupsTrimmed.refl world

theorem removeFromGroups_trims (tempDict : List (String × List String)) :
    LeadsAlong GroupsTrimmed (removeFromGroups tempDict) := by
  induction tempDict with
  | nil => exact leadsAlong_pure GroupsTrimmed.refl ()
  | cons entry tempDict ih =>
      apply (removeFromGroup_trims entry.1 entry.2).bind GroupsTrimmed.trans
      exact fun _ => ih

theorem scannedTasks_trims (hydra : HydraBase) (name groupName : String) :
    LeadsAlong GroupsTrimmed (scannedTasks hydra name groupName) := by
  apply (index_trims hydra.allTaskIds name).bind GroupsTrimmed.trans
  intro taskList
  split
  · exact leadsAlong_pure GroupsTrimmed.refl taskList
  · apply (assertThat_trims _).bind GroupsTrimmed.trans
    intro _
    apply (index_trims hydra.appGroup groupName).bind GroupsTrimmed.trans
    exact fun group => leadsAlong_pure GroupsTrimmed.refl _

theorem removeUnresponsiveTasks_trims (backend : Backend)
    (name groupName : String) :
    LeadsAlong GroupsTrimmed
      (removeUnresponsiveTasks backend name groupName) := by
  apply getHydra_trims.bind GroupsTrimmed.trans
  intro hydra
  apply (assertThat_trims _).bind GroupsTrimmed.trans
  intro _
  apply (scannedTasks_trims hydra name groupName).bind GroupsTrimmed.trans
  intro taskList
  apply (getAppIpportMap_trims name).bind GroupsTrimmed.trans
  intro ipPortMap
  apply (onBackend_trims _).bind GroupsTrimmed.trans
  intro removeList
  apply (removeClients_trims name removeList).bind GroupsTrimmed.trans
  exact fun _ => removeFromGroups_trims _

end Trimming

/-! ## The deletion of groups -/

section Shrinking

variable {Value : Type}

theorem discard_shrinks {program : HydraM Value}
    (shrinks : LeadsAlong GroupsShrink program) :
    LeadsAlong GroupsShrink (discard program : HydraM PUnit) := by
  intro world
  rw [stateAfter_discard]
  exact shrinks world

theorem deleteAppInstancesGroup_shrinks (groupName : String) :
    LeadsAlong GroupsShrink (deleteAppInstancesGroup groupName) := by
  intro world
  simp only [deleteAppInstancesGroup, getHydra_bind]
  split
  · exact GroupsShrink.refl world
  · rw [updateHydra_bind]
    change Shrinks _ (taskLists { world.hydra with
      appGroup := world.hydra.appGroup.erase groupName })
    rw [taskLists_eraseGroup]
    apply shrinks_update
    intro members found
    cases found

theorem deleteEachGroup_shrinks (groupNames : List String) :
    LeadsAlong GroupsShrink (deleteEachGroup groupNames) := by
  induction groupNames with
  | nil => exact leadsAlong_pure GroupsShrink.refl true
  | cons groupName groupNames ih =>
      apply (deleteAppInstancesGroup_shrinks groupName).bind GroupsShrink.trans
      intro deleted
      cases deleted with
      | true => exact ih
      | false => exact leadsAlong_pure GroupsShrink.refl false

theorem deleteAllAppInstancesGroups_shrinks :
    LeadsAlong GroupsShrink deleteAllAppInstancesGroups := by
  intro world
  rw [deleteAllAppInstancesGroups, getHydra_bind]
  exact deleteEachGroup_shrinks _ world

/-! ## The deletion of tasks -/

theorem killTasks_sublist {backend : Backend} {rounds : Nat}
    {group remaining : AppGroup} {deletedTasks : List String}
    {deleted : Option (List String)} {history later : History}
    (ended : AppGroup.killTasks backend rounds group deletedTasks history =
      .ok (remaining, deleted) later) :
    remaining.tasksList.Sublist group.tasksList := by
  induction rounds generalizing group deletedTasks history with
  | zero =>
      cases ended
      exact List.Sublist.refl _
  | succ rounds ih =>
      rcases List.eq_nil_or_concat group.tasksList with
        empty | ⟨front, last, listEq⟩
      · simp only [AppGroup.killTasks, empty, List.getLast?_nil] at ended
        cases ended
        rw [empty]
      · rw [List.concat_eq_append] at listEq
        rw [AppGroup.killTasks_succ listEq] at ended
        have frontSublist : front.Sublist group.tasksList := by
          rw [listEq]
          exact List.sublist_append_left front [last]
        split at ended
        · exact (ih ended).trans frontSublist
        · cases ended
          exact frontSublist

/-- Deleting tasks from a group shrinks what `store` keeps of it. -/
theorem deleteTasksFromGroup_shrinks {backend : Backend}
    {store : AppGroup → HydraBase → HydraBase} {group : AppGroup}
    {world : World}
    (shrinks : ∀ remaining : AppGroup,
      remaining.tasksList.Sublist group.tasksList →
      Shrinks world.hydra.taskLists (store remaining world.hydra).taskLists)
    (numTasksToDelete : Int) :
    GroupsShrink world (stateAfter
      (group.deleteTasksFromGroup backend store numTasksToDelete world)) := by
  simp only [AppGroup.deleteTasksFromGroup, onBackend_bind]
  split
  · next killed history ended =>
      obtain ⟨remaining, deleted⟩ := killed
      have stored : GroupsShrink world
          ⟨store remaining world.hydra, history⟩ :=
        shrinks remaining (killTasks_sublist ended)
      rw [updateHydra_bind]
      apply GroupsShrink.trans _ _ _ stored
      cases deleted with
      | none => exact GroupsShrink.refl _
      | some deletedTasks =>
          apply LeadsAlong.bind GroupsShrink.trans
          · exact fun world =>
              (refreshAppInfo_trims backend group.appName world).shrink
          · intro count
            split
            · exact leadsAlong_pure GroupsShrink.refl _
            · exact leadsAlong_pure GroupsShrink.refl _
  · exact groupsShrink_of_appGroup rfl

theorem deleteTasksFromRegistered_shrinks (backend : Backend)
    (groupName : String) (numTasksToDelete : Int) :
    LeadsAlong GroupsShrink
      (deleteTasksFromRegistered backend groupName numTasksToDelete) := by
  intro world
  simp only [deleteTasksFromRegistered, getHydra_bind, index_bind]
  split
  · next group found =>
      apply deleteTasksFromGroup_shrinks
      intro remaining sublist
      exact (groupsTrimmed_setGroup found sublist []).shrink
  · exact GroupsShrink.refl world

end Shrinking

/-! ## The creation of a group -/

/-- A creation that raises leaves an empty new group, unless it is refused at
once. -/
theorem createAppInstancesGroup_raised {backend : Backend} {fuel : Nat}
    {appName groupName : String} {numAppInstances : Int}
    {analyser : Option String} {world after : World} {stop : Stop}
    (raised : createAppInstancesGroup backend fuel appName groupName
      numAppInstances analyser world = .error stop after) :
    (appName ∉ world.hydra.apps ∨ analyser = none) ∧
        after.hydra = world.hydra ∨
      ∃ group : AppGroup, group.tasksList = [] ∧
        after.hydra = world.hydra.setGroup groupName group := by
  simp only [createAppInstancesGroup, getHydra_bind, assertThat_bind]
    at raised
  by_cases registered : appName ∈ world.hydra.apps
  · simp only [registered, decide_true, if_true] at raised
    by_cases used : groupName ∈ world.hydra.appGroup
    · simp only [used, if_true] at raised
      cases raised
    · simp only [used, if_false] at raised
      rcases bind_error_iff.mp raised with
        refused | ⟨fresh, middle, created, rest⟩
      · cases analyser with
        | none =>
            cases refused
            exact Or.inl ⟨Or.inr rfl, rfl⟩
        | some analyser => cases refused
      · cases analyser with
        | none => cases created
        | some analyser =>
            cases created
            right
            refine ⟨⟨analyser, groupName, appName, numAppInstances, []⟩, rfl,
              ?_⟩
            simp only [updateHydra_bind, index_bind] at rest
            split at rest
            · simp only [getHydra_bind, onBackend_bind] at rest
              split at rest
              · cases rest
              · cases rest
                rfl
            · cases rest
              rfl
  · simp only [registered, decide_false] at raised
    cases raised
    exact Or.inl ⟨Or.inl registered, rfl⟩

/-- A creation keeps the groups exclusive, whether it returns or raises. -/
theorem createAppInstancesGroup_exclusive {backend : Backend} {fuel : Nat}
    {appName groupName : String} {numAppInstances : Int}
    {analyser : Option String} {world : World}
    (exclusive : Exclusive world.hydra.taskLists) :
    Exclusive (stateAfter (createAppInstancesGroup backend fuel appName
      groupName numAppInstances analyser world)).hydra.taskLists := by
  cases ended : createAppInstancesGroup backend fuel appName groupName
      numAppInstances analyser world with
  | ok result after =>
      rw [stateAfter]
      rcases createAppInstancesGroup_returned ended with
        ⟨_, _, rfl⟩ | ⟨group, ids, _, _, _, _, _, picked, _, afterEq⟩
      · exact exclusive
      · rw [afterEq, taskLists_setGroup]
        apply exclusive.update picked.nodup
        intro other others _ found task member memberOther
        obtain ⟨otherGroup, registered, rfl⟩ := Option.map_eq_some_iff.mp found
        exact picked.free task member other otherGroup registered memberOther
  | error stop after =>
      rw [stateAfter]
      rcases createAppInstancesGroup_raised ended with
        ⟨_, same⟩ | ⟨group, empty, afterEq⟩
      · rw [same]
        exact exclusive
      · rw [afterEq, taskLists_setGroup, empty]
        apply exclusive.update List.nodup_nil
        intro other others _ _
        exact List.disjoint_nil_left others

/-! ## Runs of calls -/

/-- A call on the registry, or the deletion of all groups. -/
inductive GroupCall
  | call (call : Call)
  | deleteAllAppInstancesGroups

def performGroupCall (backend : Backend) (fuel : Nat) :
    GroupCall → HydraM Unit
  | .call call => perform backend fuel call
  | .deleteAllAppInstancesGroups => discard deleteAllAppInstancesGroups

/-- A call that has returned or raised. -/
def GroupCallStep (backend : Backend) (before : World) (call : GroupCall)
    (after : World) : Prop :=
  ∃ fuel, performGroupCall backend fuel call before = .ok () after ∨
    ∃ error,
      performGroupCall backend fuel call before = .error (.raised error) after

/-- The new group holds as many tasks of the application as requested, or all
that are listed, and the other groups are as they were. -/
structure Granted (before after : World) (appName groupName : String)
    (numAppInstances : Int) (group : AppGroup) : Prop where
  appName_eq : group.appName = appName
  registered : after.hydra.appGroup.lookup groupName = some group
  listed : ∃ ids, before.hydra.allTaskIds.lookup appName = some ids ∧
    (group.tasksList.length : Int) = min numAppInstances ids.length ∧
    ∀ task ∈ group.tasksList, task ∈ ids
  others : ∀ other, other ≠ groupName →
    after.hydra.appGroup.lookup other = before.hydra.appGroup.lookup other

/-- Whenever the call is a creation that returns a new group, that group is
granted. -/
def GrantsGroups (backend : Backend) (before after : World) (call : GroupCall) :
    Prop :=
  ∀ appName groupName numAppInstances analyser fuel group,
    call = .call (.createAppInstancesGroup appName groupName numAppInstances
      analyser) →
    createAppInstancesGroup backend fuel appName groupName numAppInstances
      analyser before = .ok (some group) after →
    0 ≤ numAppInstances →
    Granted before after appName groupName numAppInstances group

variable {backend : Backend} {before after : World}

theorem createAppInstancesGroup_granted {fuel : Nat}
    {appName groupName : String} {numAppInstances : Int}
    {analyser : Option String} {group : AppGroup}
    (returned : createAppInstancesGroup backend fuel appName groupName
      numAppInstances analyser before = .ok (some group) after)
    (nonneg : 0 ≤ numAppInstances) :
    Granted before after appName groupName numAppInstances group := by
  rcases createAppInstancesGroup_returned returned with
    ⟨impossible, _⟩ |
    ⟨group', ids, groupEq, appEq, _, _, listed, picked, lengthEq, afterEq⟩
  · cases impossible
  · cases groupEq
    refine ⟨appEq, ?_, ⟨ids, listed, ?_, picked.listed⟩, ?_⟩
    · rw [afterEq]
      exact AList.lookup_insert before.hydra.appGroup
    · rw [lengthEq]
      omega
    · intro other different
      rw [afterEq]
      exact AList.lookup_insert_ne different

/-- Whatever a call on the registry does, the groups stay exclusive. -/
theorem perform_exclusive (fuel : Nat) (call : Call)
    (exclusive : Exclusive before.hydra.taskLists) :
    Exclusive (stateAfter (perform backend fuel call before)).hydra.taskLists := by
  cases call with
  | createHydraApp name appPath appArgs cpus mem ports constraints =>
      apply exclusive.shrinks
      rw [perform, stateAfter_discard]
      exact groupsShrink_of_appGroup (launchApp_appGroup name "script" _ before)
  | createBinaryApp name appScript cpus mem ports constraints =>
      apply exclusive.shrinks
      rw [perform, stateAfter_discard]
      exact groupsShrink_of_appGroup (launchApp_appGroup name "binary" _ before)
  | scaleApp name scaleCnt sleepBeforeNextTry instanceBatch
      instanceThreshold =>
      exact exclusive.shrinks
        (groupsShrink_of_appGroup (scaleApp_appGroup _ _ _ _ _ _ _))
  | refreshAppInfo name =>
      apply exclusive.shrinks
      rw [perform, stateAfter_discard]
      exact (refreshAppInfo_trims backend name before).shrink
  | removeUnresponsiveTasks name groupName =>
      exact exclusive.shrinks
        (removeUnresponsiveTasks_trims backend name groupName before).shrink
  | deleteApp app timeout wait threshold instanceBatch =>
      apply exclusive.shrinks
      apply groupsShrink_of_appGroup
      rw [perform, deleteApp_after]
  | createAppInstancesGroup appName groupName numAppInstances analyser =>
      rw [perform, stateAfter_discard]
      exact createAppInstancesGroup_exclusive exclusive
  | deleteAppInstancesGroup groupName =>
      exact exclusive.shrinks
        (discard_shrinks (deleteAppInstancesGroup_shrinks groupName) before)
  | deleteTasksFromGroup groupName numTasksToDelete =>
      exact exclusive.shrinks
        (discard_shrinks (deleteTasksFromRegistered_shrinks backend groupName
          numTasksToDelete) before)
  | deleteTasksFromDetached group numTasksToDelete =>
      apply exclusive.shrinks
      rw [perform, stateAfter_discard]
      exact deleteTasksFromGroup_shrinks (fun _ _ => Shrinks.refl _)
        numTasksToDelete

theorem GroupCallStep.exclusive {call : GroupCall}
    (step : GroupCallStep backend before call after)
    (exclusive : Exclusive before.hydra.taskLists) :
    Exclusive after.hydra.taskLists := by
  obtain ⟨fuel, ended⟩ := step
  have afterEq : stateAfter (performGroupCall backend fuel call before) =
      after := by
    rcases ended with returned | ⟨error, raised⟩
    · rw [returned]
      rfl
    · rw [raised]
      rfl
  rw [← afterEq]
  cases call with
  | call call => exact perform_exclusive fuel call exclusive
  | deleteAllAppInstancesGroups =>
      exact exclusive.shrinks
        (discard_shrinks deleteAllAppInstancesGroups_shrinks before)

theorem NoGroups.exclusive {hydra : HydraBase} (noGroups : hydra.NoGroups) :
    Exclusive hydra.taskLists := by
  have listsEq : hydra.taskLists = fun _ => none := by
    funext groupName
    rw [taskLists, noGroups groupName]
    rfl
  rw [listsEq]
  exact exclusive_none

/-- From a state without groups, no call ever puts an instance into two
groups, and every creation that returns a group gives it as many instances as
requested, or all. -/
theorem groupsExclusive_throughout {start final : World}
    {steps : List (Step World GroupCall)} (noGroups : start.hydra.NoGroups)
    (run : Run (GroupCallStep backend) start steps final) :
    ∀ step ∈ steps, Exclusive step.after.hydra.taskLists ∧
      GrantsGroups backend step.before step.after step.label := by
  intro step member
  obtain ⟨_, _, exclusive⟩ := run.invariant
    (fun _ _ _ exclusive step => GroupCallStep.exclusive step exclusive)
    noGroups.exclusive step member
  refine ⟨exclusive, ?_⟩
  intro appName groupName numAppInstances analyser fuel group _ returned nonneg
  exact createAppInstancesGroup_granted returned nonneg

/-- Launch the subscribers and group one of them. -/
theorem groupedSubscribers_run :
    Run (GroupCallStep steadyBackend) beforeLaunch
      [⟨beforeLaunch, .call launchSubscribers, launchedWorld⟩,
        ⟨launchedWorld, .call groupSubscribers, groupedWorld⟩]
      groupedWorld := by
  have launched : perform steadyBackend 1 launchSubscribers beforeLaunch =
      .ok () launchedWorld := eq_ok_of_returns (by decide)
  have grouped : perform steadyBackend 1 groupSubscribers launchedWorld =
      .ok () groupedWorld := eq_ok_of_returns (by decide)
  exact .next ⟨1, Or.inl launched⟩ (.next ⟨1, Or.inl grouped⟩ .stop)

/-- A cluster of four subscribers whose random choices come in turn from a
list. -/
def fourSubscribers (draws : List Nat) : Backend := fun history request =>
  match request with
  | .getApp _ =>
      .ok (some ⟨[⟨"zst-sub.1", "slave-0", [31000]⟩,
        ⟨"zst-sub.2", "slave-0", [31001]⟩, ⟨"zst-sub.3", "slave-1", [31000]⟩,
        ⟨"zst-sub.4", "slave-1", [31001]⟩], 4, []⟩)
  | .randomChoice (length + 1) =>
      let drawn := history.countP fun exchange =>
        exchange.request = .randomChoice (length + 1)
      .ok ⟨draws.getD drawn 0 % (length + 1), Nat.mod_lt _ length.succ_pos⟩
  | request => steadyBackend history request

/-- Each of the two groups draws one task a second time. -/
def repeatingDraws : Backend := fourSubscribers [0, 0, 2, 2, 1, 3]

def groupTwo (groupName : String) : Call :=
  .createAppInstancesGroup "/zst-sub" groupName 2 (some "ZMQSubAnalyser")

def fourWorld : World :=
  stateAfter (perform repeatingDraws 2 launchSubscribers beforeLaunch)

def oneGroupWorld : World :=
  stateAfter (perform repeatingDraws 2 (groupTwo "slow") fourWorld)

def twoGroupsWorld : World :=
  stateAfter (perform repeatingDraws 2 (groupTwo "reconnecting") oneGroupWorld)

theorem twoGroups_run :
    Run (GroupCallStep repeatingDraws) beforeLaunch
      [⟨beforeLaunch, .call launchSubscribers, fourWorld⟩,
        ⟨fourWorld, .call (groupTwo "slow"), oneGroupWorld⟩,
        ⟨oneGroupWorld, .call (groupTwo "reconnecting"), twoGroupsWorld⟩]
      twoGroupsWorld := by
  have launched : perform repeatingDraws 2 launchSubscribers beforeLaunch =
      .ok () fourWorld := eq_ok_of_returns (by decide)
  have slow : perform repeatingDraws 2 (groupTwo "slow") fourWorld =
      .ok () oneGroupWorld := eq_ok_of_returns (by decide)
  have reconnecting : perform repeatingDraws 2 (groupTwo "reconnecting")
      oneGroupWorld = .ok () twoGroupsWorld := eq_ok_of_returns (by decide)
  exact .next ⟨2, Or.inl launched⟩ (.next ⟨2, Or.inl slow⟩
    (.next ⟨2, Or.inl reconnecting⟩ .stop))

/-- The two groups share the four subscribers. -/
theorem twoGroups_exclusive :
    twoGroupsWorld.hydra.taskLists "slow" =
        some ["zst-sub.4_PORT31001", "zst-sub.2_PORT31001"] ∧
      twoGroupsWorld.hydra.taskLists "reconnecting" =
        some ["zst-sub.3_PORT31000", "zst-sub.1_PORT31000"] ∧
      Exclusive twoGroupsWorld.hydra.taskLists ∧
      GrantsGroups repeatingDraws oneGroupWorld twoGroupsWorld
        (.call (groupTwo "reconnecting")) :=
  ⟨by decide, by decide,
    groupsExclusive_throughout (newWorld_noGroups _ _ _) twoGroups_run
      ⟨oneGroupWorld, .call (groupTwo "reconnecting"), twoGroupsWorld⟩
      (by simp)⟩

end HydraBase

end MScale
