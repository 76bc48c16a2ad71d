import MScale.HydraGroupCalls
import MScale.HydraTaskIds
import MScale.MemberDirectory

/-!
# Group members under all registry operations

A group stores instance ids, and the operations on it look each of them up in
the `ip_port_map` of its application.  Refreshing or deleting the application
replaces that map without looking at the groups.  This file determines for
every call that returns exactly when all members can still be found afterwards,
and with it the runs in which they always can.
-/

namespace MScale

namespace HydraBase

open StateErrors LabelledRuns

/-- Every member of every group can be looked up in the `ip_port_map` of its
application. -/
def MembersResolve (hydra : HydraBase) : Prop :=
  ∀ groupName group, hydra.appGroup.lookup groupName = some group →
    ∀ task ∈ group.tasksList, ∃ info,
      hydra.apps.lookup group.appName = some (.refreshed info) ∧
        task ∈ info.ipPortMap

/-- Marathon no longer reports a task once a request to kill it was
answered. -/
def ForgetsKilled (backend : Backend) : Prop :=
  ∀ (history : History) appId taskId,
    ⟨.killTask appId taskId, .ok ()⟩ ∈ history →
      ∀ app, backend history (.getApp appId) = .ok (some app) →
        ∀ task ∈ app.tasks, task.id ≠ taskId

/-- In every run of calls that return, all members of all groups can always be
looked up. -/
def MembersResolveThroughout : Prop :=
  ∀ backend, ForgetsKilled backend →
    ∀ (testName myaddr : String) (history : History)
      (steps : List (Step World Call)) (final : World),
      Run (Completes backend) (newWorld testName myaddr history) steps final →
        ∀ step ∈ steps, step.after.hydra.MembersResolve

/-- Every member of a group of the application is among the instances of the
reply. -/
def GroupsWithin (hydra : HydraBase) (name : String) (reply : RefreshReply) :
    Prop :=
  ∀ groupName group, hydra.appGroup.lookup groupName = some group →
    group.appName = name → ∀ task ∈ group.tasksList,
      task ∈ ipPortMapOf reply.looked

/-- After the kills of a deletion were all answered, Marathon still reports the
instances of what is left of the groups. -/
def KillsKeepMembers (backend : Backend) (world : World)
    (store : AppGroup → HydraBase → HydraBase) (group : AppGroup)
    (numTasksToDelete : Int) : Prop :=
  let rounds := (group.clipDeletion numTasksToDelete).toNat
  ∀ later, AppGroup.killRequests backend group.appName
      (group.tasksToKill rounds) world.history = .ok () later →
    (store (group.afterKills rounds rounds) world.hydra).GroupsWithin
      group.appName (refreshReply backend group.appName later)

/-- The condition under which a call keeps all members resolvable: a refresh
reports every instance that a group of the application still has, and an
application is deleted only when its groups are empty. -/
def KeepsMembers (backend : Backend) (world : World) : Call → Prop
  | .scaleApp name scaleCnt sleepBeforeNextTry instanceBatch
      instanceThreshold =>
      ∀ fuel scaled,
        scaleRequests backend fuel name scaleCnt sleepBeforeNextTry
            instanceBatch instanceThreshold world.history = .ok () scaled →
          world.hydra.GroupsWithin name (refreshReply backend name scaled)
  | .refreshAppInfo name =>
      world.hydra.GroupsWithin name (refreshReply backend name world.history)
  | .deleteApp app _ _ _ _ =>
      ∀ groupName group, world.hydra.appGroup.lookup groupName = some group →
        group.appName = app → group.tasksList = []
  | .deleteTasksFromGroup groupName numTasksToDelete =>
      ∀ group, world.hydra.appGroup.lookup groupName = some group →
        KillsKeepMembers backend world
          (fun remaining hydra => hydra.setGroup groupName remaining) group
          numTasksToDelete
  | .deleteTasksFromDetached group numTasksToDelete =>
      KillsKeepMembers backend world (fun _ hydra => hydra) group
        numTasksToDelete
  | _ => True

/-- The registry as a directory: its rows are the keys of the `ip_port_map`s.
-/
def directory (hydra : HydraBase) : Directory String String String where
  rows name := {task | ∃ info,
    hydra.apps.lookup name = some (.refreshed info) ∧ task ∈ info.ipPortMap}
  groups groupName := (hydra.appGroup.lookup groupName).map fun group =>
    (group.appName, {task | task ∈ group.tasksList})

section Directory

variable {hydra : HydraBase}

theorem membersResolve_iff : hydra.MembersResolve ↔ hydra.directory.Resolves := by
  constructor
  · intro resolve groupName key members found
    obtain ⟨group, registered, entryEq⟩ := Option.map_eq_some_iff.mp found
    cases entryEq
    exact resolve groupName group registered
  · intro resolves groupName group registered
    exact resolves groupName _ _ (Option.map_eq_some_iff.mpr
      ⟨group, registered, rfl⟩)

theorem groupsWithin_iff {name : String} {reply : RefreshReply} :
    hydra.GroupsWithin name reply ↔
      hydra.directory.Covers name {task | task ∈ ipPortMapOf reply.looked} := by
  constructor
  · intro within groupName members found
    obtain ⟨group, registered, entryEq⟩ := Option.map_eq_some_iff.mp found
    cases entryEq
    exact within groupName group registered rfl
  · rintro covers groupName group registered rfl
    exact covers groupName _ (Option.map_eq_some_iff.mpr
      ⟨group, registered, rfl⟩)

theorem directory_withReply (hydra : HydraBase) (name : String)
    (reply : RefreshReply) :
    (hydra.withReply name reply).directory =
      hydra.directory.replaceRow name {task | task ∈ ipPortMapOf reply.looked} := by
  have apps : (hydra.withReply name reply).apps = hydra.apps.insert name
      (.refreshed { ipPortMap := ipPortMapOf reply.looked }) := by
    unfold withReply
    split <;> rfl
  apply Directory.ext
  · funext other
    by_cases same : other = name
    · subst same
      simp [directory, Directory.replaceRow, apps]
    · simp [directory, Directory.replaceRow, apps, same,
        AList.lookup_insert_ne same]
  · funext groupName
    simp [directory, Directory.replaceRow]

theorem directory_eraseApp (hydra : HydraBase) (app : String) :
    ({ hydra with apps := hydra.apps.erase app } : HydraBase).directory =
      hydra.directory.replaceRow app ∅ := by
  refine Directory.ext ?_ rfl
  funext other
  by_cases same : other = app
  · subst same
    simp [directory, Directory.replaceRow]
  · simp [directory, Directory.replaceRow, same, AList.lookup_erase_ne same]

theorem directory_setGroup (hydra : HydraBase) (groupName : String)
    (group : AppGroup) :
    (hydra.setGroup groupName group).directory =
      hydra.directory.setGroup groupName group.appName
        {task | task ∈ group.tasksList} := by
  refine Directory.ext rfl ?_
  funext other
  by_cases same : other = groupName
  · subst same
    simp [directory, Directory.setGroup, setGroup]
  · simp [directory, Directory.setGroup, setGroup, same,
      AList.lookup_insert_ne same]

theorem directory_eraseGroup (hydra : HydraBase) (groupName : String) :
    ({ hydra with appGroup := hydra.appGroup.erase groupName } :
      HydraBase).directory = hydra.directory.removeGroup groupName := by
  refine Directory.ext rfl ?_
  funext other
  by_cases same : other = groupName
  · subst same
    simp [directory, Directory.removeGroup]
  · simp [directory, Directory.removeGroup, same, AList.lookup_erase_ne same]

theorem UnresponsiveRemoved.directory_eq {name : String}
    {removeList : List String} {after : HydraBase}
    (removed : UnresponsiveRemoved name removeList hydra after)
    (groupsNodup : hydra.GroupsNodup) :
    after.directory =
      hydra.directory.dropIds name {task | task ∈ removeList} := by
  apply Directory.ext
  · funext other
    by_cases same : other = name
    · subst same
      obtain ⟨info, ipPortMap, found, foundAfter, lookups⟩ := removed.info
      ext task
      simp only [directory, Directory.dropIds, Function.update_self, found,
        foundAfter, Set.mem_ofPred_eq, Option.some.injEq, AppRecord.refreshed.injEq,
        exists_eq_left', Set.mem_sdiff]
      rw [← AList.lookup_isSome, ← AList.lookup_isSome, lookups]
      by_cases gone : task ∈ removeList <;> simp [gone]
    · simp [directory, Directory.dropIds, same, removed.otherApps other same]
  · funext groupName
    simp only [directory, Directory.dropIds, removed.groups]
    cases found : hydra.appGroup.lookup groupName with
    | none => rfl
    | some group =>
        have members : {task | task ∈ group.tasksList.diff removeList} =
            {task | task ∈ group.tasksList} \ {task | task ∈ removeList} := by
          ext task
          exact (groupsNodup groupName group found).mem_sdiff_iff
        simp [AppGroup.without, members]

end Directory

/-- What calls that return keep in every case: the two records of the
instances agree, and no group has a task twice. -/
structure RecordsSound (hydra : HydraBase) : Prop where
  agree : hydra.TaskIdsAgree
  groupsNodup : hydra.GroupsNodup

section Sound

variable {hydra : HydraBase}

theorem RecordsSound.withReply (sound : hydra.RecordsSound) (name : String)
    {reply : RefreshReply} (answered : reply.failure = none) :
    (hydra.withReply name reply).RecordsSound := by
  refine ⟨sound.agree.withReply name answered, ?_⟩
  intro groupName group found
  exact sound.groupsNodup groupName group (by simpa using found)

theorem RecordsSound.setGroup (sound : hydra.RecordsSound) (groupName : String)
    {group : AppGroup} (nodup : group.tasksList.Nodup) :
    (hydra.setGroup groupName group).RecordsSound := by
  refine ⟨sound.agree, ?_⟩
  intro other group' found
  by_cases same : other = groupName
  · subst same
    have groupEq : group = group' := by
      simpa [HydraBase.setGroup] using found
    exact groupEq ▸ nodup
  · exact sound.groupsNodup other group' (by
      simpa [HydraBase.setGroup, AList.lookup_insert_ne same] using found)

theorem RecordsSound.eraseGroup (sound : hydra.RecordsSound)
    (groupName : String) :
    ({ hydra with appGroup := hydra.appGroup.erase groupName } :
      HydraBase).RecordsSound := by
  refine ⟨sound.agree, ?_⟩
  intro other group found
  by_cases same : other = groupName
  · subst same
    simp at found
  · exact sound.groupsNodup other group (by
      simpa [AList.lookup_erase_ne same] using found)

theorem UnresponsiveRemoved.recordsSound {name : String}
    {removeList : List String} {after : HydraBase}
    (removed : UnresponsiveRemoved name removeList hydra after)
    (sound : hydra.RecordsSound) : after.RecordsSound := by
  refine ⟨removed.taskIdsAgree sound.agree, ?_⟩
  intro groupName group found
  rw [removed.groups] at found
  obtain ⟨group', before, rfl⟩ := Option.map_eq_some_iff.mp found
  exact (sound.groupsNodup groupName group' before).diff

theorem newWorld_recordsSound (testName myaddr : String) (history : History) :
    (newWorld testName myaddr history).hydra.RecordsSound :=
  ⟨newWorld_taskIdsAgree testName myaddr history,
    (newWorld_noGroups testName myaddr history).groupsNodup⟩

theorem newWorld_membersResolve (testName myaddr : String)
    (history : History) :
    (newWorld testName myaddr history).hydra.MembersResolve := by
  intro groupName group found
  rw [newWorld_noGroups testName myaddr history groupName] at found
  cases found

end Sound

section Resolve

variable {hydra : HydraBase}

/-- A refresh keeps the members resolvable exactly if it reports them all. -/
theorem MembersResolve.withReply_iff (resolve : hydra.MembersResolve)
    (name : String) (reply : RefreshReply) :
    (hydra.withReply name reply).MembersResolve ↔
      hydra.GroupsWithin name reply := by
  rw [membersResolve_iff, directory_withReply,
    (membersResolve_iff.mp resolve).replaceRow_iff, groupsWithin_iff]

/-- Groups of an application that is not registered are empty. -/
theorem MembersResolve.groupsWithin_of_absent
    (resolve : hydra.MembersResolve) {name : String}
    (absent : name ∉ hydra.apps) (reply : RefreshReply) :
    hydra.GroupsWithin name reply := by
  have empty : hydra.directory.rows name = ∅ := by
    ext task
    simp [directory, AList.lookup_eq_none.mpr absent]
  exact groupsWithin_iff.mpr
    ((membersResolve_iff.mp resolve).covers_of_row_empty empty _)

/-- Deleting an application keeps the members resolvable exactly if its groups
are empty. -/
theorem MembersResolve.eraseApp_iff (resolve : hydra.MembersResolve)
    (app : String) :
    ({ hydra with apps := hydra.apps.erase app } : HydraBase).MembersResolve ↔
      ∀ groupName group, hydra.appGroup.lookup groupName = some group →
        group.appName = app → group.tasksList = [] := by
  rw [membersResolve_iff, directory_eraseApp,
    (membersResolve_iff.mp resolve).replaceRow_iff]
  constructor
  · rintro covers groupName group registered rfl
    have none := covers groupName _ (Option.map_eq_some_iff.mpr
      ⟨group, registered, rfl⟩)
    exact List.eq_nil_iff_forall_not_mem.mpr fun task member => none member
  · intro empty groupName members found
    obtain ⟨group, registered, entryEq⟩ := Option.map_eq_some_iff.mp found
    cases entryEq
    intro task member
    have gone := empty groupName group registered rfl
    simp [gone] at member

theorem MembersResolve.setGroup (resolve : hydra.MembersResolve)
    (groupName : String) {group : AppGroup}
    (within : ∀ task ∈ group.tasksList, ∃ info,
      hydra.apps.lookup group.appName = some (.refreshed info) ∧
        task ∈ info.ipPortMap) :
    (hydra.setGroup groupName group).MembersResolve := by
  rw [membersResolve_iff, directory_setGroup]
  exact (membersResolve_iff.mp resolve).setGroup within

theorem MembersResolve.eraseGroup (resolve : hydra.MembersResolve)
    (groupName : String) :
    ({ hydra with appGroup := hydra.appGroup.erase groupName } :
      HydraBase).MembersResolve := by
  rw [membersResolve_iff, directory_eraseGroup]
  exact (membersResolve_iff.mp resolve).removeGroup groupName

theorem UnresponsiveRemoved.membersResolve {name : String}
    {removeList : List String} {after : HydraBase}
    (removed : UnresponsiveRemoved name removeList hydra after)
    (groupsNodup : hydra.GroupsNodup) (resolve : hydra.MembersResolve) :
    after.MembersResolve := by
  rw [membersResolve_iff, removed.directory_eq groupsNodup]
  exact (membersResolve_iff.mp resolve).dropIds name _

/-- The tasks picked from the list of an application can be looked up in its
`ip_port_map`. -/
theorem TaskIdsAgree.mapped_of_listed (agree : hydra.TaskIdsAgree)
    {name : String} (registered : name ∈ hydra.apps) {ids : List String}
    (listed : hydra.allTaskIds.lookup name = some ids) {task : String}
    (member : task ∈ ids) :
    ∃ info, hydra.apps.lookup name = some (.refreshed info) ∧
      task ∈ info.ipPortMap := by
  obtain ⟨record, found⟩ := Option.isSome_iff_exists.mp
    (AList.lookup_isSome.mpr registered)
  obtain ⟨info, ids', rfl, idsEq, perm⟩ := agree name record found
  rw [listed] at idsEq
  cases idsEq
  exact ⟨info, found, AList.mem_keys.mpr (perm.mem_iff.mp member)⟩

end Resolve

variable {backend : Backend} {before after : World}

section Deletion

variable {group : AppGroup} {numTasksToDelete : Int}
  {store : AppGroup → HydraBase → HydraBase} {result : Option (List String)}

theorem deleteTasks_recordsSound
    (stored : ∀ popped killed,
      (store (group.afterKills popped killed) before.hydra).RecordsSound)
    (returned : group.deleteTasksFromGroup backend store numTasksToDelete
      before = .ok result after) : after.hydra.RecordsSound := by
  rcases AppGroup.deleteTasksFromGroup_returned returned with
    ⟨stop, later, killed, _, afterEq⟩ | ⟨later, _, answered, _, afterEq⟩
  · rw [afterEq]
    exact stored _ _
  · rw [afterEq]
    exact (stored _ _).withReply group.appName answered

theorem deleteTasks_membersResolve_iff
    (stored : ∀ popped killed,
      (store (group.afterKills popped killed) before.hydra).MembersResolve)
    (returned : group.deleteTasksFromGroup backend store numTasksToDelete
      before = .ok result after) :
    after.hydra.MembersResolve ↔
      KillsKeepMembers backend before store group numTasksToDelete := by
  unfold KillsKeepMembers
  rcases AppGroup.deleteTasksFromGroup_returned returned with
    ⟨stop, later, killed, failed, afterEq⟩ | ⟨later, killed, _, _, afterEq⟩
  · rw [afterEq]
    apply iff_of_true (stored _ _)
    intro rounds later' answered
    rw [failed] at answered
    cases answered
  · rw [afterEq, (stored _ _).withReply_iff]
    dsimp only
    rw [forall_ok_iff killed]

/-- What is left of a registered group after kills is sound and resolvable. -/
theorem setGroup_afterKills_recordsSound (sound : before.hydra.RecordsSound)
    {groupName : String}
    (registered : before.hydra.appGroup.lookup groupName = some group)
    (popped killed : Nat) :
    (before.hydra.setGroup groupName
      (group.afterKills popped killed)).RecordsSound :=
  sound.setGroup groupName ((sound.groupsNodup groupName group
    registered).sublist (AppGroup.keptTasks_isPrefixOf group popped).sublist)

theorem setGroup_afterKills_membersResolve
    (resolve : before.hydra.MembersResolve) {groupName : String}
    (registered : before.hydra.appGroup.lookup groupName = some group)
    (popped killed : Nat) :
    (before.hydra.setGroup groupName
      (group.afterKills popped killed)).MembersResolve :=
  resolve.setGroup groupName fun task member =>
    resolve groupName group registered task
      ((AppGroup.keptTasks_isPrefixOf group popped).subset member)

end Deletion

/-- The group `delete_tasks_from_group` is called on is registered. -/
theorem deleteTasksFromRegistered_returned {groupName : String}
    {numTasksToDelete : Int} {result : Option (List String)}
    (returned : deleteTasksFromRegistered backend groupName numTasksToDelete
      before = .ok result after) :
    ∃ group, before.hydra.appGroup.lookup groupName = some group ∧
      group.deleteTasksFromGroup backend
        (fun remaining hydra => hydra.setGroup groupName remaining)
        numTasksToDelete before = .ok result after := by
  simp only [deleteTasksFromRegistered, getHydra_bind, index_bind] at returned
  cases found : before.hydra.appGroup.lookup groupName with
  | none =>
      rw [found] at returned
      cases returned
  | some group =>
      rw [found] at returned
      exact ⟨group, rfl, returned⟩

theorem deleteAppInstancesGroup_returned {groupName : String} {result : Bool}
    (returned : deleteAppInstancesGroup groupName before =
      .ok result after) :
    after.hydra = before.hydra ∨
      after.hydra = { before.hydra with
        appGroup := before.hydra.appGroup.erase groupName } := by
  simp only [deleteAppInstancesGroup, getHydra_bind] at returned
  split at returned
  · cases returned
    exact Or.inl rfl
  · cases returned
    exact Or.inr rfl

theorem deleteApp_returned {fuel : Nat} {app : String} {timeout : Int}
    {wait : Bool} {threshold instanceBatch : Int}
    (returned : deleteApp backend fuel app timeout wait threshold instanceBatch
      before = .ok () after) :
    after.hydra =
      { before.hydra with apps := before.hydra.apps.erase app } := by
  have left := deleteApp_after backend fuel app timeout wait
    threshold instanceBatch before
  rw [returned] at left
  exact left

section Launch

variable {name type : String} {app launched : MarathonApp}

theorem launchApp_recordsSound (sound : before.hydra.RecordsSound)
    (returned : launchApp backend name app type before = .ok launched after) :
    after.hydra.RecordsSound := by
  obtain ⟨_, reply, answered, rfl⟩ := launchApp_returned returned
  exact sound.withReply name answered

/-- No group has members of an application before it is launched. -/
theorem launchApp_membersResolve (resolve : before.hydra.MembersResolve)
    (returned : launchApp backend name app type before = .ok launched after) :
    after.hydra.MembersResolve := by
  obtain ⟨absent, reply, _, rfl⟩ := launchApp_returned returned
  exact (resolve.withReply_iff name reply).mpr
    (resolve.groupsWithin_of_absent absent reply)

end Launch

/-- A call that returns keeps the records sound. -/
theorem Completes.recordsSound {call : Call}
    (completed : Completes backend before call after)
    (sound : before.hydra.RecordsSound) : after.hydra.RecordsSound := by
  obtain ⟨fuel, returned⟩ := completed
  cases call with
  | createHydraApp name appPath appArgs cpus mem ports constraints =>
      obtain ⟨r, launched⟩ := discard_ok_iff.mp returned
      exact launchApp_recordsSound sound launched
  | createBinaryApp name appScript cpus mem ports constraints =>
      obtain ⟨r, launched⟩ := discard_ok_iff.mp returned
      exact launchApp_recordsSound sound launched
  | scaleApp name scaleCnt sleepBeforeNextTry instanceBatch
      instanceThreshold =>
      obtain ⟨_, scaled, _, answered, afterEq⟩ := scaleApp_returned returned
      rw [afterEq]
      exact sound.withReply name answered
  | refreshAppInfo name =>
      obtain ⟨count, refreshed⟩ := discard_ok_iff.mp returned
      obtain ⟨_, answered, rfl⟩ := refreshAppInfo_returned refreshed
      exact sound.withReply name answered
  | removeUnresponsiveTasks name groupName =>
      rcases removeUnresponsiveTasks_outcome backend sound.agree
        sound.groupsNodup name groupName with
        ⟨stop, history, failed⟩ | ⟨removeList, hydra, history, ended, _, removed⟩
      · rw [perform, failed] at returned
        cases returned
      · rw [perform, ended] at returned
        cases returned
        exact removed.recordsSound sound
  | deleteApp app timeout wait threshold instanceBatch =>
      rw [deleteApp_returned returned]
      exact ⟨sound.agree.erase app, sound.groupsNodup⟩
  | createAppInstancesGroup appName groupName numAppInstances analyser =>
      obtain ⟨created, returned⟩ := discard_ok_iff.mp returned
      rcases createAppInstancesGroup_returned returned with
        ⟨_, _, rfl⟩ | ⟨group, ids, _, _, _, _, _, picked, _, afterEq⟩
      · exact sound
      · rw [afterEq]
        exact sound.setGroup groupName picked.nodup
  | deleteAppInstancesGroup groupName =>
      obtain ⟨deleted, returned⟩ := discard_ok_iff.mp returned
      rcases deleteAppInstancesGroup_returned returned with same | erased
      · rw [same]
        exact sound
      · rw [erased]
        exact sound.eraseGroup groupName
  | deleteTasksFromGroup groupName numTasksToDelete =>
      obtain ⟨result, returned⟩ := discard_ok_iff.mp returned
      obtain ⟨group, registered, returned⟩ :=
        deleteTasksFromRegistered_returned returned
      exact deleteTasks_recordsSound
        (setGroup_afterKills_recordsSound sound registered) returned
  | deleteTasksFromDetached group numTasksToDelete =>
      obtain ⟨result, returned⟩ := discard_ok_iff.mp returned
      exact deleteTasks_recordsSound (fun _ _ => sound) returned

/-- A call that returns keeps all members resolvable exactly under its
condition. -/
theorem Completes.membersResolve_iff {call : Call}
    (completed : Completes backend before call after)
    (sound : before.hydra.RecordsSound)
    (resolve : before.hydra.MembersResolve) :
    after.hydra.MembersResolve ↔ KeepsMembers backend before call := by
  obtain ⟨fuel, returned⟩ := completed
  cases call with
  | createHydraApp name appPath appArgs cpus mem ports constraints =>
      obtain ⟨r, launched⟩ := discard_ok_iff.mp returned
      exact iff_of_true (launchApp_membersResolve resolve launched) trivial
  | createBinaryApp name appScript cpus mem ports constraints =>
      obtain ⟨r, launched⟩ := discard_ok_iff.mp returned
      exact iff_of_true (launchApp_membersResolve resolve launched) trivial
  | scaleApp name scaleCnt sleepBeforeNextTry instanceBatch
      instanceThreshold =>
      obtain ⟨_, scaled, requested, _, afterEq⟩ := scaleApp_returned returned
      rw [afterEq, resolve.withReply_iff, KeepsMembers,
        (settles_scaleRequests name scaleCnt sleepBeforeNextTry instanceBatch
          instanceThreshold).forall_ok_iff requested]
  | refreshAppInfo name =>
      obtain ⟨count, refreshed⟩ := discard_ok_iff.mp returned
      obtain ⟨_, _, rfl⟩ := refreshAppInfo_returned refreshed
      exact resolve.withReply_iff name _
  | removeUnresponsiveTasks name groupName =>
      rcases removeUnresponsiveTasks_outcome backend sound.agree
        sound.groupsNodup name groupName with
        ⟨stop, history, failed⟩ | ⟨removeList, hydra, history, ended, _, removed⟩
      · rw [perform, failed] at returned
        cases returned
      · rw [perform, ended] at returned
        cases returned
        exact iff_of_true (removed.membersResolve sound.groupsNodup resolve)
          trivial
  | deleteApp app timeout wait threshold instanceBatch =>
      rw [deleteApp_returned returned]
      exact resolve.eraseApp_iff app
  | createAppInstancesGroup appName groupName numAppInstances analyser =>
      obtain ⟨created, returned⟩ := discard_ok_iff.mp returned
      refine iff_of_true ?_ trivial
      rcases createAppInstancesGroup_returned returned with ⟨_, _, rfl⟩ |
        ⟨group, ids, _, rfl, _, registered, listed, picked, _, afterEq⟩
      · exact resolve
      · rw [afterEq]
        exact resolve.setGroup groupName fun task member =>
          sound.agree.mapped_of_listed registered listed
            (picked.listed task member)
  | deleteAppInstancesGroup groupName =>
      obtain ⟨deleted, returned⟩ := discard_ok_iff.mp returned
      refine iff_of_true ?_ trivial
      rcases deleteAppInstancesGroup_returned returned with same | erased
      · rw [same]
        exact resolve
      · rw [erased]
        exact resolve.eraseGroup groupName
  | deleteTasksFromGroup groupName numTasksToDelete =>
      obtain ⟨result, returned⟩ := discard_ok_iff.mp returned
      obtain ⟨group, registered, returned⟩ :=
        deleteTasksFromRegistered_returned returned
      rw [deleteTasks_membersResolve_iff
        (setGroup_afterKills_membersResolve resolve registered) returned]
      constructor
      · intro keeps group' registered'
        rw [registered] at registered'
        cases registered'
        exact keeps
      · intro keeps
        exact keeps group registered
  | deleteTasksFromDetached group numTasksToDelete =>
      obtain ⟨result, returned⟩ := discard_ok_iff.mp returned
      exact deleteTasks_membersResolve_iff (fun _ _ => resolve) returned

/-- All members of all groups can be looked up after every call of a run
exactly if every call of it meets its condition. -/
theorem membersResolve_throughout_iff {testName myaddr : String}
    {history : History} {steps : List (Step World Call)} {final : World}
    (run : Run (Completes backend) (newWorld testName myaddr history) steps
      final) :
    (∀ step ∈ steps, step.after.hydra.MembersResolve) ↔
      ∀ step ∈ steps, KeepsMembers backend step.before step.label :=
  run.forall_iff (fun world => world.hydra.RecordsSound)
    (fun world => world.hydra.MembersResolve)
    (fun _ _ _ sound _ completed => completed.recordsSound sound)
    (fun _ _ _ sound resolve completed =>
      completed.membersResolve_iff sound resolve)
    (newWorld_recordsSound testName myaddr history)
    (newWorld_membersResolve testName myaddr history)

theorem steadyBackend_forgetsKilled : ForgetsKilled steadyBackend := by
  intro history appId taskId killed app reported task member same
  have appEq := Except.ok.inj reported
  rw [Option.some.injEq] at appEq
  rw [← appEq] at member
  split at member
  · cases member
  · next alive =>
      rw [List.mem_singleton.mp member] at same
      refine alive (List.any_eq_true.mpr ⟨_, killed, ?_⟩)
      simp [← same]

def groupSubscribers : Call :=
  .createAppInstancesGroup "/zst-sub" "grp" 1 (some "ZMQSubAnalyser")

def deleteSubscribers : Call :=
  .deleteApp "/zst-sub" 1 true 200 100

def launchedWorld : World :=
  stateAfter (perform steadyBackend 1 launchSubscribers beforeLaunch)

def groupedWorld : World :=
  stateAfter (perform steadyBackend 1 groupSubscribers launchedWorld)

def deletedWorld : World :=
  stateAfter (perform steadyBackend 1 deleteSubscribers groupedWorld)

/-- Launch the subscribers, group them, and delete the application. -/
def groupedDeletion : List (Step World Call) :=
  [⟨beforeLaunch, launchSubscribers, launchedWorld⟩,
    ⟨launchedWorld, groupSubscribers, groupedWorld⟩,
    ⟨groupedWorld, deleteSubscribers, deletedWorld⟩]

theorem groupedDeletion_run :
    Run (Completes steadyBackend) beforeLaunch groupedDeletion deletedWorld := by
  have launched : perform steadyBackend 1 launchSubscribers beforeLaunch =
      .ok () launchedWorld := eq_ok_of_returns (by decide)
  have grouped : perform steadyBackend 1 groupSubscribers launchedWorld =
      .ok () groupedWorld := eq_ok_of_returns (by decide)
  have deleted : perform steadyBackend 1 deleteSubscribers groupedWorld =
      .ok () deletedWorld := eq_ok_of_returns (by decide)
  exact .next ⟨1, launched⟩ (.next ⟨1, grouped⟩ (.next ⟨1, deleted⟩ .stop))

theorem groupedDeletion_membersResolve_iff :
    (∀ step ∈ groupedDeletion, step.after.hydra.MembersResolve) ↔
      ∀ step ∈ groupedDeletion,
        KeepsMembers steadyBackend step.before step.label :=
  membersResolve_throughout_iff groupedDeletion_run

/-- The group outlives its application, and its member cannot be found. -/
theorem groupedDeletion_loses_member : ¬ MembersResolveThroughout := by
  intro throughout
  have resolve := throughout steadyBackend steadyBackend_forgetsKilled _ _ _
    groupedDeletion _ groupedDeletion_run
    ⟨groupedWorld, deleteSubscribers, deletedWorld⟩
    (by simp [groupedDeletion])
  have grouped : deletedWorld.hydra.appGroup.lookup "grp" =
      some ⟨"ZMQSubAnalyser", "grp", "/zst-sub", 1,
        ["zst-sub.1_PORT31000"]⟩ := by
    decide
  obtain ⟨info, found, _⟩ := resolve "grp" _ grouped "zst-sub.1_PORT31000"
    (by simp)
  have absent : (deletedWorld.hydra.apps.lookup "/zst-sub").isNone = true := by
    decide
  rw [found] at absent
  cases absent

end HydraBase

end MScale
