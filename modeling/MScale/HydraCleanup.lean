import MScale.EntryLists
import MScale.HydraRefresh

/-!
# Removing unresponsive instances

`remove_unresponsive_tasks` first pings every instance and only then changes
the registry.  This file describes the change: the instances that did not
answer leave the `ip_port_map`, `all_task_ids` and every group, and nothing
else happens.
-/

namespace MScale

/-- The group without the given tasks. -/
def AppGroup.without (group : AppGroup) (tasks : List String) : AppGroup :=
  { group with tasksList := group.tasksList.diff tasks }

namespace HydraBase

open StateErrors

theorem getAppIpportMap_eq {name : String} {world : World} {info : AppInfo}
    (registered : world.hydra.apps.lookup name = some (.refreshed info)) :
    getAppIpportMap name world = .ok info.ipPortMap world := by
  simp only [getAppIpportMap, getHydra_bind, index_bind, registered]
  rfl

theorem listRemove_bind {State Result : Type} {list : List String}
    {item : String} {rest : List String → EStateM Stop State Result}
    {state : State} :
    (listRemove list item >>= rest) state =
      if item ∈ list then rest (list.erase item) state
      else .error (.raised .valueError) state := by
  unfold listRemove
  split <;> rfl

/-- The clients of `removeList` are gone from the application, and everything
else is as before. -/
structure ClientsRemoved (name : String) (removeList : List String)
    (before after : HydraBase) : Prop where
  appGroup : after.appGroup = before.appGroup
  otherApps : ∀ other, other ≠ name →
    after.apps.lookup other = before.apps.lookup other
  otherIds : ∀ other, other ≠ name →
    after.allTaskIds.lookup other = before.allTaskIds.lookup other
  info : ∀ info, before.apps.lookup name = some (.refreshed info) →
    ∃ ipPortMap,
      after.apps.lookup name = some (.refreshed { info with ipPortMap }) ∧
      ∀ key, ipPortMap.lookup key =
        if key ∈ removeList then none else info.ipPortMap.lookup key
  ids : ∀ ids, before.allTaskIds.lookup name = some ids →
    after.allTaskIds.lookup name = some (ids.diff removeList)

/-- The `ip_port_map` keeps its other entries in their order. -/
def EntriesDropped (name : String) (removeList : List String)
    (before after : HydraBase) : Prop :=
  ∀ info info', before.apps.lookup name = some (.refreshed info) →
    after.apps.lookup name = some (.refreshed info') →
    info'.ipPortMap.entries =
      info.ipPortMap.entries.filter fun entry => entry.fst ∉ removeList

/-- The application `name` without one client. -/
def withoutClient (hydra : HydraBase) (name : String) (info : AppInfo)
    (ids : List String) (item : String) : HydraBase :=
  (hydra.setApp name
    (.refreshed { info with ipPortMap := info.ipPortMap.erase item })).setTaskIds
      name (ids.erase item)

/-- One round of the removal. -/
theorem removeClients_cons {name item : String} {removeList : List String}
    {hydra : HydraBase} {info : AppInfo} {ids : List String}
    (registered : hydra.apps.lookup name = some (.refreshed info))
    (listed : hydra.allTaskIds.lookup name = some ids)
    (mapped : item ∈ info.ipPortMap) (inIds : item ∈ ids)
    (history : History) :
    removeClients name (item :: removeList) ⟨hydra, history⟩ =
      removeClients name removeList
        ⟨hydra.withoutClient name info ids item, history⟩ := by
  obtain ⟨endpoint, found⟩ := Option.isSome_iff_exists.mp
    (AList.lookup_isSome.mpr mapped)
  rw [removeClients, bind_of_ok (getAppIpportMap_eq registered)]
  simp only [index_bind, found, updateHydra_bind, getHydra_bind,
    modifyIpPortMap, registered, setApp, listed, listRemove_bind, inIds,
    if_true]
  rfl

/-- Removing one client and then further ones removes them all. -/
theorem ClientsRemoved.cons {name item : String} {removeList : List String}
    {hydra after : HydraBase} {info : AppInfo} {ids : List String}
    (registered : hydra.apps.lookup name = some (.refreshed info))
    (listed : hydra.allTaskIds.lookup name = some ids)
    (notLater : item ∉ removeList)
    (removed : ClientsRemoved name removeList
      (hydra.withoutClient name info ids item) after) :
    ClientsRemoved name (item :: removeList) hydra after where
  appGroup := removed.appGroup
  otherApps other different := by
    rw [removed.otherApps other different]
    simp [withoutClient, setApp, setTaskIds, AList.lookup_insert_ne different]
  otherIds other different := by
    rw [removed.otherIds other different]
    simp [withoutClient, setApp, setTaskIds, AList.lookup_insert_ne different]
  info info' found := by
    rw [registered] at found
    cases found
    obtain ⟨ipPortMap, found, lookups⟩ := removed.info
      { info with ipPortMap := info.ipPortMap.erase item }
      (by simp [withoutClient, setApp, setTaskIds])
    refine ⟨ipPortMap, found, ?_⟩
    intro key
    rw [lookups]
    by_cases same : key = item
    · subst same
      simp [notLater]
    · simp [same, AList.lookup_erase_ne same]
  ids ids' found := by
    rw [listed] at found
    cases found
    rw [removed.ids (ids.erase item) (by simp [withoutClient, setTaskIds])]
    simp

theorem EntriesDropped.cons {name item : String} {removeList : List String}
    {hydra after : HydraBase} {info : AppInfo} {ids : List String}
    (registered : hydra.apps.lookup name = some (.refreshed info))
    (dropped : EntriesDropped name removeList
      (hydra.withoutClient name info ids item) after) :
    EntriesDropped name (item :: removeList) hydra after := by
  intro info' infoAfter found foundAfter
  rw [registered] at found
  cases found
  have foundFirst :
      (hydra.withoutClient name info ids item).apps.lookup name =
        some (.refreshed
          { info with ipPortMap := info.ipPortMap.erase item }) := by
    simp [withoutClient, setApp, setTaskIds]
  rw [dropped _ _ foundFirst foundAfter, EntryLists.erase_entries,
    List.filter_filter]
  apply List.filter_congr
  intro entry _
  simp [Bool.and_comm]

/-- Clients that are listed and mapped once each are removed without an
exception. -/
theorem removeClients_ok {name : String} {removeList : List String}
    {hydra : HydraBase} {info : AppInfo} {ids : List String}
    (registered : hydra.apps.lookup name = some (.refreshed info))
    (listed : hydra.allTaskIds.lookup name = some ids)
    (nodup : removeList.Nodup)
    (mapped : ∀ item ∈ removeList, item ∈ info.ipPortMap)
    (inIds : ∀ item ∈ removeList, item ∈ ids) (history : History) :
    ∃ after, removeClients name removeList ⟨hydra, history⟩ =
        .ok () ⟨after, history⟩ ∧
      ClientsRemoved name removeList hydra after ∧
      EntriesDropped name removeList hydra after := by
  induction removeList generalizing hydra info ids with
  | nil =>
      refine ⟨hydra, rfl, ⟨rfl, fun _ _ => rfl, fun _ _ => rfl, ?_, ?_⟩, ?_⟩
      · intro info' found
        exact ⟨info'.ipPortMap, found, by simp⟩
      · intro ids' found
        simpa using found
      · intro info' infoAfter found foundAfter
        rw [found] at foundAfter
        cases foundAfter
        simp
  | cons item removeList ih =>
      obtain ⟨notLater, nodup⟩ := List.nodup_cons.mp nodup
      obtain ⟨itemMapped, mapped⟩ := List.forall_mem_cons.mp mapped
      obtain ⟨itemListed, inIds⟩ := List.forall_mem_cons.mp inIds
      have other_ne (other : String) (member : other ∈ removeList) :
          other ≠ item :=
        ne_of_mem_of_not_mem member notLater
      obtain ⟨after, ended, removed, dropped⟩ := @ih
        (hydra.withoutClient name info ids item)
        { info with ipPortMap := info.ipPortMap.erase item } (ids.erase item)
        (by simp [withoutClient, setApp, setTaskIds])
        (by simp [withoutClient, setTaskIds]) nodup
        (fun other member =>
          AList.mem_erase.mpr ⟨other_ne other member, mapped other member⟩)
        (fun other member =>
          (List.mem_erase_of_ne (other_ne other member)).mpr
            (inIds other member))
      exact ⟨after,
        (removeClients_cons registered listed itemMapped itemListed
          history).trans ended,
        removed.cons registered listed notLater, dropped.cons registered⟩

/-- The registered group `groupName` becomes `group`, and everything else is
as before. -/
structure GroupReplaced (groupName : String) (group : AppGroup)
    (before after : HydraBase) : Prop where
  apps : after.apps = before.apps
  allTaskIds : after.allTaskIds = before.allTaskIds
  here : after.appGroup.lookup groupName = some group
  elsewhere : ∀ other, other ≠ groupName →
    after.appGroup.lookup other = before.appGroup.lookup other

theorem removeFromGroup_ok {groupName : String} {badList : List String}
    {hydra : HydraBase} {group : AppGroup}
    (registered : hydra.appGroup.lookup groupName = some group)
    (nodup : badList.Nodup)
    (members : ∀ badClient ∈ badList, badClient ∈ group.tasksList)
    (history : History) :
    ∃ after, removeFromGroup groupName badList ⟨hydra, history⟩ =
        .ok () ⟨after, history⟩ ∧
      GroupReplaced groupName (group.without badList) hydra after := by
  induction badList generalizing hydra group with
  | nil => exact ⟨hydra, rfl, rfl, rfl, registered, fun _ _ => rfl⟩
  | cons badClient badList ih =>
      obtain ⟨notLater, nodup⟩ := List.nodup_cons.mp nodup
      obtain ⟨member, members⟩ := List.forall_mem_cons.mp members
      let smaller : AppGroup :=
        { group with tasksList := group.tasksList.erase badClient }
      obtain ⟨after, ended, replaced⟩ := @ih
        (hydra.setGroup groupName smaller) smaller
        (by simp [setGroup]) nodup
        (fun other otherBad =>
          (List.mem_erase_of_ne (ne_of_mem_of_not_mem otherBad notLater)).mpr
            (members other otherBad))
      have step : removeFromGroup groupName (badClient :: badList)
          ⟨hydra, history⟩ =
          removeFromGroup groupName badList
            ⟨hydra.setGroup groupName smaller, history⟩ := by
        simp only [removeFromGroup, getHydra_bind, index_bind, registered,
          listRemove_bind, member, if_true, updateHydra_bind]
        rfl
      refine ⟨after, step.trans ended, replaced.apps, replaced.allTaskIds, ?_, ?_⟩
      · rw [replaced.here]
        simp [AppGroup.without, smaller]
      · intro other different
        rw [replaced.elsewhere other different]
        simp [setGroup, AList.lookup_insert_ne different]

/-- Every group loses the given clients, and everything else is as before. -/
structure GroupsCleaned (removeList : List String) (names : List String)
    (before after : HydraBase) : Prop where
  apps : after.apps = before.apps
  allTaskIds : after.allTaskIds = before.allTaskIds
  groups : ∀ groupName, after.appGroup.lookup groupName =
    if groupName ∈ names then
      (before.appGroup.lookup groupName).map (·.without removeList)
    else before.appGroup.lookup groupName

/-- Taking away the bad clients a group contains takes away all of them. -/
theorem without_filter {group : AppGroup} (nodup : group.tasksList.Nodup)
    (removeList : List String) :
    group.without (removeList.filter (· ∈ group.tasksList)) =
      group.without removeList := by
  have lists : group.tasksList.diff
      (removeList.filter (· ∈ group.tasksList)) =
        group.tasksList.diff removeList := by
    rw [nodup.sdiff_eq_filter, nodup.sdiff_eq_filter]
    apply List.filter_congr
    intro task member
    simp [member]
  rw [AppGroup.without, AppGroup.without, lists]

theorem removeFromGroups_ok {removeList : List String}
    (nodup : removeList.Nodup)
    {entries : List (Sigma fun _ : String => AppGroup)}
    (distinct : (entries.map Sigma.fst).Nodup) {hydra : HydraBase}
    (registered : ∀ entry ∈ entries,
      hydra.appGroup.lookup entry.fst = some entry.snd)
    (groupsNodup : ∀ entry ∈ entries, entry.snd.tasksList.Nodup)
    (history : History) :
    ∃ after,
      removeFromGroups (entries.map fun entry =>
          (entry.fst, removeList.filter (· ∈ entry.snd.tasksList)))
          ⟨hydra, history⟩ = .ok () ⟨after, history⟩ ∧
        GroupsCleaned removeList (entries.map Sigma.fst) hydra after := by
  induction entries generalizing hydra with
  | nil => exact ⟨hydra, rfl, rfl, rfl, by simp⟩
  | cons entry entries ih =>
      obtain ⟨groupName, group⟩ := entry
      obtain ⟨notLater, distinct⟩ := List.nodup_cons.mp distinct
      obtain ⟨found, registered⟩ := List.forall_mem_cons.mp registered
      obtain ⟨groupNodup, groupsNodup⟩ := List.forall_mem_cons.mp groupsNodup
      obtain ⟨middle, first, replaced⟩ := removeFromGroup_ok found
        (nodup.filter fun client => decide (client ∈ group.tasksList))
        (by
          intro client member
          simpa using (List.mem_filter.mp member).2)
        history
      rw [without_filter groupNodup] at replaced
      have unchanged : ∀ entry ∈ entries,
          middle.appGroup.lookup entry.fst = some entry.snd := by
        intro entry member
        rw [replaced.elsewhere]
        · exact registered entry member
        · intro same
          exact notLater (same ▸ List.mem_map_of_mem member)
      obtain ⟨after, rest, cleaned⟩ := ih distinct unchanged groupsNodup
      refine ⟨after, ?_, cleaned.apps.trans replaced.apps,
        cleaned.allTaskIds.trans replaced.allTaskIds, ?_⟩
      · rw [List.map_cons, removeFromGroups, bind_of_ok first]
        exact rest
      · intro other
        rw [cleaned.groups]
        by_cases same : other = groupName
        · subst same
          rw [if_neg notLater, replaced.here]
          simp [found]
        · rw [replaced.elsewhere other same, List.map_cons]
          have names : other ∈ groupName :: entries.map Sigma.fst ↔
              other ∈ entries.map Sigma.fst := by
            simp [same]
          simp only [names]

/-- The pings leave the registry alone.  If none of them raises, each pinged
task was mapped, and those to remove are among them in their order. -/
theorem pingTasks_ok {backend : Backend} {ipPortMap : Dict (Int × String)}
    {taskList removeList : List String} {history later : History}
    (pinged : pingTasks backend ipPortMap taskList history =
      .ok removeList later) :
    removeList.Sublist taskList ∧ ∀ taskId ∈ taskList, taskId ∈ ipPortMap := by
  induction taskList generalizing removeList history later with
  | nil =>
      cases pinged
      simp
  | cons taskId taskList ih =>
      simp only [pingTasks, index_bind] at pinged
      cases found : ipPortMap.lookup taskId with
      | none => simp [found] at pinged
      | some info =>
          simp only [found, bind_ok_iff] at pinged
          obtain ⟨res, middle, _, others, later', rest, chosen⟩ := pinged
          obtain ⟨sublist, mapped⟩ := ih rest
          have here : taskId ∈ ipPortMap :=
            AList.lookup_isSome.mp (by rw [found]; rfl)
          refine ⟨?_, List.forall_mem_cons.mpr ⟨here, mapped⟩⟩
          cases res with
          | true =>
              cases chosen
              exact sublist.trans (List.sublist_cons_self _ _)
          | false =>
              cases chosen
              exact sublist.cons_cons taskId

/-- The clients of `removeList` are gone from the application and from every
group, and everything else is as before. -/
structure UnresponsiveRemoved (name : String) (removeList : List String)
    (before after : HydraBase) : Prop where
  otherApps : ∀ other, other ≠ name →
    after.apps.lookup other = before.apps.lookup other
  otherIds : ∀ other, other ≠ name →
    after.allTaskIds.lookup other = before.allTaskIds.lookup other
  info : ∃ info ipPortMap,
    before.apps.lookup name = some (.refreshed info) ∧
    after.apps.lookup name = some (.refreshed { info with ipPortMap }) ∧
    ∀ key, ipPortMap.lookup key =
      if key ∈ removeList then none else info.ipPortMap.lookup key
  ids : ∃ ids, before.allTaskIds.lookup name = some ids ∧
    after.allTaskIds.lookup name = some (ids.diff removeList)
  groups : ∀ groupName, after.appGroup.lookup groupName =
    (before.appGroup.lookup groupName).map (·.without removeList)

/-- Clients that left their application and every group are removed. -/
theorem ClientsRemoved.fromGroups {name : String} {removeList : List String}
    {before middle after : HydraBase} {info : AppInfo} {ids : List String}
    (removed : ClientsRemoved name removeList before middle)
    (found : before.apps.lookup name = some (.refreshed info))
    (listed : before.allTaskIds.lookup name = some ids)
    (cleaned : GroupsCleaned removeList before.appGroup.keys middle after) :
    UnresponsiveRemoved name removeList before after where
  otherApps other different := by
    rw [cleaned.apps]
    exact removed.otherApps other different
  otherIds other different := by
    rw [cleaned.allTaskIds]
    exact removed.otherIds other different
  info := by
    obtain ⟨ipPortMap, foundAfter, lookups⟩ := removed.info info found
    rw [cleaned.apps]
    exact ⟨info, ipPortMap, found, foundAfter, lookups⟩
  ids := by
    rw [cleaned.allTaskIds]
    exact ⟨ids, listed, removed.ids ids listed⟩
  groups groupName := by
    rw [cleaned.groups, removed.appGroup]
    split
    · rfl
    · next absent =>
        have none : before.appGroup.lookup groupName = none :=
          AList.lookup_eq_none.mpr absent
        simp [none]

/-- No group has a task twice. -/
def GroupsNodup (hydra : HydraBase) : Prop :=
  ∀ groupName group, hydra.appGroup.lookup groupName = some group →
    group.tasksList.Nodup

theorem scannedTasks_state (hydra : HydraBase) (name groupName : String)
    (world : World) :
    (∃ error, scannedTasks hydra name groupName world =
      .error (.raised error) world) ∨
    ∃ taskList, scannedTasks hydra name groupName world = .ok taskList world ∧
      (hydra.allTaskIds.lookup name = some taskList ∨
        ∃ group, hydra.appGroup.lookup groupName = some group ∧
          group.tasksList = taskList) := by
  simp only [scannedTasks, index_bind]
  cases listed : hydra.allTaskIds.lookup name with
  | none => exact Or.inl ⟨_, rfl⟩
  | some ids =>
      by_cases whole : groupName = ""
      · right
        exact ⟨ids, by simp [whole]; rfl, Or.inl rfl⟩
      · simp only [whole, if_false, assertThat_bind, index_bind]
        cases found : hydra.appGroup.lookup groupName with
        | none =>
            have absent : groupName ∉ hydra.appGroup :=
              AList.lookup_eq_none.mp found
            left
            exact ⟨_, by simp [absent]; rfl⟩
        | some group =>
            have present : groupName ∈ hydra.appGroup :=
              AList.lookup_isSome.mp (by rw [found]; rfl)
            right
            exact ⟨group.tasksList, by simp [present]; rfl,
              Or.inr ⟨group, rfl, rfl⟩⟩

/-- The removal follows the pings of the scanned tasks: it raises with them
before it changes anything, or removes the tasks they found unresponsive. -/
theorem removeUnresponsiveTasks_scanned (backend : Backend)
    {hydra : HydraBase} {history : History} {name groupName : String}
    {info : AppInfo} {ids taskList : List String}
    (found : hydra.apps.lookup name = some (.refreshed info))
    (listed : hydra.allTaskIds.lookup name = some ids)
    (perm : ids.Perm info.ipPortMap.keys) (groupsNodup : hydra.GroupsNodup)
    (chosen : scannedTasks hydra name groupName ⟨hydra, history⟩ =
      .ok taskList ⟨hydra, history⟩)
    (taskNodup : taskList.Nodup) :
    (∀ stop later,
      pingTasks backend info.ipPortMap taskList history = .error stop later →
      removeUnresponsiveTasks backend name groupName ⟨hydra, history⟩ =
        .error stop ⟨hydra, later⟩) ∧
    ∀ removeList later,
      pingTasks backend info.ipPortMap taskList history =
        .ok removeList later →
      ∃ after, removeUnresponsiveTasks backend name groupName
          ⟨hydra, history⟩ = .ok () ⟨after, later⟩ ∧
        removeList.Nodup ∧ UnresponsiveRemoved name removeList hydra after ∧
        EntriesDropped name removeList hydra after := by
  have registered : name ∈ hydra.apps :=
    AList.lookup_isSome.mp (by rw [found]; rfl)
  have pingsFirst : removeUnresponsiveTasks backend name groupName
      ⟨hydra, history⟩ =
      match pingTasks backend info.ipPortMap taskList history with
      | .ok removeList later =>
          (do
            removeClients name removeList
            removeFromGroups (badClients hydra.appGroup removeList))
            ⟨hydra, later⟩
      | .error stop later => .error stop ⟨hydra, later⟩ := by
    simp only [removeUnresponsiveTasks, getHydra_bind, assertThat_bind,
      registered, decide_true, if_true]
    rw [bind_of_ok chosen, bind_of_ok (getAppIpportMap_eq found),
      onBackend_bind]
    cases pingTasks backend info.ipPortMap taskList history <;> rfl
  constructor
  · intro stop later pinged
    rw [pingsFirst, pinged]
  · intro removeList later pinged
    rw [pingsFirst, pinged]
    obtain ⟨sublist, mapped⟩ := pingTasks_ok pinged
    have removeNodup : removeList.Nodup := taskNodup.sublist sublist
    have removeMapped : ∀ item ∈ removeList, item ∈ info.ipPortMap :=
      fun item member => mapped item (sublist.subset member)
    obtain ⟨middle, first, removed, dropped⟩ := removeClients_ok found listed
      removeNodup removeMapped
      (fun item member => perm.mem_iff.mpr
        (AList.mem_keys.mp (removeMapped item member))) later
    have registeredGroups : ∀ entry ∈ hydra.appGroup.entries,
        middle.appGroup.lookup entry.fst = some entry.snd := by
      intro entry member
      rw [removed.appGroup]
      exact AList.mem_lookup_iff.mpr member
    obtain ⟨after, second, cleaned⟩ := removeFromGroups_ok removeNodup
      hydra.appGroup.keys_nodup registeredGroups
      (fun entry member => groupsNodup entry.fst entry.snd
        (AList.mem_lookup_iff.mpr member)) later
    refine ⟨after, ?_, removeNodup, removed.fromGroups found listed cleaned,
      fun info info' before foundAfter => ?_⟩
    · simp only
      rw [bind_of_ok first]
      exact second
    · rw [cleaned.apps] at foundAfter
      exact dropped info info' before foundAfter

/-- In a registry whose records agree, the removal of unresponsive tasks either
raises before it changes anything, or removes exactly the tasks that did not
answer. -/
theorem removeUnresponsiveTasks_outcome (backend : Backend) {world : World}
    (agree : world.hydra.TaskIdsAgree) (groupsNodup : world.hydra.GroupsNodup)
    (name groupName : String) :
    (∃ stop history, removeUnresponsiveTasks backend name groupName world =
      .error stop ⟨world.hydra, history⟩) ∨
    ∃ removeList after history,
      removeUnresponsiveTasks backend name groupName world =
        .ok () ⟨after, history⟩ ∧
      removeList.Nodup ∧
      UnresponsiveRemoved name removeList world.hydra after := by
  obtain ⟨hydra, history⟩ := world
  by_cases registered : name ∈ hydra.apps
  · obtain ⟨record, found⟩ := Option.isSome_iff_exists.mp
      (AList.lookup_isSome.mpr registered)
    obtain ⟨info, ids, rfl, listed, perm⟩ := agree name record found
    rcases scannedTasks_state hydra name groupName ⟨hydra, history⟩ with
      ⟨error, failed⟩ | ⟨taskList, chosen, source⟩
    · left
      refine ⟨.raised error, history, ?_⟩
      simp only [removeUnresponsiveTasks, getHydra_bind, assertThat_bind,
        registered, decide_true, if_true]
      exact bind_of_error failed
    · have taskNodup : taskList.Nodup := by
        rcases source with whole | ⟨group, groupFound, rfl⟩
        · rw [listed] at whole
          cases whole
          exact perm.nodup_iff.mpr info.ipPortMap.keys_nodup
        · exact groupsNodup groupName group groupFound
      obtain ⟨raises, removes⟩ := removeUnresponsiveTasks_scanned backend
        found listed perm groupsNodup chosen taskNodup
      cases pinged : pingTasks backend info.ipPortMap taskList history with
      | error stop later => exact .inl ⟨stop, later, raises stop later pinged⟩
      | ok removeList later =>
          obtain ⟨after, ended, removeNodup, removed, _⟩ :=
            removes removeList later pinged
          exact .inr ⟨removeList, after, later, ended, removeNodup, removed⟩
  · left
    refine ⟨.raised .assertionError, history, ?_⟩
    simp only [removeUnresponsiveTasks, getHydra_bind, assertThat_bind,
      registered, decide_false]
    rfl

end HydraBase

end MScale
