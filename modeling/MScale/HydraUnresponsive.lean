import MScale.HydraGroupMembers

/-!
# Which tasks a cleanup removes

The pings of `remove_unresponsive_tasks` are part of what was exchanged with
the cluster.  This file reads the tasks that did not answer off these
exchanges, and states what the removal does to an application whose records
agree: either a ping raises and nothing changes, or the `ip_port_map`, the
list of tasks and every group lose exactly the tasks that did not answer.
-/

namespace MScale

namespace HydraBase

open StateErrors

/-- The ping of a task, at the address it is mapped to, had this outcome. -/
def IsPing (ipPortMap : Dict (Int × String)) (task : String)
    (outcome : Except PyError Bool) (exchange : Exchange) : Prop :=
  ∃ info, ipPortMap.lookup task = some info ∧
    exchange = ⟨.doPing info.2 info.1 task, outcome⟩

/-- Each task was pinged once, in order, and answered as given. -/
def PingsAnswered (ipPortMap : Dict (Int × String)) (answers : String → Bool)
    (tasks : List String) (exchanges : List Exchange) : Prop :=
  List.Forall₂ (fun task => IsPing ipPortMap task (.ok (answers task)))
    tasks exchanges

/-- Some tasks were pinged in order, and the ping of the last of them
raised. -/
def PingRaised (ipPortMap : Dict (Int × String)) (error : PyError)
    (tasks : List String) (exchanges : List Exchange) : Prop :=
  ∃ answers pinged failing others earlier last,
    tasks = pinged ++ failing :: others ∧ exchanges = earlier ++ [last] ∧
    PingsAnswered ipPortMap answers pinged earlier ∧
    IsPing ipPortMap failing (.error error) last

variable {ipPortMap : Dict (Int × String)}

theorem PingsAnswered.cons {answers : String → Bool} {task : String}
    {tasks : List String} {res : Bool} {exchange : Exchange}
    {exchanges : List Exchange} (fresh : task ∉ tasks)
    (first : IsPing ipPortMap task (.ok res) exchange)
    (rest : PingsAnswered ipPortMap answers tasks exchanges) :
    PingsAnswered ipPortMap (Function.update answers task res)
      (task :: tasks) (exchange :: exchanges) := by
  have different : ∀ other ∈ tasks, other ≠ task :=
    fun other member => ne_of_mem_of_not_mem member fresh
  constructor
  · simpa using first
  · refine ((List.forall₂_and_left _ _).mpr ⟨different, rest⟩).imp ?_
    rintro other otherExchange ⟨otherNe, answered⟩
    rwa [Function.update_of_ne otherNe]

theorem PingRaised.cons {error : PyError} {task : String}
    {tasks : List String} {res : Bool} {exchange : Exchange}
    {exchanges : List Exchange} (fresh : task ∉ tasks)
    (first : IsPing ipPortMap task (.ok res) exchange)
    (rest : PingRaised ipPortMap error tasks exchanges) :
    PingRaised ipPortMap error (task :: tasks) (exchange :: exchanges) := by
  obtain ⟨answers, pinged, failing, others, earlier, last, rfl, rfl, pings,
    failed⟩ := rest
  have freshEarlier : task ∉ pinged :=
    fun member => fresh (List.mem_append_left _ member)
  exact ⟨Function.update answers task res, task :: pinged, failing, others,
    exchange :: earlier, last, rfl, rfl, pings.cons freshEarlier first, failed⟩

/-- Every mapped task is pinged, unless one of the pings raises; the tasks that
did not answer are kept in their order. -/
theorem pingTasks_exchanges (backend : Backend) {tasks : List String}
    (nodup : tasks.Nodup)
    (mapped : ∀ task ∈ tasks, task ∈ ipPortMap) (history : History) :
    (∃ error exchanges, PingRaised ipPortMap error tasks exchanges ∧
      pingTasks backend ipPortMap tasks history =
        .error (.raised error) (history ++ exchanges)) ∨
    ∃ answers exchanges, PingsAnswered ipPortMap answers tasks exchanges ∧
      pingTasks backend ipPortMap tasks history =
        .ok (tasks.filter fun task => !answers task)
          (history ++ exchanges) := by
  induction tasks generalizing history with
  | nil => exact .inr ⟨fun _ => true, [], .nil, by simp [pingTasks]; rfl⟩
  | cons task tasks ih =>
      obtain ⟨fresh, nodup⟩ := List.nodup_cons.mp nodup
      obtain ⟨here, mapped⟩ := List.forall_mem_cons.mp mapped
      obtain ⟨info, found⟩ := Option.isSome_iff_exists.mp
        (AList.lookup_isSome.mpr here)
      cases answered : backend history (.doPing info.2 info.1 task) with
      | error error =>
          left
          refine ⟨error, [⟨.doPing info.2 info.1 task, .error error⟩],
            ⟨fun _ => true, [], task, tasks, [], _, rfl, rfl, .nil,
              info, found, rfl⟩, ?_⟩
          simp only [pingTasks, index_bind, found]
          exact bind_of_error (by simp only [remote, answered])
      | ok res =>
          let ping : Exchange := ⟨.doPing info.2 info.1 task, .ok res⟩
          have isPing : IsPing ipPortMap task (.ok res) ping :=
            ⟨info, found, rfl⟩
          have first : remote backend (.doPing info.2 info.1 task) history =
              .ok res (history ++ [ping]) := by
            simp only [remote, answered]
            rfl
          have pingsFirst : pingTasks backend ipPortMap (task :: tasks)
              history =
              (pingTasks backend ipPortMap tasks >>= fun removeList =>
                pure (if res then removeList else task :: removeList))
                (history ++ [ping]) := by
            simp only [pingTasks, index_bind, found]
            exact bind_of_ok first
          rw [pingsFirst]
          rcases ih nodup mapped (history ++ [ping]) with
            ⟨error, exchanges, raised, ended⟩ |
              ⟨answers, exchanges, pings, ended⟩
          · left
            refine ⟨error, ping :: exchanges, raised.cons fresh isPing, ?_⟩
            rw [bind_of_error ended, List.append_assoc]
            rfl
          · right
            refine ⟨Function.update answers task res, ping :: exchanges,
              pings.cons fresh isPing, ?_⟩
            have others : (tasks.filter fun other =>
                !Function.update answers task res other) =
                tasks.filter fun other => !answers other := by
              apply List.filter_congr
              intro other member
              rw [Function.update_of_ne (ne_of_mem_of_not_mem member fresh)]
            rw [bind_of_ok ended, List.filter_cons, others, List.append_assoc,
              Function.update_self]
            cases res <;> rfl

/-- The list that is pinged: that of the application or, when a group is named,
that of the group. -/
def IsScanned (hydra : HydraBase) (name groupName : String)
    (scanned : List String) : Prop :=
  if groupName = "" then hydra.allTaskIds.lookup name = some scanned
  else ∃ group, hydra.appGroup.lookup groupName = some group ∧
    group.tasksList = scanned

theorem scannedTasks_of_isScanned {hydra : HydraBase}
    {name groupName : String} {ids scanned : List String}
    (listed : hydra.allTaskIds.lookup name = some ids)
    (isScanned : IsScanned hydra name groupName scanned) (world : World) :
    scannedTasks hydra name groupName world = .ok scanned world := by
  simp only [scannedTasks, index_bind, listed]
  unfold IsScanned at isScanned
  by_cases whole : groupName = ""
  · rw [if_pos whole, listed] at isScanned
    cases isScanned
    rw [if_pos whole]
    rfl
  · rw [if_neg whole] at isScanned
    obtain ⟨group, groupFound, rfl⟩ := isScanned
    have present : groupName ∈ hydra.appGroup :=
      AList.lookup_isSome.mp (by rw [groupFound]; rfl)
    simp only [whole, if_false, assertThat_bind, index_bind, present,
      decide_true, if_true, groupFound]
    rfl

/-- The tasks `gone` left the application and every group.  What remains keeps
its order, and nothing else changed. -/
structure TasksRemoved (name : String) (gone : List String)
    (before after : HydraBase) : Prop where
  otherApps : ∀ other, other ≠ name →
    after.apps.lookup other = before.apps.lookup other
  otherIds : ∀ other, other ≠ name →
    after.allTaskIds.lookup other = before.allTaskIds.lookup other
  info : ∀ info, before.apps.lookup name = some (.refreshed info) →
    ∃ ipPortMap,
      after.apps.lookup name = some (.refreshed { info with ipPortMap }) ∧
      ipPortMap.entries =
        info.ipPortMap.entries.filter fun entry => entry.fst ∉ gone
  ids : ∀ ids, before.allTaskIds.lookup name = some ids →
    after.allTaskIds.lookup name = some (ids.filter (· ∉ gone))
  groups : ∀ groupName, after.appGroup.lookup groupName =
    (before.appGroup.lookup groupName).map fun group =>
      { group with tasksList := group.tasksList.filter (· ∉ gone) }

/-- Where nothing is listed twice, `list.remove` leaves a filtered list. -/
theorem UnresponsiveRemoved.tasksRemoved {name : String} {gone : List String}
    {before after : HydraBase}
    (removed : UnresponsiveRemoved name gone before after)
    (dropped : EntriesDropped name gone before after)
    (groupsNodup : before.GroupsNodup)
    (idsNodup : ∀ ids, before.allTaskIds.lookup name = some ids →
      ids.Nodup) :
    TasksRemoved name gone before after where
  otherApps := removed.otherApps
  otherIds := removed.otherIds
  info info found := by
    obtain ⟨info', ipPortMap, foundBefore, foundAfter, _⟩ := removed.info
    rw [found] at foundBefore
    cases foundBefore
    exact ⟨ipPortMap, foundAfter, dropped _ _ found foundAfter⟩
  ids ids listed := by
    obtain ⟨ids', listedBefore, listedAfter⟩ := removed.ids
    rw [listed] at listedBefore
    cases listedBefore
    rw [listedAfter, (idsNodup ids listed).sdiff_eq_filter]
  groups groupName := by
    rw [removed.groups]
    cases found : before.appGroup.lookup groupName with
    | none => rfl
    | some group =>
        rw [Option.map_some, Option.map_some, AppGroup.without,
          (groupsNodup groupName group found).sdiff_eq_filter]

/-- In an application whose records agree, `remove_unresponsive_tasks` either
raises with a ping and changes nothing, or removes exactly the scanned tasks
that did not answer. -/
theorem removeUnresponsiveTasks_removes (backend : Backend) {world : World}
    {name groupName : String} {info : AppInfo} {ids scanned : List String}
    (found : world.hydra.apps.lookup name = some (.refreshed info))
    (listed : world.hydra.allTaskIds.lookup name = some ids)
    (perm : ids.Perm info.ipPortMap.keys)
    (groupsNodup : world.hydra.GroupsNodup)
    (isScanned : IsScanned world.hydra name groupName scanned)
    (mapped : ∀ task ∈ scanned, task ∈ info.ipPortMap) :
    (∃ error exchanges,
      PingRaised info.ipPortMap error scanned exchanges ∧
      removeUnresponsiveTasks backend name groupName world =
        .error (.raised error) ⟨world.hydra, world.history ++ exchanges⟩) ∨
    ∃ answers exchanges after,
      PingsAnswered info.ipPortMap answers scanned exchanges ∧
      removeUnresponsiveTasks backend name groupName world =
        .ok () ⟨after, world.history ++ exchanges⟩ ∧
      TasksRemoved name (scanned.filter fun task => !answers task)
        world.hydra after := by
  obtain ⟨hydra, history⟩ := world
  have idsNodup : ids.Nodup := perm.nodup_iff.mpr info.ipPortMap.keys_nodup
  have scannedNodup : scanned.Nodup := by
    unfold IsScanned at isScanned
    split at isScanned
    · rw [listed] at isScanned
      cases isScanned
      exact idsNodup
    · obtain ⟨group, groupFound, rfl⟩ := isScanned
      exact groupsNodup groupName group groupFound
  have chosen := scannedTasks_of_isScanned listed isScanned ⟨hydra, history⟩
  obtain ⟨raises, removes⟩ := removeUnresponsiveTasks_scanned backend found
    listed perm groupsNodup chosen scannedNodup
  rcases pingTasks_exchanges backend scannedNodup mapped history with
    ⟨error, exchanges, raised, ended⟩ | ⟨answers, exchanges, pings, ended⟩
  · exact .inl ⟨error, exchanges, raised, raises _ _ ended⟩
  · obtain ⟨after, ends, _, removed, dropped⟩ := removes _ _ ended
    refine .inr ⟨answers, exchanges, after, pings, ends,
      removed.tasksRemoved dropped groupsNodup fun ids' listed' => ?_⟩
    rw [listed] at listed'
    cases listed'
    exact idsNodup

/-- A cluster in which only the first of two subscribers answers its pings. -/
def silentSecond : Backend := fun history request =>
  match request with
  | .doPing _ _ taskId => .ok (taskId == "zst-sub.1_PORT31000")
  | request => steadyBackend history request

def twoSubscribers : Dict (Int × String) :=
  ((∅ : Dict (Int × String)).insert "zst-sub.2_PORT31001"
    (31001, "10.0.0.2")).insert "zst-sub.1_PORT31000" (31000, "10.0.0.1")

/-- Two subscribers, the second of them in a group. -/
def groupedPair : World :=
  ⟨((beforeLaunch.hydra.setApp "/zst-sub"
      (.refreshed { ipPortMap := twoSubscribers })).setTaskIds
        "/zst-sub" twoSubscribers.keys).setGroup "grp"
          ⟨"ZMQSubAnalyser", "grp", "/zst-sub", 1, ["zst-sub.2_PORT31001"]⟩,
    []⟩

theorem groupedPair_removes :
    (∃ error exchanges,
      PingRaised twoSubscribers error twoSubscribers.keys exchanges ∧
      removeUnresponsiveTasks silentSecond "/zst-sub" "" groupedPair =
        .error (.raised error)
          ⟨groupedPair.hydra, groupedPair.history ++ exchanges⟩) ∨
    ∃ answers exchanges after,
      PingsAnswered twoSubscribers answers twoSubscribers.keys exchanges ∧
      removeUnresponsiveTasks silentSecond "/zst-sub" "" groupedPair =
        .ok () ⟨after, groupedPair.history ++ exchanges⟩ ∧
      TasksRemoved "/zst-sub"
        (twoSubscribers.keys.filter fun task => !answers task)
        groupedPair.hydra after := by
  have groupsNodup : groupedPair.hydra.GroupsNodup := by
    intro groupName group found
    by_cases same : groupName = "grp"
    · subst same
      have groupEq : some _ = some group := found
      cases groupEq
      exact List.nodup_singleton _
    · have absent : groupedPair.hydra.appGroup.lookup groupName = none :=
        AList.lookup_insert_ne same
      rw [absent] at found
      cases found
  have found : groupedPair.hydra.apps.lookup "/zst-sub" =
      some (.refreshed { ipPortMap := twoSubscribers }) := rfl
  exact removeUnresponsiveTasks_removes silentSecond found rfl (.refl _)
    groupsNodup rfl fun _ member => member

end HydraBase

end MScale
