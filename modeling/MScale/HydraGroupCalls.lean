import MScale.HydraCleanup

/-!
# What the group operations do

This file describes the creation of a group and the deletion of tasks from a
group: which tasks are picked, which requests are made to kill tasks, and how
the registry is left.
-/

namespace MScale

open StateErrors

namespace AppGroup

/-- The tasks `delete_tasks_from_group` kills, in order: from the end of the
list. -/
def tasksToKill (group : AppGroup) (rounds : Nat) : List String :=
  group.tasksList.reverse.take rounds

/-- The tasks that stay in the group when so many are deleted. -/
def keptTasks (group : AppGroup) (rounds : Nat) : List String :=
  group.tasksList.take (group.tasksList.length - rounds)

/-- The requests to kill the given tasks, up to the first that fails. -/
def killRequests (backend : Backend) (appName : String) :
    List String → RemoteM Unit
  | [] => pure ()
  | taskId :: tasks => do
      remote backend (.killTask appName (HydraBase.rsplitUnderscore taskId))
      killRequests backend appName tasks

/-- The tasks whose kill is answered: those before the first that fails. -/
def killedTasks (backend : Backend) (appName : String) :
    List String → History → List String
  | [], _ => []
  | taskId :: tasks, history =>
      match remote backend
          (.killTask appName (HydraBase.rsplitUnderscore taskId)) history with
      | .ok _ later => taskId :: killedTasks backend appName tasks later
      | .error _ _ => []

variable {backend : Backend} {group : AppGroup} {front : List String}
    {last : String}

theorem tasksToKill_succ (listEq : group.tasksList = front ++ [last])
    (rounds : Nat) :
    group.tasksToKill (rounds + 1) =
      last :: { group with tasksList := front }.tasksToKill rounds := by
  simp [tasksToKill, listEq]

theorem keptTasks_succ (listEq : group.tasksList = front ++ [last])
    (rounds : Nat) :
    group.keptTasks (rounds + 1) =
      { group with tasksList := front }.keptTasks rounds := by
  have short : front.length - rounds ≤ front.length := Nat.sub_le _ _
  simp [keptTasks, listEq, List.take_append_of_le_length short]

theorem keptTasks_isPrefixOf (group : AppGroup) (rounds : Nat) :
    group.keptTasks rounds <+: group.tasksList :=
  List.take_prefix _ _

/-- One round of the loop over the tasks to delete. -/
theorem killTasks_succ (listEq : group.tasksList = front ++ [last])
    (rounds : Nat) (deletedTasks : List String) (history : History) :
    killTasks backend (rounds + 1) group deletedTasks history =
      match remote backend (.killTask group.appName
          (HydraBase.rsplitUnderscore last)) history with
      | .ok _ later =>
          killTasks backend rounds
            { group with tasksList := front, numTasks := group.numTasks - 1 }
            (deletedTasks ++ [last]) later
      | .error _ later =>
          .ok ({ group with tasksList := front }, none) later := by
  simp only [killTasks, listEq, List.getLast?_concat, List.dropLast_concat]
  cases killed : remote backend (.killTask group.appName
      (HydraBase.rsplitUnderscore last)) history with
  | ok answer later =>
      have caught : (try
          remote backend (.killTask group.appName
            (HydraBase.rsplitUnderscore last))
          pure true
        catch _ => pure false : RemoteM Bool) history = .ok true later := by
        refine tryCatch_of_ok ?_
        rw [bind_of_ok killed]
        rfl
      rw [bind_of_ok caught]
      rfl
  | error stop later =>
      have caught : (try
          remote backend (.killTask group.appName
            (HydraBase.rsplitUnderscore last))
          pure true
        catch _ => pure false : RemoteM Bool) history = .ok false later := by
        have raised : (do
            remote backend (.killTask group.appName
              (HydraBase.rsplitUnderscore last))
            pure true : RemoteM Bool) history = .error stop later := by
          rw [bind_of_error killed]
        exact tryCatch_of_error raised
      rw [bind_of_ok caught]
      rfl

theorem exists_concat {rounds : Nat}
    (enough : rounds + 1 ≤ group.tasksList.length) :
    ∃ front last, group.tasksList = front ++ [last] := by
  have nonempty : group.tasksList ≠ [] := by
    intro empty
    rw [empty] at enough
    simp at enough
  exact ⟨_, _, (List.dropLast_append_getLast nonempty).symm⟩

/-- When every kill is answered, the tasks to delete leave the group. -/
theorem killTasks_of_answered {rounds : Nat} {deletedTasks : List String}
    {history later : History} (enough : rounds ≤ group.tasksList.length)
    (answered : killRequests backend group.appName (group.tasksToKill rounds)
      history = .ok () later) :
    killTasks backend rounds group deletedTasks history =
      .ok ({ group with
          tasksList := group.keptTasks rounds
          numTasks := group.numTasks - rounds },
        some (deletedTasks ++ group.tasksToKill rounds)) later := by
  induction rounds generalizing group deletedTasks history with
  | zero =>
      cases answered
      simp [killTasks, keptTasks, tasksToKill]
      rfl
  | succ rounds ih =>
      obtain ⟨front, last, listEq⟩ := exists_concat enough
      rw [tasksToKill_succ listEq] at answered
      obtain ⟨_, middle, killed, rest⟩ := bind_ok_iff.mp answered
      have enoughFront : rounds ≤ front.length := by
        rw [listEq] at enough
        simpa using enough
      rw [killTasks_succ listEq, killed, keptTasks_succ listEq,
        tasksToKill_succ listEq]
      have later := @ih
        { group with tasksList := front, numTasks := group.numTasks - 1 }
        (deletedTasks ++ [last]) middle enoughFront rest
      have count : group.numTasks - 1 - (rounds : Int) =
          group.numTasks - ((rounds + 1 : Nat) : Int) := by
        omega
      simp only
      rw [later, count, List.append_assoc, List.singleton_append]
      rfl

/-- When a kill raises, the loop ends with the error code.  The task of that
kill has left the group as well. -/
theorem killTasks_of_stopped {rounds : Nat} {deletedTasks : List String}
    {history later : History} {stop : Stop}
    (enough : rounds ≤ group.tasksList.length)
    (failed : killRequests backend group.appName (group.tasksToKill rounds)
      history = .error stop later) :
    let killed := (killedTasks backend group.appName
      (group.tasksToKill rounds) history).length
    killed < rounds ∧ killTasks backend rounds group deletedTasks history =
      .ok ({ group with
          tasksList := group.keptTasks (killed + 1)
          numTasks := group.numTasks - killed }, none) later := by
  induction rounds generalizing group deletedTasks history with
  | zero => cases failed
  | succ rounds ih =>
      obtain ⟨front, last, listEq⟩ := exists_concat enough
      rw [tasksToKill_succ listEq] at failed ⊢
      have enoughFront : rounds ≤ front.length := by
        rw [listEq] at enough
        simpa using enough
      rcases bind_error_iff.mp failed with
        failedHere | ⟨_, middle, killedHere, failedLater⟩
      · rw [killTasks_succ listEq]
        simp [killedTasks, failedHere, keptTasks, listEq]
      · obtain ⟨less, ended⟩ := @ih
          { group with tasksList := front, numTasks := group.numTasks - 1 }
          (deletedTasks ++ [last]) middle enoughFront failedLater
        rw [killTasks_succ listEq, killedHere]
        simp only [killedTasks, killedHere, List.length_cons]
        have count (killed : Nat) : group.numTasks - 1 - (killed : Int) =
            group.numTasks - ((killed + 1 : Nat) : Int) := by
          omega
        refine ⟨Nat.succ_lt_succ less, ?_⟩
        rw [ended, keptTasks_succ listEq, ← count]
        rfl

theorem killTasks_of_failed {rounds : Nat} {deletedTasks : List String}
    {history later : History} {stop : Stop}
    (enough : rounds ≤ group.tasksList.length)
    (failed : killRequests backend group.appName (group.tasksToKill rounds)
      history = .error stop later) :
    ∃ killed < rounds, killTasks backend rounds group deletedTasks history =
      .ok ({ group with
          tasksList := group.keptTasks (killed + 1)
          numTasks := group.numTasks - killed }, none) later :=
  ⟨_, killTasks_of_stopped enough failed⟩

/-- When every kill is answered, all tasks are killed. -/
theorem killedTasks_of_answered {appName : String} {tasks : List String}
    {history later : History}
    (answered : killRequests backend appName tasks history = .ok () later) :
    killedTasks backend appName tasks history = tasks := by
  induction tasks generalizing history with
  | nil => rfl
  | cons taskId tasks ih =>
      obtain ⟨_, middle, killed, rest⟩ := bind_ok_iff.mp answered
      rw [killedTasks, killed]
      simp only [ih rest]

theorem clipDeletion_toNat_le (group : AppGroup) (numTasksToDelete : Int) :
    (group.clipDeletion numTasksToDelete).toNat ≤ group.tasksList.length := by
  unfold clipDeletion getNumTasks
  split <;> omega

/-- The group after `killed` of its tasks were killed and `popped` left its
list. -/
def afterKills (group : AppGroup) (popped killed : Nat) : AppGroup :=
  { group with
    tasksList := group.keptTasks popped
    numTasks := group.numTasks - killed }

/-- If `delete_tasks_from_group` returns, either a kill raised, and the
registry only loses tasks of the group, or all kills were answered, and the
application was refreshed. -/
theorem deleteTasksFromGroup_returned
    {store : AppGroup → HydraBase → HydraBase} {numTasksToDelete : Int}
    {world after : World} {result : Option (List String)}
    (returned : group.deleteTasksFromGroup backend store numTasksToDelete world =
      .ok result after) :
    let rounds := (group.clipDeletion numTasksToDelete).toNat
    (∃ stop later killed,
      killRequests backend group.appName (group.tasksToKill rounds)
        world.history = .error stop later ∧
      after.hydra = store (group.afterKills (killed + 1) killed) world.hydra) ∨
    ∃ later,
      killRequests backend group.appName (group.tasksToKill rounds)
        world.history = .ok () later ∧
      (HydraBase.refreshReply backend group.appName later).failure = none ∧
      group.appName ∈ (store (group.afterKills rounds rounds) world.hydra).apps ∧
      after.hydra = (store (group.afterKills rounds rounds)
        world.hydra).withReply group.appName
          (HydraBase.refreshReply backend group.appName later) := by
  intro rounds
  have enough := clipDeletion_toNat_le group numTasksToDelete
  simp only [deleteTasksFromGroup, HydraBase.onBackend_bind] at returned
  cases answered : killRequests backend group.appName
      (group.tasksToKill rounds) world.history with
  | error stop later =>
      obtain ⟨killed, _, ended⟩ := killTasks_of_failed enough answered
      rw [ended] at returned
      cases returned
      exact Or.inl ⟨stop, later, killed, rfl, rfl⟩
  | ok value later =>
      rw [killTasks_of_answered enough answered] at returned
      simp only [HydraBase.updateHydra_bind] at returned
      obtain ⟨count, middle, refreshed, rest⟩ := bind_ok_iff.mp returned
      obtain ⟨registered, answeredAll, middleEq⟩ :=
        HydraBase.refreshAppInfo_returned refreshed
      have same : after = middle := by
        split at rest <;> cases rest <;> rfl
      refine Or.inr ⟨later, rfl, answeredAll, registered, ?_⟩
      rw [same, middleEq]
      rfl

end AppGroup

namespace HydraBase

variable {backend : Backend}

theorem not_mem_of_not_isTaken {groups : Dict AppGroup}
    {tasksList : List String} {task groupName : String} {group : AppGroup}
    (free : isTaken groups tasksList task = false)
    (found : groups.lookup groupName = some group) :
    task ∉ group.tasksList ∧ task ∉ tasksList := by
  have member : (⟨groupName, group⟩ : Sigma fun _ : String => AppGroup) ∈
      groups.entries := AList.mem_lookup_iff.mp found
  simp only [isTaken, List.any_eq_false] at free
  simpa using free _ member

/-- A picked task is one of the application that is not taken. -/
theorem pickTask_returned {fuel : Nat} {ids : List String}
    {groups : Dict AppGroup} {tasksList : List String} {task : String}
    {history later : History}
    (returned : pickTask backend fuel ids groups tasksList history =
      .ok task later) :
    task ∈ ids ∧ isTaken groups tasksList task = false := by
  obtain ⟨_, before, _, broke⟩ := repeatUntil_returned
    (fun _ _ _ _ _ _ => True.intro) True.intro returned
  obtain ⟨drawn, middle, _, rest⟩ := bind_ok_iff.mp broke
  by_cases taken : isTaken groups tasksList (ids.get drawn)
  · simp only [taken, if_true] at rest
    cases rest
  · simp only [taken] at rest
    cases rest
    exact ⟨List.get_mem _ _, by simpa using taken⟩

/-- What the picking loop returns: as many tasks as rounds, all of them of the
application, without duplicates and in no group. -/
structure Picked (ids : List String) (groups : Dict AppGroup)
    (tasksList : List String) : Prop where
  nodup : tasksList.Nodup
  listed : ∀ task ∈ tasksList, task ∈ ids
  free : ∀ task ∈ tasksList, ∀ groupName group,
    groups.lookup groupName = some group → task ∉ group.tasksList

theorem pickTasks_returned {fuel : Nat} {ids : List String}
    {groups : Dict AppGroup} {groupName : String} {group : AppGroup}
    (registered : groups.lookup groupName = some group) {rounds : Nat}
    {tasksList picks : List String} {history later : History}
    (picked : Picked ids groups tasksList)
    (returned : pickTasks backend fuel ids groups rounds tasksList history =
      .ok picks later) :
    Picked ids groups picks ∧ picks.length = tasksList.length + rounds := by
  induction rounds generalizing tasksList history with
  | zero =>
      cases returned
      exact ⟨picked, rfl⟩
  | succ rounds ih =>
      obtain ⟨task, middle, drawn, rest⟩ := bind_ok_iff.mp returned
      obtain ⟨listed, free⟩ := pickTask_returned drawn
      have fresh : task ∉ tasksList :=
        (not_mem_of_not_isTaken free registered).2
      have pickedMore : Picked ids groups (tasksList ++ [task]) := by
        refine ⟨?_, ?_, ?_⟩
        · refine List.nodup_append.mpr
            ⟨picked.nodup, List.nodup_singleton _, ?_⟩
          intro other member single isSingle same
          rw [same, List.mem_singleton.mp isSingle] at member
          exact fresh member
        · intro other member
          rcases List.mem_append.mp member with member | member
          · exact picked.listed other member
          · rw [List.mem_singleton.mp member]
            exact listed
        · intro other member groupName' group' found
          rcases List.mem_append.mp member with member | member
          · exact picked.free other member groupName' group' found
          · rw [List.mem_singleton.mp member]
            exact (not_mem_of_not_isTaken free found).1
      obtain ⟨pickedAll, lengthEq⟩ := ih pickedMore rest
      refine ⟨pickedAll, ?_⟩
      rw [lengthEq, List.length_append, List.length_singleton]
      omega

theorem addTasksToGroup_of_empty {group : AppGroup}
    (empty : group.tasksList = []) {tasksList : List String}
    (nodup : tasksList.Nodup) :
    group.addTasksToGroup tasksList = { group with tasksList } := by
  simp [AppGroup.addTasksToGroup, empty, nodup.dedup]

@[simp]
theorem setGroup_setGroup (hydra : HydraBase) (groupName : String)
    (first second : AppGroup) :
    (hydra.setGroup groupName first).setGroup groupName second =
      hydra.setGroup groupName second := by
  simp [setGroup, AList.insert_insert]

/-- If `create_app_instances_group` returns, either the name was in use and
nothing changed, or the new group consists of tasks picked from the list of the
application. -/
theorem createAppInstancesGroup_returned {fuel : Nat}
    {appName groupName : String} {numAppInstances : Int}
    {analyser : Option String} {world after : World} {result : Option AppGroup}
    (returned : createAppInstancesGroup backend fuel appName groupName
      numAppInstances analyser world = .ok result after) :
    (result = none ∧ groupName ∈ world.hydra.appGroup ∧ after = world) ∨
    ∃ group ids, result = some group ∧ group.appName = appName ∧
      groupName ∉ world.hydra.appGroup ∧ appName ∈ world.hydra.apps ∧
      world.hydra.allTaskIds.lookup appName = some ids ∧
      Picked ids world.hydra.appGroup group.tasksList ∧
      (group.tasksList.length : Int) = max 0 (min numAppInstances ids.length) ∧
      after.hydra = world.hydra.setGroup groupName group := by
  simp only [createAppInstancesGroup, getHydra_bind, assertThat_bind]
    at returned
  by_cases registered : appName ∈ world.hydra.apps
  · simp only [registered, decide_true, if_true] at returned
    by_cases used : groupName ∈ world.hydra.appGroup
    · simp only [used, if_true] at returned
      cases returned
      exact Or.inl ⟨rfl, used, rfl⟩
    · simp only [used, if_false] at returned
      obtain ⟨fresh, middle, created, rest⟩ := bind_ok_iff.mp returned
      cases analyser with
      | none => cases created
      | some analyser =>
          cases created
          simp only [updateHydra_bind, index_bind] at rest
          cases listed : world.hydra.allTaskIds.lookup appName with
          | none =>
              rw [show (world.hydra.allTaskIds.lookup appName) = none from
                listed] at rest
              cases rest
          | some ids =>
              rw [show (world.hydra.allTaskIds.lookup appName) = some ids from
                listed] at rest
              simp only [getHydra_bind, onBackend_bind] at rest
              split at rest
              · next tasksList later picked =>
                  obtain ⟨pickedAll, lengthEq⟩ := pickTasks_returned
                    (AList.lookup_insert world.hydra.appGroup)
                    ⟨List.nodup_nil, by simp, by simp⟩ picked
                  rw [addTasksToGroup_of_empty rfl pickedAll.nodup] at rest
                  cases rest
                  refine Or.inr ⟨_, ids, rfl, rfl, used, registered, rfl,
                    ⟨pickedAll.nodup, pickedAll.listed, ?_⟩, ?_, by simp⟩
                  · intro task member other group found
                    apply pickedAll.free task member other group
                    have different : other ≠ groupName := by
                      rintro rfl
                      exact used (AList.lookup_isSome.mp (by rw [found]; rfl))
                    rw [← found]
                    exact AList.lookup_insert_ne different
                  · simp only [lengthEq, List.length_nil, Nat.zero_add]
                    split <;> omega
              · cases rest
  · simp only [registered, decide_false] at returned
    cases returned

end HydraBase

end MScale
