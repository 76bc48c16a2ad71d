import MScale.HydraGroupMembers

/-!
# Which tasks leave a group

`delete_tasks_from_group` takes a task off the list of the group before it
asks Marathon to kill it.  This file compares the tasks that left the list with
those that were killed: they are the same exactly when no kill raises.
-/

namespace MScale

open StateErrors

namespace AppGroup

/-- The number of tasks `delete_tasks_from_group` goes through. -/
abbrev deletionRounds (group : AppGroup) (numTasksToDelete : Int) : Nat :=
  (group.clipDeletion numTasksToDelete).toNat

/-- The group object as `delete_tasks_from_group` leaves it. -/
def afterDeletion (backend : Backend) (group : AppGroup)
    (numTasksToDelete : Int) (history : History) : AppGroup :=
  match killTasks backend (group.deletionRounds numTasksToDelete) group []
      history with
  | .ok (remaining, _) _ => remaining
  | .error _ _ => group

/-- The tasks whose call of `kill_task` succeeds. -/
abbrev tasksKilled (backend : Backend) (group : AppGroup)
    (numTasksToDelete : Int) (history : History) : List String :=
  killedTasks backend group.appName
    (group.tasksToKill (group.deletionRounds numTasksToDelete)) history

/-- The tasks that left the list of a group are the killed ones, the others
keep their order, and they are counted. -/
structure LostExactly (before after : AppGroup) (killed : List String) :
    Prop where
  left : before.tasksList.Perm (after.tasksList ++ killed)
  order : after.tasksList.Sublist before.tasksList
  count : after.numTasks = before.numTasks - killed.length

variable {backend : Backend} {group : AppGroup} {numTasksToDelete : Int}
variable {history later : History}

theorem keptTasks_append_tasksToKill (group : AppGroup) (rounds : Nat) :
    group.tasksList.Perm (group.keptTasks rounds ++ group.tasksToKill rounds) := by
  rw [keptTasks, tasksToKill, List.take_reverse]
  have whole : group.tasksList =
      group.tasksList.take (group.tasksList.length - rounds) ++
        group.tasksList.drop (group.tasksList.length - rounds) :=
    (List.take_append_drop _ _).symm
  exact (List.Perm.of_eq whole).trans
    ((List.reverse_perm _).symm.append_left _)

theorem tasksToKill_length {rounds : Nat}
    (enough : rounds ≤ group.tasksList.length) :
    (group.tasksToKill rounds).length = rounds := by
  rw [tasksToKill, List.length_take, List.length_reverse, Nat.min_eq_left enough]

theorem deletionRounds_le (group : AppGroup) (numTasksToDelete : Int) :
    group.deletionRounds numTasksToDelete ≤ group.tasksList.length :=
  clipDeletion_toNat_le group numTasksToDelete

theorem lostExactly_of_answered
    (answered : killRequests backend group.appName
      (group.tasksToKill (group.deletionRounds numTasksToDelete)) history =
        .ok () later) :
    LostExactly group (group.afterDeletion backend numTasksToDelete history)
      (group.tasksKilled backend numTasksToDelete history) := by
  have enough := deletionRounds_le group numTasksToDelete
  rw [afterDeletion, killTasks_of_answered enough answered, tasksKilled,
    killedTasks_of_answered answered]
  exact ⟨keptTasks_append_tasksToKill group _,
    (keptTasks_isPrefixOf group _).sublist, by rw [tasksToKill_length enough]⟩

/-- The task of the kill that raises is lost without having been killed. -/
theorem not_lostExactly_of_failed {stop : Stop}
    (failed : killRequests backend group.appName
      (group.tasksToKill (group.deletionRounds numTasksToDelete)) history =
        .error stop later) :
    ¬ LostExactly group (group.afterDeletion backend numTasksToDelete history)
      (group.tasksKilled backend numTasksToDelete history) := by
  have enough := deletionRounds_le group numTasksToDelete
  obtain ⟨fewer, ended⟩ :=
    @killTasks_of_stopped _ _ _ [] _ _ _ enough failed
  intro lost
  have lengths := lost.left.length_eq
  rw [afterDeletion, ended] at lengths
  simp only [keptTasks, List.length_append, List.length_take, tasksKilled]
    at lengths
  omega

/-- Whatever `delete_tasks_from_group` returns, it leaves the group object
stored as the kills left it; the application may have been refreshed. -/
theorem deleteTasksFromGroup_stores
    {store : AppGroup → HydraBase → HydraBase} {world after : World}
    {result : Option (List String)}
    (returned : group.deleteTasksFromGroup backend store numTasksToDelete
      world = .ok result after) :
    let stored := store
      (group.afterDeletion backend numTasksToDelete world.history) world.hydra
    after.hydra = stored ∨
      ∃ reply, after.hydra = stored.withReply group.appName reply := by
  have enough := deletionRounds_le group numTasksToDelete
  simp only [deleteTasksFromGroup, HydraBase.onBackend_bind] at returned
  cases answered : killRequests backend group.appName
      (group.tasksToKill (group.deletionRounds numTasksToDelete))
      world.history with
  | error stop later =>
      obtain ⟨_, ended⟩ := @killTasks_of_stopped _ _ _ [] _ _ _ enough answered
      rw [ended] at returned
      cases returned
      left
      rw [afterDeletion, ended]
  | ok value later =>
      have ended := @killTasks_of_answered _ _ _ [] _ _ enough answered
      rw [ended] at returned
      simp only [HydraBase.updateHydra_bind] at returned
      obtain ⟨count, middle, refreshed, rest⟩ := bind_ok_iff.mp returned
      obtain ⟨_, _, middleEq⟩ := HydraBase.refreshAppInfo_returned refreshed
      have same : after = middle := by
        split at rest <;> cases rest <;> rfl
      right
      refine ⟨HydraBase.refreshReply backend group.appName later, ?_⟩
      rw [same, middleEq, afterDeletion, ended]

/-- When `delete_tasks_from_group` has returned, the group object has lost
exactly the tasks that were killed if and only if every kill succeeded. -/
theorem deleteTasksFromGroup_lostExactly_iff
    {store : AppGroup → HydraBase → HydraBase} {world after : World}
    {result : Option (List String)}
    (returned : group.deleteTasksFromGroup backend store numTasksToDelete
      world = .ok result after) :
    let remaining := group.afterDeletion backend numTasksToDelete world.history
    (after.hydra = store remaining world.hydra ∨
      ∃ reply, after.hydra =
        (store remaining world.hydra).withReply group.appName reply) ∧
    (LostExactly group remaining
        (group.tasksKilled backend numTasksToDelete world.history) ↔
      ∃ later, killRequests backend group.appName
        (group.tasksToKill (group.deletionRounds numTasksToDelete))
        world.history = .ok () later) := by
  refine ⟨deleteTasksFromGroup_stores returned, ?_⟩
  cases answered : killRequests backend group.appName
      (group.tasksToKill (group.deletionRounds numTasksToDelete))
      world.history with
  | ok value later =>
      exact iff_of_true (lostExactly_of_answered answered) ⟨later, rfl⟩
  | error stop later =>
      refine iff_of_false (not_lostExactly_of_failed answered) ?_
      rintro ⟨_, answeredAll⟩
      cases answeredAll

/-- Whenever `delete_tasks_from_group` has returned, the group object has lost
exactly the tasks that were killed. -/
def LosesKilledTasks : Prop :=
  ∀ (backend : Backend) (store : AppGroup → HydraBase → HydraBase)
    (group : AppGroup) (numTasksToDelete : Int) (world after : World)
    (result : Option (List String)),
    group.deleteTasksFromGroup backend store numTasksToDelete world =
      .ok result after →
    LostExactly group
      (group.afterDeletion backend numTasksToDelete world.history)
      (group.tasksKilled backend numTasksToDelete world.history)

/-- A cluster on which no task can be killed. -/
def refusingKills : Backend := fun history request =>
  match request with
  | .killTask _ _ => .error (.exception "kill_task failed")
  | request => steadyBackend history request

/-- A group of one subscriber. -/
def oneSubscriber : AppGroup :=
  ⟨"ZMQSubAnalyser", "grp", "/zst-sub", 1, ["zst-sub.1_PORT31000"]⟩

def afterRefusedKill : World :=
  stateAfter (oneSubscriber.deleteTasksFromGroup refusingKills
    (fun remaining hydra => hydra.setGroup "grp" remaining) 1
    HydraBase.groupedWorld)

theorem oneSubscriber_deletion_returned :
    oneSubscriber.deleteTasksFromGroup refusingKills
      (fun remaining hydra => hydra.setGroup "grp" remaining) 1
      HydraBase.groupedWorld = .ok none afterRefusedKill := by
  rfl

/-- The subscriber that could not be killed is off the list of its group. -/
theorem oneSubscriber_lost_alive : ¬ LosesKilledTasks := by
  intro loses
  have lost := loses refusingKills _ oneSubscriber 1 _ _ _
    oneSubscriber_deletion_returned
  have lengths := lost.left.length_eq
  exact absurd lengths (by decide)

/-- A cluster on which one task can be killed. -/
def killingOnce : Backend := fun history request =>
  match request with
  | .killTask _ _ =>
      let killed := history.any fun exchange =>
        match exchange.request with
        | .killTask _ _ => true
        | _ => false
      if killed then .error (.exception "kill_task failed") else .ok ()
  | request => steadyBackend history request

/-- A group of three subscribers. -/
def threeSubscribers : AppGroup :=
  ⟨"ZMQSubAnalyser", "grp", "/zst-sub", 3,
    ["zst-sub.1_PORT31000", "zst-sub.2_PORT31001", "zst-sub.3_PORT31002"]⟩

theorem threeSubscribers_deletion_returned (numTasksToDelete : Int)
    (asked : numTasksToDelete = 1 ∨ numTasksToDelete = 2) :
    ∃ result after, threeSubscribers.deleteTasksFromGroup killingOnce
      (fun remaining hydra => hydra.setGroup "grp" remaining) numTasksToDelete
      HydraBase.groupedWorld = .ok result after := by
  rcases asked with rfl | rfl <;> exact ⟨_, _, rfl⟩

/-- Deleting one of three subscribers loses the one that is killed; deleting
two of them also loses the one whose kill fails. -/
theorem threeSubscribers_lostExactly_iff :
    let history := HydraBase.groupedWorld.history
    let remaining := threeSubscribers.afterDeletion killingOnce
    let killed := threeSubscribers.tasksKilled killingOnce
    killed 1 history = ["zst-sub.3_PORT31002"] ∧
      LostExactly threeSubscribers (remaining 1 history) (killed 1 history) ∧
      killed 2 history = ["zst-sub.3_PORT31002"] ∧
      (remaining 2 history).tasksList = ["zst-sub.1_PORT31000"] ∧
      ¬ LostExactly threeSubscribers (remaining 2 history)
        (killed 2 history) := by
  obtain ⟨_, _, oneReturned⟩ :=
    threeSubscribers_deletion_returned 1 (Or.inl rfl)
  obtain ⟨_, _, twoReturned⟩ :=
    threeSubscribers_deletion_returned 2 (Or.inr rfl)
  refine ⟨rfl, ?_, rfl, rfl, ?_⟩
  · exact (deleteTasksFromGroup_lostExactly_iff oneReturned).2.mpr ⟨_, rfl⟩
  · intro lost
    obtain ⟨later, answered⟩ :=
      (deleteTasksFromGroup_lostExactly_iff twoReturned).2.mp lost
    cases answered

end AppGroup

end MScale
