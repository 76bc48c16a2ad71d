import MScale.HydraBase

/-!
# Groups of application instances

A group collects instances of one application under a name.  This file embeds
the class `AppGroup`, the operations of `HydraBase` that create and delete
groups, the removal of unresponsive instances, and the calls a test makes on
the registry.
-/

namespace MScale

namespace AppGroup

/-- `AppGroup.__init__`; a missing analyser class is refused. -/
def init {State : Type} (appName groupName : String) (numTasks : Int)
    (analyser : Option String) : EStateM Stop State AppGroup :=
  match analyser with
  | some analyser =>
      pure { analyser, groupName, appName, numTasks, tasksList := [] }
  | none =>
      throw (.raised (.exception
        ("AppGroup needs analyser class name passed as a name, " ++
          "curr val = None")))

/-- `add_tasks_to_group`.  The order of a Python set is not fixed; here new
tasks keep the order they come in. -/
def addTasksToGroup (group : AppGroup) (tasksList : List String) : AppGroup :=
  { group with
    tasksList := group.tasksList ++
      tasksList.dedup.filter (· ∉ group.tasksList) }

/-- `get_num_tasks`. -/
def getNumTasks (group : AppGroup) : Int :=
  group.tasksList.length

/-- The loop of `delete_tasks_from_group` over the tasks to delete.  Any
exception of a round ends it with the error code, here `none`; the task is off
the list by then. -/
def killTasks (backend : Backend) :
    Nat → AppGroup → List String → RemoteM (AppGroup × Option (List String))
  | 0, group, deletedTasks => pure (group, some deletedTasks)
  | rounds + 1, group, deletedTasks =>
      match group.tasksList.getLast? with
      | none => pure (group, none)
      | some taskIdToDel => do
          let group := { group with tasksList := group.tasksList.dropLast }
          let killed ←
            try
              remote backend
                (.killTask group.appName (HydraBase.rsplitUnderscore taskIdToDel))
              pure true
            catch _ => pure false
          if killed then
            killTasks backend rounds
              { group with numTasks := group.numTasks - 1 }
              (deletedTasks ++ [taskIdToDel])
          else
            pure (group, none)

/-- The number of tasks `delete_tasks_from_group` tries to delete: no more than
the group has. -/
def clipDeletion (group : AppGroup) (numTasksToDelete : Int) : Int :=
  if numTasksToDelete > group.getNumTasks then group.getNumTasks
  else numTasksToDelete

/-- `delete_tasks_from_group`, where `store` updates the group object in place.
The error code is `none`. -/
def deleteTasksFromGroup (backend : Backend)
    (store : AppGroup → HydraBase → HydraBase) (group : AppGroup)
    (numTasksToDelete : Int) : HydraM (Option (List String)) := do
  let toDelete := group.clipDeletion numTasksToDelete
  let (remaining, deleted) ← killTasks backend toDelete.toNat group []
  updateHydra (store remaining)
  match deleted with
  | none => pure none
  | some deletedTasks =>
      let _ ← HydraBase.refreshAppInfo backend group.appName
      if group.getNumTasks - toDelete ≠ remaining.getNumTasks then
        pure none
      else
        pure (some deletedTasks)

end AppGroup

namespace HydraBase

section Operations

variable (backend : Backend)

/-- Whether a drawn task is in a group or was picked before. -/
def isTaken (groups : Dict AppGroup) (tasksList : List String)
    (randomTaskId : String) : Bool :=
  groups.entries.any fun entry =>
    randomTaskId ∈ entry.snd.tasksList || randomTaskId ∈ tasksList

/-- Draw tasks until one is not taken. -/
def pickTask (fuel : Nat) (ids : List String) (groups : Dict AppGroup)
    (tasksList : List String) : RemoteM String :=
  StateErrors.repeatUntil .unfinished
    (fun (_ : Unit) => do
      let drawn ← remote backend (.randomChoice ids.length)
      let randomTaskId := ids.get drawn
      if isTaken groups tasksList randomTaskId then
        pure (.inr ())
      else
        pure (.inl randomTaskId))
    fuel ()

/-- The loop of `create_app_instances_group` over the requested instances. -/
def pickTasks (fuel : Nat) (ids : List String) (groups : Dict AppGroup) :
    Nat → List String → RemoteM (List String)
  | 0, tasksList => pure tasksList
  | rounds + 1, tasksList => do
      let randomTaskId ← pickTask backend fuel ids groups tasksList
      pickTasks fuel ids groups rounds (tasksList ++ [randomTaskId])

/-- `create_app_instances_group`.  The error code for an existing group is
`none`. -/
def createAppInstancesGroup (fuel : Nat) (appName groupName : String)
    (numAppInstances : Int) (analyser : Option String) :
    HydraM (Option AppGroup) := do
  let hydra ← getHydra
  assertThat (appName ∈ hydra.apps)
  if groupName ∈ hydra.appGroup then
    pure none
  else
    let appGrp ← AppGroup.init appName groupName numAppInstances analyser
    updateHydra (·.setGroup groupName appGrp)
    let ids ← index hydra.allTaskIds appName
    let available : Int := ids.length
    let numAppInstances :=
      if numAppInstances > available then available else numAppInstances
    let tasksList ← pickTasks backend fuel ids (← getHydra).appGroup
      numAppInstances.toNat []
    let appGrp := appGrp.addTasksToGroup tasksList
    updateHydra (·.setGroup groupName appGrp)
    pure (some appGrp)

/-- `delete_app_instances_group`. -/
def deleteAppInstancesGroup (groupName : String) : HydraM Bool := do
  if groupName ∉ (← getHydra).appGroup then
    pure false
  else
    updateHydra fun hydra =>
      { hydra with appGroup := hydra.appGroup.erase groupName }
    pure true

/-- The loop of `delete_all_app_instances_groups` over the names. -/
def deleteEachGroup : List String → HydraM Bool
  | [] => pure true
  | groupName :: groupNames => do
      if ← deleteAppInstancesGroup groupName then
        deleteEachGroup groupNames
      else
        pure false

/-- `delete_all_app_instances_groups`. -/
def deleteAllAppInstancesGroups : HydraM Bool := do
  deleteEachGroup (← getHydra).appGroup.keys

/-- The pings of `remove_unresponsive_tasks`: the tasks that do not answer. -/
def pingTasks (ipPortMap : Dict (Int × String)) :
    List String → RemoteM (List String)
  | [] => pure []
  | taskId :: taskList => do
      let info ← index ipPortMap taskId
      let res ← remote backend (.doPing info.2 info.1 taskId)
      let removeList ← pingTasks ipPortMap taskList
      pure (if res then removeList else taskId :: removeList)

/-- Python's `list.remove`. -/
def listRemove {State : Type} (list : List String) (item : String) :
    EStateM Stop State (List String) :=
  if item ∈ list then pure (list.erase item) else throw (.raised .valueError)

/-- Remove unresponsive clients from the `ip_port_map` and from
`all_task_ids`. -/
def removeClients (name : String) : List String → HydraM Unit
  | [] => pure ()
  | item :: removeList => do
      let _ ← index (← getAppIpportMap name) item
      updateHydra (modifyIpPortMap name (·.erase item))
      let ids ← listRemove (← index (← getHydra).allTaskIds name) item
      updateHydra (·.setTaskIds name ids)
      removeClients name removeList

/-- Remove the bad clients of one group from it. -/
def removeFromGroup (groupName : String) : List String → HydraM Unit
  | [] => pure ()
  | badClient :: badList => do
      let group ← index (← getHydra).appGroup groupName
      let tasksList ← listRemove group.tasksList badClient
      updateHydra (·.setGroup groupName { group with tasksList })
      removeFromGroup groupName badList

/-- Remove the bad clients of each group from it. -/
def removeFromGroups : List (String × List String) → HydraM Unit
  | [] => pure ()
  | (groupName, badList) :: tempDict => do
      removeFromGroup groupName badList
      removeFromGroups tempDict

/-- For each group the unresponsive clients in it. -/
def badClients (groups : Dict AppGroup) (removeList : List String) :
    List (String × List String) :=
  groups.entries.map fun entry =>
    (entry.fst, removeList.filter (· ∈ entry.snd.tasksList))

/-- The tasks that `remove_unresponsive_tasks` and `reset_all_app_stats` go
through: those of the application, or of one group. -/
def scannedTasks (hydra : HydraBase) (name groupName : String) :
    HydraM (List String) := do
  let taskList ← index hydra.allTaskIds name
  if groupName = "" then
    pure taskList
  else
    assertThat (groupName ∈ hydra.appGroup)
    let group ← index hydra.appGroup groupName
    pure group.tasksList

/-- `remove_unresponsive_tasks`. -/
def removeUnresponsiveTasks (name groupName : String) : HydraM Unit := do
  let hydra ← getHydra
  assertThat (name ∈ hydra.apps)
  let taskList ← scannedTasks hydra name groupName
  let ipPortMap ← getAppIpportMap name
  let removeList ← pingTasks backend ipPortMap taskList
  removeClients name removeList
  removeFromGroups (badClients hydra.appGroup removeList)

/-- `delete_tasks_from_group` called on a group registered under
`groupName`. -/
def deleteTasksFromRegistered (groupName : String) (numTasksToDelete : Int) :
    HydraM (Option (List String)) := do
  let group ← index (← getHydra).appGroup groupName
  group.deleteTasksFromGroup backend
    (fun remaining hydra => hydra.setGroup groupName remaining)
    numTasksToDelete

end Operations

/-- A call on the registry.  `deleteTasksFromGroup` is called on the object
registered under a name, `deleteTasksFromDetached` on a group object that is
no longer registered. -/
inductive Call
  | createHydraApp (name appPath appArgs : String) (cpus mem : ℚ)
      (ports : Option (List Int))
      (constraints : Option (List MarathonConstraint))
  | createBinaryApp (name appScript : String) (cpus mem : ℚ)
      (ports : Option (List Int))
      (constraints : Option (List MarathonConstraint))
  | scaleApp (name : String)
      (scaleCnt sleepBeforeNextTry instanceBatch instanceThreshold : Int)
  | refreshAppInfo (name : String)
  | removeUnresponsiveTasks (name groupName : String)
  | deleteApp (app : String) (timeout : Int) (wait : Bool)
      (threshold instanceBatch : Int)
  | createAppInstancesGroup (appName groupName : String)
      (numAppInstances : Int) (analyser : Option String)
  | deleteAppInstancesGroup (groupName : String)
  | deleteTasksFromGroup (groupName : String) (numTasksToDelete : Int)
  | deleteTasksFromDetached (group : AppGroup) (numTasksToDelete : Int)

/-- Execute a call, with a bound on the rounds of its loops. -/
def perform (backend : Backend) (fuel : Nat) : Call → HydraM Unit
  | .createHydraApp name appPath appArgs cpus mem ports constraints =>
      discard (createHydraApp backend name appPath appArgs cpus mem ports
        constraints)
  | .createBinaryApp name appScript cpus mem ports constraints =>
      discard (createBinaryApp backend name appScript cpus mem ports
        constraints)
  | .scaleApp name scaleCnt sleepBeforeNextTry instanceBatch
      instanceThreshold =>
      scaleApp backend fuel name scaleCnt sleepBeforeNextTry instanceBatch
        instanceThreshold
  | .refreshAppInfo name => discard (refreshAppInfo backend name)
  | .removeUnresponsiveTasks name groupName =>
      removeUnresponsiveTasks backend name groupName
  | .deleteApp app timeout wait threshold instanceBatch =>
      deleteApp backend fuel app timeout wait threshold instanceBatch
  | .createAppInstancesGroup appName groupName numAppInstances analyser =>
      discard (createAppInstancesGroup backend fuel appName groupName
        numAppInstances analyser)
  | .deleteAppInstancesGroup groupName =>
      discard (deleteAppInstancesGroup groupName)
  | .deleteTasksFromGroup groupName numTasksToDelete =>
      discard (deleteTasksFromRegistered backend groupName numTasksToDelete)
  | .deleteTasksFromDetached group numTasksToDelete =>
      discard (group.deleteTasksFromGroup backend (fun _ hydra => hydra)
        numTasksToDelete)

/-- The registry of a new `HydraBase`, with what was exchanged before. -/
def newWorld (testName myaddr : String) (history : History) : World :=
  ⟨{ testName, myaddr }, history⟩

/-- Launch the subscribers of a test. -/
def launchSubscribers : Call :=
  .createBinaryApp "/zst-sub" "./zmq_sub" (1 / 100) 32 none none

def beforeLaunch : World :=
  newWorld "zmqScale" "http://10.0.0.9:9800" []

/-- The call returns. -/
def Completes (backend : Backend) (before : World) (call : Call)
    (after : World) : Prop :=
  ∃ fuel, perform backend fuel call before = .ok () after

/-- The call raises. -/
def Raises (backend : Backend) (before : World) (call : Call)
    (after : World) : Prop :=
  ∃ fuel error,
    perform backend fuel call before = .error (.raised error) after

end HydraBase

end MScale
