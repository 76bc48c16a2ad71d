import MScale.HydraBackend
import MScale.HydraMessages
import Mathlib.Data.Finset.Basic

/-!
# The application registry of the master

`HydraBase` launches applications on the cluster and keeps three records of
their instances: the `ip_port_map` of each application, the list
`all_task_ids`, and the task lists of the groups formed by the tests.  This
file embeds the operations of `hydrabase.py` that read or change them.  An
operation that raises leaves the registry as it was at that point.
-/

namespace MScale

/-- Statistics of one instance, by their names. -/
abbrev Stats := Dict (PyValue ℚ)

/-- `apps[name]` once the application was refreshed. -/
structure AppInfo where
  ipPortMap : Dict (Int × String) := ∅
  stats : Dict Stats := ∅
  property : Dict (Finset String) := ∅

/-- `apps[name]`: the entry made when the application was launched has no
`ip_port_map` yet. -/
inductive AppRecord
  | launched (app : MarathonApp) (type : String)
  | refreshed (info : AppInfo)

structure AppGroup where
  analyser : String
  groupName : String
  appName : String
  numTasks : Int
  tasksList : List String
  deriving DecidableEq, Repr

structure HydraBase where
  testName : String
  myaddr : String
  apps : Dict AppRecord := ∅
  appGroup : Dict AppGroup := ∅
  allTaskIds : Dict (List String) := ∅

/-- The registry together with everything exchanged with the cluster. -/
structure World where
  hydra : HydraBase
  history : History

abbrev HydraM := EStateM Stop World

/-- Programs that only talk to the cluster leave the registry alone. -/
def onBackend {Value : Type} (program : RemoteM Value) : HydraM Value :=
  StateErrors.onPart World.history
    (fun history world => { world with history := history }) program

instance : MonadLift RemoteM HydraM := ⟨onBackend⟩

def getHydra : HydraM HydraBase := fun world => .ok world.hydra world

def updateHydra (update : HydraBase → HydraBase) : HydraM Unit :=
  fun world => .ok () { world with hydra := update world.hydra }

/-- `dict[key]`. -/
def index {State Value : Type} (dict : Dict Value) (key : String) :
    EStateM Stop State Value :=
  match dict.lookup key with
  | some value => pure value
  | none => throw (.raised (.keyError key))

namespace HydraBase

def setApp (hydra : HydraBase) (name : String) (record : AppRecord) :
    HydraBase :=
  { hydra with apps := hydra.apps.insert name record }

def setTaskIds (hydra : HydraBase) (name : String) (ids : List String) :
    HydraBase :=
  { hydra with allTaskIds := hydra.allTaskIds.insert name ids }

def setGroup (hydra : HydraBase) (groupName : String) (group : AppGroup) :
    HydraBase :=
  { hydra with appGroup := hydra.appGroup.insert groupName group }

/-- Change `apps[name]['ip_port_map']` in place. -/
def modifyIpPortMap (name : String)
    (change : Dict (Int × String) → Dict (Int × String)) (hydra : HydraBase) :
    HydraBase :=
  match hydra.apps.lookup name with
  | some (.refreshed info) =>
      hydra.setApp name
        (.refreshed { info with ipPortMap := change info.ipPortMap })
  | _ => hydra

/-- `get_cmd`. -/
def getCmd (functionPath arguments : String) : String :=
  "env && cd ./src/main/scripts && ./hydra " ++ functionPath ++ " " ++ arguments

/-- `get_app_uri`. -/
def getAppUri (hydra : HydraBase) : String :=
  hydra.myaddr ++ "/" ++ hydra.testName ++ ".tgz"

/-- `apps[name]['ip_port_map']`. -/
def getAppIpportMap (name : String) : HydraM (Dict (Int × String)) := do
  let hydra ← getHydra
  match ← index hydra.apps name with
  | .refreshed info => pure info.ipPortMap
  | .launched _ _ => throw (.raised (.keyError "ip_port_map"))

/-- The id of the instance of a task that listens on `port`. -/
def instanceId (task : Task) (port : Int) : String :=
  task.id ++ "_PORT" ++ toString port

/-- The part of a key up to its last underscore, `key.rsplit('_', 1)[0]`. -/
def rsplitUnderscore (key : String) : String :=
  match (key.toList.reverse.dropWhile (· ≠ '_')) with
  | [] => key
  | _ :: front => String.ofList front.reverse

section Operations

variable (backend : Backend)

/-- `get_app_tasks`; an application unknown to Marathon has no `tasks`. -/
def getAppTasks (app : String) : RemoteM (List Task) := do
  match ← remote backend (.getApp app) with
  | some a1 => pure a1.tasks
  | none => throw (.raised .attributeError)

/-- Enter the instances of one task into an `ip_port_map`. -/
def addTask (task : Task) (appIp : String) (ipPortMap : Dict (Int × String)) :
    Dict (Int × String) :=
  task.ports.foldl
    (fun ipPortMap port => ipPortMap.insert (instanceId task port) (port, appIp))
    ipPortMap

/-- The loop of `refresh_app_info` over the tasks. -/
def fillIpPortMap (name : String) : List Task → HydraM Unit
  | [] => pure ()
  | task :: tasks => do
      let appIp ← remote backend (.getSlaveIpFromHn task.host)
      updateHydra (modifyIpPortMap name (addTask task appIp))
      fillIpPortMap name tasks

/-- `refresh_app_info`. -/
def refreshAppInfo (name : String) : HydraM Nat := do
  assertThat (name ∈ (← getHydra).apps)
  updateHydra (·.setApp name (.refreshed {}))
  let tasks ← getAppTasks backend name
  fillIpPortMap backend name tasks
  let ipPortMap ← getAppIpportMap name
  updateHydra (·.setTaskIds name ipPortMap.keys)
  pure tasks.length

/-- What `create_hydra_app` and `create_binary_app` share: they differ in the
command and in the type they record. -/
def launchApp (name : String) (app : MarathonApp) (type : String) :
    HydraM MarathonApp := do
  assertThat (name ∉ (← getHydra).apps)
  let r ← remote backend (.createApp name app)
  updateHydra (·.setApp name (.launched r type))
  remote backend (.waitAppReady name 1 1)
  let _ ← refreshAppInfo backend name
  pure r

/-- `create_hydra_app`. -/
def createHydraApp (name appPath appArgs : String) (cpus mem : ℚ)
    (ports : Option (List Int))
    (constraints : Option (List MarathonConstraint)) : HydraM MarathonApp := do
  let hydra ← getHydra
  launchApp backend name
    { cmd := getCmd appPath appArgs, cpus, mem, ports, constraints,
      uris := [hydra.getAppUri] } "script"

/-- `create_binary_app`. -/
def createBinaryApp (name appScript : String) (cpus mem : ℚ)
    (ports : Option (List Int))
    (constraints : Option (List MarathonConstraint)) : HydraM MarathonApp := do
  let hydra ← getHydra
  launchApp backend name
    { cmd := appScript, cpus, mem, ports, constraints,
      uris := [hydra.getAppUri] } "binary"

/-- The local variables of the batch loop of `scale_app`.  `remaining` is unset
before the first batch. -/
structure ScaleLoop where
  firstBatch : Bool
  instancesLaunched : Int
  remaining : Int
  deriving DecidableEq, Repr

/-- `__scale_app` followed by `wait_app_ready`. -/
def scaleAndWait (name : String) (cnt sleepBeforeNextTry : Int) :
    RemoteM Unit := do
  remote backend (.scaleApp name cnt)
  remote backend (.waitAppReady name cnt sleepBeforeNextTry)

/-- One round of the batch loop of `scale_app`. -/
def scaleBody (name : String)
    (scaleCnt sleepBeforeNextTry instanceBatch instanceThreshold : Int)
    (loop : ScaleLoop) : RemoteM (Unit ⊕ ScaleLoop) := do
  if ((← getAppTasks backend name).length : Int) = scaleCnt then
    pure (.inl ())
  else if loop.firstBatch then
    scaleAndWait backend name instanceThreshold sleepBeforeNextTry
    pure (.inr ⟨false, loop.instancesLaunched + instanceThreshold,
      scaleCnt - instanceThreshold⟩)
  else if loop.remaining < instanceBatch then
    scaleAndWait backend name (loop.instancesLaunched + loop.remaining)
      sleepBeforeNextTry
    assertThat (((← getAppTasks backend name).length : Int) = scaleCnt)
    pure (.inl ())
  else
    scaleAndWait backend name (loop.instancesLaunched + instanceBatch)
      sleepBeforeNextTry
    pure (.inr ⟨false, loop.instancesLaunched + instanceBatch,
      loop.remaining - instanceBatch⟩)

/-- The requests `scale_app` makes before it refreshes the application. -/
def scaleRequests (fuel : Nat) (name : String)
    (scaleCnt sleepBeforeNextTry instanceBatch instanceThreshold : Int) :
    RemoteM Unit :=
  if scaleCnt > instanceThreshold then
    StateErrors.repeatUntil .unfinished
      (scaleBody backend name scaleCnt sleepBeforeNextTry instanceBatch
        instanceThreshold)
      fuel ⟨true, 0, 0⟩
  else
    scaleAndWait backend name scaleCnt sleepBeforeNextTry

/-- `scale_app`. -/
def scaleApp (fuel : Nat) (name : String)
    (scaleCnt sleepBeforeNextTry instanceBatch instanceThreshold : Int) :
    HydraM Unit := do
  assertThat (name ∈ (← getHydra).apps)
  scaleRequests backend fuel name scaleCnt sleepBeforeNextTry instanceBatch
    instanceThreshold
  let instCnt ← refreshAppInfo backend name
  assertThat ((instCnt : Int) = scaleCnt)

/-- One round of the batch loop of `delete_app`, on the number of instances
that remain. -/
def deleteBody (app : String) (instanceBatch remaining : Int) :
    RemoteM (Unit ⊕ Int) := do
  if (← getAppTasks backend app).length = 1 then
    pure (.inl ())
  else if remaining < instanceBatch then
    scaleAndWait backend app 1 1
    assertThat ((← getAppTasks backend app).length = 1)
    pure (.inl ())
  else
    scaleAndWait backend app (remaining - instanceBatch) 1
    pure (.inr (remaining - instanceBatch))

def deleteDeployments : List String → RemoteM Unit
  | [] => pure ()
  | deployment :: deployments => do
      remote backend (.deleteDeployment deployment)
      deleteDeployments deployments

/-- The requests of `delete_app`. -/
def deleteRequests (fuel : Nat) (app : String) (timeout : Int) (wait : Bool)
    (threshold instanceBatch : Int) : RemoteM Unit := do
  match ← remote backend (.getApp app) with
  | some a =>
      if a.tasksRunning > threshold then
        StateErrors.repeatUntil .unfinished
          (deleteBody backend app instanceBatch) fuel a.tasksRunning
      deleteDeployments backend a.deployments
  | none => pure ()
  remote backend (.deleteAppIfexisting app timeout)
  if wait then
    remote backend (.waitAppRemoval app)

/-- `delete_app`. -/
def deleteApp (fuel : Nat) (app : String) (timeout : Int) (wait : Bool)
    (threshold instanceBatch : Int) : HydraM Unit := do
  updateHydra fun hydra => { hydra with apps := hydra.apps.erase app }
  deleteRequests backend fuel app timeout wait threshold instanceBatch

end Operations

end HydraBase

end MScale
