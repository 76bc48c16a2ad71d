import MScale.BoundaryRunner
import MScale.HydraGroups

/-!
# The RabbitMQ test

`RunTestRMQ` launches a publisher and subscribers, forms three groups of
subscriber instances and sends commands to each group.  This file embeds its
methods up to the signal that starts the publisher, and the class as a
subclass of `BoundaryRunnerBase`: each method continues in the state that the
earlier calls left.
-/

namespace MScale

open StateErrors

namespace AppGroup

variable (backend : Backend)

/-- The loop of `_execute` over the tasks, with the request that the method
makes for one instance. -/
def executeEach (appName : String) (method : String → Int → String → Request) :
    List String → HydraM Unit
  | [] => pure ()
  | taskId :: tasksList => do
      let info ← index (← HydraBase.getAppIpportMap appName) taskId
      let _ ← remote backend (method info.2 info.1 taskId)
      executeEach appName method tasksList

/-- `_execute`.  The group object is the one registered under its name. -/
def execute (group : AppGroup) (method : String → Int → String → Request) :
    HydraM Unit := do
  let hydra ← getHydra
  assertThat (group.groupName ∈ hydra.appGroup)
  let registered ← index hydra.appGroup group.groupName
  executeEach backend registered.appName method registered.tasksList

end AppGroup

namespace RunTestRMQ

open HydraBase BoundaryRunnerBase

/-- The names `self.rmqpub` and `self.rmqsub`. -/
def rmqpub : String := "/rmq-pub"

def rmqsub : String := "/rmq-sub"

/-- What stays the same during the calls: the cluster, a bound on the loops, the
options that are never set again, and the clusters of the configuration.
`finish` is the test proper, from the start signal to the parsed result; it
reads the registry and talks to the instances. -/
structure Setting (Res : Type) where
  backend : Backend
  fuel : Nat
  testDuration : ℚ
  msgBatch : ℚ
  appsInGroup : Int
  mesosCluster : Nat → Option (String × String)
  str : ℚ → String
  finish : HydraBase → RemoteM Res

/-- The attributes that the methods change.  Each launch of the subscribers
changes `options.total_sub_apps`; `haPub` gives the address and the task of the
publisher. -/
structure Master where
  world : World
  totalSubApps : Int
  haPub : Option (String × Int × String)

abbrev MasterM := EStateM Stop Master

/-- Operations of the registry leave the other attributes alone. -/
def onHydra {Value : Type} (program : HydraM Value) : MasterM Value :=
  onPart Master.world (fun world master => { master with world := world })
    program

instance : MonadLift HydraM MasterM := ⟨onHydra⟩

section Methods

variable {Res : Type} (setting : Setting Res)

/-- The constraint that places instances on the configured cluster. -/
def clusterConstraints (idx : Nat) : List MarathonConstraint :=
  match setting.mesosCluster idx with
  | some (cat, matched) => [⟨cat, "CLUSTER", some matched⟩]
  | none => []

/-- `delete_all_launched_apps`. -/
def deleteAllLaunchedApps : HydraM Unit := do
  deleteApp setting.backend setting.fuel rmqpub 1 true 200 100
  deleteApp setting.backend setting.fuel rmqsub 1 true 200 100

/-- `launch_rmq_pub`. -/
def launchRmqPub (options : Options ℚ) : MasterM Unit := do
  let _ ← createHydraApp setting.backend rmqpub "hydra.rmqtest.rmq_pub.run"
    (setting.str setting.testDuration ++ " " ++ setting.str setting.msgBatch ++
      " " ++ setting.str (options "msg_rate"))
    (1 / 100) 32 (some [0])
    (some (⟨"hostname", "UNIQUE", none⟩ :: clusterConstraints setting 0))
  let ipm ← getAppIpportMap rmqpub
  match ipm.entries with
  | [entry] =>
      modify fun master =>
        { master with haPub := some (entry.snd.2, entry.snd.1, entry.fst) }
  | _ => throw (.raised .assertionError)

/-- Python's `//` on integers. -/
def floorDiv (dividend divisor : Int) : MasterM Int :=
  if divisor = 0 then
    throw (.raised (.exception "integer division or modulo by zero"))
  else
    pure (dividend.fdiv divisor)

/-- `launch_rmq_sub`. -/
def launchRmqSub : MasterM Unit := do
  let master ← get
  let totalSubApps ← floorDiv master.totalSubApps setting.appsInGroup
  modify fun master => { master with totalSubApps }
  match master.haPub with
  | some (pubIp, _, _) =>
      let _ ← createHydraApp setting.backend rmqsub "hydra.rmqtest.rmq_sub.run10"
        pubIp (1 / 100) 32 (some [0, 0, 0, 0, 0, 0, 0, 0, 0, 0])
        (some (clusterConstraints setting 1))
      scaleApp setting.backend setting.fuel rmqsub totalSubApps 1 300 500
  | none => throw (.raised .attributeError)

/-- `run_test` up to `rerun_test`; `start_init` deletes the applications.  The
attribute `sub_app_ip_rep_port_map` is never set. -/
def launch (options : Options ℚ) : MasterM Unit := do
  deleteAllLaunchedApps setting
  launchRmqPub setting options
  launchRmqSub setting

/-- Update the PUB server with new metrics. -/
def updatePub (options : Options ℚ) : MasterM Unit := do
  match (← get).haPub with
  | some _ =>
      onHydra (remote setting.backend (.updatePubConfig setting.testDuration
        setting.msgBatch (options "msg_rate")))
  | none => throw (.raised .attributeError)

/-- `create_app_group` for the subscribers; the error code is `none`. -/
def createAppGroup (groupName : String) (numAppInstances : Int) :
    HydraM (Option AppGroup) :=
  createAppInstancesGroup setting.backend setting.fuel rmqsub groupName
    numAppInstances (some "HAnalyser")

/-- Create test groups. -/
def createTestGroups :
    HydraM (Option AppGroup × Option AppGroup × Option AppGroup) := do
  let g1 ← createAppGroup setting "test-group" 10
  let g2 ← createAppGroup setting "test-group2" 5
  let g3 ← createAppGroup setting "test-group3" 5
  pure (g1, g2, g3)

/-- `_execute` on what `create_app_group` returned; the error code has no such
method. -/
def executeOn (g : Option AppGroup) (method : String → Int → String → Request) :
    HydraM Unit :=
  match g with
  | some group => group.execute setting.backend method
  | none => throw (.raised .attributeError)

/-- `rerun_test` after the groups are created. -/
def useTestGroups
    (groups : Option AppGroup × Option AppGroup × Option AppGroup) :
    HydraM Res := do
  removeUnresponsiveTasks setting.backend rmqsub ""
  executeOn setting groups.1 .doPing
  executeOn setting groups.2.1 .doPing
  executeOn setting groups.2.2 .doPing
  executeOn setting groups.1 .resetStats
  executeOn setting groups.2.1 .resetStats
  executeOn setting groups.2.2 .resetStats
  setting.finish (← getHydra)

/-- `rerun_test`, without the `boundary_setup` at its beginning. -/
def rerunTest (options : Options ℚ) : MasterM Res := do
  updatePub setting options
  let groups ← createTestGroups setting
  useTestGroups setting groups

/-- `run_test`. -/
def runTest (options : Options ℚ) : MasterM Res := do
  launch setting options
  rerunTest setting options

/-- Execute a call of `boundary_run`. -/
def perform : TestCall ℚ → MasterM Unit
  | .runTest options => discard (runTest setting options)
  | .rerunTest options => discard (rerunTest setting options)
  | .deleteAllLaunchedApps => deleteAllLaunchedApps setting

/-- The state that a sequence of calls leaves. -/
def replay (start : Master) (calls : List (TestCall ℚ)) : Master :=
  calls.foldl (fun master call => stateAfter (perform setting call master)) start

/-- How a call ended; a bounded execution that did not end has no outcome of its
own. -/
def outcomeOf {Value : Type} : EStateM.Result Stop Master Value →
    Except PyError Value
  | .ok value _ => .ok value
  | .error (.raised error) _ => .error error
  | .error .unfinished _ => .error (.exception "unfinished")

/-- `RunTestRMQ` as a subclass of `BoundaryRunnerBase`: `rerun_test` begins with
`boundary_setup`, which a `run_test` that cannot launch does not reach. -/
def runner (start : Master) : Runner ℚ Res where
  runTest calls options :=
    let master := replay setting start calls
    ⟨returns (launch setting options master),
      outcomeOf (runTest setting options master)⟩
  rerunTest calls options :=
    ⟨true, outcomeOf (rerunTest setting options (replay setting start calls))⟩
  deleteAllLaunchedApps calls :=
    outcomeOf (onHydra (deleteAllLaunchedApps setting)
      (replay setting start calls))

end Methods

/-- A new `RunTestRMQ`. -/
def newMaster (myaddr : String) (totalSubApps : Int) : Master :=
  ⟨newWorld "RMQScale" myaddr [], totalSubApps, none⟩

end RunTestRMQ

end MScale
