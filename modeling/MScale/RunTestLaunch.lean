import MScale.RunTestZMQ

/-!
# Launching the ZMQ and the Kafka test

`run_test` deletes what an earlier test has left, launches the publisher and the
subscribers, keeps the subscribers that answer, and goes on with `rerun_test`.
`RunTestZMQ` and `RunTestKAFKA` do so in the same way; they differ in what they
launch, and the Kafka test has no slow or reconnecting clients.  This file embeds
both up to the signal that starts the publisher.
-/

namespace MScale

namespace TestLaunch

open HydraBase

/-- What stays the same during the calls: the cluster, a bound on the loops, the
rounding of numbers, the configured prefix and clusters, and how numbers are
written. -/
structure Setting where
  backend : Backend
  fuel : Nat
  round : ℚ → ℚ
  appPrefix : String
  mesosCluster : Nat → Option (String × String)
  str : ℚ → String

/-- The options that the two tests read. -/
structure Options extends RunTestZMQ.Options where
  totalSubApps : Int
  cPub : Bool
  cSub : Bool
  acks : Int
  lingerMs : Int
  consumerMaxBufferSize : Int
  deriving DecidableEq

/-- The registry, and the address and the task of the publisher once one was
found. -/
structure Master where
  world : World
  haPub : Option (String × Int × String)

abbrev MasterM := EStateM Stop Master

/-- Operations of the registry leave the publisher alone. -/
def onHydra {Value : Type} (program : HydraM Value) : MasterM Value :=
  StateErrors.onPart Master.world
    (fun world master => { master with world := world }) program

instance : MonadLift HydraM MasterM := ⟨onHydra⟩

/-- How an application is created. -/
inductive Creation
  | hydraApp (appPath appArgs : String)
  | binaryApp (appScript : String)

section Launches

variable (setting : Setting)

/-- The constraint that places instances on the configured cluster. -/
def clusterConstraints (idx : Nat) : List MarathonConstraint :=
  match setting.mesosCluster idx with
  | some (cat, matched) => [⟨cat, "CLUSTER", some matched⟩]
  | none => []

/-- Create an application of a test with `create_hydra_app` or
`create_binary_app`. -/
def create (name : String) (ports : List Int)
    (constraints : List MarathonConstraint) : Creation → HydraM Unit
  | .hydraApp appPath appArgs =>
      discard (createHydraApp setting.backend name appPath appArgs (1 / 100) 32
        (some ports) (some constraints))
  | .binaryApp appScript =>
      discard (createBinaryApp setting.backend name appScript (1 / 100) 32
        (some ports) (some constraints))

/-- Find the address of the launched publisher. -/
def findPub (pub : String) : MasterM Unit := do
  let ipm ← getAppIpportMap pub
  match ipm.entries with
  | [entry] =>
      modify fun master =>
        { master with haPub := some (entry.snd.2, entry.snd.1, entry.fst) }
  | _ => throw (.raised .assertionError)

/-- Launch the publisher, on a host of its own. -/
def launchPub (pub : String) (creation : Creation) : MasterM Unit := do
  create setting pub [0]
    (⟨"hostname", "UNIQUE", none⟩ :: clusterConstraints setting 0) creation
  findPub pub

/-- `scale_sub_app`. -/
def scaleSubApp (sub : String) (totalSubApps : Int) : HydraM Unit := do
  scaleApp setting.backend setting.fuel sub totalSubApps 1 300 500
  removeUnresponsiveTasks setting.backend sub ""

/-- Launch the subscribers of the publisher that was found. -/
def launchSub (sub : String) (creation : String → Creation)
    (totalSubApps : Int) : MasterM Unit := do
  match (← get).haPub with
  | some (pubIp, _, _) =>
      create setting sub [0, 0, 0, 0, 0, 0, 0, 0, 0, 0]
        (clusterConstraints setting 1) (creation pubIp)
      scaleSubApp setting sub totalSubApps
  | none => throw (.raised .attributeError)

/-- Delete the publisher and the subscribers. -/
def deleteApps (pub sub : String) : HydraM Unit := do
  deleteApp setting.backend setting.fuel pub 1 true 200 100
  deleteApp setting.backend setting.fuel sub 1 true 200 100

/-- Talk to the publisher, which must have been found. -/
def withPub (program : HydraM Unit) : MasterM Unit := do
  match (← get).haPub with
  | some _ => program
  | none => throw (.raised .attributeError)

end Launches

end TestLaunch

/-! ## The ZMQ test -/

namespace RunTestZMQ

open TestLaunch

variable (setting : Setting)

/-- The names `self.zstpub` and `self.zstsub`. -/
def zstpub : String := setting.appPrefix ++ "/zst-pub"

def zstsub : String := setting.appPrefix ++ "/zst-sub"

/-- The publisher that is launched. -/
def pubCreation (options : TestLaunch.Options) : Creation :=
  if options.cPub then
    .binaryApp "./src/main/scripts/zmq_pub"
  else
    .hydraApp "hydra.zmqtest.zmq_pub.run"
      (setting.str options.testDuration ++ " " ++ setting.str options.msgBatch ++
        " " ++ setting.str options.msgRate ++ " " ++
          toString options.totalSubApps)

/-- The subscribers that are launched for the publisher at `pubIp`. -/
def subCreation (options : TestLaunch.Options) (pubIp : String) : Creation :=
  .hydraApp
    (if options.cSub then "hydra.zmqtest.zmq_sub.run10cpp"
    else "hydra.zmqtest.zmq_sub.run10")
    (pubIp ++ " 15556")

/-- `launch_zmq_pub`. -/
def launchZmqPub (options : TestLaunch.Options) : MasterM Unit :=
  launchPub setting (zstpub setting) (pubCreation setting options)

/-- `launch_zmq_sub`. -/
def launchZmqSub (options : TestLaunch.Options) : MasterM Unit :=
  launchSub setting (zstsub setting) (subCreation options) options.totalSubApps

/-- `delete_all_launched_apps`. -/
def deleteAllLaunchedApps : HydraM Unit :=
  deleteApps setting (zstpub setting) (zstsub setting)

/-- `rerun_test` on the publisher that was found. -/
def rerunOnPub (options : TestLaunch.Options) (slowDraws recDraws : Nat → Nat) :
    MasterM Unit :=
  withPub (rerunTest setting.round setting.backend (zstsub setting)
    options.toOptions slowDraws recDraws)

/-- `run_test`; `start_init` deletes the applications, and the attribute
`sub_app_ip_rep_port_map` is never set. -/
def runTest (options : TestLaunch.Options) (slowDraws recDraws : Nat → Nat) :
    MasterM Unit := do
  deleteAllLaunchedApps setting
  launchZmqPub setting options
  launchZmqSub setting options
  rerunOnPub setting options slowDraws recDraws

end RunTestZMQ

/-! ## The Kafka test -/

namespace RunTestKAFKA

open TestLaunch

variable (setting : Setting)

/-- The names `self.kafkapub` and `self.kafkasub`. -/
def kafkapub : String := setting.appPrefix ++ "/kafka-pub"

def kafkasub : String := setting.appPrefix ++ "/kafka-sub"

/-- `get_topic_name`. -/
def getTopicName (options : TestLaunch.Options) : String :=
  "topic_" ++ toString options.totalSubApps ++ "_" ++
    setting.str options.msgRate ++ "_" ++ setting.str options.msgBatch

/-- The publisher that is launched. -/
def pubCreation (options : TestLaunch.Options) : Creation :=
  .hydraApp "hydra.kafkatest.kafka_pub.run"
    (setting.str options.testDuration ++ " " ++ setting.str options.msgBatch ++
      " " ++ setting.str options.msgRate ++ " " ++ getTopicName setting options ++
        " " ++ toString options.acks ++ " " ++ toString options.lingerMs)

/-- The subscribers that are launched for the publisher at `pubIp`. -/
def subCreation (options : TestLaunch.Options) (pubIp : String) : Creation :=
  .hydraApp "hydra.kafkatest.kafka_sub.run10"
    (getTopicName setting options ++ " " ++ pubIp ++ " " ++
      toString options.consumerMaxBufferSize)

/-- `launch_kafka_pub`. -/
def launchKafkaPub (options : TestLaunch.Options) : MasterM Unit :=
  launchPub setting (kafkapub setting) (pubCreation setting options)

/-- `launch_kafka_sub`. -/
def launchKafkaSub (options : TestLaunch.Options) : MasterM Unit :=
  launchSub setting (kafkasub setting) (subCreation setting options)
    options.totalSubApps

/-- `delete_all_launched_apps`. -/
def deleteAllLaunchedApps : HydraM Unit :=
  deleteApps setting (kafkapub setting) (kafkasub setting)

/-- `rerun_test` up to the signal to the publisher. -/
def rerunTest (backend : Backend) (kafkasub : String)
    (options : TestLaunch.Options) : HydraM Unit := do
  remote backend (.updatePubConfig options.testDuration options.msgBatch
    options.msgRate)
  HydraBase.resetAllAppStats backend kafkasub ""
  remote backend .startTest

/-- `rerun_test` on the publisher that was found. -/
def rerunOnPub (options : TestLaunch.Options) : MasterM Unit :=
  withPub (rerunTest setting.backend (kafkasub setting) options)

/-- `run_test`; `start_init` deletes the applications. -/
def runTest (options : TestLaunch.Options) : MasterM Unit := do
  deleteAllLaunchedApps setting
  launchKafkaPub setting options
  launchKafkaSub setting options
  rerunOnPub setting options

end RunTestKAFKA

namespace TestLaunch

/-! ## The calls -/

/-- The two tests. -/
inductive Program
  | zmq
  | kafka
  deriving DecidableEq

/-- The calls of `boundary_run`, where the tests draw random numbers. -/
inductive MasterCall
  | runTest (options : Options) (slowDraws recDraws : Nat → Nat)
  | rerunTest (options : Options) (slowDraws recDraws : Nat → Nat)
  | deleteAllLaunchedApps

section Calls

variable (setting : Setting)

/-- The name of the publisher. -/
def Program.pub : Program → String
  | .zmq => RunTestZMQ.zstpub setting
  | .kafka => RunTestKAFKA.kafkapub setting

/-- The name of the subscribers. -/
def Program.sub : Program → String
  | .zmq => RunTestZMQ.zstsub setting
  | .kafka => RunTestKAFKA.kafkasub setting

/-- The publisher that is launched. -/
def Program.pubCreation (options : Options) : Program → Creation
  | .zmq => RunTestZMQ.pubCreation setting options
  | .kafka => RunTestKAFKA.pubCreation setting options

/-- The subscribers that are launched. -/
def Program.subCreation (options : Options) (pubIp : String) : Program → Creation
  | .zmq => RunTestZMQ.subCreation options pubIp
  | .kafka => RunTestKAFKA.subCreation setting options pubIp

/-- `rerun_test` up to the signal to the publisher. -/
def Program.rerunTest (options : Options) (slowDraws recDraws : Nat → Nat) :
    Program → HydraM Unit
  | .zmq =>
      RunTestZMQ.rerunTest setting.round setting.backend
        (RunTestZMQ.zstsub setting) options.toOptions slowDraws recDraws
  | .kafka =>
      RunTestKAFKA.rerunTest setting.backend (RunTestKAFKA.kafkasub setting)
        options

/-- Execute a call. -/
def perform : Program → MasterCall → MasterM Unit
  | .zmq, .runTest options slowDraws recDraws =>
      RunTestZMQ.runTest setting options slowDraws recDraws
  | .zmq, .rerunTest options slowDraws recDraws =>
      RunTestZMQ.rerunOnPub setting options slowDraws recDraws
  | .zmq, .deleteAllLaunchedApps => RunTestZMQ.deleteAllLaunchedApps setting
  | .kafka, .runTest options _ _ => RunTestKAFKA.runTest setting options
  | .kafka, .rerunTest options _ _ => RunTestKAFKA.rerunOnPub setting options
  | .kafka, .deleteAllLaunchedApps => RunTestKAFKA.deleteAllLaunchedApps setting

end Calls

end TestLaunch

end MScale
