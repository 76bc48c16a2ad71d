import MScale.HydraGroups
import Mathlib.Algebra.Order.Floor.Ring
import Mathlib.Data.Finset.Card
import Mathlib.Data.Rat.Floor

/-!
# Rerunning the ZMQ test

`RunTestZMQ.rerun_test` chooses which subscriber instances are slow and which
reconnect, remembers the choice as properties of the application, and sends
the instances their configuration when the choice changed.  This file embeds
it up to the signal that starts the publisher, together with the operations of
`HydraBase` that it uses.
-/

namespace MScale

namespace HydraBase

/-- `get_app_property`. -/
def getAppProperty (name pname : String) : HydraM (Option (Finset String)) := do
  let hydra ← getHydra
  assertThat (name ∈ hydra.apps)
  match ← index hydra.apps name with
  | .refreshed info => pure (info.property.lookup pname)
  | .launched _ _ => throw (.raised (.keyError "property"))

/-- `set_app_property`. -/
def setAppProperty (name key : String) (value : Finset String) :
    HydraM Unit := do
  let hydra ← getHydra
  assertThat (name ∈ hydra.apps)
  match ← index hydra.apps name with
  | .refreshed info =>
      updateHydra (·.setApp name
        (.refreshed { info with property := info.property.insert key value }))
  | .launched _ _ => throw (.raised (.keyError "property"))

/-- `get_app_instcnt`. -/
def getAppInstcnt (name : String) : HydraM Nat := do
  let ipPortMap ← getAppIpportMap name
  pure ipPortMap.keys.length

/-- The instances at the given indices of `ipm.keys()`.  `randint idx` is the
`idx`-th draw of `randint(0, len(ipm) - 1)`. -/
def drawnInstances (keys : List String) (cnt : Nat) (randint : Nat → Nat) :
    List String :=
  (List.range cnt).filterMap fun idx => keys[randint idx % keys.length]?

/-- `random_select_instances`. -/
def randomSelectInstances (appName : String) (cnt : Nat)
    (randint : Nat → Nat) : HydraM (List String) := do
  let ipm ← getAppIpportMap appName
  assertThat (cnt < ipm.keys.length)
  pure (drawnInstances ipm.keys cnt randint)

/-- The loop of `reset_all_app_stats`. -/
def resetTasks (backend : Backend) (ipPortMap : Dict (Int × String)) :
    List String → RemoteM Unit
  | [] => pure ()
  | taskId :: taskList => do
      let info ← index ipPortMap taskId
      remote backend (.resetStats info.2 info.1 taskId)
      resetTasks backend ipPortMap taskList

/-- `reset_all_app_stats`. -/
def resetAllAppStats (backend : Backend) (name groupName : String) :
    HydraM Unit := do
  let hydra ← getHydra
  assertThat (name ∈ hydra.apps)
  let taskList ← scannedTasks hydra name groupName
  let ipPortMap ← getAppIpportMap name
  resetTasks backend ipPortMap taskList

end HydraBase

namespace RunTestZMQ

open HydraBase

/-- The options `rerun_test` reads. -/
structure Options where
  testDuration : ℚ
  msgBatch : ℚ
  msgRate : ℚ
  slowClientsPercent : ℚ
  slowClientsRate : ℚ
  recClientsPercent : ℚ
  recClientsRate : ℚ
  deriving DecidableEq

/-- `int(acnt * percent / 100)`.  `round` is what the arithmetic of the code
makes of an exact result; neither it nor the percentages are negative. -/
def clientNum (round : ℚ → ℚ) (acnt : Nat) (percent : ℚ) : Nat :=
  (round (round (acnt * percent) / 100)).floor.toNat

/-- Choose `num` instances for the property `pname`, unless as many were chosen
before or none are wanted, and tell whether they were chosen anew. -/
def selectClients (zstsub pname : String) (num : Nat) (randint : Nat → Nat) :
    HydraM Bool := do
  if num = 0 then
    pure false
  else
    let clients := (← getAppProperty zstsub pname).getD ∅
    if clients = ∅ ∨ num ≠ clients.card then
      let selected ← randomSelectInstances zstsub num randint
      setAppProperty zstsub pname selected.toFinset
      pure true
    else
      pure false

/-- The rate sent to an instance: the given one if the instance is chosen. -/
def rateFor (clients : Option (Finset String)) (rate : ℚ) (key : String) : ℚ :=
  if key ∈ clients.getD ∅ then rate else 0

/-- The loop of `rerun_test` that sends the instances their configuration. -/
def updateInstances (backend : Backend) (options : Options)
    (ipm : Dict (Int × String)) (slowSet recSet : Option (Finset String)) :
    List String → RemoteM Unit
  | [] => pure ()
  | key :: keys => do
      let info ← index ipm key
      remote backend (.updateSubConfig info.2 info.1 key
        (rateFor slowSet options.slowClientsRate key)
        (rateFor recSet options.recClientsRate key))
      updateInstances backend options ipm slowSet recSet keys

/-- The part of `rerun_test` that sends the configuration. -/
def updateSubConfigs (backend : Backend) (zstsub : String) (options : Options) :
    HydraM Unit := do
  let ipm ← getAppIpportMap zstsub
  let slowSet ← getAppProperty zstsub "slow_clients"
  let recSet ← getAppProperty zstsub "reconnecting_clients"
  updateInstances backend options ipm slowSet recSet ipm.keys

section Rerun

variable (round : ℚ → ℚ) (backend : Backend) (zstsub : String)
  (options : Options) (slowDraws recDraws : Nat → Nat)

/-- Choose the slow and the reconnecting clients among `acnt` instances, and tell
whether any were chosen anew. -/
def selectBoth (acnt : Nat) : HydraM Bool := do
  let slowUpdate ← selectClients zstsub "slow_clients"
    (clientNum round acnt options.slowClientsPercent) slowDraws
  let recUpdate ← selectClients zstsub "reconnecting_clients"
    (clientNum round acnt options.recClientsPercent) recDraws
  pure (slowUpdate || recUpdate)

/-- `rerun_test` until the clients are chosen. -/
def chooseClients : HydraM Bool := do
  remote backend (.updatePubConfig options.testDuration options.msgBatch
    options.msgRate)
  resetAllAppStats backend zstsub ""
  let acnt ← getAppInstcnt zstsub
  selectBoth round zstsub options slowDraws recDraws acnt

/-- `rerun_test` up to the signal to the publisher. -/
def configureTest : HydraM Unit := do
  if ← chooseClients round backend zstsub options slowDraws recDraws then
    updateSubConfigs backend zstsub options

/-- `rerun_test` with the signal to the publisher.  What follows it collects the
results. -/
def rerunTest : HydraM Unit := do
  configureTest round backend zstsub options slowDraws recDraws
  remote backend .startTest

end Rerun

end RunTestZMQ

end MScale
