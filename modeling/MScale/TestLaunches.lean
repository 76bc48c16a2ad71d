import MScale.HydraUnresponsive
import MScale.RunTestLaunch
import MScale.RunTestZMQConfig
import MScale.ScalingCluster

/-!
# What a launch and a rerun exchange with the cluster

A launch that returns has created its application, and has taken over the
instances that Marathon listed last.  A rerun that returns has configured the
publisher, reset every subscriber, configured some of them, and started the test.
-/

namespace MScale

/-- Requests that neither create nor delete an application, and neither kill a
task nor start a test. -/
def Request.isPreparation : Request → Bool
  | .getApp _ => true
  | .scaleApp _ _ => true
  | .waitAppReady _ _ _ => true
  | .getSlaveIpFromHn _ => true
  | .doPing _ _ _ => true
  | .resetStats _ _ _ => true
  | .updateSubConfig _ _ _ _ _ => true
  | .updatePubConfig _ _ _ => true
  | _ => false

def Prepares (exchange : Exchange) : Prop :=
  exchange.request.isPreparation = true

namespace HydraBase

open StateErrors

section Preparations

variable {backend : Backend}

theorem getAppTasks_prepares (name : String) :
    LeadsAlong (Adds Prepares) (getAppTasks backend name) := by
  apply LeadsAlong.bind Adds.trans
  · exact remote_adds backend (.getApp name) fun answer => rfl
  · intro app
    cases app with
    | none => exact leadsAlong_throw Adds.refl _
    | some app => exact leadsAlong_pure Adds.refl _

theorem scaleAndWait_prepares (name : String) (cnt sleepBeforeNextTry : Int) :
    LeadsAlong (Adds Prepares)
      (scaleAndWait backend name cnt sleepBeforeNextTry) := by
  apply (remote_adds backend (.scaleApp name cnt) fun answer => rfl).bind
    Adds.trans
  exact fun _ => remote_adds backend _ fun answer => rfl

theorem scaleBody_prepares (name : String)
    (scaleCnt sleepBeforeNextTry instanceBatch instanceThreshold : Int)
    (loop : ScaleLoop) :
    LeadsAlong (Adds Prepares)
      (scaleBody backend name scaleCnt sleepBeforeNextTry instanceBatch
        instanceThreshold loop) := by
  apply (getAppTasks_prepares name).bind Adds.trans
  intro tasks
  split
  · exact leadsAlong_pure Adds.refl _
  · split
    · apply (scaleAndWait_prepares name _ _).bind Adds.trans
      exact fun _ => leadsAlong_pure Adds.refl _
    · split
      · apply (scaleAndWait_prepares name _ _).bind Adds.trans
        intro _
        apply (getAppTasks_prepares name).bind Adds.trans
        intro tasks
        apply (assertThat_adds _).bind Adds.trans
        exact fun _ => leadsAlong_pure Adds.refl _
      · apply (scaleAndWait_prepares name _ _).bind Adds.trans
        exact fun _ => leadsAlong_pure Adds.refl _

theorem scaleRequests_prepares (fuel : Nat) (name : String)
    (scaleCnt sleepBeforeNextTry instanceBatch instanceThreshold : Int) :
    LeadsAlong (Adds Prepares)
      (scaleRequests backend fuel name scaleCnt sleepBeforeNextTry instanceBatch
        instanceThreshold) := by
  unfold scaleRequests
  split
  · exact leadsAlong_repeatUntil Adds.refl Adds.trans
      (scaleBody_prepares name scaleCnt sleepBeforeNextTry instanceBatch
        instanceThreshold) fuel _
  · exact scaleAndWait_prepares name scaleCnt sleepBeforeNextTry

theorem lookUpHosts_prepares (tasks : List Task) (history : History) :
    Adds Prepares history (lookUpHosts backend tasks history).history := by
  induction tasks generalizing history with
  | nil => exact Adds.refl history
  | cons task tasks ih =>
      have looked := @remote_adds Prepares backend
        (.getSlaveIpFromHn task.host) (fun answer => rfl) history
      unfold lookUpHosts
      split
      · next ip later answered =>
          rw [answered] at looked
          exact looked.trans _ _ _ (ih later)
      · next stop later answered =>
          rw [answered] at looked
          exact looked

/-- A complete lookup looks up all the given tasks. -/
theorem lookUpHosts_looked {tasks : List Task} {history : History}
    (answered : (lookUpHosts backend tasks history).failure = none) :
    (lookUpHosts backend tasks history).looked.map Prod.fst = tasks := by
  induction tasks generalizing history with
  | nil => rfl
  | cons task tasks ih =>
      cases looked : remote backend (.getSlaveIpFromHn task.host) history with
      | error stop later => simp [lookUpHosts, looked] at answered
      | ok appIp later =>
          simp only [lookUpHosts, looked] at answered ⊢
          rw [List.map_cons, ih answered]

/-- After `before` Marathon listed the tasks of an application, and then only
preparations were exchanged. -/
def Listed (name : String) (before after : History) (tasks : List Task) : Prop :=
  ∃ app more, app.tasks = tasks ∧
    after = before ++ ⟨.getApp name, .ok (some app)⟩ :: more ∧
      ∀ exchange ∈ more, Prepares exchange

/-- The tasks of a complete reply are those that Marathon listed. -/
theorem refreshReply_listed {name : String} {history : History}
    (answered : (refreshReply backend name history).failure = none) :
    Listed name history (refreshReply backend name history).history
      ((refreshReply backend name history).looked.map Prod.fst) := by
  unfold refreshReply at answered ⊢
  cases asked : getAppTasks backend name history with
  | error stop later => simp [asked] at answered
  | ok tasks later =>
      simp only [asked] at answered ⊢
      rw [lookUpHosts_looked answered]
      obtain ⟨app, middle, found, tasksOf⟩ := bind_ok_iff.mp asked
      have exchanged := RunTestZMQ.remote_returned found
      cases app with
      | none => cases tasksOf
      | some app =>
          cases tasksOf
          subst exchanged
          obtain ⟨more, moreEq, prepares⟩ := @lookUpHosts_prepares backend
            app.tasks (history ++ [⟨.getApp name, .ok (some app)⟩])
          rw [List.append_assoc] at moreEq
          exact ⟨app, more, rfl, moreEq, prepares⟩

end Preparations

/-! ## Registry operations that return -/

section Registry

theorem withReply_self {hydra : HydraBase} {name : String}
    {reply : RefreshReply} (answered : reply.failure = none) :
    (hydra.withReply name reply).apps.lookup name =
        some (.refreshed { ipPortMap := ipPortMapOf reply.looked }) ∧
      (hydra.withReply name reply).allTaskIds.lookup name =
        some (ipPortMapOf reply.looked).keys := by
  simp [withReply, answered, setApp, setTaskIds]

theorem withReply_other {hydra : HydraBase} {name other : String}
    (different : other ≠ name) (reply : RefreshReply) :
    (hydra.withReply name reply).apps.lookup other = hydra.apps.lookup other := by
  unfold withReply
  split <;> simp [setApp, setTaskIds, AList.lookup_insert_ne different]

end Registry

end HydraBase

namespace TestLaunch

open StateErrors HydraBase

section Launches

variable {setting : Setting}

/-- The command of an application that is created. -/
def Creation.cmd : Creation → String
  | .hydraApp appPath appArgs => getCmd appPath appArgs
  | .binaryApp appScript => appScript

def Creation.type : Creation → String
  | .hydraApp _ _ => "script"
  | .binaryApp _ => "binary"

/-- The description that is sent to Marathon. -/
def Creation.app (creation : Creation) (hydra : HydraBase) (ports : List Int)
    (constraints : List MarathonConstraint) : MarathonApp where
  cmd := creation.cmd
  cpus := 1 / 100
  mem := 32
  ports := some ports
  constraints := some constraints
  uris := [hydra.getAppUri]

theorem create_eq (name : String) (ports : List Int)
    (constraints : List MarathonConstraint) (creation : Creation)
    (world : World) :
    create setting name ports constraints creation world =
      (discard (launchApp setting.backend name
        (creation.app world.hydra ports constraints) creation.type) :
          HydraM Unit) world := by
  cases creation <;> rfl

/-- After `before` an application with the given command was created, and then
only preparations were exchanged. -/
def Created (name cmd : String) (before after : History) : Prop :=
  ∃ app made more, app.cmd = cmd ∧
    after = before ++ ⟨.createApp name app, .ok made⟩ :: more ∧
      ∀ exchange ∈ more, Prepares exchange

/-- A creation that returns leaves the registry with the reply of Marathon. -/
theorem create_returned {name : String} {ports : List Int}
    {constraints : List MarathonConstraint} {creation : Creation}
    {world after : World}
    (returned : create setting name ports constraints creation world =
      .ok () after) :
    Created name creation.cmd world.history after.history ∧
      ∃ reply : RefreshReply, reply.failure = none ∧
        after.hydra = world.hydra.withReply name reply := by
  rw [create_eq] at returned
  obtain ⟨result, launched⟩ := discard_ok_iff.mp returned
  by_cases registered : name ∈ world.hydra.apps
  · rw [launchApp_registered registered] at launched
    cases launched
  · rw [launchApp_eq registered] at launched
    split at launched
    · cases launched
    · next made later created =>
        dsimp only at launched
        split at launched
        · cases launched
        · next ready settled waited =>
            obtain ⟨answered, _, rfl⟩ := RefreshReply.outcome_ok_iff.mp launched
            have createdAt := RunTestZMQ.remote_returned created
            have waitedAt := RunTestZMQ.remote_returned waited
            obtain ⟨app, more, _, moreEq, prepares⟩ := refreshReply_listed answered
            refine ⟨⟨_, made, ⟨.waitAppReady name 1 1, .ok ready⟩ ::
              ⟨.getApp name, .ok (some app)⟩ :: more, rfl, ?_, ?_⟩,
              _, answered, rfl⟩
            · dsimp only
              rw [moreEq, waitedAt, createdAt]
              simp
            · rw [List.forall_mem_cons, List.forall_mem_cons]
              exact ⟨rfl, rfl, prepares⟩

/-- A scaling that returns has reached its target, and takes over the tasks that
Marathon listed last. -/
theorem scaleApp_listed {backend : Backend} {fuel : Nat} {name : String}
    {scaleCnt sleepBeforeNextTry instanceBatch instanceThreshold : Int}
    {world after : World}
    (returned : scaleApp backend fuel name scaleCnt sleepBeforeNextTry
      instanceBatch instanceThreshold world = .ok () after) :
    ∃ reply : RefreshReply, reply.failure = none ∧
      (reply.looked.length : Int) = scaleCnt ∧
      after = ⟨world.hydra.withReply name reply, reply.history⟩ ∧
      ∃ scaled, Adds Prepares world.history scaled ∧
        Listed name scaled reply.history (reply.looked.map Prod.fst) := by
  by_cases registered : name ∈ world.hydra.apps
  · have prepares := @scaleRequests_prepares backend fuel name scaleCnt
      sleepBeforeNextTry instanceBatch instanceThreshold world.history
    rw [scaleApp_eq registered] at returned
    split at returned
    · cases returned
    · next value scaled requested =>
        rw [requested] at prepares
        dsimp only at returned
        split at returned
        · cases returned
        · next counted =>
            obtain ⟨answered, _, rfl⟩ := RefreshReply.outcome_ok_iff.mp returned
            refine ⟨_, answered, ?_, rfl, scaled, prepares,
              refreshReply_listed answered⟩
            by_contra different
            exact counted ⟨answered, different⟩
  · rw [scaleApp_unregistered registered] at returned
    cases returned

/-- The instances in `ipPortMap` are those that answered their ping, of as many
tasks as asked for that Marathon listed. -/
structure Answering (sub : String) (totalSubApps : Int) (since : History)
    (looked : List (Task × String)) (answers : String → Bool)
    (ipPortMap : Dict (Int × String)) : Prop where
  count : (looked.length : Int) = totalSubApps
  listed : ∃ app : App, app.tasks = looked.map Prod.fst ∧
    (⟨.getApp sub, .ok (some app)⟩ : Exchange) ∈ since
  pinged : ∀ key address, (ipPortMapOf looked).lookup key = some address →
    (⟨.doPing address.2 address.1 key, .ok (answers key)⟩ : Exchange) ∈ since
  entries : ipPortMap.entries =
    (ipPortMapOf looked).entries.filter fun entry => answers entry.1

/-- The registry has the subscribers that answered. -/
structure SubsFound (sub : String) (totalSubApps : Int) (since : History)
    (hydra : HydraBase) (info : AppInfo) : Prop where
  registered : hydra.apps.lookup sub = some (.refreshed info)
  listed : hydra.allTaskIds.lookup sub = some info.ipPortMap.keys
  answering : ∃ looked answers,
    Answering sub totalSubApps since looked answers info.ipPortMap

theorem SubsFound.mono {sub : String} {totalSubApps : Int}
    {since longer : History} {hydra : HydraBase} {info : AppInfo}
    (found : SubsFound sub totalSubApps since hydra info)
    (contained : ∀ exchange ∈ since, exchange ∈ longer) :
    SubsFound sub totalSubApps longer hydra info := by
  obtain ⟨registered, listed, looked, answers, answering⟩ := found
  obtain ⟨app, tasksEq, listedAt⟩ := answering.listed
  exact ⟨registered, listed, looked, answers, answering.count,
    ⟨app, tasksEq, contained _ listedAt⟩,
    fun key address mapped =>
      contained _ (answering.pinged key address mapped),
    answering.entries⟩

/-- Every scanned task has the exchange of its ping. -/
theorem ping_of_scanned {ipPortMap : Dict (Int × String)}
    {answers : String → Bool} {tasks : List String} {exchanges : List Exchange}
    (pinged : PingsAnswered ipPortMap answers tasks exchanges) {task : String}
    (member : task ∈ tasks) :
    ∃ exchange ∈ exchanges, IsPing ipPortMap task (.ok (answers task)) exchange := by
  induction pinged with
  | nil => cases member
  | cons here rest ih =>
      rcases List.mem_cons.mp member with rfl | later
      · exact ⟨_, List.mem_cons_self, here⟩
      · obtain ⟨exchange, isLater, isPing⟩ := ih later
        exact ⟨exchange, List.mem_cons_of_mem _ isLater, isPing⟩

theorem pings_prepare {ipPortMap : Dict (Int × String)}
    {answers : String → Bool} {tasks : List String} {exchanges : List Exchange}
    (pinged : PingsAnswered ipPortMap answers tasks exchanges) :
    ∀ exchange ∈ exchanges, Prepares exchange := by
  induction pinged with
  | nil => exact fun _ member => absurd member List.not_mem_nil
  | cons here rest ih =>
      obtain ⟨address, _, rfl⟩ := here
      exact List.forall_mem_cons.mpr ⟨rfl, ih⟩

/-- The entries that are kept are those of the tasks that answered. -/
theorem filter_answers (ipPortMap : Dict (Int × String))
    (answers : String → Bool) :
    (ipPortMap.entries.filter fun entry =>
        decide (entry.fst ∉ ipPortMap.keys.filter fun task => !answers task)) =
      ipPortMap.entries.filter fun entry => answers entry.1 := by
  apply List.filter_congr
  intro entry member
  have isKey : entry.1 ∈ ipPortMap.keys := List.mem_map_of_mem member
  simp [isKey]

theorem keys_of_filtered {before after : Dict (Int × String)}
    (keeps : String → Bool)
    (kept : after.entries = before.entries.filter fun entry => keeps entry.1) :
    after.keys = before.keys.filter keeps := by
  change after.entries.map Sigma.fst =
    (before.entries.map Sigma.fst).filter keeps
  rw [kept, List.filter_map]
  rfl

/-- The subscribers that are left after scaling are those that answered. -/
theorem scaleSubApp_returned {sub : String} {totalSubApps : Int}
    {world after : World} (noGroups : world.hydra.NoGroups)
    (returned : scaleSubApp setting sub totalSubApps world = .ok () after) :
    ∃ more info, after.history = world.history ++ more ∧
      (∀ exchange ∈ more, Prepares exchange) ∧
      SubsFound sub totalSubApps more after.hydra info ∧
      (∀ other, other ≠ sub →
        after.hydra.apps.lookup other = world.hydra.apps.lookup other) ∧
      after.hydra.NoGroups := by
  obtain ⟨_, middle, scaled, removed⟩ := bind_ok_iff.mp returned
  obtain ⟨reply, answered, count, rfl, asked, ⟨early, rfl, prepares⟩, app, late,
    tasksEq, listedAt, preparesLate⟩ := scaleApp_listed scaled
  obtain ⟨found, listed⟩ := @withReply_self world.hydra sub reply answered
  have noGroupsNow : (world.hydra.withReply sub reply).NoGroups := by
    intro groupName
    rw [withReply_appGroup]
    exact noGroups groupName
  have isScanned : IsScanned (world.hydra.withReply sub reply) sub ""
      (ipPortMapOf reply.looked).keys := by
    rw [IsScanned, if_pos rfl]
    exact listed
  rcases @removeUnresponsiveTasks_removes setting.backend
      ⟨world.hydra.withReply sub reply, reply.history⟩ sub "" _ _ _ found listed
      (.refl _) noGroupsNow.groupsNodup isScanned fun _ member => member with
    ⟨error, _, _, failed⟩ | ⟨answers, pings, hydra, pinged, ended, gone⟩
  · rw [failed] at removed
    cases removed
  · rw [ended] at removed
    cases removed
    obtain ⟨ipPortMap, foundAfter, entries⟩ := gone.info _ found
    have kept := entries.trans (filter_answers _ answers)
    refine ⟨early ++ ⟨.getApp sub, .ok (some app)⟩ :: late ++ pings,
      ⟨ipPortMap, ∅, ∅⟩, ?_, ?_, ⟨foundAfter, ?_, reply.looked, answers, count,
      ⟨app, tasksEq, by simp⟩, ?_, kept⟩, ?_, ?_⟩
    · simp only [listedAt, List.append_assoc]
    · simp only [List.forall_mem_append, List.forall_mem_cons]
      exact ⟨⟨prepares, rfl, preparesLate⟩, pings_prepare pinged⟩
    · rw [gone.ids _ listed]
      exact congrArg some (keys_of_filtered _ entries).symm
    · intro key address mapped
      obtain ⟨exchange, member, info, lookedUp, rfl⟩ := ping_of_scanned pinged
        (AList.lookup_isSome.mp (by rw [mapped]; rfl))
      rw [mapped] at lookedUp
      cases lookedUp
      exact List.mem_append_right _ member
    · intro other different
      rw [gone.otherApps other different, withReply_other different]
    · intro groupName
      rw [gone.groups, noGroupsNow groupName]
      rfl

end Launches

/-! ## What a rerun asks for -/

/-- A subscriber was reset at its address. -/
def IsReset (ipPortMap : Dict (Int × String)) (task : String)
    (exchange : Exchange) : Prop :=
  ∃ address, ipPortMap.lookup task = some address ∧
    exchange = ⟨.resetStats address.2 address.1 task, .ok ()⟩

/-- A subscriber was configured at its address. -/
def IsConfig (ipPortMap : Dict (Int × String)) (task : String)
    (exchange : Exchange) : Prop :=
  ∃ address recvRate reconnectRate, ipPortMap.lookup task = some address ∧
    exchange =
      ⟨.updateSubConfig address.2 address.1 task recvRate reconnectRate, .ok ()⟩

/-- At most the entry of the subscribers differs. -/
structure SubsOnly (sub : String) (before after : World) : Prop where
  otherApps : ∀ other, other ≠ sub →
    after.hydra.apps.lookup other = before.hydra.apps.lookup other
  allTaskIds : after.hydra.allTaskIds = before.hydra.allTaskIds
  appGroup : after.hydra.appGroup = before.hydra.appGroup

theorem SubsOnly.refl (sub : String) (world : World) : SubsOnly sub world world :=
  ⟨fun _ _ => rfl, rfl, rfl⟩

theorem SubsOnly.trans (sub : String) (first second third : World)
    (only : SubsOnly sub first second) (onlyToo : SubsOnly sub second third) :
    SubsOnly sub first third where
  otherApps other different :=
    (onlyToo.otherApps other different).trans (only.otherApps other different)
  allTaskIds := onlyToo.allTaskIds.trans only.allTaskIds
  appGroup := onlyToo.appGroup.trans only.appGroup

/-- The histories do not matter. -/
theorem SubsOnly.congr {sub : String} {before after first last : World}
    (only : SubsOnly sub before after) (sameFirst : first.hydra = before.hydra)
    (sameLast : last.hydra = after.hydra) : SubsOnly sub first last := by
  constructor
  · rw [sameFirst, sameLast]
    exact only.otherApps
  · rw [sameFirst, sameLast]
    exact only.allTaskIds
  · rw [sameFirst, sameLast]
    exact only.appGroup

section Reads

variable {sub : String}

theorem assertThat_subsOnly (condition : Bool) :
    LeadsAlong (SubsOnly sub) (assertThat condition : HydraM Unit) := by
  cases condition with
  | true => exact leadsAlong_pure (SubsOnly.refl sub) ()
  | false => exact leadsAlong_throw (SubsOnly.refl sub) _

theorem index_subsOnly {Value : Type} (dict : Dict Value) (key : String) :
    LeadsAlong (SubsOnly sub) (index dict key : HydraM Value) := by
  unfold index
  split
  · exact leadsAlong_pure (SubsOnly.refl sub) _
  · exact leadsAlong_throw (SubsOnly.refl sub) _

theorem getHydra_subsOnly : LeadsAlong (SubsOnly sub) getHydra :=
  SubsOnly.refl sub

theorem getAppProperty_subsOnly (name pname : String) :
    LeadsAlong (SubsOnly sub) (getAppProperty name pname) := by
  apply getHydra_subsOnly.bind (SubsOnly.trans sub)
  intro hydra
  apply (assertThat_subsOnly _).bind (SubsOnly.trans sub)
  intro _
  apply (index_subsOnly _ _).bind (SubsOnly.trans sub)
  intro record
  cases record with
  | launched app type => exact leadsAlong_throw (SubsOnly.refl sub) _
  | refreshed info => exact leadsAlong_pure (SubsOnly.refl sub) _

theorem randomSelectInstances_subsOnly (name : String) (cnt : Nat)
    (randint : Nat → Nat) :
    LeadsAlong (SubsOnly sub) (randomSelectInstances name cnt randint) := by
  apply LeadsAlong.bind (SubsOnly.trans sub)
  · apply getHydra_subsOnly.bind (SubsOnly.trans sub)
    intro hydra
    apply (index_subsOnly _ _).bind (SubsOnly.trans sub)
    intro record
    cases record with
    | launched app type => exact leadsAlong_throw (SubsOnly.refl sub) _
    | refreshed info => exact leadsAlong_pure (SubsOnly.refl sub) _
  · intro ipm
    apply (assertThat_subsOnly _).bind (SubsOnly.trans sub)
    exact fun _ => leadsAlong_pure (SubsOnly.refl sub) _

theorem setAppProperty_subsOnly (key : String) (value : Finset String) :
    LeadsAlong (SubsOnly sub) (setAppProperty sub key value) := by
  apply getHydra_subsOnly.bind (SubsOnly.trans sub)
  intro hydra
  apply (assertThat_subsOnly _).bind (SubsOnly.trans sub)
  intro _
  apply (index_subsOnly _ _).bind (SubsOnly.trans sub)
  intro record
  cases record with
  | launched app type => exact leadsAlong_throw (SubsOnly.refl sub) _
  | refreshed info =>
      intro world
      refine ⟨fun other different => ?_, rfl, rfl⟩
      exact AList.lookup_insert_ne different

/-- Choosing clients changes nothing but what is remembered of the
subscribers. -/
theorem selectClients_subsOnly (pname : String) (num : Nat)
    (randint : Nat → Nat) :
    LeadsAlong (SubsOnly sub)
      (RunTestZMQ.selectClients sub pname num randint) := by
  unfold RunTestZMQ.selectClients
  split
  · exact leadsAlong_pure (SubsOnly.refl sub) false
  · apply (getAppProperty_subsOnly _ _).bind (SubsOnly.trans sub)
    intro clients
    dsimp only
    split
    · apply (randomSelectInstances_subsOnly _ _ _).bind (SubsOnly.trans sub)
      intro selected
      apply (setAppProperty_subsOnly _ _).bind (SubsOnly.trans sub)
      exact fun _ => leadsAlong_pure (SubsOnly.refl sub) true
    · exact leadsAlong_pure (SubsOnly.refl sub) false

end Reads

section Requests

variable {backend : Backend} {ipPortMap : Dict (Int × String)}

theorem resetTasks_returned {tasks : List String} {history later : History}
    (returned : resetTasks backend ipPortMap tasks history = .ok () later) :
    ∃ resets, later = history ++ resets ∧
      List.Forall₂ (IsReset ipPortMap) tasks resets := by
  induction tasks generalizing history with
  | nil =>
      cases returned
      exact ⟨[], (List.append_nil _).symm, .nil⟩
  | cons task tasks ih =>
      simp only [resetTasks, index_bind] at returned
      cases found : ipPortMap.lookup task with
      | none => simp [found] at returned
      | some address =>
          simp only [found] at returned
          obtain ⟨_, middle, reset, rest⟩ := bind_ok_iff.mp returned
          obtain ⟨resets, rfl, all⟩ := ih rest
          rw [RunTestZMQ.remote_returned reset]
          refine ⟨_ :: resets, List.append_assoc _ _ _, .cons ?_ all⟩
          exact ⟨address, found, rfl⟩

theorem updateInstances_configs {options : RunTestZMQ.Options}
    {slowSet recSet : Option (Finset String)} {keys : List String}
    {history later : History}
    (returned : RunTestZMQ.updateInstances backend options ipPortMap slowSet
      recSet keys history = .ok () later) :
    ∃ configs, later = history ++ configs ∧
      List.Forall₂ (IsConfig ipPortMap) keys configs := by
  induction keys generalizing history with
  | nil =>
      cases returned
      exact ⟨[], (List.append_nil _).symm, .nil⟩
  | cons key keys ih =>
      simp only [RunTestZMQ.updateInstances, index_bind] at returned
      cases found : ipPortMap.lookup key with
      | none => simp [found] at returned
      | some address =>
          simp only [found] at returned
          obtain ⟨_, middle, updated, rest⟩ := bind_ok_iff.mp returned
          obtain ⟨configs, rfl, all⟩ := ih rest
          rw [RunTestZMQ.remote_returned updated]
          refine ⟨_ :: configs, List.append_assoc _ _ _, .cons ?_ all⟩
          exact ⟨address, _, _, found, rfl⟩

end Requests

section Reruns

variable {backend : Backend} {sub : String} {info : AppInfo}
  {ids : List String} {world after : World}

theorem resetAllAppStats_resets
    (registered : world.hydra.apps.lookup sub = some (.refreshed info))
    (listed : world.hydra.allTaskIds.lookup sub = some ids)
    (returned : resetAllAppStats backend sub "" world = .ok () after) :
    after.hydra = world.hydra ∧ ∃ resets, after.history = world.history ++ resets ∧
      List.Forall₂ (IsReset info.ipPortMap) ids resets := by
  have isScanned : IsScanned world.hydra sub "" ids := by
    rw [IsScanned, if_pos rfl]
    exact listed
  simp only [resetAllAppStats, getHydra_bind, assertThat_bind,
    RunTestZMQ.mem_apps registered, decide_true, if_true] at returned
  rw [bind_of_ok (scannedTasks_of_isScanned listed isScanned world),
    bind_of_ok (getAppIpportMap_eq registered)] at returned
  obtain ⟨later, reset, rfl⟩ := onBackend_ok_iff.mp returned
  obtain ⟨resets, rfl, all⟩ := resetTasks_returned reset
  exact ⟨rfl, resets, rfl, all⟩

theorem updateSubConfigs_configs
    (registered : world.hydra.apps.lookup sub = some (.refreshed info))
    {options : RunTestZMQ.Options}
    (returned : RunTestZMQ.updateSubConfigs backend sub options world =
      .ok () after) :
    after.hydra = world.hydra ∧
      ∃ configs, after.history = world.history ++ configs ∧
        List.Forall₂ (IsConfig info.ipPortMap) info.ipPortMap.keys configs := by
  unfold RunTestZMQ.updateSubConfigs at returned
  rw [bind_of_ok (getAppIpportMap_eq registered),
    bind_of_ok (RunTestZMQ.getAppProperty_eq registered _),
    bind_of_ok (RunTestZMQ.getAppProperty_eq registered _)] at returned
  obtain ⟨later, updated, rfl⟩ := onBackend_ok_iff.mp returned
  obtain ⟨configs, rfl, all⟩ := updateInstances_configs updated
  exact ⟨rfl, configs, rfl, all⟩

/-- A rerun that returned: the publisher was configured, then every subscriber of
the list was reset, then all of them or none were configured, and at last the
test was started. -/
structure Rerun (sub : String) (options : RunTestZMQ.Options) (info : AppInfo)
    (ids : List String) (before after : World) : Prop where
  exchanged : ∃ resets configs, after.history = before.history ++
      ⟨.updatePubConfig options.testDuration options.msgBatch options.msgRate,
        .ok ()⟩ :: (resets ++ configs ++ [⟨.startTest, .ok ()⟩]) ∧
    List.Forall₂ (IsReset info.ipPortMap) ids resets ∧
    (configs = [] ∨
      List.Forall₂ (IsConfig info.ipPortMap) info.ipPortMap.keys configs)
  registered : ∃ info', after.hydra.apps.lookup sub = some (.refreshed info') ∧
    info'.ipPortMap = info.ipPortMap
  subsOnly : SubsOnly sub before after

/-- The subscribers are configured, or nothing is exchanged. -/
theorem configs_of_updating {info' : AppInfo}
    (registered : world.hydra.apps.lookup sub = some (.refreshed info'))
    (sameMap : info'.ipPortMap = info.ipPortMap)
    {options : RunTestZMQ.Options} {updating : Bool}
    (returned : (if updating then RunTestZMQ.updateSubConfigs backend sub options
      else pure () : HydraM Unit) world = .ok () after) :
    after.hydra = world.hydra ∧
      ∃ configs, after.history = world.history ++ configs ∧
        (configs = [] ∨
          List.Forall₂ (IsConfig info.ipPortMap) info.ipPortMap.keys configs) := by
  cases updating with
  | true =>
      obtain ⟨sentHydra, configs, sentHistory, all⟩ :=
        updateSubConfigs_configs registered returned
      rw [sameMap] at all
      exact ⟨sentHydra, configs, sentHistory, .inr all⟩
  | false =>
      cases returned
      exact ⟨rfl, [], (List.append_nil _).symm, .inl rfl⟩

/-- A choice of clients that returned changed nothing but what is remembered. -/
theorem selectClients_returned
    (registered : world.hydra.apps.lookup sub = some (.refreshed info))
    {pname : String} {num : Nat} {draws : Nat → Nat} {updated : Bool}
    (returned : RunTestZMQ.selectClients sub pname num draws world =
      .ok updated after) :
    (∃ info', after.hydra.apps.lookup sub = some (.refreshed info') ∧
      info'.ipPortMap = info.ipPortMap) ∧
    after.history = world.history ∧ SubsOnly sub world after := by
  have only := @selectClients_subsOnly sub pname num draws world
  rw [returned] at only
  rcases RunTestZMQ.selectClients_outcome registered pname num draws with
    ⟨stop, failed, _⟩ | ⟨updated', after', info', ended, selected⟩
  · rw [failed] at returned
    cases returned
  · rw [ended] at returned
    cases returned
    exact ⟨⟨info', selected.registered, selected.sameMap⟩, selected.history, only⟩

theorem selectBoth_returned
    (registered : world.hydra.apps.lookup sub = some (.refreshed info))
    {round : ℚ → ℚ} {options : RunTestZMQ.Options}
    {slowDraws recDraws : Nat → Nat} {acnt : Nat} {updating : Bool}
    (returned : RunTestZMQ.selectBoth round sub options slowDraws recDraws acnt
      world = .ok updating after) :
    (∃ info', after.hydra.apps.lookup sub = some (.refreshed info') ∧
      info'.ipPortMap = info.ipPortMap) ∧
    after.history = world.history ∧ SubsOnly sub world after := by
  obtain ⟨slowUpdate, slowWorld, slowOk, rest⟩ := bind_ok_iff.mp returned
  obtain ⟨recUpdate, recWorld, recOk, ended⟩ := bind_ok_iff.mp rest
  cases ended
  obtain ⟨⟨slowInfo, slowRegistered, slowMap⟩, slowHistory, slowOnly⟩ :=
    selectClients_returned registered slowOk
  obtain ⟨⟨recInfo, recRegistered, recMap⟩, recHistory, recOnly⟩ :=
    selectClients_returned slowRegistered recOk
  exact ⟨⟨recInfo, recRegistered, recMap.trans slowMap⟩,
    recHistory.trans slowHistory, SubsOnly.trans _ _ _ _ slowOnly recOnly⟩

theorem zmqRerun_returned
    (registered : world.hydra.apps.lookup sub = some (.refreshed info))
    (listed : world.hydra.allTaskIds.lookup sub = some ids) {round : ℚ → ℚ}
    {options : RunTestZMQ.Options} {slowDraws recDraws : Nat → Nat}
    (returned : RunTestZMQ.rerunTest round backend sub options slowDraws recDraws
      world = .ok () after) : Rerun sub options info ids world after := by
  obtain ⟨_, signal, configured, start⟩ := bind_ok_iff.mp returned
  obtain ⟨updating, chosen, chose, updated⟩ := bind_ok_iff.mp configured
  obtain ⟨_, asked, pub, rest⟩ := bind_ok_iff.mp chose
  obtain ⟨later, published, rfl⟩ := onBackend_ok_iff.mp pub
  obtain ⟨_, reset, resetOk, rest⟩ := bind_ok_iff.mp rest
  obtain ⟨resetHydra, resets, resetHistory, all⟩ :=
    @resetAllAppStats_resets _ _ _ _ ⟨world.hydra, later⟩ _ registered listed
      resetOk
  have registeredReset : reset.hydra.apps.lookup sub = some (.refreshed info) := by
    rw [resetHydra]
    exact registered
  rw [bind_of_ok (RunTestZMQ.getAppInstcnt_eq registeredReset)] at rest
  obtain ⟨⟨info', registeredChosen, sameMap⟩, chosenHistory, only⟩ :=
    selectBoth_returned registeredReset rest
  obtain ⟨sameHydra, configs, configHistory, allOrNone⟩ :=
    configs_of_updating registeredChosen sameMap updated
  obtain ⟨last, started, rfl⟩ := onBackend_ok_iff.mp start
  refine ⟨⟨resets, configs, ?_, all, allOrNone⟩, ⟨info', ?_, sameMap⟩, ?_⟩
  · dsimp only
    rw [RunTestZMQ.remote_returned started, configHistory, chosenHistory,
      resetHistory, RunTestZMQ.remote_returned published]
    simp
  · dsimp only
    rw [sameHydra]
    exact registeredChosen
  · exact only.congr resetHydra.symm sameHydra

theorem kafkaRerun_returned
    (registered : world.hydra.apps.lookup sub = some (.refreshed info))
    (listed : world.hydra.allTaskIds.lookup sub = some ids)
    {options : Options}
    (returned : RunTestKAFKA.rerunTest backend sub options world = .ok () after) :
    Rerun sub options.toOptions info ids world after := by
  obtain ⟨_, asked, pub, returned⟩ := bind_ok_iff.mp returned
  obtain ⟨later, published, rfl⟩ := onBackend_ok_iff.mp pub
  obtain ⟨_, reset, resetOk, returned⟩ := bind_ok_iff.mp returned
  obtain ⟨resetHydra, resets, resetHistory, all⟩ :=
    @resetAllAppStats_resets _ _ _ _ ⟨world.hydra, later⟩ _ registered listed
      resetOk
  obtain ⟨last, started, rfl⟩ := onBackend_ok_iff.mp returned
  refine ⟨⟨resets, [], ?_, all, .inl rfl⟩, ⟨info, ?_, rfl⟩,
    (SubsOnly.refl sub world).congr rfl resetHydra⟩
  · rw [RunTestZMQ.remote_returned started, resetHistory,
      RunTestZMQ.remote_returned published]
    simp
  · rw [resetHydra]
    exact registered

/-- What the rerun of either test has done when it returns. -/
theorem rerunTest_returned {setting : Setting} (program : Program)
    {options : Options} {slowDraws recDraws : Nat → Nat}
    (registered : world.hydra.apps.lookup (program.sub setting) =
      some (.refreshed info))
    (listed : world.hydra.allTaskIds.lookup (program.sub setting) = some ids)
    (returned : program.rerunTest setting options slowDraws recDraws world =
      .ok () after) :
    Rerun (program.sub setting) options.toOptions info ids world after := by
  cases program with
  | zmq => exact zmqRerun_returned registered listed returned
  | kafka => exact kafkaRerun_returned registered listed returned

end Reruns

end TestLaunch

end MScale
