import MScale.HydraFetchStats
import MScale.MockScaling

/-!
# The ports of the mock

The mock draws its ports once, and hands out the next ones to each task that it
launches.  So every port handed out belongs to a live task or to one that was
deleted, and the ports of the live tasks are distinct in all runs exactly if
the draws were.
-/

namespace MScale

namespace MockBackend

open StateErrors HydraBase ChildManager LabelledRuns
open scoped List

namespace MockMarathonIF

/-! ## Runs of calls -/

/-- The calls that launch or remove tasks. -/
inductive Call where
  | createApp (appId : String) (attr : LaunchAttr) (appLocalLaunchName : String)
  | scaleApp (app : String) (scale : Nat)
  | deleteApp (appId : String)
  deriving DecidableEq, Repr

def Call.run (popen : Popen) (environ : Dict String) : Call → MockM Unit
  | .createApp appId attr appLocalLaunchName =>
      MockMarathonIF.createApp popen environ appId attr appLocalLaunchName
  | .scaleApp app scale => do
      let _ ← MockMarathonIF.scaleApp popen environ app scale
  | .deleteApp appId => MockMarathonIF.deleteApp appId

/-- A call that succeeds. -/
def CallStep (popen : Popen) (environ : Dict String) (before : MockMarathonIF)
    (call : Call) (after : MockMarathonIF) : Prop :=
  call.run popen environ before = .ok () after

/-- The ports of the tasks of an application. -/
def portsOf (info : AppInfo) : List Int :=
  info.tasks.flatMap (·.ports)

/-- The ports of all live tasks. -/
def livePorts (mock : MockMarathonIF) : List Int :=
  (EntryLists.values mock.listApps).flatMap portsOf

/-! ## Deleting an application -/

section Delete

variable {appId name : String} {mock after : MockMarathonIF}

theorem terminate_returned {before stopped : ChildManager}
    (returned : terminateProcessAndChildren name before = .ok () stopped) :
    stopped = before := by
  rw [terminateProcessAndChildren, bind_of_ok (get_ok before), index_bind]
    at returned
  cases found : before.jobs.lookup name with
  | none =>
      simp only [found] at returned
      cases returned
  | some job =>
      simp only [found] at returned
      cases pid : job.pid with
      | none =>
          simp only [pid] at returned
          cases returned
      | some process =>
          simp only [pid] at returned
          cases returned
          rfl

/-- Nothing that is looked up in the mock differs. -/
structure LooksSame (before after : MockMarathonIF) : Prop where
  envPorts : after.envPorts = before.envPorts
  portIndex : after.portIndex = before.portIndex
  appAttr : after.appAttr = before.appAttr
  listApps : ∀ app, after.listApps.lookup app = before.listApps.lookup app

/-- Ending the processes of a job changes no attribute. -/
theorem terminate_looksSame
    (returned : onChildren appId (terminateProcessAndChildren name) mock =
      .ok () after) : LooksSame mock after := by
  obtain ⟨cmgr, stopped, rfl⟩ := onPart_ok_iff.mp returned
  rw [terminate_returned stopped]
  cases found : mock.listApps.lookup appId with
  | none =>
      simp only [setChildren, modifyApp, found]
      exact ⟨rfl, rfl, rfl, fun _ => rfl⟩
  | some info =>
      rw [setChildren_found found, childrenOf_found found]
      refine ⟨rfl, rfl, rfl, ?_⟩
      intro app
      by_cases same : app = appId
      · rw [same, AList.lookup_insert, found]
      · exact AList.lookup_insert_ne same

/-- A deletion removes an application and nothing else. -/
structure RemovesApp (appId : String) (before after : MockMarathonIF) :
    Prop where
  envPorts : after.envPorts = before.envPorts
  portIndex : after.portIndex = before.portIndex
  gone : after.listApps.lookup appId = none ∧
    after.appAttr.lookup appId = none
  others : ∀ other, other ≠ appId →
    after.listApps.lookup other = before.listApps.lookup other ∧
      after.appAttr.lookup other = before.appAttr.lookup other

theorem LooksSame.removesApp {middle : MockMarathonIF}
    (same : LooksSame mock middle) :
    RemovesApp appId mock { middle with
      listApps := middle.listApps.erase appId
      appAttr := middle.appAttr.erase appId } := by
  refine ⟨same.envPorts, same.portIndex,
    ⟨AList.lookup_erase _ _, AList.lookup_erase _ _⟩, ?_⟩
  intro other different
  exact ⟨(AList.lookup_erase_ne different).trans (same.listApps other),
    (AList.lookup_erase_ne different).trans (by rw [same.appAttr])⟩

theorem LooksSame.trans {middle : MockMarathonIF}
    (first : LooksSame mock middle) (second : LooksSame middle after) :
    LooksSame mock after where
  envPorts := second.envPorts.trans first.envPorts
  portIndex := second.portIndex.trans first.portIndex
  appAttr := second.appAttr.trans first.appAttr
  listApps app := (second.listApps app).trans (first.listApps app)

theorem deleteApp_removesApp
    (returned : deleteApp appId mock = .ok () after) :
    RemovesApp appId mock after := by
  rw [deleteApp, bind_of_ok (get_ok mock)] at returned
  cases found : mock.listApps.lookup appId with
  | none =>
      simp only [found] at returned
      cases returned
  | some info =>
      simp only [found] at returned
      obtain ⟨_, first, stopped, rest⟩ := bind_ok_iff.mp returned
      have same := terminate_looksSame stopped
      rw [bind_of_ok (get_ok first), index_bind] at rest
      cases entered : first.appAttr.lookup appId with
      | none =>
          simp only [entered] at rest
          cases rest
      | some entry =>
          obtain ⟨attr, taskCount⟩ := entry
          simp only [entered] at rest
          split at rest
          · obtain ⟨_, second, stoppedScale, last⟩ := bind_ok_iff.mp rest
            cases last
            exact (same.trans (terminate_looksSame stoppedScale)).removesApp
          · cases rest
            exact same.removesApp

end Delete

/-! ## Where the ports are -/

section Ports

variable {appId name : String} {attr : LaunchAttr}
  {before after mock : MockMarathonIF}

/-- The ports of the other applications. -/
def otherPorts (mock : MockMarathonIF) (appId : String) : List Int :=
  (EntryLists.values (mock.listApps.erase appId)).flatMap portsOf

theorem livePorts_perm (mock : MockMarathonIF) (appId : String) :
    (livePorts mock).Perm
      (portsOf (infoOf mock appId) ++ otherPorts mock appId) := by
  unfold livePorts infoOf
  cases found : mock.listApps.lookup appId with
  | none =>
      exact List.Perm.flatMap_right portsOf
        (EntryLists.values_perm_of_absent found)
  | some info =>
      exact List.Perm.flatMap_right portsOf
        (EntryLists.values_perm_of_found found)

theorem otherPorts_perm
    (others : ∀ other, other ≠ appId →
      after.listApps.lookup other = before.listApps.lookup other) :
    (otherPorts after appId).Perm (otherPorts before appId) := by
  have agree : EntryLists.AgreeExcept appId after.listApps before.listApps :=
    others
  exact List.Perm.flatMap_right portsOf agree.values_perm

/-- A launch adds the ports that it hands out. -/
theorem AddsTask.livePorts_perm (added : AddsTask appId name attr before after) :
    (livePorts after).Perm
      (livePorts before ++ nextPorts before attr.ports.length) := by
  obtain ⟨info, task, found, tasks, ports, _⟩ := added.task
  have portsEq : portsOf (infoOf after appId) =
      portsOf (infoOf before appId) ++ nextPorts before attr.ports.length := by
    rw [infoOf_found found, portsOf, tasks, List.flatMap_append,
      List.flatMap_singleton, ports]
    rfl
  have others := otherPorts_perm fun other different =>
    (added.others other different).1
  calc livePorts after
    _ ~ portsOf (infoOf after appId) ++ otherPorts after appId :=
        MockMarathonIF.livePorts_perm after appId
    _ ~ (portsOf (infoOf before appId) ++
          nextPorts before attr.ports.length) ++ otherPorts before appId := by
        rw [portsEq]
        exact others.append_left _
    _ ~ (portsOf (infoOf before appId) ++ otherPorts before appId) ++
          nextPorts before attr.ports.length := by
        rw [List.append_assoc, List.append_assoc]
        exact List.perm_append_comm.append_left _
    _ ~ livePorts before ++ nextPorts before attr.ports.length :=
        (MockMarathonIF.livePorts_perm before appId).symm.append_right _

/-- A deletion frees the ports of the application. -/
theorem RemovesApp.livePorts_perm (removed : RemovesApp appId before after) :
    (livePorts after ++ portsOf (infoOf before appId)).Perm
      (livePorts before) := by
  have gone : portsOf (infoOf after appId) = [] := by
    rw [infoOf, removed.gone.1]
    rfl
  have others := otherPorts_perm fun other different =>
    (removed.others other different).1
  have rest := MockMarathonIF.livePorts_perm after appId
  rw [gone, List.nil_append] at rest
  calc livePorts after ++ portsOf (infoOf before appId)
    _ ~ otherPorts before appId ++ portsOf (infoOf before appId) :=
        (rest.trans others).append_right _
    _ ~ portsOf (infoOf before appId) ++ otherPorts before appId :=
        List.perm_append_comm
    _ ~ livePorts before :=
        (MockMarathonIF.livePorts_perm before appId).symm

end Ports

/-! ## What all runs keep -/

section Runs

variable {popen : Popen} {environ : Dict String} {draws : PortDraws}
  {appId name : String} {attr : LaunchAttr} {before after : MockMarathonIF}

/-- A call that succeeds launches one task or removes one application. -/
theorem CallStep.cases {call : Call} (counted : ∀ app, Counted before app)
    (taken : CallStep popen environ before call after) :
    (∃ appId name attr, AddsTask appId name attr before after) ∨
      ∃ appId, RemovesApp appId before after := by
  cases call with
  | createApp appId attr appLocalLaunchName =>
      exact Or.inl ⟨_, _, _, createApp_addsTask (counted appId) taken⟩
  | scaleApp app scale =>
      obtain ⟨result, middle, scaled, ended⟩ := bind_ok_iff.mp taken
      cases ended
      cases entered : before.appAttr.lookup app with
      | none =>
          rw [MockMarathonIF.scaleApp, bind_of_ok (get_ok before), index_bind]
            at scaled
          simp only [entered] at scaled
          cases scaled
      | some entry =>
          exact Or.inl ⟨_, _, _,
            scaleApp_addsTask entered (counted app) scaled⟩
  | deleteApp appId => exact Or.inr ⟨_, deleteApp_removesApp taken⟩

/-- Every port that was handed out belongs to a live task or was freed. -/
structure Accounted (draws : PortDraws) (mock : MockMarathonIF) : Prop where
  envPorts : mock.envPorts = draws.ports
  counted : ∀ app, Counted mock app
  ports : ∃ freed,
    (livePorts mock ++ freed).Perm (draws.ports.take mock.portIndex)

theorem accounted_init (draws : PortDraws) : Accounted draws (init draws) where
  envPorts := rfl
  counted _ := rfl
  ports := ⟨[], List.Perm.refl _⟩

theorem AddsTask.accounted (added : AddsTask appId name attr before after)
    (accounted : Accounted draws before) : Accounted draws after := by
  constructor
  · exact added.envPorts.trans accounted.envPorts
  · intro app
    by_cases same : app = appId
    · rw [same]
      exact added.counted
    · rw [Counted, (added.others app same).1, (added.others app same).2]
      exact accounted.counted app
  · obtain ⟨freed, ports⟩ := accounted.ports
    refine ⟨freed, ?_⟩
    calc livePorts after ++ freed
      _ ~ (livePorts before ++ nextPorts before attr.ports.length) ++ freed :=
          added.livePorts_perm.append_right _
      _ ~ (livePorts before ++ freed) ++
            nextPorts before attr.ports.length := by
          rw [List.append_assoc, List.append_assoc]
          exact List.perm_append_comm.append_left _
      _ ~ draws.ports.take before.portIndex ++
            nextPorts before attr.ports.length := ports.append_right _
      _ ~ draws.ports.take after.portIndex := by
          rw [nextPorts, accounted.envPorts, added.portIndex, List.take_add]

theorem RemovesApp.accounted (removed : RemovesApp appId before after)
    (accounted : Accounted draws before) : Accounted draws after := by
  constructor
  · exact removed.envPorts.trans accounted.envPorts
  · intro app
    by_cases same : app = appId
    · rw [same, Counted, removed.gone.1, removed.gone.2]
      rfl
    · rw [Counted, (removed.others app same).1, (removed.others app same).2]
      exact accounted.counted app
  · obtain ⟨freed, ports⟩ := accounted.ports
    refine ⟨portsOf (infoOf before appId) ++ freed, ?_⟩
    rw [← List.append_assoc, removed.portIndex]
    exact (removed.livePorts_perm.append_right freed).trans ports

theorem CallStep.accounted {call : Call}
    (taken : CallStep popen environ before call after)
    (accounted : Accounted draws before) : Accounted draws after := by
  rcases taken.cases accounted.counted with
    ⟨appId, name, attr, added⟩ | ⟨appId, removed⟩
  · exact added.accounted accounted
  · exact removed.accounted accounted

/-- With distinct draws the live tasks have distinct ports. -/
theorem Accounted.livePorts_nodup {mock : MockMarathonIF}
    (accounted : Accounted draws mock) (distinct : draws.ports.Nodup) :
    (livePorts mock).Nodup := by
  obtain ⟨freed, ports⟩ := accounted.ports
  have handedOut : (draws.ports.take mock.portIndex).Nodup :=
    distinct.sublist (List.take_sublist _ _)
  exact (ports.nodup_iff.mpr handedOut).of_append_left

end Runs

/-! ## What Hydra enters for the instances -/

/-- The address that `MockMesosIF` has for `localhost`. -/
def myip : String :=
  "127.0.0.1"

/-- A task as Hydra reads it; a recorded task has an id and a host. -/
def hydraTask (task : TaskInfo) : Task :=
  ⟨task.id.getD "", task.host.getD "", task.ports⟩

def lookedUp (tasks : List TaskInfo) : List (Task × String) :=
  tasks.map fun task => (hydraTask task, myip)

/-- A refresh enters every instance of the tasks under its own key, and a fetch
stores the statistics of each under its own address. -/
structure EntryPerInstance (tasks : List TaskInfo) : Prop where
  keys : (ipPortMapOf (lookedUp tasks)).keys.Perm
    ((instancesOf (lookedUp tasks)).map Instance.key)
  endpoints :
    ((EntryLists.values (ipPortMapOf (lookedUp tasks))).map endpoint).Nodup

/-- No two live tasks share a port, and every instance has its entries. -/
structure PortsApart (mock : MockMarathonIF) : Prop where
  ports : (livePorts mock).Nodup
  entries : ∀ app info, mock.listApps.lookup app = some info →
    EntryPerInstance info.tasks

/-- The ports stay apart in every run of calls that succeed. -/
def KeepsPortsApart (draws : PortDraws) : Prop :=
  ∀ (popen : Popen) (environ : Dict String)
    (steps : List (Step MockMarathonIF Call)) (final : MockMarathonIF),
    Run (CallStep popen environ) (init draws) steps final →
    ∀ step ∈ steps, PortsApart step.after

theorem instancesOf_ports (tasks : List TaskInfo) :
    (instancesOf (lookedUp tasks)).map Instance.port =
      tasks.flatMap (·.ports) := by
  rw [instancesOf, lookedUp, List.flatMap_map, List.map_flatMap]
  congr 1
  funext task
  rw [List.map_map]
  exact List.map_id' task.ports

/-- What tells ports apart tells instances apart. -/
theorem map_nodup_of_ports {Key : Type} {key : Instance → Key}
    (separates : ∀ first second, key first = key second →
      first.port = second.port)
    {instances : List Instance}
    (distinct : (instances.map Instance.port).Nodup) :
    (instances.map key).Nodup := by
  rw [List.Nodup, List.pairwise_map] at distinct ⊢
  exact distinct.imp fun different same => different (separates _ _ same)

theorem entryPerInstance {tasks : List TaskInfo}
    (distinct : (tasks.flatMap (·.ports)).Nodup) : EntryPerInstance tasks := by
  rw [← instancesOf_ports] at distinct
  have keys : ((instancesOf (lookedUp tasks)).map Instance.key).Nodup :=
    map_nodup_of_ports (fun _ _ same => (instanceId_inj same).2) distinct
  have endpoints : ((instancesOf (lookedUp tasks)).map fun inst =>
      endpoint inst.info).Nodup :=
    map_nodup_of_ports
      (fun _ _ same => congrArg Prod.fst (endpoint_inj same)) distinct
  constructor
  · rw [ipPortMapOf_eq_fill, EntryLists.keys_fill keys]
    exact List.reverse_perm _
  · rw [ipPortMapOf_eq_fill, EntryLists.values,
      EntryLists.fill_empty_entries keys, List.map_reverse, List.map_reverse,
      List.nodup_reverse, List.map_map, List.map_map]
    exact endpoints

theorem portsApart {mock : MockMarathonIF} (distinct : (livePorts mock).Nodup) :
    PortsApart mock := by
  refine ⟨distinct, ?_⟩
  intro app info found
  have apart := (livePorts_perm mock app).nodup_iff.mp distinct
  rw [infoOf_found found] at apart
  exact entryPerInstance apart.of_append_left

/-- One application may ask for all ports at once. -/
theorem allPorts_run (draws : PortDraws) : ∃ steps final,
    Run (CallStep risingPids ∅) (init draws) steps final ∧
      ∃ step ∈ steps, (livePorts step.after).Perm draws.ports := by
  have none : HasTasks "sub" [] (init draws) :=
    hasTasks_new (AList.notMem_empty _) (AList.notMem_empty _)
  have positive : 0 < draws.ports.length := by
    rw [draws.length_eq]
    decide
  obtain ⟨mock, created⟩ := @createApp_returns (init draws) risingPids ∅ "sub"
    ⟨subscriber.cmd, draws.ports⟩ "" risingPids_succeed none.counted
    (Nat.zero_add _).le positive ((none.jobs _).not.mpr List.not_mem_nil)
  have added := createApp_addsTask none.counted created
  have taken : CallStep risingPids ∅ (init draws)
      (.createApp "sub" ⟨subscriber.cmd, draws.ports⟩ "") mock := created
  refine ⟨_, mock, .next taken .stop, _, List.mem_singleton.mpr rfl, ?_⟩
  have ports := added.livePorts_perm
  rw [nextPorts] at ports
  simpa [init, livePorts, EntryLists.values] using ports

/-- The ports of the live tasks are distinct in every run exactly if the draws
were distinct. -/
theorem keepsPortsApart_iff (draws : PortDraws) :
    KeepsPortsApart draws ↔ draws.ports.Nodup := by
  constructor
  · intro keeps
    obtain ⟨steps, final, run, step, member, ports⟩ := allPorts_run draws
    have apart := keeps risingPids ∅ steps final run step member
    exact ports.nodup_iff.mp apart.ports
  · intro distinct popen environ steps final run step member
    obtain ⟨_, _, accounted⟩ := run.invariant
      (fun _ _ _ accounted taken => CallStep.accounted taken accounted)
      (accounted_init draws) step member
    exact portsApart (accounted.livePorts_nodup distinct)

/-- The draws when all random numbers happen to be the same. -/
def equalDraws : PortDraws where
  ports := List.replicate 100 10000
  length_eq := List.length_replicate
  range := by
    intro port member
    rw [List.eq_of_mem_replicate member]
    decide

theorem subscribers_share_port : ¬ ∀ draws, KeepsPortsApart draws := by
  intro keeps
  obtain ⟨mock, created, portIndex, count⟩ := subscriber_created equalDraws
  obtain ⟨added, had, _, entered⟩ :=
    createApp_new (AList.notMem_empty _) (AList.notMem_empty _) created
  have fresh : "sub" ++ "-scale" ∉ (infoOf mock "sub").cmgr := by
    rw [had.jobs, List.mem_singleton]
    exact scale_ne_app
  have room : mock.portIndex + subscriber.ports.length ≤
      mock.envPorts.length := by
    rw [portIndex, count]
    decide
  obtain ⟨after, scaled⟩ := @scaleApp_returns risingPids ∅ "sub" subscriber mock
    2 _ risingPids_succeed entered had.counted room (by decide) fresh
  have again := scaleApp_addsTask entered had.counted scaled
  have takenFirst : CallStep risingPids ∅ (init equalDraws)
      (.createApp "sub" subscriber "") mock := created
  have takenSecond : CallStep risingPids ∅ mock (.scaleApp "sub" 2) after :=
    bind_of_ok scaled
  have apart := keeps equalDraws risingPids ∅ _ after
    (.next takenFirst (.next takenSecond .stop)) _
    (List.mem_cons_of_mem _ (List.mem_singleton.mpr rfl))
  have ports := again.livePorts_perm.trans (added.livePorts_perm.append_right _)
  rw [nextPorts, nextPorts, added.envPorts, portIndex] at ports
  exact absurd (ports.nodup_iff.mp apart.ports) (by decide)

end MockMarathonIF

end MockBackend

end MScale
