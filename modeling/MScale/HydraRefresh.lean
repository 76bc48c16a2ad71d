import MScale.HydraGroups

/-!
# What the registry operations do

An operation is described by what the cluster answers and by the change it
makes to the registry.  The answers to one refresh are collected in a
`RefreshReply`: the tasks whose hosts could be looked up, and the exception
that ended the refresh if there was one.
-/

namespace MScale

namespace HydraBase

open StateErrors

section Execution

variable {Value Result : Type} {world : World}

@[simp]
theorem getHydra_bind {rest : HydraBase → HydraM Result} :
    (getHydra >>= rest) world = rest world.hydra world :=
  rfl

@[simp]
theorem updateHydra_bind {update : HydraBase → HydraBase}
    {rest : Unit → HydraM Result} :
    (updateHydra update >>= rest) world =
      rest () { world with hydra := update world.hydra } :=
  rfl

theorem onBackend_ok_iff {program : RemoteM Value} {value : Value}
    {after : World} :
    (liftM program : HydraM Value) world = .ok value after ↔
      ∃ history, program world.history = .ok value history ∧
        after = { world with history := history } := by
  change onPart World.history
    (fun history world => { world with history := history }) program world =
      _ ↔ _
  exact onPart_ok_iff

theorem onBackend_bind {program : RemoteM Value}
    {rest : Value → HydraM Result} :
    (liftM program >>= rest) world =
      match program world.history with
      | .ok value history => rest value { world with history := history }
      | .error stop history => .error stop { world with history := history } := by
  cases ended : program world.history with
  | ok value history =>
      exact bind_of_ok (by
        simp [liftM, monadLift, MonadLift.monadLift, onBackend, onPart, ended])
  | error stop history =>
      exact bind_of_error (by
        simp [liftM, monadLift, MonadLift.monadLift, onBackend, onPart, ended])

theorem assertThat_bind {State : Type} {condition : Bool}
    {rest : Unit → EStateM Stop State Result} {state : State} :
    (assertThat condition >>= rest) state =
      if condition then rest () state
      else .error (.raised .assertionError) state := by
  cases condition <;> rfl

theorem index_bind {State : Type} {dict : Dict Value} {key : String}
    {rest : Value → EStateM Stop State Result} {state : State} :
    (index dict key >>= rest) state =
      match dict.lookup key with
      | some value => rest value state
      | none => .error (.raised (.keyError key)) state := by
  unfold index
  cases dict.lookup key <;> rfl

end Execution

/-- The answers to one refresh: the tasks whose hosts were looked up, and why
the refresh ended early. -/
structure RefreshReply where
  looked : List (Task × String)
  failure : Option Stop
  history : History

/-- How a computation ends that got the given reply and left the given
registry. -/
def RefreshReply.outcome {Value : Type} (reply : RefreshReply) (value : Value)
    (hydra : HydraBase) : EStateM.Result Stop World Value :=
  match reply.failure with
  | none => .ok value ⟨hydra, reply.history⟩
  | some stop => .error stop ⟨hydra, reply.history⟩

@[simp]
theorem RefreshReply.stateAfter_outcome {Value : Type} (reply : RefreshReply)
    (value : Value) (hydra : HydraBase) :
    stateAfter (reply.outcome value hydra) = ⟨hydra, reply.history⟩ := by
  unfold outcome
  split <;> rfl

theorem RefreshReply.outcome_ok_iff {Value : Type} {reply : RefreshReply}
    {value result : Value} {hydra : HydraBase} {world : World} :
    reply.outcome value hydra = .ok result world ↔
      reply.failure = none ∧ result = value ∧ world = ⟨hydra, reply.history⟩ := by
  unfold outcome
  cases reply.failure with
  | none =>
      constructor
      · intro same
        cases same
        exact ⟨rfl, rfl, rfl⟩
      · rintro ⟨_, rfl, rfl⟩
        rfl
  | some stop => simp

section Refresh

variable (backend : Backend)

/-- Look up the hosts of the tasks in turn. -/
def lookUpHosts : List Task → History → RefreshReply
  | [], history => ⟨[], none, history⟩
  | task :: tasks, history =>
      match remote backend (.getSlaveIpFromHn task.host) history with
      | .ok appIp history =>
          let reply := lookUpHosts tasks history
          { reply with looked := (task, appIp) :: reply.looked }
      | .error stop history => ⟨[], some stop, history⟩

/-- The reply to a refresh that starts after `history`. -/
def refreshReply (name : String) (history : History) : RefreshReply :=
  match getAppTasks backend name history with
  | .ok tasks history => lookUpHosts backend tasks history
  | .error stop history => ⟨[], some stop, history⟩

/-- The `ip_port_map` of the given tasks. -/
def ipPortMapOf (looked : List (Task × String)) : Dict (Int × String) :=
  looked.foldl (fun ipPortMap entry => addTask entry.1 entry.2 ipPortMap) ∅

theorem mem_addTask {task : Task} {appIp key : String}
    {ipPortMap : Dict (Int × String)} :
    key ∈ addTask task appIp ipPortMap ↔
      key ∈ ipPortMap ∨ ∃ port ∈ task.ports, instanceId task port = key := by
  unfold addTask
  induction task.ports generalizing ipPortMap with
  | nil => simp
  | cons port ports ih =>
      simp only [List.foldl_cons, ih, AList.mem_insert, List.mem_cons,
        exists_eq_or_imp, or_assoc, @eq_comm _ key]
      exact or_left_comm

/-- One of the tasks whose hosts were looked up has the given instance. -/
def LooksUp (looked : List (Task × String)) (key : String) : Prop :=
  ∃ entry ∈ looked, ∃ port ∈ entry.1.ports, instanceId entry.1 port = key

theorem mem_ipPortMapOf {looked : List (Task × String)} {key : String} :
    key ∈ ipPortMapOf looked ↔ LooksUp looked key := by
  have filled : ∀ ipPortMap : Dict (Int × String),
      key ∈ looked.foldl
          (fun ipPortMap entry => addTask entry.1 entry.2 ipPortMap) ipPortMap ↔
        key ∈ ipPortMap ∨ LooksUp looked key := by
    unfold LooksUp
    induction looked with
    | nil => simp
    | cons entry looked ih =>
        intro ipPortMap
        simp only [List.foldl_cons, ih, mem_addTask, List.mem_cons,
          exists_eq_or_imp, or_assoc]
  exact (filled ∅).trans (or_iff_right (AList.notMem_empty key))

/-- The registry after a refresh that got the given reply. -/
def withReply (hydra : HydraBase) (name : String) (reply : RefreshReply) :
    HydraBase :=
  let info : AppInfo := { ipPortMap := ipPortMapOf reply.looked }
  match reply.failure with
  | none => (hydra.setApp name (.refreshed info)).setTaskIds name
      info.ipPortMap.keys
  | some _ => hydra.setApp name (.refreshed info)

variable {backend}

@[simp]
theorem setApp_setApp (hydra : HydraBase) (name : String)
    (first second : AppRecord) :
    (hydra.setApp name first).setApp name second = hydra.setApp name second := by
  simp [setApp, AList.insert_insert]

@[simp]
theorem modifyIpPortMap_setApp (hydra : HydraBase) (name : String)
    (info : AppInfo) (change : Dict (Int × String) → Dict (Int × String)) :
    modifyIpPortMap name change (hydra.setApp name (.refreshed info)) =
      hydra.setApp name
        (.refreshed { info with ipPortMap := change info.ipPortMap }) := by
  have found : (hydra.setApp name (.refreshed info)).apps.lookup name =
      some (.refreshed info) := by
    simp [setApp]
  simp [modifyIpPortMap, found]

theorem fillIpPortMap_eq (backend : Backend) (hydra : HydraBase) (name : String)
    (tasks : List Task) (info : AppInfo) (history : History) :
    let reply := lookUpHosts backend tasks history
    let world : World := ⟨hydra.setApp name (.refreshed
      { info with
        ipPortMap := reply.looked.foldl
          (fun ipPortMap entry => addTask entry.1 entry.2 ipPortMap)
          info.ipPortMap }), reply.history⟩
    fillIpPortMap backend name tasks
        ⟨hydra.setApp name (.refreshed info), history⟩ =
      match reply.failure with
      | none => .ok () world
      | some stop => .error stop world := by
  induction tasks generalizing info history with
  | nil => rfl
  | cons task tasks ih =>
      cases looked : remote backend (.getSlaveIpFromHn task.host) history with
      | error stop later =>
          simp [fillIpPortMap, onBackend_bind, looked, lookUpHosts]
      | ok appIp later =>
          simp only [fillIpPortMap, onBackend_bind, looked, updateHydra_bind,
            modifyIpPortMap_setApp, lookUpHosts, List.foldl_cons]
          exact ih _ later

theorem remote_ok {request : Request} {history : History}
    {answer : request.Answer} (answered : backend history request = .ok answer) :
    remote backend request history =
      .ok answer (history ++ [⟨request, .ok answer⟩]) := by
  simp [remote, answered]

/-- When every host is known, all tasks are looked up, and each address is what
the cluster answered for the host. -/
theorem lookUpHosts_complete {tasks : List Task} {history : History}
    (known : ∀ task ∈ tasks, ∀ later, ∃ ip,
      backend (history ++ later) (.getSlaveIpFromHn task.host) = .ok ip) :
    let reply := lookUpHosts backend tasks history
    reply.failure = none ∧ reply.looked.map Prod.fst = tasks ∧
      history <+: reply.history ∧
      ∀ entry ∈ reply.looked,
        ⟨.getSlaveIpFromHn entry.1.host, .ok entry.2⟩ ∈ reply.history := by
  induction tasks generalizing history with
  | nil => exact ⟨rfl, rfl, List.prefix_rfl, fun _ member => by cases member⟩
  | cons task tasks ih =>
      rw [List.forall_mem_cons] at known
      obtain ⟨ip, answered⟩ := known.1 []
      rw [List.append_nil] at answered
      have looked := remote_ok answered
      obtain ⟨failure, tasksEq, grown, recorded⟩ := @ih
        (history ++ [⟨.getSlaveIpFromHn task.host, .ok ip⟩])
        fun other member later => by
          rw [List.append_assoc]
          exact known.2 other member _
      simp only [lookUpHosts, looked]
      refine ⟨failure, by rw [List.map_cons, tasksEq],
        (List.prefix_append _ _).trans grown, ?_⟩
      rw [List.forall_mem_cons]
      exact ⟨grown.subset (List.mem_append_right _ List.mem_cons_self),
        recorded⟩

theorem lookUpHosts_looked_length {tasks : List Task} {history : History}
    (answered : (lookUpHosts backend tasks history).failure = none) :
    (lookUpHosts backend tasks history).looked.length = tasks.length := by
  induction tasks generalizing history with
  | nil => rfl
  | cons task tasks ih =>
      cases looked : remote backend (.getSlaveIpFromHn task.host) history with
      | error stop later => simp [lookUpHosts, looked] at answered
      | ok appIp later =>
          simp only [lookUpHosts, looked] at answered ⊢
          simp [ih answered]

/-- A refresh of a registered application changes the registry as its reply
says, whether it returns or raises. -/
theorem refreshAppInfo_eq (backend : Backend) (world : World) {name : String}
    (registered : name ∈ world.hydra.apps) :
    let reply := refreshReply backend name world.history
    refreshAppInfo backend name world =
      reply.outcome reply.looked.length (world.hydra.withReply name reply) := by
  simp only [refreshAppInfo, getHydra_bind, assertThat_bind, registered,
    decide_true, if_true, updateHydra_bind, onBackend_bind, refreshReply]
  cases tasksReply : getAppTasks backend name world.history with
  | error stop later => rfl
  | ok tasks later =>
      have filled := fillIpPortMap_eq backend world.hydra name
        tasks {} later
      simp only [RefreshReply.outcome]
      cases failed : (lookUpHosts backend tasks later).failure with
      | some stop =>
          simp only [failed] at filled
          rw [bind_of_error filled]
          simp [withReply, failed, ipPortMapOf]
      | none =>
          simp only [failed] at filled
          rw [bind_of_ok filled]
          have found : ∀ info history,
              getAppIpportMap name
                  ⟨world.hydra.setApp name (.refreshed info), history⟩ =
                .ok info.ipPortMap
                  ⟨world.hydra.setApp name (.refreshed info), history⟩ := by
            intro info history
            simp [getAppIpportMap, index_bind, setApp]
            rfl
          rw [bind_of_ok (found _ _)]
          simp only [updateHydra_bind, withReply, failed, ipPortMapOf,
            lookUpHosts_looked_length failed]
          rfl

theorem withReply_setApp (hydra : HydraBase) (name : String)
    (record : AppRecord) (reply : RefreshReply) :
    (hydra.setApp name record).withReply name reply =
      hydra.withReply name reply := by
  simp [withReply]

/-- The outcome of launching an application that is not registered yet. -/
theorem launchApp_eq {world : World} {name type : String} {app : MarathonApp}
    (absent : name ∉ world.hydra.apps) :
    launchApp backend name app type world =
      match remote backend (.createApp name app) world.history with
      | .error stop history => .error stop ⟨world.hydra, history⟩
      | .ok r history =>
          match remote backend (.waitAppReady name 1 1) history with
          | .error stop history =>
              .error stop ⟨world.hydra.setApp name (.launched r type), history⟩
          | .ok _ history =>
              let reply := refreshReply backend name history
              reply.outcome r (world.hydra.withReply name reply) := by
  simp only [launchApp, getHydra_bind, assertThat_bind, absent,
    not_false_eq_true, decide_true, if_true, onBackend_bind]
  cases created : remote backend (.createApp name app) world.history with
  | error stop history => rfl
  | ok r history =>
      simp only [updateHydra_bind, onBackend_bind]
      cases ready : remote backend (.waitAppReady name 1 1) history with
      | error stop history => rfl
      | ok value history =>
          have registered : name ∈
              (world.hydra.setApp name (.launched r type)).apps := by
            simp [setApp]
          have refreshed := refreshAppInfo_eq backend
            ⟨world.hydra.setApp name (.launched r type), history⟩ registered
          simp only [withReply_setApp, RefreshReply.outcome] at refreshed ⊢
          cases failed : (refreshReply backend name history).failure with
          | none =>
              simp only [failed] at refreshed
              exact bind_of_ok refreshed
          | some stop =>
              simp only [failed] at refreshed
              exact bind_of_error refreshed

theorem launchApp_registered {world : World} {name type : String}
    {app : MarathonApp} (registered : name ∈ world.hydra.apps) :
    launchApp backend name app type world =
      .error (.raised .assertionError) world := by
  simp [launchApp, assertThat_bind, registered]

/-- The outcome of scaling a registered application. -/
theorem scaleApp_eq {world : World} {fuel : Nat} {name : String}
    {scaleCnt sleepBeforeNextTry instanceBatch instanceThreshold : Int}
    (registered : name ∈ world.hydra.apps) :
    scaleApp backend fuel name scaleCnt sleepBeforeNextTry instanceBatch
        instanceThreshold world =
      match scaleRequests backend fuel name scaleCnt sleepBeforeNextTry
          instanceBatch instanceThreshold world.history with
      | .error stop history => .error stop ⟨world.hydra, history⟩
      | .ok _ history =>
          let reply := refreshReply backend name history
          let hydra := world.hydra.withReply name reply
          if reply.failure = none ∧ (reply.looked.length : Int) ≠ scaleCnt then
            .error (.raised .assertionError) ⟨hydra, reply.history⟩
          else reply.outcome () hydra := by
  simp only [scaleApp, getHydra_bind, assertThat_bind, registered,
    decide_true, if_true, onBackend_bind]
  cases scaled : scaleRequests backend fuel name scaleCnt sleepBeforeNextTry
      instanceBatch instanceThreshold world.history with
  | error stop history => rfl
  | ok value history =>
      have refreshed := refreshAppInfo_eq backend ⟨world.hydra, history⟩
        registered
      simp only [RefreshReply.outcome] at refreshed ⊢
      cases failed : (refreshReply backend name history).failure with
      | some stop =>
          simp only [failed] at refreshed
          simpa using bind_of_error refreshed
      | none =>
          simp only [failed] at refreshed
          rw [bind_of_ok refreshed]
          by_cases reached :
              ((refreshReply backend name history).looked.length : Int) =
                scaleCnt
          · simp [assertThat, reached]
            rfl
          · simp [assertThat, reached]
            rfl

theorem scaleApp_unregistered {world : World} {fuel : Nat} {name : String}
    {scaleCnt sleepBeforeNextTry instanceBatch instanceThreshold : Int}
    (absent : name ∉ world.hydra.apps) :
    scaleApp backend fuel name scaleCnt sleepBeforeNextTry instanceBatch
        instanceThreshold world = .error (.raised .assertionError) world := by
  simp [scaleApp, assertThat_bind, absent]

theorem refreshAppInfo_unregistered {world : World} {name : String}
    (absent : name ∉ world.hydra.apps) :
    refreshAppInfo backend name world =
      .error (.raised .assertionError) world := by
  simp [refreshAppInfo, assertThat_bind, absent]

theorem refreshAppInfo_returned {world after : World} {name : String}
    {count : Nat}
    (returned : refreshAppInfo backend name world = .ok count after) :
    let reply := refreshReply backend name world.history
    name ∈ world.hydra.apps ∧ reply.failure = none ∧
      after = ⟨world.hydra.withReply name reply, reply.history⟩ := by
  by_cases registered : name ∈ world.hydra.apps
  · rw [refreshAppInfo_eq backend world registered,
      RefreshReply.outcome_ok_iff] at returned
    exact ⟨registered, returned.1, returned.2.2⟩
  · rw [refreshAppInfo_unregistered registered] at returned
    cases returned

theorem launchApp_returned {world after : World} {name type : String}
    {app result : MarathonApp}
    (returned : launchApp backend name app type world = .ok result after) :
    name ∉ world.hydra.apps ∧ ∃ reply : RefreshReply, reply.failure = none ∧
      after = ⟨world.hydra.withReply name reply, reply.history⟩ := by
  by_cases registered : name ∈ world.hydra.apps
  · rw [launchApp_registered registered] at returned
    cases returned
  · rw [launchApp_eq registered] at returned
    split at returned
    · cases returned
    · dsimp only at returned
      split at returned
      · cases returned
      · rw [RefreshReply.outcome_ok_iff] at returned
        exact ⟨registered, _, returned.1, returned.2.2⟩

theorem scaleApp_returned {world after : World} {fuel : Nat} {name : String}
    {scaleCnt sleepBeforeNextTry instanceBatch instanceThreshold : Int}
    (returned : scaleApp backend fuel name scaleCnt sleepBeforeNextTry
      instanceBatch instanceThreshold world = .ok () after) :
    name ∈ world.hydra.apps ∧ ∃ scaled,
      scaleRequests backend fuel name scaleCnt sleepBeforeNextTry instanceBatch
        instanceThreshold world.history = .ok () scaled ∧
      (refreshReply backend name scaled).failure = none ∧
      after.hydra =
        world.hydra.withReply name (refreshReply backend name scaled) := by
  by_cases registered : name ∈ world.hydra.apps
  · rw [scaleApp_eq registered] at returned
    cases scaled : scaleRequests backend fuel name scaleCnt sleepBeforeNextTry
        instanceBatch instanceThreshold world.history with
    | error stop history =>
        rw [scaled] at returned
        cases returned
    | ok value history =>
        rw [scaled] at returned
        dsimp only at returned
        split at returned
        · cases returned
        · rw [RefreshReply.outcome_ok_iff] at returned
          exact ⟨registered, history, rfl, returned.1,
            congrArg World.hydra returned.2.2⟩
  · rw [scaleApp_unregistered registered] at returned
    cases returned

/-- However `delete_app` ends, the application has left `apps` and nothing else
changed. -/
theorem deleteApp_after (backend : Backend) (fuel : Nat) (app : String) (timeout : Int)
    (wait : Bool) (threshold instanceBatch : Int) (world : World) :
    (stateAfter (deleteApp backend fuel app timeout wait threshold
      instanceBatch world)).hydra =
        { world.hydra with apps := world.hydra.apps.erase app } := by
  simp only [deleteApp, updateHydra_bind, liftM, monadLift,
    MonadLift.monadLift, onBackend, onPart]
  split <;> rfl

@[simp]
theorem withReply_appGroup (hydra : HydraBase) (name : String)
    (reply : RefreshReply) :
    (hydra.withReply name reply).appGroup = hydra.appGroup := by
  unfold withReply
  split <;> rfl

theorem refreshAppInfo_appGroup (name : String) (world : World) :
    (stateAfter (refreshAppInfo backend name world)).hydra.appGroup =
      world.hydra.appGroup := by
  by_cases registered : name ∈ world.hydra.apps
  · simp [refreshAppInfo_eq backend world registered]
  · simp [refreshAppInfo_unregistered registered, stateAfter]

theorem launchApp_appGroup (name type : String) (app : MarathonApp)
    (world : World) :
    (stateAfter (launchApp backend name app type world)).hydra.appGroup =
      world.hydra.appGroup := by
  by_cases registered : name ∈ world.hydra.apps
  · simp [launchApp_registered registered, stateAfter]
  · rw [launchApp_eq registered]
    split
    · rfl
    · split
      · rfl
      · simp

theorem scaleApp_appGroup (fuel : Nat) (name : String)
    (scaleCnt sleepBeforeNextTry instanceBatch instanceThreshold : Int)
    (world : World) :
    (stateAfter (scaleApp backend fuel name scaleCnt sleepBeforeNextTry
      instanceBatch instanceThreshold world)).hydra.appGroup =
        world.hydra.appGroup := by
  by_cases registered : name ∈ world.hydra.apps
  · rw [scaleApp_eq registered]
    split
    · rfl
    · dsimp only
      split
      · simp [stateAfter]
      · simp
  · simp [scaleApp_unregistered registered, stateAfter]

/-- Once its requests are carried out, `scale_app` takes over the reply of
Marathon, whether it raises after that or not. -/
theorem scaleApp_hydra {world : World} {fuel : Nat} {name : String}
    {scaleCnt sleepBeforeNextTry instanceBatch instanceThreshold : Int}
    {history : History} (registered : name ∈ world.hydra.apps)
    (scaled : scaleRequests backend fuel name scaleCnt sleepBeforeNextTry
      instanceBatch instanceThreshold world.history = .ok () history) :
    (stateAfter (scaleApp backend fuel name scaleCnt sleepBeforeNextTry
      instanceBatch instanceThreshold world)).hydra =
        world.hydra.withReply name (refreshReply backend name history) := by
  rw [scaleApp_eq registered, scaled]
  dsimp only
  split
  · rfl
  · simp

/-- The requests of `scale_app` settle: a larger bound on the rounds changes
nothing once they ended. -/
theorem settles_scaleRequests (name : String)
    (scaleCnt sleepBeforeNextTry instanceBatch instanceThreshold : Int) :
    Settles .unfinished fun fuel =>
      scaleRequests backend fuel name scaleCnt sleepBeforeNextTry instanceBatch
        instanceThreshold := by
  unfold scaleRequests
  split
  · exact settles_repeatUntil _ _ _
  · exact settles_const _

end Refresh

/-- The entry of an application and its list in `all_task_ids` describe the
same instances: there is an `ip_port_map`, and the list has each of its keys
once. -/
def IdsOfRecord (record : AppRecord) (ids : Option (List String)) : Prop :=
  ∃ info listed, record = .refreshed info ∧ ids = some listed ∧
    listed.Perm info.ipPortMap.keys

instance (record : AppRecord) (ids : Option (List String)) :
    Decidable (IdsOfRecord record ids) :=
  match record, ids with
  | .refreshed info, some listed =>
      decidable_of_iff (listed.Perm info.ipPortMap.keys)
        ⟨fun perm => ⟨info, listed, rfl, rfl, perm⟩, by
          rintro ⟨info', listed', recordEq, idsEq, perm⟩
          cases recordEq
          cases idsEq
          exact perm⟩
  | .refreshed _, none => isFalse fun ⟨_, _, _, idsEq, _⟩ => by cases idsEq
  | .launched _ _, _ => isFalse fun ⟨_, _, recordEq, _⟩ => by cases recordEq

/-- Every registered application has matching entries. -/
def TaskIdsAgree (hydra : HydraBase) : Prop :=
  ∀ name record, hydra.apps.lookup name = some record →
    IdsOfRecord record (hydra.allTaskIds.lookup name)

theorem TaskIdsAgree.setApp_iff {hydra : HydraBase}
    (agree : hydra.TaskIdsAgree) {name : String} {record : AppRecord} :
    (hydra.setApp name record).TaskIdsAgree ↔
      IdsOfRecord record (hydra.allTaskIds.lookup name) := by
  constructor
  · intro agreeAfter
    exact agreeAfter name record (by simp [setApp])
  · intro matching other record' found
    by_cases same : other = name
    · subst same
      have recordEq : record = record' := by simpa [setApp] using found
      subst recordEq
      exact matching
    · apply agree other record'
      simpa [setApp, AList.lookup_insert_ne same] using found

/-- No list of instances has one twice, not even that of an application that
was deleted. -/
def TaskListsNodup (hydra : HydraBase) : Prop :=
  ∀ name listed, hydra.allTaskIds.lookup name = some listed → listed.Nodup

theorem TaskListsNodup.setTaskIds {hydra : HydraBase}
    (listsNodup : hydra.TaskListsNodup) (name : String) {ids : List String}
    (nodup : ids.Nodup) : (hydra.setTaskIds name ids).TaskListsNodup := by
  intro other listed found
  by_cases same : other = name
  · subst same
    have listedEq : ids = listed := by simpa [HydraBase.setTaskIds] using found
    exact listedEq ▸ nodup
  · apply listsNodup other listed
    simpa [HydraBase.setTaskIds, AList.lookup_insert_ne same] using found

theorem TaskListsNodup.withReply {hydra : HydraBase}
    (listsNodup : hydra.TaskListsNodup) (name : String) (reply : RefreshReply) :
    (hydra.withReply name reply).TaskListsNodup := by
  unfold HydraBase.withReply
  split
  · have setNodup : (hydra.setApp name (.refreshed
        { ipPortMap := ipPortMapOf reply.looked })).TaskListsNodup := listsNodup
    exact setNodup.setTaskIds name (AList.keys_nodup _)
  · exact listsNodup

/-- The reply to a refresh of `name` is complete, or the tasks that it looked up
before it failed have exactly the instances that are listed from before. -/
def ReplyKeepsIds (hydra : HydraBase) (name : String) (reply : RefreshReply) :
    Prop :=
  reply.failure = none ∨
    ∃ listed, hydra.allTaskIds.lookup name = some listed ∧
      ∀ key, LooksUp reply.looked key ↔ key ∈ listed

theorem perm_ipPortMapOf_iff {listed : List String} (nodup : listed.Nodup)
    (looked : List (Task × String)) :
    listed.Perm (ipPortMapOf looked).keys ↔
      ∀ key, LooksUp looked key ↔ key ∈ listed := by
  rw [List.perm_ext_iff_of_nodup nodup (AList.keys_nodup _)]
  refine forall_congr' fun key => ?_
  rw [← AList.mem_keys, mem_ipPortMapOf]
  exact iff_comm

/-- A complete reply rebuilds both records. -/
theorem TaskIdsAgree.withReply {hydra : HydraBase}
    (agree : hydra.TaskIdsAgree) (name : String) {reply : RefreshReply}
    (answered : reply.failure = none) :
    (hydra.withReply name reply).TaskIdsAgree := by
  unfold HydraBase.withReply
  rw [answered]
  intro other record found
  by_cases same : other = name
  · subst same
    refine ⟨{ ipPortMap := ipPortMapOf reply.looked }, _, ?_,
      by simp [setTaskIds], List.Perm.refl _⟩
    simpa [setTaskIds, setApp] using found.symm
  · have before := agree other record (by
      simpa [setTaskIds, setApp, AList.lookup_insert_ne same] using found)
    simpa [setTaskIds, setApp, AList.lookup_insert_ne same] using before

theorem TaskIdsAgree.withReply_iff {hydra : HydraBase}
    (agree : hydra.TaskIdsAgree) (listsNodup : hydra.TaskListsNodup)
    {name : String} {reply : RefreshReply} :
    (hydra.withReply name reply).TaskIdsAgree ↔
      hydra.ReplyKeepsIds name reply := by
  unfold ReplyKeepsIds
  cases failed : reply.failure with
  | none => exact iff_of_true (agree.withReply name failed) (Or.inl rfl)
  | some stop =>
      unfold HydraBase.withReply
      simp only [failed, agree.setApp_iff, reduceCtorEq, false_or]
      constructor
      · rintro ⟨info, listed, recordEq, found, perm⟩
        cases recordEq
        exact ⟨listed, found,
          (perm_ipPortMapOf_iff (listsNodup name listed found) _).mp perm⟩
      · rintro ⟨listed, found, looksUp⟩
        exact ⟨_, listed, rfl, found,
          (perm_ipPortMapOf_iff (listsNodup name listed found) _).mpr looksUp⟩

end HydraBase

end MScale
