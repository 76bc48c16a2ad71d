import MScale.EntryLists
import MScale.HydraRefresh
import MScale.LastSeparator
import Mathlib.Data.List.Nodup

/-!
# The keys of the instances

`refresh_app_info` enters every port of every task under a key that is put
together from the id of the task and the port, and `delete_tasks_from_group`
cuts the id out of the key again.  The port has no underscore, so that the cut
finds the end of the id whatever the id contains: distinct instances have
distinct keys, and no entry overwrites another.
-/

namespace MScale

namespace HydraBase

open StateErrors

/-! ## One key -/

/-- The decimal text of a port has only digits, and perhaps a sign. -/
theorem notMem_port {symbol : Char} (noDigit : symbol.isDigit = false)
    (noSign : symbol ≠ '-') (port : Int) :
    symbol ∉ (toString port).toList := by
  have notMem : ∀ number : Nat, symbol ∉ Nat.toDigits 10 number := by
    intro number member
    have digit := Nat.isDigit_of_mem_toDigits (by decide) (by decide) member
    rw [noDigit] at digit
    cases digit
  rw [Int.toString_eq_repr, Int.repr_eq_if]
  split
  · rw [Nat.toList_repr]
    exact notMem _
  · rw [String.toList_append, Nat.toList_repr, List.mem_append, not_or]
    exact ⟨by simpa using noSign, notMem _⟩

theorem toList_instanceId (task : Task) (port : Int) :
    (instanceId task port).toList =
      task.id.toList ++ '_' :: ("PORT".toList ++ (toString port).toList) := by
  simp [instanceId]

theorem underscore_notMem_suffix (port : Int) :
    '_' ∉ "PORT".toList ++ (toString port).toList := by
  rw [List.mem_append, not_or]
  exact ⟨by decide, notMem_port (by decide) (by decide) port⟩

/-- Whatever the id of a task, it is what is left of its keys. -/
theorem rsplitUnderscore_instanceId (task : Task) (port : Int) :
    rsplitUnderscore (instanceId task port) = task.id := by
  have cut := LastSeparator.dropWhile_reverse_join task.id.toList
    (underscore_notMem_suffix port)
  rw [← toList_instanceId] at cut
  rw [rsplitUnderscore, cut]
  simp

theorem decimal_inj {first second : Nat} (same : first.repr = second.repr) :
    first = second := by
  have digits := congrArg String.toList same
  rw [Nat.toList_repr, Nat.toList_repr] at digits
  have values := congrArg (Nat.ofDigitChars 10 · 0) digits
  simpa using values

theorem decimal_ne_negative (first second : Nat) :
    first.repr ≠ "-" ++ second.repr := by
  intro same
  have sign : '-' ∈ first.repr.toList := by
    rw [same, String.toList_append]
    exact List.mem_append_left _ (by decide)
  rw [Nat.toList_repr] at sign
  exact absurd (Nat.isDigit_of_mem_toDigits (by decide) (by decide) sign)
    (by decide)

theorem port_inj {first second : Int}
    (same : toString first = toString second) : first = second := by
  rw [Int.toString_eq_repr, Int.toString_eq_repr, Int.repr_eq_if,
    Int.repr_eq_if] at same
  split_ifs at same with firstNonneg secondNonneg secondNonneg
  · have values := decimal_inj same
    omega
  · exact (decimal_ne_negative _ _ same).elim
  · exact (decimal_ne_negative _ _ same.symm).elim
  · have values := decimal_inj ((String.append_right_inj "-").mp same)
    omega

theorem instanceId_inj {task task' : Task} {port port' : Int}
    (same : instanceId task port = instanceId task' port') :
    task.id = task'.id ∧ port = port' := by
  have lists := congrArg String.toList same
  rw [toList_instanceId, toList_instanceId] at lists
  obtain ⟨ids, suffixes⟩ := LastSeparator.join_inj
    (underscore_notMem_suffix port) (underscore_notMem_suffix port') lists
  refine ⟨String.toList_inj.mp ids, port_inj (String.toList_inj.mp ?_)⟩
  exact List.append_cancel_left suffixes

/-! ## All keys -/

/-- One port of one task, with the address of its host. -/
structure Instance where
  task : Task
  port : Int
  appIp : String

namespace Instance

/-- The key of `ip_port_map` under which the instance is entered. -/
def key (inst : Instance) : String :=
  instanceId inst.task inst.port

/-- What `ip_port_map` says about the instance. -/
def info (inst : Instance) : Int × String :=
  (inst.port, inst.appIp)

end Instance

/-- The instances of tasks whose hosts were looked up. -/
def instancesOf (looked : List (Task × String)) : List Instance :=
  looked.flatMap fun entry =>
    entry.1.ports.map fun port => ⟨entry.1, port, entry.2⟩

theorem ipPortMapOf_eq_fill (looked : List (Task × String)) :
    ipPortMapOf looked =
      EntryLists.fill Instance.key Instance.info (instancesOf looked) ∅ := by
  rw [ipPortMapOf, EntryLists.fill, instancesOf, List.foldl_flatMap]
  congr 1
  funext ipPortMap entry
  rw [addTask, List.foldl_map]
  rfl

theorem instancesOf_keys_nodup {looked : List (Task × String)}
    (distinctIds : ((looked.map Prod.fst).map Task.id).Nodup)
    (distinctPorts : ∀ task ∈ looked.map Prod.fst, task.ports.Nodup) :
    ((instancesOf looked).map Instance.key).Nodup := by
  induction looked with
  | nil => exact List.nodup_nil
  | cons entry looked ih =>
      rw [List.map_cons, List.map_cons, List.nodup_cons] at distinctIds
      rw [List.map_cons, List.forall_mem_cons] at distinctPorts
      rw [instancesOf, List.flatMap_cons, List.map_append, List.nodup_append]
      refine ⟨?_, ih distinctIds.2 distinctPorts.2, ?_⟩
      · rw [List.map_map]
        refine List.Nodup.map ?_ distinctPorts.1
        intro port port' same
        exact (instanceId_inj same).2
      · intro first firstMem second secondMem same
        obtain ⟨inst, instMem, rfl⟩ := List.mem_map.mp firstMem
        obtain ⟨other, otherMem, rfl⟩ := List.mem_map.mp secondMem
        obtain ⟨port, _, rfl⟩ := List.mem_map.mp instMem
        obtain ⟨later, laterMem, otherIn⟩ := List.mem_flatMap.mp otherMem
        obtain ⟨port', _, rfl⟩ := List.mem_map.mp otherIn
        apply distinctIds.1
        rw [(instanceId_inj same).1]
        exact List.mem_map_of_mem (List.mem_map_of_mem laterMem)

/-! ## The refresh -/

section Refresh

variable {backend : Backend}

theorem refreshReply_complete {name : String} {a1 : App} {history : History}
    (answered : backend history (.getApp name) = .ok (some a1))
    (known : ∀ task ∈ a1.tasks, ∀ history, ∃ ip,
      backend history (.getSlaveIpFromHn task.host) = .ok ip) :
    let reply := refreshReply backend name history
    reply.failure = none ∧ reply.looked.map Prod.fst = a1.tasks ∧
      ∀ entry ∈ reply.looked,
        ⟨.getSlaveIpFromHn entry.1.host, .ok entry.2⟩ ∈ reply.history := by
  have asked := remote_ok answered
  have listed : getAppTasks backend name history =
      .ok a1.tasks (history ++ [⟨.getApp name, .ok (some a1)⟩]) := by
    rw [getAppTasks, bind_of_ok asked]
    rfl
  rw [refreshReply, listed]
  obtain ⟨failure, tasksEq, _, recorded⟩ := @lookUpHosts_complete backend
    a1.tasks (history ++ [⟨.getApp name, .ok (some a1)⟩])
    fun task member _ => known task member _
  exact ⟨failure, tasksEq, recorded⟩

/-- A refresh enters every port of every task once, with the address of the
host of the task, and the id of the task can be read off each key. -/
theorem refreshAppInfo_entersInstances {world : World} {name : String}
    {a1 : App} (registered : name ∈ world.hydra.apps)
    (answered : backend world.history (.getApp name) = .ok (some a1))
    (known : ∀ task ∈ a1.tasks, ∀ history, ∃ ip,
      backend history (.getSlaveIpFromHn task.host) = .ok ip)
    (distinctIds : (a1.tasks.map Task.id).Nodup)
    (distinctPorts : ∀ task ∈ a1.tasks, task.ports.Nodup) :
    ∃ after looked info ids,
      refreshAppInfo backend name world = .ok a1.tasks.length after ∧
      looked.map Prod.fst = a1.tasks ∧
      (∀ entry ∈ looked,
        ⟨.getSlaveIpFromHn entry.1.host, .ok entry.2⟩ ∈ after.history) ∧
      after.hydra.apps.lookup name = some (.refreshed info) ∧
      info.ipPortMap.entries.Perm ((instancesOf looked).map fun inst =>
        ⟨inst.key, inst.info⟩) ∧
      after.hydra.allTaskIds.lookup name = some ids ∧
      ids.Nodup ∧ ids.Perm ((instancesOf looked).map Instance.key) ∧
      ∀ inst ∈ instancesOf looked,
        rsplitUnderscore inst.key = inst.task.id := by
  obtain ⟨failure, tasksEq, recorded⟩ := refreshReply_complete answered known
  have refreshed := refreshAppInfo_eq backend world registered
  generalize refreshReply backend name world.history = reply at *
  have keysNodup : ((instancesOf reply.looked).map Instance.key).Nodup :=
    instancesOf_keys_nodup (by rwa [tasksEq]) (by rwa [tasksEq])
  refine ⟨⟨world.hydra.withReply name reply, reply.history⟩, reply.looked,
    { ipPortMap := ipPortMapOf reply.looked },
    (ipPortMapOf reply.looked).keys, ?_, tasksEq, recorded, ?_, ?_, ?_,
    AList.keys_nodup _, ?_, ?_⟩
  · rw [refreshed, RefreshReply.outcome_ok_iff]
    refine ⟨failure, ?_, rfl⟩
    rw [← tasksEq, List.length_map]
  · simp [withReply, failure, setApp, setTaskIds]
  · rw [ipPortMapOf_eq_fill, EntryLists.fill_empty_entries keysNodup]
    exact List.reverse_perm _
  · simp [withReply, failure, setApp, setTaskIds]
  · rw [ipPortMapOf_eq_fill, EntryLists.keys_fill keysNodup]
    exact List.reverse_perm _
  · intro inst _
    exact rsplitUnderscore_instanceId inst.task inst.port

/-- Two tasks of which one has the separator in its id. -/
def awkwardTasks : List Task :=
  [⟨"a", "slave-0", [1]⟩, ⟨"a_PORT1", "slave-1", [2, 31000]⟩]

def awkwardBackend : Backend := fun history request =>
  match request with
  | .getApp _ => .ok (some ⟨awkwardTasks, 2, []⟩)
  | request => steadyBackend history request

def awkwardWorld : World :=
  ⟨{ testName := "test", myaddr := "http://10.0.0.9:9800",
     apps := (∅ : Dict AppRecord).insert "/zst-sub" (.refreshed {}) }, []⟩

theorem awkwardTasks_entered :
    ∃ after looked info ids,
      refreshAppInfo awkwardBackend "/zst-sub" awkwardWorld = .ok 2 after ∧
      looked.map Prod.fst = awkwardTasks ∧
      (∀ entry ∈ looked,
        ⟨.getSlaveIpFromHn entry.1.host, .ok entry.2⟩ ∈ after.history) ∧
      after.hydra.apps.lookup "/zst-sub" = some (.refreshed info) ∧
      info.ipPortMap.entries.Perm ((instancesOf looked).map fun inst =>
        ⟨inst.key, inst.info⟩) ∧
      after.hydra.allTaskIds.lookup "/zst-sub" = some ids ∧
      ids.Nodup ∧ ids.Perm ((instancesOf looked).map Instance.key) ∧
      ∀ inst ∈ instancesOf looked,
        rsplitUnderscore inst.key = inst.task.id :=
  @refreshAppInfo_entersInstances awkwardBackend awkwardWorld "/zst-sub"
    ⟨awkwardTasks, 2, []⟩ (by decide) rfl
    (fun _ _ _ => ⟨"10.0.0.1", rfl⟩) (by decide) (by decide)

end Refresh

end HydraBase

end MScale
