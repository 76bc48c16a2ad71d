import MScale.HydraRefresh
import MScale.PyNumber
import MScale.References

/-!
# Memory and processor statistics of an application

`get_app_mem_cpu_stats` asks every slave for the statistics of its tasks and
collects those of one application.  All entries of the lists it returns are the
same record, filled anew for every task, so that a caller reads the figures of
the last task everywhere.  This file embeds the function with its references
and determines when what a caller reads is right.
-/

namespace MScale

open StateErrors References

/-- The figures under the key `statistics` of a task that Mesos monitors. -/
@[ext]
structure Statistics where
  timestamp : PyNumber
  memRssBytes : PyNumber
  cpusSystemTimeSecs : PyNumber
  cpusUserTimeSecs : PyNumber
  deriving DecidableEq, Repr

/-- A task in the answer of a slave. -/
structure MonitoredTask where
  source : String
  statistics : Statistics
  deriving DecidableEq, Repr

/-- The record `task_stats`. -/
structure TaskStats where
  timestamp : PyNumber
  memRssBytes : PyNumber
  cpuSystemTimeSecs : PyNumber
  cpuUserTimeSecs : PyNumber
  deriving DecidableEq, Repr

/-- `requests.get`: the status code and the parsed content. -/
abbrev HttpGet := String → Except PyError (Nat × List MonitoredTask)

/-- Programs that hold references to records of statistics. -/
abbrev StatsM := EStateM Stop (Heap TaskStats)

/-- `MesosIF.get_slave_stats`. -/
def MesosIF.getSlaveStats (httpGet : HttpGet) (ip : String) (port : Nat) :
    StatsM (List MonitoredTask) := do
  let addr := "http://" ++ ip ++ ":" ++ toString port
  match httpGet (addr ++ "/monitor/statistics.json") with
  | .ok (statusCode, dt) =>
      assertThat (statusCode = 200)
      pure dt
  | .error error => throw (.raised error)

/-- `text.startswith(front)`. -/
def startsWith (text front : String) : Bool :=
  front.toList.isPrefixOf text.toList

namespace HydraBase

/-- The figures of one task as `get_app_mem_cpu_stats` reports them. -/
def taskStatsOf (appTask : MonitoredTask) : TaskStats where
  timestamp := appTask.statistics.timestamp
  memRssBytes := appTask.statistics.memRssBytes
  cpuSystemTimeSecs := appTask.statistics.cpusSystemTimeSecs
  cpuUserTimeSecs := appTask.statistics.cpusUserTimeSecs

def newTaskStats (record : TaskStats) : StatsM Ref :=
  fun heap => .ok (heap.alloc record).1 (heap.alloc record).2

def setTaskStats (taskStats : Ref) (record : TaskStats) : StatsM Unit :=
  modify (·.write taskStats record)

/-- The loop over the tasks of one slave. -/
def appendTasks (name slaveIp : String) (taskStats : Ref) :
    List MonitoredTask → Dict (List Ref) → StatsM (Dict (List Ref))
  | [], appStatsList => pure appStatsList
  | appTask :: stats, appStatsList =>
      if startsWith appTask.source name then do
        let appStatsList :=
          if slaveIp ∈ appStatsList then appStatsList
          else appStatsList.insert slaveIp []
        setTaskStats taskStats (taskStatsOf appTask)
        let entries ← index appStatsList slaveIp
        appendTasks name slaveIp taskStats stats
          (appStatsList.insert slaveIp (entries ++ [taskStats]))
      else appendTasks name slaveIp taskStats stats appStatsList

/-- The loop over the slaves. -/
def appendSlaves (httpGet : HttpGet) (name : String) (taskStats : Ref) :
    List String → Dict (List Ref) → StatsM (Dict (List Ref))
  | [], appStatsList => pure appStatsList
  | slaveIp :: slaveIpsLst, appStatsList => do
      let stats ← MesosIF.getSlaveStats httpGet slaveIp 5051
      assertThat (stats ≠ [])
      let appStatsList ← appendTasks name slaveIp taskStats stats appStatsList
      appendSlaves httpGet name taskStats slaveIpsLst appStatsList

/-- `get_app_mem_cpu_stats`. -/
def getAppMemCpuStats (httpGet : HttpGet) (appIdList : List String)
    (name : String) (slaveIpsLst : List String) : StatsM (Dict (List Ref)) := do
  let taskStats ← newTaskStats ⟨0, 0, 0, 0⟩
  assertThat (name ∈ appIdList)
  appendSlaves httpGet name taskStats slaveIpsLst ∅

/-! ## What is collected -/

/-- The tasks of the application among those of one slave. -/
def tasksOf (name : String) (stats : List MonitoredTask) : List MonitoredTask :=
  stats.filter fun appTask => startsWith appTask.source name

/-- The tasks of the application on the slaves, in the order of the loops. -/
def tasksOn (name : String) (statsOf : String → List MonitoredTask)
    (slaveIps : List String) : List MonitoredTask :=
  slaveIps.flatMap fun slaveIp => tasksOf name (statsOf slaveIp)

/-- Each slave answers with a list of statistics that is not empty. -/
structure Monitored (httpGet : HttpGet)
    (statsOf : String → List MonitoredTask) (slaveIps : List String) : Prop where
  answered : ∀ slaveIp ∈ slaveIps,
    httpGet ("http://" ++ slaveIp ++ ":" ++ toString 5051 ++
      "/monitor/statistics.json") = .ok (200, statsOf slaveIp)
  filled : ∀ slaveIp ∈ slaveIps, statsOf slaveIp ≠ []

/-- One reference for each task, if there is one. -/
def withTasks (slaveIp : String) (taskStats : Ref) (entries : List Ref)
    (count : Nat) (appStatsList : Dict (List Ref)) : Dict (List Ref) :=
  if count = 0 then appStatsList
  else appStatsList.insert slaveIp (entries ++ List.replicate count taskStats)

/-- The list under a slave is there when an entry is appended to it. -/
theorem lookup_ensured (slaveIp : String) (appStatsList : Dict (List Ref)) :
    (if slaveIp ∈ appStatsList then appStatsList
      else appStatsList.insert slaveIp []).lookup slaveIp =
      some ((appStatsList.lookup slaveIp).getD []) := by
  by_cases present : slaveIp ∈ appStatsList
  · obtain ⟨entries, found⟩ := Option.isSome_iff_exists.mp
      (AList.lookup_isSome.mpr present)
    rw [if_pos present, found, Option.getD_some]
  · rw [if_neg present, AList.lookup_insert,
      AList.lookup_eq_none.mpr present, Option.getD_none]

theorem insert_ensured (slaveIp : String) (entries : List Ref)
    (appStatsList : Dict (List Ref)) :
    (if slaveIp ∈ appStatsList then appStatsList
      else appStatsList.insert slaveIp []).insert slaveIp entries =
      appStatsList.insert slaveIp entries := by
  split
  · rfl
  · exact AList.insert_insert _

theorem withTasks_insert (slaveIp : String) (taskStats : Ref)
    (entries : List Ref) (count : Nat) (appStatsList : Dict (List Ref)) :
    withTasks slaveIp taskStats (entries ++ [taskStats]) count
        (appStatsList.insert slaveIp (entries ++ [taskStats])) =
      withTasks slaveIp taskStats entries (count + 1) appStatsList := by
  rw [withTasks, withTasks, if_neg (Nat.succ_ne_zero count)]
  split
  · next none => rw [none]; rfl
  · rw [AList.insert_insert, List.append_assoc, List.replicate_succ]
    rfl

/-- The loop over the tasks of a slave appends the one reference for each task
of the application, and writes each of them. -/
theorem appendTasks_eq (name slaveIp : String) (taskStats : Ref)
    (stats : List MonitoredTask) (appStatsList : Dict (List Ref))
    (heap : Heap TaskStats) :
    appendTasks name slaveIp taskStats stats appStatsList heap =
      .ok (withTasks slaveIp taskStats
          ((appStatsList.lookup slaveIp).getD []) (tasksOf name stats).length
          appStatsList)
        (heap.writeEach taskStats taskStatsOf (tasksOf name stats)) := by
  induction stats generalizing appStatsList heap with
  | nil => rfl
  | cons appTask stats ih =>
      by_cases isOfApp : startsWith appTask.source name = true
      · have listed : tasksOf name (appTask :: stats) =
            appTask :: tasksOf name stats := by
          simp [tasksOf, isOfApp]
        simp only [appendTasks, isOfApp, if_true, setTaskStats]
        rw [bind_of_ok (modify_ok _ heap), index_bind, lookup_ensured]
        simp only [insert_ensured]
        rw [ih, AList.lookup_insert, Option.getD_some, withTasks_insert, listed]
        rfl
      · have passedBy : tasksOf name (appTask :: stats) = tasksOf name stats := by
          simp [tasksOf, isOfApp]
        rw [passedBy, ← ih, appendTasks, if_neg isOfApp]

/-- The map after the loop over the slaves. -/
def withSlaves (name : String) (taskStats : Ref)
    (statsOf : String → List MonitoredTask) :
    List String → Dict (List Ref) → Dict (List Ref)
  | [], appStatsList => appStatsList
  | slaveIp :: slaveIps, appStatsList =>
      withSlaves name taskStats statsOf slaveIps
        (withTasks slaveIp taskStats ((appStatsList.lookup slaveIp).getD [])
          (tasksOf name (statsOf slaveIp)).length appStatsList)

section Slaves

variable {httpGet : HttpGet} {statsOf : String → List MonitoredTask}
    {name : String}

theorem appendSlaves_eq {slaveIps : List String}
    (monitored : Monitored httpGet statsOf slaveIps) (taskStats : Ref)
    (appStatsList : Dict (List Ref)) (heap : Heap TaskStats) :
    appendSlaves httpGet name taskStats slaveIps appStatsList heap =
      .ok (withSlaves name taskStats statsOf slaveIps appStatsList)
        (heap.writeEach taskStats taskStatsOf
          (tasksOn name statsOf slaveIps)) := by
  induction slaveIps generalizing appStatsList heap with
  | nil => rfl
  | cons slaveIp slaveIps ih =>
      have answered : MesosIF.getSlaveStats httpGet slaveIp 5051 heap =
          .ok (statsOf slaveIp) heap := by
        simp only [MesosIF.getSlaveStats,
          monitored.answered slaveIp List.mem_cons_self]
        rfl
      have later : Monitored httpGet statsOf slaveIps :=
        { answered := fun ip listed =>
            monitored.answered ip (List.mem_cons_of_mem slaveIp listed)
          filled := fun ip listed =>
            monitored.filled ip (List.mem_cons_of_mem slaveIp listed) }
      rw [appendSlaves, bind_of_ok answered, assertThat_bind,
        if_pos (by simp [monitored.filled slaveIp List.mem_cons_self]),
        bind_of_ok (appendTasks_eq name slaveIp taskStats _ appStatsList heap),
        ih later]
      simp only [withSlaves, tasksOn, List.flatMap_cons, Heap.writeEach,
        List.foldl_append]

theorem lookup_withTasks_of_ne {slaveIp other : String} (ne : other ≠ slaveIp)
    (taskStats : Ref) (entries : List Ref) (count : Nat)
    (appStatsList : Dict (List Ref)) :
    (withTasks slaveIp taskStats entries count appStatsList).lookup other =
      appStatsList.lookup other := by
  unfold withTasks
  split
  · rfl
  · exact AList.lookup_insert_ne ne

/-- The other slaves leave the list of a slave as it is. -/
theorem lookup_withSlaves_of_not_mem {slaveIps : List String} {other : String}
    (absent : other ∉ slaveIps) (taskStats : Ref)
    (appStatsList : Dict (List Ref)) :
    (withSlaves name taskStats statsOf slaveIps appStatsList).lookup other =
      appStatsList.lookup other := by
  induction slaveIps generalizing appStatsList with
  | nil => rfl
  | cons slaveIp slaveIps ih =>
      rw [withSlaves, ih (List.not_mem_of_not_mem_cons absent),
        lookup_withTasks_of_ne (List.ne_of_not_mem_cons absent)]

/-- Distinct slaves get one list each, with one reference for each task. -/
theorem lookup_withSlaves {slaveIps : List String} (distinct : slaveIps.Nodup)
    {slaveIp : String} (listed : slaveIp ∈ slaveIps) (taskStats : Ref)
    {appStatsList : Dict (List Ref)} (fresh : slaveIp ∉ appStatsList) :
    (withSlaves name taskStats statsOf slaveIps appStatsList).lookup slaveIp =
      if tasksOf name (statsOf slaveIp) = [] then none
      else some (List.replicate (tasksOf name (statsOf slaveIp)).length
        taskStats) := by
  induction slaveIps generalizing appStatsList with
  | nil => cases listed
  | cons first slaveIps ih =>
      obtain ⟨notLater, laterDistinct⟩ := List.nodup_cons.mp distinct
      have none : appStatsList.lookup slaveIp = none :=
        AList.lookup_eq_none.mpr fresh
      rw [withSlaves]
      by_cases same : slaveIp = first
      · rw [← same] at notLater ⊢
        rw [lookup_withSlaves_of_not_mem notLater, none, withTasks]
        simp only [List.length_eq_zero_iff]
        split
        · exact none
        · rw [AList.lookup_insert, Option.getD_none, List.nil_append]
      · apply ih laterDistinct (List.mem_of_ne_of_mem same listed)
        rw [← AList.lookup_eq_none, lookup_withTasks_of_ne same, none]

end Slaves

/-! ## What a caller reads -/

/-- What `get_app_mem_cpu_stats` is for: a list for each slave with a task of
the application, and in it the figures of each of these tasks. -/
def ReportsEachTask (name : String) (statsOf : String → List MonitoredTask)
    (slaveIps : List String)
    (outcome : EStateM.Result Stop (Heap TaskStats) (Dict (List Ref))) : Prop :=
  ∃ appStatsList heap, outcome = .ok appStatsList heap ∧
    (∀ slaveIp, slaveIp ∈ appStatsList ↔ slaveIp ∈ slaveIps ∧
      ∃ appTask ∈ statsOf slaveIp, startsWith appTask.source name = true) ∧
    ∀ slaveIp refs, appStatsList.lookup slaveIp = some refs →
      heap.readAll refs = some ((tasksOf name (statsOf slaveIp)).map taskStatsOf)

theorem taskStatsOf_inj {first second : MonitoredTask} :
    taskStatsOf first = taskStatsOf second ↔
      first.statistics = second.statistics := by
  constructor
  · intro same
    obtain ⟨timestamp, memRss, systemTime, userTime⟩ := TaskStats.mk.inj same
    exact Statistics.ext timestamp memRss systemTime userTime
  · intro same
    simp only [taskStatsOf, same]

/-- The outcome for a registered application: each list holds copies of one
reference, and the record behind it holds the figures of the last task. -/
theorem getAppMemCpuStats_eq {httpGet : HttpGet}
    {statsOf : String → List MonitoredTask} {slaveIps : List String}
    {appIdList : List String} {name : String} (registered : name ∈ appIdList)
    (monitored : Monitored httpGet statsOf slaveIps) (heap : Heap TaskStats) :
    ∃ taskStats heap',
      getAppMemCpuStats httpGet appIdList name slaveIps heap =
        .ok (withSlaves name taskStats statsOf slaveIps ∅) heap' ∧
      heap'.read taskStats =
        some (((tasksOn name statsOf slaveIps).map taskStatsOf).getLastD
          ⟨0, 0, 0, 0⟩) := by
  have allocated : newTaskStats ⟨0, 0, 0, 0⟩ heap =
      .ok (heap.alloc ⟨0, 0, 0, 0⟩).1 (heap.alloc ⟨0, 0, 0, 0⟩).2 := rfl
  refine ⟨_, _, ?_, Heap.read_writeEach (Heap.read_alloc heap ⟨0, 0, 0, 0⟩)
    taskStatsOf (tasksOn name statsOf slaveIps)⟩
  rw [getAppMemCpuStats, bind_of_ok allocated, assertThat_bind,
    if_pos (by simp [registered]), appendSlaves_eq monitored]

theorem mem_withSlaves_iff {name slaveIp : String}
    {statsOf : String → List MonitoredTask} {slaveIps : List String}
    (distinct : slaveIps.Nodup) (taskStats : Ref) :
    slaveIp ∈ withSlaves name taskStats statsOf slaveIps ∅ ↔
      slaveIp ∈ slaveIps ∧
        ∃ appTask ∈ statsOf slaveIp, startsWith appTask.source name = true := by
  rw [← AList.lookup_isSome]
  by_cases listed : slaveIp ∈ slaveIps
  · rw [lookup_withSlaves distinct listed taskStats (AList.notMem_empty slaveIp)]
    simp [listed, tasksOf, apply_ite Option.isSome]
  · rw [lookup_withSlaves_of_not_mem listed]
    simp [listed]

/-- The lists read as they should exactly if the record behind the reference
has the figures of every task. -/
theorem readAll_withSlaves_iff {name : String}
    {statsOf : String → List MonitoredTask} {slaveIps : List String}
    (distinct : slaveIps.Nodup) {taskStats : Ref} {heap : Heap TaskStats}
    {record : TaskStats} (present : heap.read taskStats = some record) :
    (∀ slaveIp refs,
      (withSlaves name taskStats statsOf slaveIps ∅).lookup slaveIp = some refs →
        heap.readAll refs =
          some ((tasksOf name (statsOf slaveIp)).map taskStatsOf)) ↔
      ∀ appTask ∈ tasksOn name statsOf slaveIps,
        taskStatsOf appTask = record := by
  constructor
  · intro reads appTask member
    obtain ⟨slaveIp, listed, ofSlave⟩ := List.mem_flatMap.mp member
    have found := @lookup_withSlaves statsOf name slaveIps distinct slaveIp
      listed taskStats ∅ (AList.notMem_empty slaveIp)
    rw [if_neg (List.ne_nil_of_mem ofSlave)] at found
    have copies := reads slaveIp _ found
    rw [Heap.readAll_replicate present, Option.some.injEq] at copies
    have ofCopies : taskStatsOf appTask ∈
        List.replicate (tasksOf name (statsOf slaveIp)).length record := by
      rw [copies]
      exact List.mem_map_of_mem ofSlave
    exact List.eq_of_mem_replicate ofCopies
  · intro same slaveIp refs found
    by_cases listed : slaveIp ∈ slaveIps
    · rw [lookup_withSlaves distinct listed taskStats
        (AList.notMem_empty slaveIp)] at found
      split at found
      · cases found
      · cases found
        rw [Heap.readAll_replicate present]
        congr 1
        symm
        rw [List.eq_replicate_iff]
        refine ⟨List.length_map _, ?_⟩
        intro stats ofSlave
        obtain ⟨appTask, member, rfl⟩ := List.mem_map.mp ofSlave
        exact same appTask (List.mem_flatMap.mpr ⟨slaveIp, listed, member⟩)
    · rw [lookup_withSlaves_of_not_mem listed] at found
      cases found

/-- A caller reads the figures of each task exactly if the tasks of the
application all have the same figures. -/
theorem getAppMemCpuStats_reports_iff {httpGet : HttpGet}
    {statsOf : String → List MonitoredTask} {slaveIps : List String}
    {appIdList : List String} {name : String} (registered : name ∈ appIdList)
    (distinct : slaveIps.Nodup) (monitored : Monitored httpGet statsOf slaveIps)
    (heap : Heap TaskStats) :
    ReportsEachTask name statsOf slaveIps
        (getAppMemCpuStats httpGet appIdList name slaveIps heap) ↔
      ∀ first ∈ tasksOn name statsOf slaveIps,
        ∀ second ∈ tasksOn name statsOf slaveIps,
          first.statistics = second.statistics := by
  obtain ⟨taskStats, heap', returned, present⟩ :=
    getAppMemCpuStats_eq registered monitored heap
  have last := @forall_eq_getLastD_iff _
    ((tasksOn name statsOf slaveIps).map taskStatsOf) ⟨0, 0, 0, 0⟩
  simp only [List.forall_mem_map, taskStatsOf_inj] at last
  rw [← last, ← readAll_withSlaves_iff distinct present, ReportsEachTask,
    returned]
  constructor
  · rintro ⟨_, _, same, _, reads⟩
    cases same
    exact reads
  · intro reads
    exact ⟨_, heap', rfl, fun _ => mem_withSlaves_iff distinct taskStats, reads⟩

/-- Two tasks of `/stress` on one slave, with figures of their own. -/
def stressTasks : String → List MonitoredTask :=
  fun _ => [⟨"/stress.1", ⟨10, 4096, 3, 5⟩⟩, ⟨"/stress.2", ⟨11, 8192, 4, 9⟩⟩]

/-- A slave that answers with the two tasks. -/
def stressSlave : HttpGet := fun address => .ok (200, stressTasks address)

theorem stressSlave_monitored :
    Monitored stressSlave stressTasks ["10.10.0.1"] where
  answered _ _ := rfl
  filled _ _ := List.cons_ne_nil _ _

theorem stress_reports_iff :
    "/stress" ∈ ["/stress"] ∧ ["10.10.0.1"].Nodup ∧
      (ReportsEachTask "/stress" stressTasks ["10.10.0.1"]
          (getAppMemCpuStats stressSlave ["/stress"] "/stress" ["10.10.0.1"]
            ⟨[]⟩) ↔
        ∀ first ∈ tasksOn "/stress" stressTasks ["10.10.0.1"],
          ∀ second ∈ tasksOn "/stress" stressTasks ["10.10.0.1"],
            first.statistics = second.statistics) :=
  ⟨by decide, by decide, getAppMemCpuStats_reports_iff (by decide) (by decide)
    stressSlave_monitored ⟨[]⟩⟩

/-- Both entries say what the second task uses. -/
theorem stress_reported_wrong :
    "/stress" ∈ ["/stress"] ∧ ["10.10.0.1"].Nodup ∧
      Monitored stressSlave stressTasks ["10.10.0.1"] ∧
      ¬ ReportsEachTask "/stress" stressTasks ["10.10.0.1"]
        (getAppMemCpuStats stressSlave ["/stress"] "/stress" ["10.10.0.1"]
          ⟨[]⟩) := by
  refine ⟨by decide, by decide, stressSlave_monitored, ?_⟩
  rintro ⟨appStatsList, heap, returned, _, reads⟩
  cases returned
  have both := reads "10.10.0.1" [0, 0] (by decide)
  exact absurd both (by decide)

end HydraBase

end MScale
