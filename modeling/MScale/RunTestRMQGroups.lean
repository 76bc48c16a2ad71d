import MScale.BoundaryMemory
import MScale.HydraGroupShares
import MScale.RunTestRMQ

/-!
# The groups of the RabbitMQ test over a history of runs

Every `rerun_test` forms its three groups under the same names, and nothing
deletes a group.  This file determines the histories of `boundary_run` calls in
which every rerun obtains its groups.
-/

namespace MScale

namespace HydraBase

open StateErrors

/-- `random.choice` returns an element of a list that is not empty. -/
def DrawsAnswered (backend : Backend) : Prop :=
  ∀ (history : History) (n : Nat),
    ∃ drawn, backend history (.randomChoice (n + 1)) = .ok drawn

/-- Groups keep their names. -/
def NamesKept (before after : World) : Prop :=
  ∀ groupName ∈ before.hydra.appGroup, groupName ∈ after.hydra.appGroup

theorem NamesKept.refl (world : World) : NamesKept world world :=
  fun _ member => member

theorem NamesKept.trans (first second third : World)
    (kept : NamesKept first second) (keptToo : NamesKept second third) :
    NamesKept first third :=
  fun groupName member => keptToo groupName (kept groupName member)

theorem GroupsTrimmed.namesKept {before after : World}
    (trimmed : GroupsTrimmed before after) : NamesKept before after :=
  fun groupName => (trimmed.names groupName).mpr

section Creation

variable {backend : Backend} {fuel : Nat} {appName groupName : String}
  {numAppInstances : Int} {analyser : Option String} {world after : World}

theorem namesKept_setGroup (world : World) (group : AppGroup)
    (history : History) :
    NamesKept world ⟨world.hydra.setGroup groupName group, history⟩ := by
  intro other member
  rw [setGroup, AList.mem_insert]
  exact Or.inr member

theorem createAppInstancesGroup_namesKept :
    LeadsAlong NamesKept (createAppInstancesGroup backend fuel appName groupName
      numAppInstances analyser) := by
  intro world
  cases ended : createAppInstancesGroup backend fuel appName groupName
      numAppInstances analyser world with
  | ok result after =>
      rcases createAppInstancesGroup_returned ended with
        ⟨_, _, rfl⟩ | ⟨group, _, _, _, _, _, _, _, _, afterEq⟩
      · exact NamesKept.refl _
      · intro other member
        rw [stateAfter, afterEq]
        exact namesKept_setGroup world group [] other member
  | error stop after =>
      rcases createAppInstancesGroup_raised ended with
        ⟨_, same⟩ | ⟨group, _, afterEq⟩
      · intro other member
        rw [stateAfter, same]
        exact member
      · intro other member
        rw [stateAfter, afterEq]
        exact namesKept_setGroup world group [] other member

theorem remote_randomChoice (draws : DrawsAnswered backend) {length : Nat}
    (positive : length ≠ 0) (history : History) :
    ∃ drawn later,
      remote backend (.randomChoice length) history = .ok drawn later := by
  obtain ⟨n, rfl⟩ := Nat.exists_eq_succ_of_ne_zero positive
  obtain ⟨drawn, answered⟩ := draws history n
  refine ⟨drawn, history ++ [⟨.randomChoice (n + 1), .ok drawn⟩], ?_⟩
  simp [remote, answered]

theorem pickTask_error (draws : DrawsAnswered backend) {ids : List String}
    (nonempty : ids ≠ []) {groups : Dict AppGroup} {tasksList : List String}
    {history later : History} {stop : Stop}
    (failed : pickTask backend fuel ids groups tasksList history =
      .error stop later) : stop = .unfinished := by
  apply repeatUntil_error _ failed
  intro _ state error after raised
  obtain ⟨drawn, drawnState, answered⟩ := remote_randomChoice draws
    (List.length_pos_iff.mpr nonempty).ne' state
  rw [bind_of_ok answered] at raised
  split at raised <;> cases raised

theorem pickTasks_error (draws : DrawsAnswered backend) {ids : List String}
    (nonempty : ids ≠ []) {groups : Dict AppGroup} {rounds : Nat}
    {tasksList : List String} {history later : History} {stop : Stop}
    (failed : pickTasks backend fuel ids groups rounds tasksList history =
      .error stop later) : stop = .unfinished := by
  induction rounds generalizing tasksList history with
  | zero => cases failed
  | succ rounds ih =>
      rcases bind_error_iff.mp failed with here | ⟨task, middle, _, later⟩
      · exact pickTask_error draws nonempty here
      · exact ih later

/-- With instances to draw from, a creation that ends returns. -/
theorem createAppInstancesGroup_error (draws : DrawsAnswered backend)
    (registered : appName ∈ world.hydra.apps) {ids : List String}
    (listed : world.hydra.allTaskIds.lookup appName = some ids)
    (nonempty : ids ≠ []) {name : String} {stop : Stop}
    (failed : createAppInstancesGroup backend fuel appName groupName
      numAppInstances (some name) world = .error stop after) :
    stop = .unfinished := by
  simp only [createAppInstancesGroup, getHydra_bind, assertThat_bind,
    registered, decide_true, if_true] at failed
  split at failed
  · cases failed
  · rcases bind_error_iff.mp failed with
      refused | ⟨fresh, middle, created, rest⟩
    · cases refused
    · cases created
      simp only [updateHydra_bind, index_bind, listed, getHydra_bind,
        onBackend_bind] at rest
      split at rest
      · cases rest
      · next picked =>
          cases rest
          exact pickTasks_error draws nonempty picked

theorem createAppInstancesGroup_groupName {group : AppGroup}
    (returned : createAppInstancesGroup backend fuel appName groupName
      numAppInstances analyser world = .ok (some group) after) :
    group.groupName = groupName := by
  simp only [createAppInstancesGroup, getHydra_bind, assertThat_bind]
    at returned
  by_cases registered : appName ∈ world.hydra.apps
  · simp only [registered, decide_true, if_true] at returned
    by_cases used : groupName ∈ world.hydra.appGroup
    · simp only [used, if_true] at returned
      cases returned
    · simp only [used, if_false] at returned
      obtain ⟨fresh, middle, created, rest⟩ := bind_ok_iff.mp returned
      cases analyser with
      | none => cases created
      | some analyser =>
          cases created
          simp only [updateHydra_bind, index_bind] at rest
          split at rest
          · simp only [getHydra_bind, onBackend_bind] at rest
            split at rest
            · cases rest
              rfl
            · cases rest
          · cases rest
  · simp only [registered, decide_false] at returned
    cases returned

/-- The name is registered once its group was created or found. -/
theorem createAppInstancesGroup_registers
    (registered : appName ∈ world.hydra.apps) (name : String) :
    groupName ∈ (stateAfter (createAppInstancesGroup backend fuel appName
      groupName numAppInstances (some name) world)).hydra.appGroup := by
  have inserted : ∀ group : AppGroup,
      groupName ∈ (world.hydra.setGroup groupName group).appGroup := by
    intro group
    rw [setGroup, AList.mem_insert]
    exact Or.inl rfl
  cases ended : createAppInstancesGroup backend fuel appName groupName
      numAppInstances (some name) world with
  | ok result after =>
      rw [stateAfter]
      rcases createAppInstancesGroup_returned ended with
        ⟨_, used, rfl⟩ | ⟨group, _, _, _, _, _, _, _, _, afterEq⟩
      · exact used
      · rw [afterEq]
        exact inserted group
  | error stop after =>
      rw [stateAfter]
      rcases createAppInstancesGroup_raised ended with
        ⟨absent | impossible, _⟩ | ⟨group, _, afterEq⟩
      · exact (absent registered).elim
      · cases impossible
      · rw [afterEq]
        exact inserted group

end Creation

end HydraBase

namespace RunTestRMQ

open StateErrors LabelledRuns HydraBase BoundaryRunnerBase

variable {Res : Type} {setting : Setting Res}

/-- At least 20 subscriber instances are launched. -/
structure EnoughInstances (world : World) (ids : List String) : Prop where
  registered : rmqsub ∈ world.hydra.apps
  listed : world.hydra.allTaskIds.lookup rmqsub = some ids
  nodup : ids.Nodup
  enough : 20 ≤ ids.length

/-- `rerun_test` obtains three groups of launched instances, and still acts on
launched instances when the unresponsive ones are removed. -/
structure Obtained (setting : Setting Res) (world : World) (ids : List String)
    (groups : AppGroup × AppGroup × AppGroup) (after : World) : Prop where
  created : createTestGroups setting world =
    .ok (some groups.1, some groups.2.1, some groups.2.2) after
  lengths : groups.1.tasksList.length = 10 ∧
    groups.2.1.tasksList.length = 5 ∧ groups.2.2.tasksList.length = 5
  launched : ∀ group ∈ [groups.1, groups.2.1, groups.2.2],
    after.hydra.appGroup.lookup group.groupName = some group ∧
      ∀ task ∈ group.tasksList, task ∈ ids
  used : ∀ cleaned,
    removeUnresponsiveTasks setting.backend rmqsub "" after = .ok () cleaned →
      ∀ group ∈ [groups.1, groups.2.1, groups.2.2], ∀ left,
        cleaned.hydra.appGroup.lookup group.groupName = some left →
          ∀ task ∈ left.tasksList, task ∈ ids

def ObtainsGroups (setting : Setting Res) (world : World) (ids : List String) :
    Prop :=
  ∃ groups after, Obtained setting world ids groups after

section Obtain

variable {world : World} {ids : List String}

/-- The group `create_app_group` returns when its name is not in use. -/
theorem createAppGroup_obtained (draws : DrawsAnswered setting.backend)
    (enough : EnoughInstances world ids) {groupName : String}
    {numAppInstances : Int} (unused : groupName ∉ world.hydra.appGroup)
    (settled : Settled .unfinished
      (createAppGroup setting groupName numAppInstances world)) :
    ∃ group after,
      createAppGroup setting groupName numAppInstances world =
        .ok (some group) after ∧
      group.groupName = groupName ∧
      (group.tasksList.length : Int) =
        max 0 (min numAppInstances ids.length) ∧
      (∀ task ∈ group.tasksList, task ∈ ids) ∧
      after.hydra = world.hydra.setGroup groupName group := by
  have nonempty : ids ≠ [] := by
    intro empty
    have least := enough.enough
    rw [empty] at least
    simp at least
  cases ended : createAppGroup setting groupName numAppInstances world with
  | ok result after =>
      rcases createAppInstancesGroup_returned ended with
        ⟨_, used, _⟩ |
        ⟨group, ids', rfl, _, _, _, listed, picked, lengthEq, afterEq⟩
      · exact (unused used).elim
      · rw [enough.listed] at listed
        cases listed
        exact ⟨group, after, rfl, createAppInstancesGroup_groupName ended,
          lengthEq, picked.listed, afterEq⟩
  | error stop after =>
      have unfinished := createAppInstancesGroup_error draws enough.registered
        enough.listed nonempty ended
      rw [ended, unfinished] at settled
      exact (settled after rfl).elim

theorem EnoughInstances.setGroup {after : World}
    (enough : EnoughInstances world ids) {groupName : String} {group : AppGroup}
    (afterEq : after.hydra = world.hydra.setGroup groupName group) :
    EnoughInstances after ids := by
  refine ⟨?_, ?_, enough.nodup, enough.enough⟩
  · rw [afterEq]
    exact enough.registered
  · rw [afterEq]
    exact enough.listed

theorem lookup_setGroup (hydra : HydraBase) (groupName : String)
    (group : AppGroup) :
    (hydra.setGroup groupName group).appGroup.lookup groupName = some group :=
  AList.lookup_insert hydra.appGroup

theorem lookup_setGroup_ne (hydra : HydraBase) {groupName other : String}
    (different : other ≠ groupName) (group : AppGroup) :
    (hydra.setGroup groupName group).appGroup.lookup other =
      hydra.appGroup.lookup other :=
  AList.lookup_insert_ne different

theorem not_mem_setGroup {hydra : HydraBase} {groupName other : String}
    {group : AppGroup} (unused : other ∉ hydra.appGroup)
    (different : other ≠ groupName) :
    other ∉ (hydra.setGroup groupName group).appGroup := by
  rw [setGroup, AList.mem_insert]
  exact fun used => used.elim different unused

/-- What is left of groups of launched instances when the unresponsive ones are
removed. -/
theorem launched_of_removed {after cleaned : World} {group left : AppGroup}
    (registered : after.hydra.appGroup.lookup group.groupName = some group)
    (launched : ∀ task ∈ group.tasksList, task ∈ ids)
    (removed : removeUnresponsiveTasks setting.backend rmqsub "" after =
      .ok () cleaned)
    (found : cleaned.hydra.appGroup.lookup group.groupName = some left) :
    ∀ task ∈ left.tasksList, task ∈ ids := by
  have trimmed := removeUnresponsiveTasks_trims setting.backend rmqsub "" after
  rw [removed] at trimmed
  obtain ⟨earlier, foundEarlier, sublist⟩ :=
    trimmed.shrink group.groupName left.tasksList (by
      rw [stateAfter, taskLists, found]
      rfl)
  rw [taskLists, registered] at foundEarlier
  cases foundEarlier
  exact fun task member => launched task (sublist.subset member)

/-- None of the names of the three groups is in use. -/
structure NamesFree (hydra : HydraBase) : Prop where
  first : "test-group" ∉ hydra.appGroup
  second : "test-group2" ∉ hydra.appGroup
  third : "test-group3" ∉ hydra.appGroup

theorem createTestGroups_obtains (draws : DrawsAnswered setting.backend)
    (enough : EnoughInstances world ids) (free : NamesFree world.hydra)
    (settled : Settled .unfinished (createTestGroups setting world)) :
    ObtainsGroups setting world ids := by
  have many := enough.enough
  obtain ⟨g1, after1, created1, name1, length1, listed1, hydra1⟩ :=
    createAppGroup_obtained draws enough free.first settled.of_bind
  rw [createTestGroups, bind_of_ok created1] at settled
  have enough1 := enough.setGroup hydra1
  have second : "test-group2" ∉ after1.hydra.appGroup := by
    rw [hydra1]
    exact not_mem_setGroup free.second (by decide)
  obtain ⟨g2, after2, created2, name2, length2, listed2, hydra2⟩ :=
    createAppGroup_obtained draws enough1 second settled.of_bind
  rw [bind_of_ok created2] at settled
  have enough2 := enough1.setGroup hydra2
  have third : "test-group3" ∉ after2.hydra.appGroup := by
    rw [hydra2, hydra1]
    exact not_mem_setGroup (not_mem_setGroup free.third (by decide))
      (by decide)
  obtain ⟨g3, after3, created3, name3, length3, listed3, hydra3⟩ :=
    createAppGroup_obtained draws enough2 third settled.of_bind
  have launched : ∀ group ∈ [g1, g2, g3],
      after3.hydra.appGroup.lookup group.groupName = some group ∧
        ∀ task ∈ group.tasksList, task ∈ ids := by
    simp only [List.forall_mem_cons, List.not_mem_nil, IsEmpty.forall_iff,
      forall_true_iff, and_true]
    rw [hydra3, hydra2, hydra1, name1, name2, name3]
    refine ⟨⟨?_, listed1⟩, ⟨?_, listed2⟩, ⟨lookup_setGroup _ _ _, listed3⟩⟩
    · rw [lookup_setGroup_ne _ (by decide), lookup_setGroup_ne _ (by decide),
        lookup_setGroup]
    · rw [lookup_setGroup_ne _ (by decide), lookup_setGroup]
  have lengths : g1.tasksList.length = 10 ∧ g2.tasksList.length = 5 ∧
      g3.tasksList.length = 5 := by
    omega
  refine ⟨(g1, g2, g3), after3, ⟨?_, lengths, launched, ?_⟩⟩
  · rw [createTestGroups, bind_of_ok created1, bind_of_ok created2,
      bind_of_ok created3]
    rfl
  · intro cleaned removed group member left found
    exact launched_of_removed (launched group member).1
      (launched group member).2 removed found

/-- While the first name is in use, `create_app_group` returns the error
code. -/
theorem not_obtainsGroups_of_used
    (used : "test-group" ∈ world.hydra.appGroup) :
    ¬ ObtainsGroups setting world ids := by
  rintro ⟨groups, after, obtained⟩
  obtain ⟨g1, after1, created1, rest⟩ := bind_ok_iff.mp obtained.created
  rcases createAppInstancesGroup_returned created1 with
    ⟨rfl, _, _⟩ | ⟨_, _, _, _, unused, _⟩
  · obtain ⟨g2, after2, _, rest⟩ := bind_ok_iff.mp rest
    obtain ⟨g3, after3, _, rest⟩ := bind_ok_iff.mp rest
    cases rest
  · exact unused used

end Obtain

/-! ## What the calls do to the groups -/

section Calls

/-- The groups before and after are related. -/
abbrev OnGroups (relation : World → World → Prop) (before after : Master) :
    Prop :=
  relation before.world after.world

theorem onHydra_leads {relation : World → World → Prop} {Value : Type}
    {program : HydraM Value} (leads : LeadsAlong relation program) :
    LeadsAlong (OnGroups relation) (onHydra program) := by
  intro master
  rw [OnGroups, onHydra, stateAfter_onPart]
  exact leads master.world

theorem OnGroups.refl (master : Master) :
    OnGroups GroupsTrimmed master master :=
  GroupsTrimmed.refl master.world

theorem OnGroups.trans (first second third : Master)
    (trimmed : OnGroups GroupsTrimmed first second)
    (trimmedToo : OnGroups GroupsTrimmed second third) :
    OnGroups GroupsTrimmed first third :=
  GroupsTrimmed.trans _ _ _ trimmed trimmedToo

theorem deleteApp_trims (backend : Backend) (fuel : Nat) (app : String)
    (timeout : Int) (wait : Bool) (threshold instanceBatch : Int) :
    LeadsAlong GroupsTrimmed
      (deleteApp backend fuel app timeout wait threshold instanceBatch) := by
  intro world
  apply groupsTrimmed_of_appGroup
  rw [deleteApp_after]

theorem deleteAllLaunchedApps_trims :
    LeadsAlong GroupsTrimmed (deleteAllLaunchedApps setting) :=
  (deleteApp_trims _ _ _ _ _ _ _).bind GroupsTrimmed.trans
    fun _ => deleteApp_trims _ _ _ _ _ _ _

theorem createHydraApp_trims (backend : Backend)
    (name appPath appArgs : String) (cpus mem : ℚ) (ports : Option (List Int))
    (constraints : Option (List MarathonConstraint)) :
    LeadsAlong GroupsTrimmed
      (createHydraApp backend name appPath appArgs cpus mem ports
        constraints) :=
  fun world => groupsTrimmed_of_appGroup
    (launchApp_appGroup name "script" _ world)

theorem scaleApp_trims (backend : Backend) (fuel : Nat) (name : String)
    (scaleCnt sleepBeforeNextTry instanceBatch instanceThreshold : Int) :
    LeadsAlong GroupsTrimmed
      (scaleApp backend fuel name scaleCnt sleepBeforeNextTry instanceBatch
        instanceThreshold) :=
  fun world => groupsTrimmed_of_appGroup
    (scaleApp_appGroup fuel name scaleCnt sleepBeforeNextTry instanceBatch
      instanceThreshold world)

theorem launchRmqPub_trims (options : Options ℚ) :
    LeadsAlong (OnGroups GroupsTrimmed) (launchRmqPub setting options) := by
  apply (onHydra_leads (createHydraApp_trims _ _ _ _ _ _ _ _)).bind
    OnGroups.trans
  intro _
  apply (onHydra_leads (getAppIpportMap_trims rmqpub)).bind OnGroups.trans
  intro ipm
  split
  · exact fun master => OnGroups.refl master
  · exact leadsAlong_throw OnGroups.refl _

theorem get_trims :
    LeadsAlong (OnGroups GroupsTrimmed) (get : MasterM Master) :=
  OnGroups.refl

theorem floorDiv_trims (dividend divisor : Int) :
    LeadsAlong (OnGroups GroupsTrimmed) (floorDiv dividend divisor) := by
  unfold floorDiv
  split
  · exact leadsAlong_throw OnGroups.refl _
  · exact leadsAlong_pure OnGroups.refl _

theorem launchRmqSub_trims :
    LeadsAlong (OnGroups GroupsTrimmed) (launchRmqSub setting) := by
  apply get_trims.bind OnGroups.trans
  intro master
  apply (floorDiv_trims master.totalSubApps _).bind OnGroups.trans
  intro totalSubApps
  apply LeadsAlong.bind OnGroups.trans
  · exact fun master => OnGroups.refl master
  · intro _
    split
    · apply (onHydra_leads (createHydraApp_trims _ _ _ _ _ _ _ _)).bind
        OnGroups.trans
      exact fun _ => onHydra_leads (scaleApp_trims _ _ _ _ _ _ _)
    · exact leadsAlong_throw OnGroups.refl _

theorem launch_trims (options : Options ℚ) :
    LeadsAlong (OnGroups GroupsTrimmed) (launch setting options) := by
  apply (onHydra_leads deleteAllLaunchedApps_trims).bind OnGroups.trans
  intro _
  apply (launchRmqPub_trims options).bind OnGroups.trans
  exact fun _ => launchRmqSub_trims

theorem updatePub_trims (options : Options ℚ) :
    LeadsAlong (OnGroups GroupsTrimmed) (updatePub setting options) := by
  apply get_trims.bind OnGroups.trans
  intro master
  split
  · exact onHydra_leads (onBackend_trims _)
  · exact leadsAlong_throw OnGroups.refl _

theorem executeEach_trims (backend : Backend) (appName : String)
    (method : String → Int → String → Request) (tasksList : List String) :
    LeadsAlong GroupsTrimmed
      (AppGroup.executeEach backend appName method tasksList) := by
  induction tasksList with
  | nil => exact leadsAlong_pure GroupsTrimmed.refl ()
  | cons taskId tasksList ih =>
      apply (getAppIpportMap_trims appName).bind GroupsTrimmed.trans
      intro ipPortMap
      apply (index_trims ipPortMap taskId).bind GroupsTrimmed.trans
      intro info
      apply (onBackend_trims _).bind GroupsTrimmed.trans
      exact fun _ => ih

theorem executeOn_trims (g : Option AppGroup)
    (method : String → Int → String → Request) :
    LeadsAlong GroupsTrimmed (executeOn setting g method) := by
  cases g with
  | none => exact leadsAlong_throw GroupsTrimmed.refl _
  | some group =>
      apply getHydra_trims.bind GroupsTrimmed.trans
      intro hydra
      apply (assertThat_trims _).bind GroupsTrimmed.trans
      intro _
      apply (index_trims hydra.appGroup group.groupName).bind
        GroupsTrimmed.trans
      exact fun registered => executeEach_trims _ _ _ _

theorem useTestGroups_trims
    (groups : Option AppGroup × Option AppGroup × Option AppGroup) :
    LeadsAlong GroupsTrimmed (useTestGroups setting groups) := by
  apply (removeUnresponsiveTasks_trims _ rmqsub "").bind GroupsTrimmed.trans
  intro _
  apply (executeOn_trims groups.1 _).bind GroupsTrimmed.trans
  intro _
  apply (executeOn_trims groups.2.1 _).bind GroupsTrimmed.trans
  intro _
  apply (executeOn_trims groups.2.2 _).bind GroupsTrimmed.trans
  intro _
  apply (executeOn_trims groups.1 _).bind GroupsTrimmed.trans
  intro _
  apply (executeOn_trims groups.2.1 _).bind GroupsTrimmed.trans
  intro _
  apply (executeOn_trims groups.2.2 _).bind GroupsTrimmed.trans
  intro _
  apply getHydra_trims.bind GroupsTrimmed.trans
  exact fun hydra => onBackend_trims _

theorem createAppGroup_namesKept (groupName : String) (numAppInstances : Int) :
    LeadsAlong NamesKept (createAppGroup setting groupName numAppInstances) :=
  createAppInstancesGroup_namesKept

/-- The last two creations. -/
theorem moreTestGroups_namesKept (g1 : Option AppGroup) :
    LeadsAlong NamesKept (do
      let g2 ← createAppGroup setting "test-group2" 5
      let g3 ← createAppGroup setting "test-group3" 5
      pure (g1, g2, g3)) := by
  apply (createAppGroup_namesKept _ _).bind NamesKept.trans
  intro g2
  apply (createAppGroup_namesKept _ _).bind NamesKept.trans
  exact fun g3 => leadsAlong_pure NamesKept.refl _

theorem useTestGroups_namesKept
    (groups : Option AppGroup × Option AppGroup × Option AppGroup) :
    LeadsAlong (OnGroups NamesKept)
      (onHydra (useTestGroups setting groups)) :=
  onHydra_leads fun world => (useTestGroups_trims groups world).namesKept

/-- `rerun_test` once the publisher is updated. -/
def groupPhases (setting : Setting Res) : MasterM Res := do
  let groups ← createTestGroups setting
  useTestGroups setting groups

theorem OnGroups.namesKept_trans (first second third : Master)
    (kept : OnGroups NamesKept first second)
    (keptToo : OnGroups NamesKept second third) :
    OnGroups NamesKept first third :=
  NamesKept.trans _ _ _ kept keptToo

theorem groupPhases_namesKept :
    LeadsAlong (OnGroups NamesKept) (groupPhases setting) :=
  (onHydra_leads ((createAppGroup_namesKept _ _).bind NamesKept.trans
    moreTestGroups_namesKept)).bind OnGroups.namesKept_trans
      useTestGroups_namesKept

/-- The first name is in use afterwards. -/
theorem groupPhases_registers {master : Master}
    (registered : rmqsub ∈ master.world.hydra.apps) :
    "test-group" ∈
      (stateAfter (groupPhases setting master)).world.hydra.appGroup := by
  have first : "test-group" ∈ (stateAfter (createAppGroup setting "test-group"
      10 master.world)).hydra.appGroup :=
    createAppInstancesGroup_registers registered "HAnalyser"
  have created : NamesKept _ (stateAfter (createTestGroups setting
      master.world)) :=
    leads_bind NamesKept.refl (createAppGroup setting "test-group" 10)
      moreTestGroups_namesKept master.world
  have used : OnGroups NamesKept _ (stateAfter (groupPhases setting master)) :=
    leads_bind (fun master => NamesKept.refl master.world)
      (onHydra (createTestGroups setting)) useTestGroups_namesKept master
  apply used
  rw [onHydra, stateAfter_onPart]
  exact created _ first

/-- The calls up to the creation of the groups. -/
def untilGroups (setting : Setting Res) : TestCall ℚ → MasterM Unit
  | .runTest options => do
      launch setting options
      updatePub setting options
  | .rerunTest options => updatePub setting options
  | .deleteAllLaunchedApps => deleteAllLaunchedApps setting

/-- The test creates its groups in the given state. -/
def CreatesGroups (setting : Setting Res) (master : Master)
    (call : TestCall ℚ) (world : World) : Prop :=
  call.isTest = true ∧
    ∃ after, untilGroups setting call master = .ok () after ∧
      after.world = world

theorem untilGroups_trims (setting : Setting Res) (call : TestCall ℚ) :
    LeadsAlong (OnGroups GroupsTrimmed) (untilGroups setting call) := by
  cases call with
  | runTest options =>
      exact (launch_trims options).bind OnGroups.trans
        fun _ => updatePub_trims options
  | rerunTest options => exact updatePub_trims options
  | deleteAllLaunchedApps => exact onHydra_leads deleteAllLaunchedApps_trims

theorem perform_of_isTest {call : TestCall ℚ} (isTest : call.isTest = true) :
    perform setting call =
      discard (do untilGroups setting call; groupPhases setting) := by
  cases call with
  | runTest options =>
      simp only [perform, untilGroups, bind_assoc]
      rfl
  | rerunTest options => rfl
  | deleteAllLaunchedApps => cases isTest

theorem perform_creates {master : Master} {call : TestCall ℚ} {world : World}
    (creates : CreatesGroups setting master call world) :
    ∃ after, after.world = world ∧ OnGroups GroupsTrimmed master after ∧
      stateAfter (perform setting call master) =
        stateAfter (groupPhases setting after) ∧
      (Settled .unfinished (perform setting call master) →
        Settled .unfinished (createTestGroups setting world)) := by
  obtain ⟨isTest, after, reached, rfl⟩ := creates
  refine ⟨after, rfl, ?_, ?_, ?_⟩
  · have trimmed := untilGroups_trims setting call master
    rw [reached] at trimmed
    exact trimmed
  · rw [perform_of_isTest isTest, stateAfter_discard, bind_of_ok reached]
  · intro settled
    rw [perform_of_isTest isTest] at settled
    have settled := settled.of_discard
    rw [bind_of_ok reached] at settled
    have created : Settled .unfinished
        (onHydra (createTestGroups setting) after) := settled.of_bind
    exact created.of_onPart

/-- A call that creates no groups leaves them alone. -/
theorem perform_trims {master : Master} {call : TestCall ℚ}
    (without : ∀ world, ¬ CreatesGroups setting master call world) :
    OnGroups GroupsTrimmed master (stateAfter (perform setting call master)) := by
  by_cases isTest : call.isTest = true
  · rw [perform_of_isTest isTest, stateAfter_discard]
    cases reached : untilGroups setting call master with
    | ok _ after => exact (without _ ⟨isTest, after, reached, rfl⟩).elim
    | error stop after =>
        have trimmed := untilGroups_trims setting call master
        rw [reached] at trimmed
        rw [bind_of_error reached]
        exact trimmed
  · cases call with
    | runTest options => exact (isTest rfl).elim
    | rerunTest options => exact (isTest rfl).elim
    | deleteAllLaunchedApps =>
        exact untilGroups_trims setting .deleteAllLaunchedApps
          master

theorem perform_namesKept (call : TestCall ℚ) :
    LeadsAlong (OnGroups NamesKept) (perform setting call) := by
  intro master
  by_cases without : ∀ world, ¬ CreatesGroups setting master call world
  · exact (perform_trims without).namesKept
  · push Not at without
    obtain ⟨world, creates⟩ := without
    obtain ⟨after, _, trimmed, afterEq, _⟩ := perform_creates creates
    rw [afterEq]
    exact OnGroups.namesKept_trans _ _ _ trimmed.namesKept
      (groupPhases_namesKept after)

end Calls

/-! ## Histories -/

section Histories

variable {start : Master}

theorem replay_append (start : Master) (calls more : List (TestCall ℚ)) :
    replay setting start (calls ++ more) =
      replay setting (replay setting start calls) more :=
  List.foldl_append

theorem replay_cons (start : Master) (call : TestCall ℚ)
    (calls : List (TestCall ℚ)) :
    replay setting start (call :: calls) =
      replay setting (stateAfter (perform setting call start)) calls :=
  rfl

theorem replay_namesKept (calls : List (TestCall ℚ)) (start : Master) :
    OnGroups NamesKept start (replay setting start calls) := by
  induction calls generalizing start with
  | nil => exact NamesKept.refl _
  | cons call calls ih =>
      exact OnGroups.namesKept_trans _ _ _ (perform_namesKept call start)
        (ih _)

/-- Calls that create no groups leave them alone. -/
theorem replay_trims {calls : List (TestCall ℚ)}
    (without : ∀ earlier call later world, calls = earlier ++ call :: later →
      ¬ CreatesGroups setting (replay setting start earlier) call world) :
    OnGroups GroupsTrimmed start (replay setting start calls) := by
  induction calls generalizing start with
  | nil => exact GroupsTrimmed.refl _
  | cons call calls ih =>
      have here : OnGroups GroupsTrimmed start
          (stateAfter (perform setting call start)) :=
        perform_trims fun world => without [] call calls world rfl
      apply OnGroups.trans _ _ _ here
      apply ih
      intro earlier next later world callsEq
      exact without (call :: earlier) next later world (by rw [callsEq]; rfl)

/-- A history of `boundary_run` calls: every call of a test ended, and found at
least 20 subscriber instances when it came to create its groups. -/
structure BoundaryHistory (setting : Setting Res) (start : Master)
    {Answer : Type} (resfn : Options ℚ → Res → Answer) (options : Options ℚ)
    (runtest : Bool) where
  steps : List (Step (State ℚ Res) ℚ)
  final : State ℚ Res
  run : Run (BoundaryStep (runner setting start) resfn)
    (constructed options runtest) steps final
  ended : ∀ earlier call later, final.calls = earlier ++ call :: later →
    Settled .unfinished
      (perform setting call (replay setting start earlier))
  enough : ∀ earlier call later world,
    final.calls = earlier ++ call :: later →
      CreatesGroups setting (replay setting start earlier) call world →
        ∃ ids, EnoughInstances world ids

variable {Answer : Type} {resfn : Options ℚ → Res → Answer}
  {options : Options ℚ} {runtest : Bool}

/-- Every `rerun_test` that comes to create its groups obtains them. -/
def BoundaryHistory.GroupsObtained
    (history : BoundaryHistory setting start resfn options runtest) : Prop :=
  ∀ earlier call later world,
    history.final.calls = earlier ++ call :: later →
      CreatesGroups setting (replay setting start earlier) call world →
        ∃ ids, EnoughInstances world ids ∧ ObtainsGroups setting world ids

/-- At most one `rerun_test` of the history comes to create its groups. -/
def BoundaryHistory.GroupsCreatedOnce
    (history : BoundaryHistory setting start resfn options runtest) : Prop :=
  ∀ earlier first middle second later world world',
    history.final.calls = earlier ++ first :: (middle ++ second :: later) →
      CreatesGroups setting (replay setting start earlier) first world →
        ¬ CreatesGroups setting
          (replay setting start (earlier ++ first :: middle)) second world'

theorem groupsCreatedOnce_of_obtained
    {history : BoundaryHistory setting start resfn options runtest}
    (obtained : history.GroupsObtained) : history.GroupsCreatedOnce := by
  intro earlier first middle second later world world' callsEq creates
    createsAgain
  have callsEq' : history.final.calls =
      (earlier ++ first :: middle) ++ second :: later := by
    rw [callsEq]
    simp
  obtain ⟨ids, _, obtains⟩ := obtained _ _ _ _ callsEq' createsAgain
  refine not_obtainsGroups_of_used ?_ obtains
  obtain ⟨ids', enough⟩ := history.enough _ _ _ _ callsEq creates
  obtain ⟨after, worldEq, _, afterEq, _⟩ := perform_creates creates
  obtain ⟨after', worldEq', trimmed, _⟩ := perform_creates createsAgain
  rw [← worldEq']
  apply trimmed.namesKept
  rw [replay_append, replay_cons, afterEq]
  apply replay_namesKept
  apply groupPhases_registers
  rw [worldEq]
  exact enough.registered

theorem groupsObtained_of_createdOnce (draws : DrawsAnswered setting.backend)
    (noGroups : start.world.hydra.NoGroups)
    {history : BoundaryHistory setting start resfn options runtest}
    (once : history.GroupsCreatedOnce) : history.GroupsObtained := by
  intro earlier call later world callsEq creates
  obtain ⟨ids, enough⟩ := history.enough _ _ _ _ callsEq creates
  refine ⟨ids, enough, ?_⟩
  have untouched : OnGroups GroupsTrimmed start
      (replay setting start earlier) := by
    apply replay_trims
    intro before first middle world' earlierEq createsFirst
    refine once before first middle call later world' world ?_ createsFirst ?_
    · rw [callsEq, earlierEq]
      simp
    · rw [← earlierEq]
      exact creates
  obtain ⟨after, worldEq, trimmed, _, settled⟩ := perform_creates creates
  have unused : ∀ groupName, groupName ∉ world.hydra.appGroup := by
    intro groupName used
    rw [← worldEq, trimmed.names, untouched.names, ← AList.lookup_isSome,
      noGroups groupName] at used
    cases used
  exact createTestGroups_obtains draws enough
    ⟨unused _, unused _, unused _⟩ (settled (history.ended _ _ _ callsEq))

/-- A history of a new `RunTestRMQ` has its groups whenever it needs them
exactly if it comes to create them only once. -/
theorem groupsObtained_iff (draws : DrawsAnswered setting.backend)
    {myaddr : String} {totalSubApps : Int}
    (history : BoundaryHistory setting (newMaster myaddr totalSubApps) resfn
      options runtest) :
    history.GroupsObtained ↔ history.GroupsCreatedOnce :=
  ⟨groupsCreatedOnce_of_obtained,
    groupsObtained_of_createdOnce draws (newWorld_noGroups _ _ _)⟩

/-- In every history of every new `RunTestRMQ` each `rerun_test` obtains its
groups. -/
def GroupsObtainedThroughout : Prop :=
  ∀ (Res Answer : Type) (setting : Setting Res) (myaddr : String)
    (totalSubApps : Int) (resfn : Options ℚ → Res → Answer)
    (options : Options ℚ) (runtest : Bool)
    (history : BoundaryHistory setting (newMaster myaddr totalSubApps) resfn
      options runtest),
    DrawsAnswered setting.backend → history.GroupsObtained

end Histories

section Example

/-- Two tasks with ten subscriber instances each, and one publisher.  Draws take
the instances in turn.  The applications cannot be deleted any more once the
publisher was told the rate 200. -/
def twoTasks : Backend := fun history request =>
  match request with
  | .createApp _ attr => .ok attr
  | .getApp appId =>
      if appId = rmqpub then
        .ok (some ⟨[⟨"pub", "slave-0", [0]⟩], 1, []⟩)
      else
        .ok (some ⟨[⟨"a", "slave-0", [0, 1, 2, 3, 4, 5, 6, 7, 8, 9]⟩,
          ⟨"b", "slave-1", [0, 1, 2, 3, 4, 5, 6, 7, 8, 9]⟩], 2, []⟩)
  | .getSlaveIpFromHn _ => .ok "10.0.0.1"
  | .doPing _ _ _ => .ok true
  | .randomChoice 0 => .error (.exception "list index out of range")
  | .randomChoice (n + 1) =>
      let draws := history.countP fun exchange =>
        exchange.request = .randomChoice (n + 1)
      .ok ⟨draws % (n + 1), Nat.mod_lt draws (Nat.succ_pos n)⟩
  | .deleteAppIfexisting _ _ =>
      if history.any fun exchange =>
          exchange.request = .updatePubConfig 10 50 200 then
        .error (.exception "timed out")
      else .ok ()
  | .scaleApp _ _ => .ok ()
  | .waitAppReady _ _ _ => .ok ()
  | .deleteDeployment _ => .ok ()
  | .waitAppRemoval _ => .ok ()
  | .killTask _ _ => .ok ()
  | .resetStats _ _ _ => .ok ()
  | .updateSubConfig _ _ _ _ _ => .ok ()
  | .updatePubConfig _ _ _ => .ok ()
  | .startTest => .ok ()

/-- The options of the local test. -/
def localTest : Setting Unit where
  backend := twoTasks
  fuel := 20
  testDuration := 10
  msgBatch := 50
  appsInGroup := 10
  mesosCluster _ := none
  str _ := "10"
  finish _ := pure ()

abbrev localMaster : Master :=
  newMaster "http://127.0.0.1:9800" 20

theorem localTest_drawsAnswered : DrawsAnswered localTest.backend :=
  fun _ _ => ⟨_, rfl⟩

-- The calls of the example are only ever evaluated by the kernel.
attribute [irreducible] localTest

def runLocally (state : State ℚ Unit) (rate : ℚ) : State ℚ Unit :=
  stateAfter (boundaryRun (runner localTest localMaster) (fun _ res => res) rate
    state)

def beforeRates : State ℚ Unit :=
  constructed (fun _ => 0) false

def firstRate : TestCall ℚ :=
  nextTest 100 (setArg1 100 beforeRates)

def afterFirstRate : State ℚ Unit :=
  runLocally beforeRates 100

def secondRate : TestCall ℚ :=
  nextTest 200 (setArg1 200 afterFirstRate)

def afterSecondRate : State ℚ Unit :=
  runLocally afterFirstRate 200

theorem exists_ok_of_toBool {Value : Type} {outcome : Except PyError Value}
    (succeeded : outcome.toBool = true) : ∃ value, outcome = .ok value := by
  cases outcome with
  | ok value => exact ⟨value, rfl⟩
  | error error => cases succeeded

theorem exists_error_of_toBool {Value : Type} {outcome : Except PyError Value}
    (failed : outcome.toBool = false) : ∃ error, outcome = .error error := by
  cases outcome with
  | ok value => cases failed
  | error error => exact ⟨error, rfl⟩

theorem firstRate_ended :
    (nextReply (runner localTest localMaster) 100
      (setArg1 100 beforeRates)).outcome.toBool = true := by
  decide +kernel

theorem afterFirstRate_calls :
    afterFirstRate.calls = beforeRates.calls ++ [firstRate] := by
  obtain ⟨res, ended⟩ := exists_ok_of_toBool firstRate_ended
  exact @boundaryRun_calls_of_ok ℚ Unit Unit _ (runner localTest localMaster)
    (fun _ res => res) 100 beforeRates res (AList.notMem_empty 100) ended

theorem secondRate_ended :
    (200 : ℚ) ∉ afterFirstRate.boundaryRunResult ∧
    (nextReply (runner localTest localMaster) 200
      (setArg1 200 afterFirstRate)).outcome.toBool = false ∧
    ((runner localTest localMaster).deleteAllLaunchedApps
      (afterFirstRate.calls ++ [secondRate])).toBool = false := by
  decide +kernel

theorem afterSecondRate_calls :
    afterSecondRate.calls =
      afterFirstRate.calls ++ [secondRate, .deleteAllLaunchedApps] := by
  obtain ⟨unknown, failed, kept⟩ := secondRate_ended
  obtain ⟨error, ended⟩ := exists_error_of_toBool failed
  have keptApps : ¬ (runner localTest localMaster).Succeeds
      (afterFirstRate.calls ++ [secondRate]) .deleteAllLaunchedApps := by
    intro deleted
    have succeeded : (runner localTest localMaster).deleteAllLaunchedApps
        (afterFirstRate.calls ++ [secondRate]) = .ok () := deleted
    rw [succeeded] at kept
    cases kept
  exact @boundaryRun_calls_of_kept ℚ Unit Unit _ (runner localTest localMaster)
    (fun _ res => res) 200 afterFirstRate error unknown ended keptApps

theorem twoRates_calls :
    afterSecondRate.calls =
      [firstRate, secondRate, .deleteAllLaunchedApps] := by
  rw [afterSecondRate_calls, afterFirstRate_calls]
  rfl

/-- The places of a call in a list of three. -/
theorem call_of_three {Call : Type} {first second third call : Call}
    {earlier later : List Call}
    (callsEq : [first, second, third] = earlier ++ call :: later) :
    earlier = [] ∧ call = first ∨ earlier = [first] ∧ call = second ∨
      earlier = [first, second] ∧ call = third := by
  rcases earlier with _ | ⟨head, _ | ⟨next, _ | ⟨last, rest⟩⟩⟩
  · simp at callsEq
    simp [callsEq.1]
  · simp at callsEq
    simp [callsEq.1, callsEq.2.1]
  · simp at callsEq
    simp [callsEq.1, callsEq.2.1, callsEq.2.2.1]
  · simp at callsEq

/-- The state in which a call of the example is made. -/
def localReplay (earlier : List (TestCall ℚ)) : Master :=
  replay localTest localMaster earlier

theorem twoRates_ended :
    returns (perform localTest firstRate (localReplay [])) = true ∧
    fails (.raised .attributeError)
      (perform localTest secondRate (localReplay [firstRate])) = true ∧
    fails (.raised (.exception "timed out"))
      (perform localTest .deleteAllLaunchedApps
        (localReplay [firstRate, secondRate])) = true := by
  decide +kernel

def localIds : List String :=
  ["b_PORT9", "b_PORT8", "b_PORT7", "b_PORT6", "b_PORT5", "b_PORT4",
    "b_PORT3", "b_PORT2", "b_PORT1", "b_PORT0", "a_PORT9", "a_PORT8",
    "a_PORT7", "a_PORT6", "a_PORT5", "a_PORT4", "a_PORT3", "a_PORT2",
    "a_PORT1", "a_PORT0"]

/-- The state in which a call of the example creates its groups. -/
def localWorld (earlier : List (TestCall ℚ)) (call : TestCall ℚ) : World :=
  (stateAfter (untilGroups localTest call (localReplay earlier))).world

theorem localWorld_enough :
    EnoughInstances (localWorld [] firstRate) localIds ∧
      EnoughInstances (localWorld [firstRate] secondRate) localIds := by
  refine ⟨⟨?_, ?_, ?_, ?_⟩, ⟨?_, ?_, ?_, ?_⟩⟩ <;> decide +kernel

theorem settled_of_fails {Value : Type} {error : PyError}
    {outcome : EStateM.Result Stop Master Value}
    (failed : fails (.raised error) outcome = true) :
    Settled .unfinished outcome := by
  rw [eq_error_of_fails failed]
  intro state same
  cases same

/-- The groups of the rate 100 are still there at the rate 200. -/
def twoRates : BoundaryHistory localTest localMaster (fun _ res => res)
    (fun _ => 0) false where
  steps := [⟨beforeRates, 100, afterFirstRate⟩,
    ⟨afterFirstRate, 200, afterSecondRate⟩]
  final := afterSecondRate
  run := .next rfl (.next rfl .stop)
  ended := by
    intro earlier call later callsEq
    rw [twoRates_calls] at callsEq
    obtain ⟨first, second, third⟩ := twoRates_ended
    rcases call_of_three callsEq with
      ⟨rfl, rfl⟩ | ⟨rfl, rfl⟩ | ⟨rfl, rfl⟩
    · exact settled_of_ok (eq_ok_of_returns first)
    · exact settled_of_fails second
    · exact settled_of_fails third
  enough := by
    intro earlier call later world callsEq creates
    rw [twoRates_calls] at callsEq
    obtain ⟨isTest, after, reached, rfl⟩ := creates
    have worldEq : localWorld earlier call = after.world := by
      rw [localWorld, localReplay, reached]
      rfl
    refine ⟨localIds, ?_⟩
    rw [← worldEq]
    rcases call_of_three callsEq with
      ⟨rfl, rfl⟩ | ⟨rfl, rfl⟩ | ⟨rfl, rfl⟩
    · exact localWorld_enough.1
    · exact localWorld_enough.2
    · cases isTest

theorem twoRates_groupsObtained_iff :
    twoRates.GroupsObtained ↔ twoRates.GroupsCreatedOnce :=
  groupsObtained_iff localTest_drawsAnswered twoRates

/-- At the second rate `create_app_group` returns the error code. -/
theorem twoRates_obtain_no_groups : ¬ GroupsObtainedThroughout := by
  intro throughout
  have obtained := throughout Unit Unit localTest _ _ _ _ _ twoRates
    localTest_drawsAnswered
  have reached : returns (untilGroups localTest secondRate
      (localReplay [firstRate])) = true := by
    decide +kernel
  have used : "test-group" ∈
      (localWorld [firstRate] secondRate).hydra.appGroup := by
    decide +kernel
  obtain ⟨ids, _, obtains⟩ := obtained [firstRate] secondRate
    [.deleteAllLaunchedApps] (localWorld [firstRate] secondRate)
    twoRates_calls ⟨by decide +kernel, _, eq_ok_of_returns reached, rfl⟩
  exact not_obtainsGroups_of_used used obtains

end Example

end RunTestRMQ

end MScale
