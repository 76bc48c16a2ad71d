import MScale.HydraGroupShares

/-!
# Which groups can be filled

`create_app_instances_group` draws tasks at random until it has one that is in
no group.  It clips the request to the number of tasks of the application, not
to the number of those that are in no group.  This file determines for which
requests some sequence of draws ends the loop.
-/

namespace MScale

namespace HydraBase

open StateErrors LabelledRuns

/-- A cluster whose random choices are given in advance. -/
def drawing (draws : Nat → Nat) : Backend := fun history request =>
  match request with
  | .randomChoice length =>
      if positive : 0 < length then
        .ok ⟨draws history.length % length, Nat.mod_lt _ positive⟩
      else
        .error (.exception "list index out of range")
  | request => steadyBackend history request

/-- The number of tasks a creation picks: no more than the application has. -/
def clippedInstances (numAppInstances : Int) (ids : List String) : Nat :=
  (if numAppInstances > ids.length then (ids.length : Int)
    else numAppInstances).toNat

/-- A creation gets as far as filling its new group `own` from the list `ids`,
as it is not refused before. -/
structure StartsPicking (world : World) (appName groupName : String)
    (numAppInstances : Int) (analyser : Option String) (own : AppGroup)
    (ids : List String) : Prop where
  registered : appName ∈ world.hydra.apps
  fresh : groupName ∉ world.hydra.appGroup
  created : AppGroup.init appName groupName numAppInstances analyser world =
    .ok own world
  listed : world.hydra.allTaskIds.lookup appName = some ids

/-- Some sequence of draws ends the creation, and however it has drawn so far,
there is another task to pick whenever it needs one. -/
structure CanFinish (world : World) (appName groupName : String)
    (numAppInstances : Int) (analyser : Option String) : Prop where
  another : ∀ own ids draws fuel picked tasksList later,
    StartsPicking world appName groupName numAppInstances analyser own ids →
    pickTasks (drawing draws) fuel ids
      (world.hydra.setGroup groupName own).appGroup picked [] world.history =
        .ok tasksList later →
    picked < clippedInstances numAppInstances ids →
    ∃ task ∈ ids, isTaken (world.hydra.setGroup groupName own).appGroup
      tasksList task = false
  ends : ∃ draws fuel, Settled .unfinished
    (createAppInstancesGroup (drawing draws) fuel appName groupName
      numAppInstances analyser world)

/-- The distinct tasks that are in no group. -/
def freeTasks (groups : Dict AppGroup) (ids : List String) : List String :=
  ids.dedup.filter fun task =>
    groups.entries.all fun entry => task ∉ entry.snd.tasksList

/-! ### Free and taken tasks -/

theorem mem_freeTasks {groups : Dict AppGroup} {ids : List String}
    {task : String} :
    task ∈ freeTasks groups ids ↔ task ∈ ids ∧
      ∀ groupName group, groups.lookup groupName = some group →
        task ∉ group.tasksList := by
  rw [freeTasks, List.mem_filter, List.mem_dedup, List.all_eq_true]
  refine and_congr_right fun _ => ?_
  constructor
  · intro free groupName group found
    simpa using free ⟨groupName, group⟩ (AList.mem_lookup_iff.mp found)
  · intro free entry member
    simpa using free entry.fst entry.snd (AList.mem_lookup_iff.mpr member)

theorem freeTasks_nodup (groups : Dict AppGroup) (ids : List String) :
    (freeTasks groups ids).Nodup :=
  (List.nodup_dedup ids).filter _

/-- While a group is being filled, a task is taken if it is in another group
or was picked before. -/
theorem isTaken_setGroup_eq_false_iff {hydra : HydraBase} {groupName : String}
    {own : AppGroup} (fresh : groupName ∉ hydra.appGroup)
    (empty : own.tasksList = []) {tasksList : List String} {task : String} :
    isTaken (hydra.setGroup groupName own).appGroup tasksList task = false ↔
      (∀ other group, hydra.appGroup.lookup other = some group →
        task ∉ group.tasksList) ∧ task ∉ tasksList := by
  have ownFound : (hydra.setGroup groupName own).appGroup.lookup groupName =
      some own := AList.lookup_insert hydra.appGroup
  constructor
  · intro free
    refine ⟨fun other group found => ?_, (not_mem_of_not_isTaken free ownFound).2⟩
    have different : other ≠ groupName := by
      rintro rfl
      exact fresh (AList.lookup_isSome.mp (by rw [found]; rfl))
    have foundAfter : (hydra.setGroup groupName own).appGroup.lookup other =
        some group := by
      rw [← found]
      exact AList.lookup_insert_ne different
    exact (not_mem_of_not_isTaken free foundAfter).1
  · rintro ⟨free, unpicked⟩
    simp only [isTaken, List.any_eq_false]
    intro entry member
    have found := AList.mem_lookup_iff.mpr member
    by_cases same : entry.fst = groupName
    · rw [same, ownFound] at found
      cases found
      simp [empty, unpicked]
    · have foundBefore : hydra.appGroup.lookup entry.fst = some entry.snd := by
        rw [← found]
        exact (AList.lookup_insert_ne same).symm
      simp [free entry.fst entry.snd foundBefore, unpicked]

/-! ### Draws that pick given tasks -/

variable {draws : Nat → Nat} {ids : List String} {groups : Dict AppGroup}

/-- A draw of a task that is not taken ends the inner loop. -/
theorem pickTask_of_draw {history : History} {tasksList : List String}
    {task : String} (listed : task ∈ ids)
    (free : isTaken groups tasksList task = false)
    (drawn : draws history.length = ids.idxOf task) :
    ∃ exchange, pickTask (drawing draws) 1 ids groups tasksList history =
      .ok task (history ++ [exchange]) := by
  have inRange : ids.idxOf task < ids.length := List.idxOf_lt_length_iff.mpr listed
  have positive : 0 < ids.length := lt_of_le_of_lt (Nat.zero_le _) inRange
  have answered : drawing draws history (.randomChoice ids.length) =
      .ok ⟨ids.idxOf task, inRange⟩ := by
    simp only [drawing, positive, dif_pos, drawn, Nat.mod_eq_of_lt inRange]
  have getEq : ids.get ⟨ids.idxOf task, inRange⟩ = task :=
    List.getElem_idxOf inRange
  let choice : Exchange :=
    ⟨.randomChoice ids.length, .ok ⟨ids.idxOf task, inRange⟩⟩
  have drew : remote (drawing draws) (.randomChoice ids.length) history =
      .ok ⟨ids.idxOf task, inRange⟩ (history ++ [choice]) := by
    simp only [remote, answered]
    rfl
  let round : RemoteM (String ⊕ Unit) :=
    remote (drawing draws) (.randomChoice ids.length) >>= fun drawn =>
      if isTaken groups tasksList (ids.get drawn) then pure (.inr ())
      else pure (.inl (ids.get drawn))
  have broke : round history = .ok (.inl task) (history ++ [choice]) := by
    refine (bind_of_ok drew).trans ?_
    rw [getEq, free]
    rfl
  exact ⟨choice, bind_of_ok broke⟩

/-- Tasks that are free in the order in which they are drawn are picked. -/
theorem pickTasks_of_draws {targets : List String} :
    ∀ {tasksList : List String} {history : History},
      (∀ task ∈ targets, task ∈ ids) →
      (∀ before task after, targets = before ++ task :: after →
        isTaken groups (tasksList ++ before) task = false) →
      (∀ position (inRange : position < targets.length),
        draws (history.length + position) = ids.idxOf targets[position]) →
      ∃ later, pickTasks (drawing draws) 1 ids groups targets.length tasksList
        history = .ok (tasksList ++ targets) later := by
  induction targets with
  | nil =>
      intro tasksList history _ _ _
      exact ⟨history, by rw [List.append_nil]; rfl⟩
  | cons task targets ih =>
      intro tasksList history listed free drawn
      have freeHere : isTaken groups tasksList task = false := by
        simpa using free [] task targets rfl
      have drawnHere : draws history.length = ids.idxOf task := by
        exact drawn 0 (Nat.zero_lt_succ _)
      obtain ⟨exchange, picked⟩ :=
        pickTask_of_draw (listed task (by simp)) freeHere drawnHere
      have drawnLater : ∀ position (inRange : position < targets.length),
          draws ((history ++ [exchange]).length + position) =
            ids.idxOf targets[position] := by
        intro position inRange
        have next := drawn (position + 1) (by simpa using inRange)
        rw [List.length_append, List.length_singleton, Nat.add_assoc,
          Nat.add_comm 1 position, next, List.getElem_cons_succ]
      have freeLater : ∀ before later after,
          targets = before ++ later :: after →
          isTaken groups (tasksList ++ [task] ++ before) later = false := by
        intro before later after split
        rw [List.append_assoc]
        exact free (task :: before) later after (by rw [split]; rfl)
      obtain ⟨final, rest⟩ := ih
        (fun later member => listed later (List.mem_cons_of_mem _ member))
        freeLater drawnLater
      refine ⟨final, (bind_of_ok picked).trans ?_⟩
      rw [rest, List.append_assoc]
      rfl

/-- The draws that pick the targets in order, once `offset` requests were
made. -/
def drawsOf (ids targets : List String) (offset position : Nat) : Nat :=
  ids.idxOf (targets.getD (position - offset) "")

/-- Any list of distinct free tasks can be drawn. -/
theorem pickTasks_of_free {hydra : HydraBase} {groupName : String}
    {own : AppGroup} (fresh : groupName ∉ hydra.appGroup)
    (empty : own.tasksList = []) {targets : List String}
    (nodup : targets.Nodup)
    (free : ∀ task ∈ targets, task ∈ freeTasks hydra.appGroup ids)
    (history : History) :
    ∃ later, pickTasks (drawing (drawsOf ids targets history.length)) 1 ids
      (hydra.setGroup groupName own).appGroup targets.length [] history =
        .ok targets later := by
  have inOrder : ∀ before task after, targets = before ++ task :: after →
      isTaken (hydra.setGroup groupName own).appGroup ([] ++ before) task =
        false := by
    intro before task after split
    rw [isTaken_setGroup_eq_false_iff fresh empty, List.nil_append]
    subst split
    refine ⟨(mem_freeTasks.mp (free task (by simp))).2, fun repeated => ?_⟩
    exact (List.nodup_append.mp nodup).2.2 task repeated task (by simp) rfl
  have drawn : ∀ position (inRange : position < targets.length),
      drawsOf ids targets history.length (history.length + position) =
        ids.idxOf targets[position] := by
    intro position inRange
    simp [drawsOf, inRange]
  simpa using pickTasks_of_draws
    (fun task member => (mem_freeTasks.mp (free task member)).1) inOrder drawn

/-! ### The whole creation -/

variable {backend : Backend} {fuel : Nat} {world : World}
variable {appName groupName : String} {numAppInstances : Int}
variable {analyser : Option String}

theorem StartsPicking.empty {own : AppGroup}
    (starts : StartsPicking world appName groupName numAppInstances analyser
      own ids) : own.tasksList = [] := by
  cases analyser with
  | none => cases starts.created
  | some analyser =>
      have created := starts.created
      cases created
      rfl

/-- A creation whose tasks are picked returns. -/
theorem StartsPicking.settled {own : AppGroup}
    (starts : StartsPicking world appName groupName numAppInstances analyser
      own ids) {tasksList : List String} {later : History}
    (picked : pickTasks backend fuel ids
      (world.hydra.setGroup groupName own).appGroup
      (clippedInstances numAppInstances ids) [] world.history =
        .ok tasksList later) :
    Settled .unfinished (createAppInstancesGroup backend fuel appName groupName
      numAppInstances analyser world) := by
  apply settled_of_ok
  simp only [createAppInstancesGroup, getHydra_bind, assertThat_bind,
    starts.registered, decide_true, if_true, starts.fresh, if_false]
  rw [bind_of_ok starts.created]
  simp only [updateHydra_bind, index_bind, starts.listed, getHydra_bind,
    onBackend_bind]
  rw [← clippedInstances, picked]
  rfl

/-- A creation that is refused before it picks returns or raises at once. -/
theorem settled_of_refused
    (refused : ∀ own ids, ¬ StartsPicking world appName groupName
      numAppInstances analyser own ids) :
    Settled .unfinished (createAppInstancesGroup backend fuel appName groupName
      numAppInstances analyser world) := by
  intro final unfinished
  simp only [createAppInstancesGroup, getHydra_bind, assertThat_bind]
    at unfinished
  by_cases registered : appName ∈ world.hydra.apps
  · simp only [registered, decide_true, if_true] at unfinished
    by_cases used : groupName ∈ world.hydra.appGroup
    · simp only [used, if_true] at unfinished
      cases unfinished
    · simp only [used, if_false] at unfinished
      cases analyser with
      | none => cases unfinished
      | some analyser =>
          cases listed : world.hydra.allTaskIds.lookup appName with
          | none =>
              rcases bind_error_iff.mp unfinished with
                failed | ⟨own, middle, created, rest⟩
              · cases failed
              · cases created
                simp only [updateHydra_bind, index_bind] at rest
                rw [show world.hydra.allTaskIds.lookup appName = none from
                  listed] at rest
                cases rest
          | some ids =>
              exact refused _ ids ⟨registered, used, rfl, listed⟩
  · simp only [registered, decide_false] at unfinished
    cases unfinished

/-- A creation that can finish finds enough tasks in no group. -/
theorem CanFinish.clippedInstances_le {own : AppGroup}
    (finishes : CanFinish world appName groupName numAppInstances analyser)
    (starts : StartsPicking world appName groupName numAppInstances analyser
      own ids) :
    clippedInstances numAppInstances ids ≤
      (freeTasks world.hydra.appGroup ids).length := by
  by_contra scarce
  -- Once all free tasks are picked there is no other one.
  obtain ⟨later, picked⟩ := pickTasks_of_free starts.fresh starts.empty
    (freeTasks_nodup world.hydra.appGroup ids) (fun _ member => member)
    world.history
  obtain ⟨task, listed, free⟩ := finishes.another own ids _ 1 _ _ later
    starts picked (not_le.mp scarce)
  rw [isTaken_setGroup_eq_false_iff starts.fresh starts.empty] at free
  exact free.2 (mem_freeTasks.mpr ⟨listed, free.1⟩)

/-- While fewer tasks are picked than are in no group, there is another one. -/
theorem StartsPicking.another {own : AppGroup}
    (starts : StartsPicking world appName groupName numAppInstances analyser
      own ids) {picked : Nat} {tasksList : List String} {later : History}
    (returned : pickTasks backend fuel ids
      (world.hydra.setGroup groupName own).appGroup picked [] world.history =
        .ok tasksList later)
    (fewer : picked < (freeTasks world.hydra.appGroup ids).length) :
    ∃ task ∈ ids, isTaken (world.hydra.setGroup groupName own).appGroup
      tasksList task = false := by
  obtain ⟨_, lengthEq⟩ := pickTasks_returned
    (AList.lookup_insert world.hydra.appGroup)
    ⟨List.nodup_nil, by simp, by simp⟩ returned
  have unpickedLeft : ∃ task ∈ freeTasks world.hydra.appGroup ids,
      task ∉ tasksList := by
    by_contra covered
    push Not at covered
    have lengthLe :=
      (List.subperm_of_subset (freeTasks_nodup _ _) covered).length_le
    rw [lengthEq, List.length_nil, Nat.zero_add] at lengthLe
    omega
  obtain ⟨task, free, unpicked⟩ := unpickedLeft
  obtain ⟨listed, inNoGroup⟩ := mem_freeTasks.mp free
  exact ⟨task, listed, (isTaken_setGroup_eq_false_iff starts.fresh
    starts.empty).mpr ⟨inNoGroup, unpicked⟩⟩

/-- In any state, a creation can finish exactly when the tasks in no group are
as many as it picks, or it is refused before it picks any. -/
theorem createAppInstancesGroup_canFinish_iff :
    CanFinish world appName groupName numAppInstances analyser ↔
      ∀ own ids, StartsPicking world appName groupName numAppInstances analyser
          own ids →
        clippedInstances numAppInstances ids ≤
          (freeTasks world.hydra.appGroup ids).length := by
  constructor
  · intro finishes own ids starts
    exact finishes.clippedInstances_le starts
  · intro enough
    constructor
    · intro own ids draws fuel picked tasksList later starts returned fewer
      exact starts.another returned
        (lt_of_lt_of_le fewer (enough own ids starts))
    · by_cases refused : ∀ own ids, ¬ StartsPicking world appName groupName
          numAppInstances analyser own ids
      · exact ⟨fun _ => 0, 0, settled_of_refused refused⟩
      · push Not at refused
        obtain ⟨own, ids, starts⟩ := refused
        let targets := (freeTasks world.hydra.appGroup ids).take
          (clippedInstances numAppInstances ids)
        have lengthEq : targets.length =
            clippedInstances numAppInstances ids :=
          List.length_take_of_le (enough own ids starts)
        have nodup : targets.Nodup :=
          (freeTasks_nodup _ _).sublist (List.take_sublist _ _)
        obtain ⟨later, picked⟩ := pickTasks_of_free starts.fresh starts.empty
          nodup (fun _ member => List.mem_of_mem_take member) world.history
        rw [lengthEq] at picked
        exact ⟨_, 1, starts.settled picked⟩

/-- In every state that calls on a registry without groups lead to, every
creation for a registered application can finish. -/
def CreationsCanFinish : Prop :=
  ∀ (backend : Backend) (start final : World)
    (steps : List (Step World GroupCall)), start.hydra.NoGroups →
    Run (GroupCallStep backend) start steps final →
    ∀ appName groupName numAppInstances analyser,
      appName ∈ final.hydra.apps →
      CanFinish final appName groupName numAppInstances analyser

/-- Once the only subscriber is in a group, another group of one subscriber
keeps drawing it for ever. -/
theorem groupedSubscribers_cannot_finish : ¬ CreationsCanFinish := by
  intro canFinish
  have finishes := canFinish steadyBackend beforeLaunch groupedWorld _
    (newWorld_noGroups _ _ _) groupedSubscribers_run "/zst-sub" "grp2" 1
    (some "ZMQSubAnalyser") (by decide)
  have starts : StartsPicking groupedWorld "/zst-sub" "grp2" 1
      (some "ZMQSubAnalyser") ⟨"ZMQSubAnalyser", "grp2", "/zst-sub", 1, []⟩
      ["zst-sub.1_PORT31000"] :=
    ⟨by decide, by decide, rfl, by decide⟩
  have enough := finishes.clippedInstances_le starts
  have noneFree : freeTasks groupedWorld.hydra.appGroup
      ["zst-sub.1_PORT31000"] = [] := by
    decide
  rw [noneFree] at enough
  exact absurd enough (by decide)

end HydraBase

end MScale
