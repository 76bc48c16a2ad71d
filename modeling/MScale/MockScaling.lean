import MScale.MockMarathonIF

/-!
# Scaling an application of the mock

`scale_app` of the mock launches one more task, whatever the number it is
given, and always under the same name.  So an application that was just created
can be scaled once, and only to two tasks: the wait after a scaling to another
number never ends, and a second scaling raises.
-/

namespace MScale

namespace MockBackend

open StateErrors HydraBase ChildManager

namespace MockMarathonIF

/-- An application has exactly `n` tasks, and the wait for them ends. -/
def HasScale (app : String) (n : Nat) (mock : MockMarathonIF) : Prop :=
  ∃ info, mock.listApps.lookup app = some info ∧ info.tasks.length = n ∧
    info.tasksRunning = n ∧
    ∃ fuel, waitAppReady fuel app n mock = .ok info mock

/-- Calls of `scale_app` one after the other: each returns, and leaves the
number of tasks it was given. -/
def ScalesAsAsked (popen : Popen) (environ : Dict String) (app : String) :
    List Nat → MockMarathonIF → Prop
  | [], _ => True
  | n :: ns, mock => ∃ after,
      scaleApp popen environ app n mock = .ok true after ∧
      HasScale app n after ∧ ScalesAsAsked popen environ app ns after

/-- The list has the ports for every number of tasks asked for. -/
def PortsSuffice (attr : LaunchAttr) (ns : List Nat) (mock : MockMarathonIF) :
    Prop :=
  ∀ n ∈ ns, mock.portIndex + attr.ports.length * (n - 1) ≤ mock.envPorts.length

/-- Every application that is created can be scaled to every sequence of
sizes. -/
def ScalesToEverySize : Prop :=
  ∀ (popen : Popen) (environ : Dict String) (app : String) (attr : LaunchAttr)
    (before mock : MockMarathonIF) (ns : List Nat),
    LaunchesSucceed popen → app ∉ before.listApps → app ∉ before.appAttr →
    createApp popen environ app attr "" before = .ok () mock →
    (∀ n ∈ ns, 1 ≤ n) → PortsSuffice attr ns mock →
    ScalesAsAsked popen environ app ns mock

section Waiting

variable {mock : MockMarathonIF} {app : String} {info : AppInfo} {n : Nat}

/-- The wait is over at once. -/
theorem waitAppReady_ready (found : mock.listApps.lookup app = some info)
    (ready : info.tasksRunning = n) :
    waitAppReady 1 app n mock = .ok info mock := by
  rw [waitAppReady, repeatUntil, bind_assoc, bind_of_ok (get_ok mock)]
  simp only [found, ready, if_true]
  rfl

/-- A round of the wait changes nothing, so the next one ends no other way. -/
theorem waitAppReady_waits (found : mock.listApps.lookup app = some info)
    (different : info.tasksRunning ≠ n) (fuel : Nat) :
    waitAppReady fuel app n mock = .error .unfinished mock := by
  induction fuel with
  | zero => rfl
  | succ fuel ih =>
      rw [waitAppReady, repeatUntil, bind_assoc, bind_of_ok (get_ok mock)]
      simp only [found, different, if_false]
      exact ih

/-- The wait ends exactly if there are as many running tasks already. -/
theorem waitAppReady_ends_iff (found : mock.listApps.lookup app = some info) :
    (∃ fuel, waitAppReady fuel app n mock = .ok info mock) ↔
      info.tasksRunning = n := by
  constructor
  · rintro ⟨fuel, ended⟩
    by_contra different
    rw [waitAppReady_waits found different] at ended
    cases ended
  · intro ready
    exact ⟨1, waitAppReady_ready found ready⟩

end Waiting

section Scaling

variable {popen : Popen} {environ : Dict String} {app : String}
  {attr : LaunchAttr} {before mock after : MockMarathonIF} {n : Nat}

theorem length_lt_scale (app : String) :
    app.length < (app ++ "-scale").length := by
  rw [String.length_append]
  exact Nat.lt_add_of_pos_right (by decide)

/-- The name under which `scale_app` launches its task. -/
theorem launchName_scale :
    launchName app (app ++ "-scale") = app ++ "-scale" := by
  have given : app ++ "-scale" ≠ "" := by
    intro empty
    have longer := length_lt_scale app
    rw [empty] at longer
    cases longer
  rw [launchName, if_neg given]

theorem scale_ne_app : app ++ "-scale" ≠ app := by
  intro same
  have longer := length_lt_scale app
  rw [same] at longer
  exact lt_irrefl _ longer

/-- An application has one task for each of the names of its jobs. -/
structure HasTasks (app : String) (names : List String)
    (mock : MockMarathonIF) : Prop where
  tasks : (infoOf mock app).tasks.length = names.length
  jobs : ∀ name, name ∈ (infoOf mock app).cmgr ↔ name ∈ names
  counted : Counted mock app

theorem hasTasks_new (new : app ∉ before.listApps)
    (newAttr : app ∉ before.appAttr) : HasTasks app [] before := by
  have unlisted := AList.lookup_eq_none.mpr new
  have unentered := AList.lookup_eq_none.mpr newAttr
  have empty : infoOf before app = {} := by
    rw [infoOf, unlisted]
    rfl
  constructor
  · rw [empty]
    rfl
  · intro name
    rw [empty]
    exact iff_of_false (AList.notMem_empty name) List.not_mem_nil
  · rw [Counted, unlisted, unentered]
    rfl

section Added

variable {name : String} {names : List String}

theorem AddsTask.hasTasks (added : AddsTask app name attr before after)
    (had : HasTasks app names before) : HasTasks app (name :: names) after := by
  obtain ⟨info, task, found, tasks, _, _, _, jobs⟩ := added.task
  constructor
  · rw [infoOf_found found, tasks, List.length_append, had.tasks]
    rfl
  · intro other
    rw [infoOf_found found, jobs, had.jobs, List.mem_cons]
  · exact added.counted

/-- After a launch the application has one task more, and waiting for that
number ends. -/
theorem AddsTask.hasScale_iff (added : AddsTask app name attr before after)
    (had : HasTasks app names before) :
    HasScale app n after ↔ n = names.length + 1 := by
  obtain ⟨info, task, found, tasks, _, running, _⟩ := added.task
  have count : info.tasks.length = names.length + 1 := by
    rw [tasks, List.length_append, had.tasks]
    rfl
  constructor
  · rintro ⟨info', found', exactly, _⟩
    rw [found] at found'
    cases found'
    exact exactly.symm.trans count
  · rintro rfl
    have ready : info.tasksRunning = names.length + 1 := running.trans count
    exact ⟨info, found, count, ready, (waitAppReady_ends_iff found).mpr ready⟩

end Added

/-- `create_app` launches the first task of a new application. -/
theorem createApp_new (new : app ∉ before.listApps)
    (newAttr : app ∉ before.appAttr)
    (created : createApp popen environ app attr "" before = .ok () mock) :
    AddsTask app app attr before mock ∧ HasTasks app [app] mock ∧
      ∃ count, mock.appAttr.lookup app = some (attr, count) := by
  have none := hasTasks_new new newAttr
  have added : AddsTask app app attr before mock :=
    createApp_addsTask none.counted created
  obtain ⟨info, task, _, _, _, _, entered, _⟩ := added.task
  have given : attrOf before app attr = attr := by
    rw [attrOf, AList.lookup_eq_none.mpr newAttr]
    rfl
  rw [given] at entered
  exact ⟨added, added.hasTasks none, _, entered⟩

section Scale

variable {count : Nat}

/-- `scale_app` launches the application once more. -/
theorem scaleApp_eq (entered : mock.appAttr.lookup app = some (attr, count)) :
    scaleApp popen environ app n mock =
      (do createApp popen environ app attr (app ++ "-scale"); pure true :
        MockM Bool) mock := by
  rw [scaleApp, bind_of_ok (get_ok mock), index_bind]
  simp only [entered]

theorem scaleApp_addsTask
    (entered : mock.appAttr.lookup app = some (attr, count))
    (counted : Counted mock app) {result : Bool}
    (scaled : scaleApp popen environ app n mock = .ok result after) :
    AddsTask app (app ++ "-scale") attr mock after := by
  rw [scaleApp_eq entered] at scaled
  obtain ⟨_, launched, created, ended⟩ := bind_ok_iff.mp scaled
  cases ended
  have added := createApp_addsTask counted created
  rw [launchName_scale] at added
  exact added

theorem scaleApp_returns (succeed : LaunchesSucceed popen)
    (entered : mock.appAttr.lookup app = some (attr, count))
    (counted : Counted mock app)
    (room : mock.portIndex + attr.ports.length ≤ mock.envPorts.length)
    (positive : 0 < attr.ports.length)
    (fresh : app ++ "-scale" ∉ (infoOf mock app).cmgr) :
    ∃ after, scaleApp popen environ app n mock = .ok true after := by
  rw [← @launchName_scale app] at fresh
  obtain ⟨after, created⟩ := @createApp_returns mock popen environ app attr
    (app ++ "-scale") succeed counted room positive fresh
  rw [scaleApp_eq entered]
  exact ⟨after, bind_of_ok created⟩

end Scale

end Scaling

/-- An application that was just created is scaled as asked exactly if it is
not scaled at all, or once and to two tasks. -/
theorem scalesAsAsked_iff {popen : Popen} {environ : Dict String} {app : String}
    {attr : LaunchAttr} {before mock : MockMarathonIF} {ns : List Nat}
    (succeed : LaunchesSucceed popen) (new : app ∉ before.listApps)
    (newAttr : app ∉ before.appAttr)
    (created : createApp popen environ app attr "" before = .ok () mock)
    (suffice : PortsSuffice attr ns mock) :
    ScalesAsAsked popen environ app ns mock ↔ ns = [] ∨ ns = [2] := by
  obtain ⟨launched, had, count, entered⟩ := createApp_new new newAttr created
  constructor
  · cases ns with
    | nil => exact fun _ => Or.inl rfl
    | cons n ns =>
        rintro ⟨after, scaled, hasScale, rest⟩
        have added := scaleApp_addsTask entered had.counted scaled
        have two : n = 2 := (added.hasScale_iff had).mp hasScale
        cases ns with
        | nil =>
            rw [two]
            exact Or.inr rfl
        | cons m ns =>
            -- The second scaling uses the name of the first one again.
            obtain ⟨last, scaledAgain, _⟩ := rest
            have has := added.hasTasks had
            obtain ⟨_, _, _, _, _, _, enteredAgain, _⟩ := added.task
            have again := scaleApp_addsTask enteredAgain has.counted scaledAgain
            exact (again.fresh ((has.jobs _).mpr (List.mem_cons_self ..))).elim
  · rintro (rfl | rfl)
    · trivial
    · have room := suffice 2 (List.mem_singleton.mpr rfl)
      rw [Nat.mul_one] at room
      have fresh : app ++ "-scale" ∉ (infoOf mock app).cmgr := by
        rw [had.jobs, List.mem_singleton]
        exact scale_ne_app
      obtain ⟨after, scaled⟩ := @scaleApp_returns popen environ app attr mock 2
        count succeed entered had.counted room launched.positive fresh
      have added := scaleApp_addsTask entered had.counted scaled
      exact ⟨after, scaled, (added.hasScale_iff had).mpr rfl, trivial⟩

/-- Children that start, with the process ids one after the other. -/
def risingPids : Popen := fun started _ _ => .ok (started + 1)

theorem risingPids_succeed : LaunchesSucceed risingPids :=
  fun started _ _ => ⟨started + 1, rfl⟩

/-- The draws when the random numbers happen to count up. -/
def risingDraws : PortDraws where
  ports := (List.range 100).map fun (port : Nat) => 10000 + (port : Int)
  length_eq := by rw [List.length_map, List.length_range]
  range := by
    intro port member
    obtain ⟨draw, drawn, rfl⟩ := List.mem_map.mp member
    have small := List.mem_range.mp drawn
    constructor <;> omega

/-- A subscriber with its one port. -/
def subscriber : LaunchAttr where
  cmd := "./hydra hydra.rmqtest.rmq_sub.run tcp://127.0.0.1:15800"
  ports := [0]

theorem subscriber_created (draws : PortDraws) : ∃ mock,
    createApp risingPids ∅ "sub" subscriber "" (init draws) = .ok () mock ∧
      mock.portIndex = 1 ∧ mock.envPorts.length = 100 := by
  have none : HasTasks "sub" [] (init draws) :=
    hasTasks_new (AList.notMem_empty _) (AList.notMem_empty _)
  have count : (init draws).envPorts.length = 100 := draws.length_eq
  have room : (init draws).portIndex + subscriber.ports.length ≤
      (init draws).envPorts.length := by
    rw [count]
    change 0 + 1 ≤ 100
    decide
  obtain ⟨mock, created⟩ := @createApp_returns (init draws) risingPids ∅ "sub"
    subscriber "" risingPids_succeed none.counted room (by decide)
    ((none.jobs _).not.mpr List.not_mem_nil)
  have added := createApp_addsTask none.counted created
  exact ⟨mock, created, added.portIndex, by rw [added.envPorts, count]⟩

theorem subscriber_scalesAsAsked_iff : ∃ mock,
    createApp risingPids ∅ "sub" subscriber "" (init risingDraws) =
        .ok () mock ∧
      (ScalesAsAsked risingPids ∅ "sub" [3, 3] mock ↔
        ([3, 3] : List Nat) = [] ∨ [3, 3] = [2]) := by
  obtain ⟨mock, created, portIndex, count⟩ := subscriber_created risingDraws
  refine ⟨mock, created, scalesAsAsked_iff risingPids_succeed
    (AList.notMem_empty _) (AList.notMem_empty _) created ?_⟩
  intro n member
  rw [portIndex, count]
  revert n
  decide

/-- A scaling to three tasks leaves two. -/
theorem subscriber_not_scaled : ¬ ScalesToEverySize := by
  intro scales
  obtain ⟨mock, created, portIndex, count⟩ := subscriber_created risingDraws
  have suffice : PortsSuffice subscriber [3] mock := by
    intro n member
    rw [portIndex, count]
    revert n
    decide
  obtain ⟨after, scaled, hasScale, _⟩ := scales risingPids ∅ "sub" subscriber
    (init risingDraws) mock [3] risingPids_succeed (AList.notMem_empty _)
    (AList.notMem_empty _) created (by decide) suffice
  obtain ⟨launched, had, taskCount, entered⟩ :=
    createApp_new (AList.notMem_empty _) (AList.notMem_empty _) created
  have added := scaleApp_addsTask entered had.counted scaled
  exact absurd ((added.hasScale_iff had).mp hasScale) (by decide)

end MockMarathonIF

end MockBackend

end MScale
