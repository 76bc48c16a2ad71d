import MScale.HydraRefresh

/-!
# Child processes

`ChildManager` keeps a job for every child process under a name: a name is
added once, and a launch starts every job that is not running.  How a process
starts is a parameter.
-/

namespace MScale

open StateErrors HydraBase

/-- A job of a `ChildManager`; `pid` and `ports` are there once it is
launched. -/
structure Job where
  cmd : List String
  cwd : Option String
  env : Dict String
  running : Bool := false
  pid : Option Int := none
  ports : Option (List Int) := none

/-- `subprocess.Popen` with its log files, by the number of processes that were
started before: the process id, or why it did not start. -/
abbrev Popen := Nat → List String → Dict String → Except PyError Int

/-- Every process starts. -/
def LaunchesSucceed (popen : Popen) : Prop :=
  ∀ started cmd env, ∃ pid, popen started cmd env = .ok pid

/-- The jobs, and the number of processes started so far. -/
structure ChildManager where
  jobs : Dict Job
  started : Nat

abbrev ChildM := EStateM Stop ChildManager

namespace ChildManager

/-- `jobs[name] = job`. -/
def setJob (name : String) (job : Job) : ChildM Unit :=
  modify fun cmgr => { cmgr with jobs := cmgr.jobs.insert name job }

/-- `add_child`. -/
def addChild (name : String) (cmd : List String) (wdir : Option String)
    (env : Dict String) : ChildM Unit := do
  if name ∈ (← get).jobs then
    throw (.raised
      (.exception ("Name " ++ name ++ " is already scheduled to launch")))
  else
    setJob name { cmd, cwd := wdir, env }

/-- A job whose process was started. -/
def launchedJob (job : Job) (pid : Int) (ports : List Int) : Job :=
  { job with
    running := true
    pid := some pid
    ports := if ports = [] then job.ports else some ports }

/-- The body of the loop of `launch_children`. -/
def launchChild (popen : Popen) (ports : List Int) (name : String) :
    ChildM Unit := do
  let job ← index (← get).jobs name
  if job.running then
    pure ()
  else
    setJob name { job with pid := none }
    match popen (← get).started job.cmd job.env with
    | .ok pid =>
        modify fun cmgr => { cmgr with started := cmgr.started + 1 }
        setJob name (launchedJob job pid ports)
    | .error error => throw (.raised error)

def launchEach (popen : Popen) (ports : List Int) : List String → ChildM Unit
  | [] => pure ()
  | name :: names => do
      launchChild popen ports name
      launchEach popen ports names

/-- `launch_children`. -/
def launchChildren (popen : Popen) (ports : List Int) : ChildM Unit := do
  launchEach popen ports (← get).jobs.keys

/-- `terminate_process_and_children`: the processes are killed if they still
exist, and the job stays. -/
def terminateProcessAndChildren (name : String) : ChildM Unit := do
  let job ← index (← get).jobs name
  match job.pid with
  | some _ => pure ()
  | none => throw (.raised (.keyError "process"))

section Launches

variable {popen : Popen} {ports : List Int} {before after : ChildManager}

theorem addChild_fresh {name : String} (fresh : name ∉ before.jobs)
    (cmd : List String) (wdir : Option String) (env : Dict String) :
    addChild name cmd wdir env before =
      .ok () { before with
        jobs := before.jobs.insert name { cmd, cwd := wdir, env } } := by
  rw [addChild, bind_of_ok (get_ok before), if_neg fresh]
  rfl

theorem addChild_used {name : String} (used : name ∈ before.jobs)
    (cmd : List String) (wdir : Option String) (env : Dict String) :
    addChild name cmd wdir env before =
      .error (.raised (.exception
        ("Name " ++ name ++ " is already scheduled to launch"))) before := by
  rw [addChild, bind_of_ok (get_ok before), if_pos used]
  rfl

/-- A job that is running is left alone. -/
theorem launchChild_running {name : String} {job : Job}
    (found : before.jobs.lookup name = some job) (running : job.running = true) :
    launchChild popen ports name before = .ok () before := by
  rw [launchChild, bind_of_ok (get_ok before), index_bind]
  simp only [found, running]
  rfl

/-- A job that is not running becomes a launched one. -/
theorem launchChild_started {name : String} {job : Job} {pid : Int}
    (found : before.jobs.lookup name = some job)
    (waiting : job.running = false)
    (opened : popen before.started job.cmd job.env = .ok pid) :
    launchChild popen ports name before =
      .ok () ⟨before.jobs.insert name (launchedJob job pid ports),
        before.started + 1⟩ := by
  rw [launchChild, bind_of_ok (get_ok before), index_bind]
  simp only [found, waiting, Bool.false_eq_true, if_false, setJob]
  rw [bind_of_ok (modify_ok _ before), bind_of_ok (get_ok _)]
  simp only [opened]
  rw [bind_of_ok (modify_ok _ _), modify_ok]
  simp only [AList.insert_insert]

/-- A launch that returns has left the job running, or found it so. -/
theorem launchChild_returned {name : String} {job : Job}
    (found : before.jobs.lookup name = some job)
    (returned : launchChild popen ports name before = .ok () after) :
    job.running = true ∧ after = before ∨
      job.running = false ∧ ∃ pid, after =
        ⟨before.jobs.insert name (launchedJob job pid ports),
          before.started + 1⟩ := by
  cases running : job.running with
  | true =>
      rw [launchChild_running found running] at returned
      cases returned
      exact Or.inl ⟨rfl, rfl⟩
  | false =>
      right
      cases opened : popen before.started job.cmd job.env with
      | ok pid =>
          rw [launchChild_started found running opened] at returned
          cases returned
          exact ⟨rfl, pid, rfl⟩
      | error error =>
          rw [launchChild, bind_of_ok (get_ok before), index_bind] at returned
          simp only [found, running, Bool.false_eq_true, if_false, setJob]
            at returned
          rw [bind_of_ok (modify_ok _ before), bind_of_ok (get_ok _)] at returned
          simp only [opened] at returned
          cases returned

/-- A loop over distinct jobs leaves each of them running, launched now or
before, and the other jobs alone. -/
theorem launchEach_returned {names : List String} (distinct : names.Nodup)
    (present : ∀ name ∈ names, name ∈ before.jobs)
    (returned : launchEach popen ports names before = .ok () after) :
    (∀ name ∉ names, after.jobs.lookup name = before.jobs.lookup name) ∧
      ∀ name ∈ names, ∀ job, before.jobs.lookup name = some job →
        job.running = true ∧ after.jobs.lookup name = some job ∨
          job.running = false ∧ ∃ pid,
            after.jobs.lookup name = some (launchedJob job pid ports) := by
  induction names generalizing before with
  | nil =>
      cases returned
      exact ⟨fun _ _ => rfl, by simp⟩
  | cons first names ih =>
      obtain ⟨notLater, distinct⟩ := List.nodup_cons.mp distinct
      obtain ⟨here, present⟩ := List.forall_mem_cons.mp present
      obtain ⟨job, found⟩ := Option.isSome_iff_exists.mp
        (AList.lookup_isSome.mpr here)
      obtain ⟨_, middle, launched, rest⟩ := bind_ok_iff.mp returned
      have others : ∀ name, name ≠ first →
          middle.jobs.lookup name = before.jobs.lookup name := by
        intro name different
        rcases launchChild_returned found launched with
          ⟨_, rfl⟩ | ⟨_, pid, rfl⟩
        · rfl
        · exact AList.lookup_insert_ne different
      have presentLater : ∀ name ∈ names, name ∈ middle.jobs := by
        intro name member
        rw [← AList.lookup_isSome, others name
          (ne_of_mem_of_not_mem member notLater), AList.lookup_isSome]
        exact present name member
      obtain ⟨outside, inside⟩ := ih distinct presentLater rest
      constructor
      · intro name absent
        rw [outside name (List.not_mem_of_not_mem_cons absent),
          others name (List.ne_of_not_mem_cons absent)]
      · intro name member job' found'
        by_cases same : name = first
        · subst same
          rw [found] at found'
          cases found'
          rw [outside name notLater]
          rcases launchChild_returned found launched with
            ⟨running, rfl⟩ | ⟨waiting, pid, rfl⟩
          · exact Or.inl ⟨running, found⟩
          · exact Or.inr ⟨waiting, pid, AList.lookup_insert _⟩
        · apply inside name (List.mem_of_ne_of_mem same member) job'
          rw [others name same]
          exact found'

theorem launchEach_returns (succeed : LaunchesSucceed popen)
    {names : List String} (present : ∀ name ∈ names, name ∈ before.jobs) :
    ∃ after, launchEach popen ports names before = .ok () after := by
  induction names generalizing before with
  | nil => exact ⟨before, rfl⟩
  | cons first names ih =>
      obtain ⟨here, present⟩ := List.forall_mem_cons.mp present
      obtain ⟨job, found⟩ := Option.isSome_iff_exists.mp
        (AList.lookup_isSome.mpr here)
      cases running : job.running with
      | true =>
          obtain ⟨after, ended⟩ := ih present
          exact ⟨after, (bind_of_ok (launchChild_running found running)).trans
            ended⟩
      | false =>
          obtain ⟨pid, opened⟩ := succeed before.started job.cmd job.env
          have launched := @launchChild_started popen ports before first job pid
            found running opened
          have presentLater : ∀ name ∈ names,
              name ∈ before.jobs.insert first (launchedJob job pid ports) :=
            fun name member => (AList.mem_insert _).mpr (Or.inr (present name member))
          obtain ⟨after, ended⟩ := @ih ⟨_, before.started + 1⟩ presentLater
          exact ⟨after, (bind_of_ok launched).trans ended⟩

/-- Add a job and launch it. -/
def startChild (popen : Popen) (ports : List Int) (name : String)
    (cmd : List String) (wdir : Option String) (env : Dict String) :
    ChildM Unit := do
  addChild name cmd wdir env
  launchChildren popen ports

section Start

variable {name : String} {cmd : List String} {wdir : Option String}
  {env : Dict String}

theorem startChild_used (used : name ∈ before.jobs) :
    startChild popen ports name cmd wdir env before =
      .error (.raised (.exception
        ("Name " ++ name ++ " is already scheduled to launch"))) before :=
  bind_of_error (addChild_used used cmd wdir env)

theorem startChild_fresh (fresh : name ∉ before.jobs) :
    startChild popen ports name cmd wdir env before =
      launchEach popen ports
        (before.jobs.insert name { cmd, cwd := wdir, env }).keys
        ⟨before.jobs.insert name { cmd, cwd := wdir, env }, before.started⟩ := by
  rw [startChild, bind_of_ok (addChild_fresh fresh cmd wdir env),
    launchChildren, bind_of_ok (get_ok _)]

/-- A new job that was started is launched, and there is no other new job. -/
theorem startChild_returned
    (returned : startChild popen ports name cmd wdir env before =
      .ok () after) :
    name ∉ before.jobs ∧
      (∃ pid, after.jobs.lookup name = some (launchedJob
        { cmd, cwd := wdir, env } pid ports)) ∧
      ∀ other, other ∈ after.jobs ↔ other = name ∨ other ∈ before.jobs := by
  by_cases used : name ∈ before.jobs
  · rw [startChild_used used] at returned
    cases returned
  · refine ⟨used, ?_⟩
    rw [startChild_fresh used] at returned
    obtain ⟨outside, inside⟩ := @launchEach_returned popen ports
      ⟨before.jobs.insert name { cmd, cwd := wdir, env }, before.started⟩ after
      _ (AList.keys_nodup _) (fun _ => AList.mem_keys.mp) returned
    constructor
    · have launched := inside name (AList.mem_keys.mpr
        ((AList.mem_insert _).mpr (Or.inl rfl))) _ (AList.lookup_insert _)
      simpa using launched
    · intro other
      rw [← AList.mem_insert]
      by_cases present : other ∈ before.jobs.insert name { cmd, cwd := wdir, env }
      · obtain ⟨job, found⟩ := Option.isSome_iff_exists.mp
          (AList.lookup_isSome.mpr present)
        refine iff_of_true (AList.lookup_isSome.mp ?_) present
        rcases inside other (AList.mem_keys.mpr present) job found with
          ⟨_, kept⟩ | ⟨_, pid, launched⟩
        · rw [kept]
          rfl
        · rw [launched]
          rfl
      · refine iff_of_false ?_ present
        have absent := outside other (mt AList.mem_keys.mp present)
        rw [← AList.lookup_isSome, absent, AList.lookup_isSome]
        exact present

theorem startChild_returns (succeed : LaunchesSucceed popen)
    (fresh : name ∉ before.jobs) :
    ∃ after, startChild popen ports name cmd wdir env before = .ok () after := by
  rw [startChild_fresh fresh]
  exact launchEach_returns succeed fun _ => AList.mem_keys.mp

end Start

end Launches

end ChildManager

end MScale
