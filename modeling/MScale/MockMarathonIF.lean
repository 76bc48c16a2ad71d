import MScale.ChildManager

/-!
# The mock of Marathon

`MockMarathonIF` stands in for Marathon in local tests: it launches each task as
a child process and gives it ports from a list of random numbers.  This file
embeds the class and describes what its calls do to the tasks of an
application.
-/

namespace MScale

namespace MockBackend

open StateErrors HydraBase ChildManager

/-- `TaskInfo`. -/
structure TaskInfo where
  id : Option String := none
  ports : List Int := []
  host : Option String := none
  deriving DecidableEq, Repr

/-- `AppInfo`; `cmgr` are the jobs of its own `ChildManager`. -/
structure AppInfo where
  cmgr : Dict Job := ∅
  tasks : List TaskInfo := []
  tasksRunning : Nat := 0

/-- What the mock reads of a `MarathonApp`. -/
structure LaunchAttr where
  cmd : String
  ports : List Int
  deriving DecidableEq, Repr

/-- The 100 outcomes of `random.randrange(10000, 20000)`. -/
structure PortDraws where
  ports : List Int
  length_eq : ports.length = 100
  range : ∀ port ∈ ports, 10000 ≤ port ∧ port < 20000

/-- The attributes of `MockMarathonIF`, and the number of processes started so
far.  Ports are kept as numbers; each stands for its decimal text. -/
structure MockMarathonIF where
  envPorts : List Int
  portIndex : Nat
  listApps : Dict AppInfo
  appAttr : Dict (LaunchAttr × Nat)
  started : Nat

abbrev MockM := EStateM Stop MockMarathonIF

namespace MockMarathonIF

/-- `__init__`, with the outcomes drawn by `generate_env_ports`. -/
def init (draws : PortDraws) : MockMarathonIF where
  envPorts := draws.ports
  portIndex := 0
  listApps := ∅
  appAttr := ∅
  started := 0

/-! ## The command of a child -/

/-- `text[text.rfind(pattern):]`; an index of `-1` leaves the last symbol. -/
def fromLast (pattern text : List Char) : List Char :=
  match text.tails.reverse.find? (pattern.isPrefixOf ·) with
  | some found => found
  | none => text.drop (text.length - 1)

/-- `text[text.find(pattern):]`. -/
def fromFirst (pattern text : List Char) : List Char :=
  match text.tails.find? (pattern.isPrefixOf ·) with
  | some found => found
  | none => text.drop (text.length - 1)

/-- White space, with the vertical tab and the form feed. -/
def isSpace (symbol : Char) : Bool :=
  symbol.isWhitespace || symbol.toNat = 11 || symbol.toNat = 12

/-- `text.strip()`. -/
def strip (text : List Char) : List Char :=
  ((text.dropWhile isSpace).reverse.dropWhile isSpace).reverse

/-- The words of the command line that `create_app` makes of `attr.cmd`. -/
def launchCommand (cmd : String) : List String :=
  let cmd := fromLast "./hydra".toList cmd.toList
  let cmd := "hydra ".toList ++ strip (fromFirst [' '] cmd)
  (cmd.splitOn ' ').map String.ofList

/-! ## Parts of `create_app` -/

/-- Take the next port. -/
def takePort : MockM Int := do
  let mock ← get
  match mock.envPorts[mock.portIndex]? with
  | some port =>
      set { mock with portIndex := mock.portIndex + 1 }
      pure port
  | none => throw (.raised (.exception "list index out of range"))

/-- The loop over the requested ports, with the number of the next one. -/
def takePorts : Nat → Nat → Dict String → List Int →
    MockM (Dict String × List Int)
  | 0, _, myenv, currPorts => pure (myenv, currPorts)
  | requested + 1, x, myenv, currPorts => do
      let port ← takePort
      takePorts requested (x + 1)
        (myenv.insert ("PORT" ++ toString x) (toString port))
        (currPorts ++ [port])

/-- Enter the application if it is not there yet. -/
def registerApp (appId : String) (attr : LaunchAttr) (mock : MockMarathonIF) :
    MockMarathonIF :=
  { mock with
    listApps :=
      if appId ∈ mock.listApps then mock.listApps
      else mock.listApps.insert appId {}
    appAttr :=
      if appId ∈ mock.appAttr then mock.appAttr
      else mock.appAttr.insert appId (attr, 0) }

/-- Change the information on an application in place. -/
def modifyApp (appId : String) (change : AppInfo → AppInfo)
    (mock : MockMarathonIF) : MockMarathonIF :=
  match mock.listApps.lookup appId with
  | some info =>
      { mock with listApps := mock.listApps.insert appId (change info) }
  | none => mock

/-- The jobs of an application. -/
def childrenOf (appId : String) (mock : MockMarathonIF) : ChildManager :=
  ⟨match mock.listApps.lookup appId with
    | some info => info.cmgr
    | none => ∅, mock.started⟩

def setChildren (appId : String) (cmgr : ChildManager) (mock : MockMarathonIF) :
    MockMarathonIF :=
  { modifyApp appId (fun info => { info with cmgr := cmgr.jobs }) mock with
    started := cmgr.started }

/-- Call a method of the `ChildManager` of an application. -/
def onChildren {Value : Type} (appId : String) (program : ChildM Value) :
    MockM Value :=
  onPart (childrenOf appId) (setChildren appId) program

/-- `list_apps[app_id].tasks[idx]`, changed in place. -/
def modifyTask (appId : String) (idx : Nat) (change : TaskInfo → TaskInfo) :
    MockM Unit := do
  let info ← index (← get).listApps appId
  if idx < info.tasks.length then
    modify (modifyApp appId fun info =>
      { info with tasks := info.tasks.modify idx change })
  else
    throw (.raised (.exception "list index out of range"))

/-- `str(pid)`. -/
def pidText : Option Int → String
  | some pid => toString pid
  | none => "None"

/-- The part of `create_app` after the launch, where `name` is the name of the
job. -/
def recordTask (appId name : String) : MockM Unit := do
  modify (modifyApp appId fun info => { info with tasks := info.tasks ++ [{}] })
  let (attr, taskCount) ← index (← get).appAttr appId
  let job ← index (← index (← get).listApps appId).cmgr name
  modifyTask appId taskCount fun task => { task with id := some (pidText job.pid) }
  match job.ports with
  | some ports =>
      modifyTask appId taskCount fun task =>
        { task with ports, host := some "localhost" }
      modify (modifyApp appId fun info =>
        { info with tasksRunning := info.tasks.length })
      modify fun mock =>
        { mock with appAttr := mock.appAttr.insert appId (attr, taskCount + 1) }
  | none => throw (.raised (.keyError "ports"))

section Calls

variable (popen : Popen) (environ : Dict String)

/-- `create_app`, where `environ` is `os.environ`. -/
def createApp (appId : String) (attr : LaunchAttr)
    (appLocalLaunchName : String) : MockM Unit := do
  let name := if appLocalLaunchName = "" then appId else appLocalLaunchName
  let (myenv, currPorts) ← takePorts attr.ports.length 0 environ []
  modify (registerApp appId attr)
  onChildren appId (startChild popen currPorts name (launchCommand attr.cmd) none
    (myenv.insert "mock" "true"))
  recordTask appId name

/-- `scale_app`; the number of tasks is not used. -/
def scaleApp (app : String) (_scale : Nat) : MockM Bool := do
  let (attr, _) ← index (← get).appAttr app
  createApp popen environ app attr (app ++ "-scale")
  pure true

/-- `delete_app`. -/
def deleteApp (appId : String) : MockM Unit := do
  match (← get).listApps.lookup appId with
  | none => throw (.raised .attributeError)
  | some _ =>
      onChildren appId (terminateProcessAndChildren appId)
      let (_, taskCount) ← index (← get).appAttr appId
      if taskCount > 1 then
        onChildren appId (terminateProcessAndChildren (appId ++ "-scale"))
      modify fun mock =>
        { mock with
          listApps := mock.listApps.erase appId
          appAttr := mock.appAttr.erase appId }

/-- `wait_app_ready`, with a bound on the rounds of its loop. -/
def waitAppReady (fuel : Nat) (app : String) (runningCount : Nat) :
    MockM AppInfo :=
  repeatUntil .unfinished
    (fun (_ : Unit) => do
      match (← get).listApps.lookup app with
      | none => throw (.raised .attributeError)
      | some a1 =>
          if a1.tasksRunning = runningCount then
            pure (.inl a1)
          else
            pure (.inr ()))
    fuel ()

end Calls

/-! ## What the parts do -/

section Parts

variable {mock after : MockMarathonIF}

theorem takePort_eq {port : Int}
    (there : mock.envPorts[mock.portIndex]? = some port) :
    takePort mock = .ok port { mock with portIndex := mock.portIndex + 1 } := by
  rw [takePort, bind_of_ok (get_ok mock)]
  simp only [there]
  rfl

theorem takePort_none (gone : mock.envPorts[mock.portIndex]? = none) :
    takePort mock =
      .error (.raised (.exception "list index out of range")) mock := by
  rw [takePort, bind_of_ok (get_ok mock)]
  simp only [gone]
  rfl

/-- The requested ports are the next ones of the list. -/
theorem takePorts_returned {requested x : Nat} {myenv : Dict String}
    {currPorts : List Int} {result : Dict String × List Int}
    (returned : takePorts requested x myenv currPorts mock =
      .ok result after) :
    result.2 = currPorts ++ (mock.envPorts.drop mock.portIndex).take requested ∧
      after = { mock with portIndex := mock.portIndex + requested } ∧
      (requested = 0 ∨
        mock.portIndex + requested ≤ mock.envPorts.length) := by
  induction requested generalizing x myenv currPorts mock with
  | zero =>
      cases returned
      exact ⟨by simp, rfl, Or.inl rfl⟩
  | succ requested ih =>
      cases there : mock.envPorts[mock.portIndex]? with
      | none =>
          rw [takePorts, bind_of_error (takePort_none there)] at returned
          cases returned
      | some port =>
          rw [takePorts, bind_of_ok (takePort_eq there)] at returned
          obtain ⟨portsEq, afterEq, room⟩ := ih returned
          obtain ⟨within, portEq⟩ := List.getElem?_eq_some_iff.mp there
          refine ⟨?_, ?_, ?_⟩
          · rw [portsEq, List.append_assoc, List.drop_eq_getElem_cons within,
              portEq, List.take_succ_cons]
            rfl
          · rw [afterEq]
            simp only [MockMarathonIF.mk.injEq, true_and, and_true]
            omega
          · simp only at room
            omega

theorem takePorts_returns {requested : Nat}
    (room : mock.portIndex + requested ≤ mock.envPorts.length) (x : Nat)
    (myenv : Dict String) (currPorts : List Int) :
    ∃ result, takePorts requested x myenv currPorts mock =
      .ok result { mock with portIndex := mock.portIndex + requested } := by
  induction requested generalizing x myenv currPorts mock with
  | zero => exact ⟨(myenv, currPorts), rfl⟩
  | succ requested ih =>
      have within : mock.portIndex < mock.envPorts.length := by omega
      have there := List.getElem?_eq_getElem within
      obtain ⟨result, ended⟩ := @ih
        { mock with portIndex := mock.portIndex + 1 } (by simp only; omega) (x + 1)
        (myenv.insert ("PORT" ++ toString x)
          (toString mock.envPorts[mock.portIndex]))
        (currPorts ++ [mock.envPorts[mock.portIndex]])
      refine ⟨result, ?_⟩
      rw [takePorts, bind_of_ok (takePort_eq there), ended]
      simp only [EStateM.Result.ok.injEq, MockMarathonIF.mk.injEq, true_and,
        and_true]
      omega

theorem modifyApp_found {appId : String} {info : AppInfo}
    (found : mock.listApps.lookup appId = some info)
    (change : AppInfo → AppInfo) :
    modifyApp appId change mock =
      { mock with listApps := mock.listApps.insert appId (change info) } := by
  rw [modifyApp]
  simp only [found]

theorem modify_last {Item : Type} (items : List Item) (item : Item)
    (change : Item → Item) :
    (items ++ [item]).modify items.length change = items ++ [change item] := by
  induction items with
  | nil => rfl
  | cons first items ih =>
      rw [List.length_cons, List.cons_append, List.modify_succ_cons, ih]
      rfl

/-- The last task of an application is changed. -/
theorem modifyTask_last {appId : String} {info : AppInfo}
    {tasks : List TaskInfo} {task : TaskInfo}
    (found : mock.listApps.lookup appId = some info)
    (tasksEq : info.tasks = tasks ++ [task]) (change : TaskInfo → TaskInfo) :
    modifyTask appId tasks.length change mock =
      .ok () { mock with
        listApps := mock.listApps.insert appId
          { info with tasks := tasks ++ [change task] } } := by
  have within : tasks.length < info.tasks.length := by
    rw [tasksEq]
    simp
  rw [modifyTask, bind_of_ok (get_ok mock), index_bind]
  simp only [found]
  rw [if_pos within, modify_ok, modifyApp_found found, tasksEq, modify_last]

/-- The task that `create_app` records for a job. -/
def recordedTask (pid : Option Int) (ports : List Int) : TaskInfo where
  id := some (pidText pid)
  ports := ports
  host := some "localhost"

section Record

variable {appId name : String} {attr : LaunchAttr} {info : AppInfo} {job : Job}

/-- Recording a task up to its ports. -/
theorem recordTask_eq
    (found : mock.listApps.lookup appId = some info)
    (counted : mock.appAttr.lookup appId = some (attr, info.tasks.length))
    (launched : info.cmgr.lookup name = some job) :
    recordTask appId name mock =
      match job.ports with
      | some ports =>
          .ok () { mock with
            listApps := mock.listApps.insert appId
              { info with
                tasks := info.tasks ++ [recordedTask job.pid ports]
                tasksRunning := info.tasks.length + 1 }
            appAttr :=
              mock.appAttr.insert appId (attr, info.tasks.length + 1) }
      | none =>
          .error (.raised (.keyError "ports")) { mock with
            listApps := mock.listApps.insert appId
              { info with
                tasks := info.tasks ++ [{ id := some (pidText job.pid) }] } } := by
  rw [recordTask, bind_of_ok (modify_ok _ mock), modifyApp_found found,
    bind_of_ok (get_ok _), index_bind]
  simp only [counted]
  rw [bind_of_ok (get_ok _), index_bind]
  simp only [AList.lookup_insert]
  rw [index_bind]
  simp only [launched]
  rw [bind_of_ok (modifyTask_last (AList.lookup_insert _) rfl _)]
  cases job.ports with
  | none =>
      simp only [AList.insert_insert]
      rfl
  | some ports =>
      simp only
      rw [bind_of_ok (modifyTask_last (AList.lookup_insert _) rfl _),
        bind_of_ok (modify_ok _ _), modifyApp_found (AList.lookup_insert _),
        modify_ok]
      simp only [AList.insert_insert, List.length_append, List.length_singleton]
      rfl

end Record

/-! ## What a launch does -/

/-- The information on an application, empty before its first launch. -/
def infoOf (mock : MockMarathonIF) (appId : String) : AppInfo :=
  (mock.listApps.lookup appId).getD {}

theorem infoOf_found {appId : String} {info : AppInfo}
    (found : mock.listApps.lookup appId = some info) : infoOf mock appId = info := by
  rw [infoOf, found]
  rfl

/-- The number of tasks that `app_attr` has for an application is right. -/
def Counted (mock : MockMarathonIF) (appId : String) : Prop :=
  (mock.appAttr.lookup appId).map Prod.snd =
    (mock.listApps.lookup appId).map (·.tasks.length)

/-- The attributes an application was registered with, or those it will be. -/
def attrOf (mock : MockMarathonIF) (appId : String) (attr : LaunchAttr) :
    LaunchAttr :=
  ((mock.appAttr.lookup appId).map Prod.fst).getD attr

/-- The ports that the next task gets. -/
def nextPorts (mock : MockMarathonIF) (requested : Nat) : List Int :=
  (mock.envPorts.drop mock.portIndex).take requested

section Register

variable {appId : String} (attr : LaunchAttr)

theorem registerApp_found :
    (registerApp appId attr mock).listApps.lookup appId =
      some (infoOf mock appId) := by
  unfold registerApp infoOf
  by_cases present : appId ∈ mock.listApps
  · obtain ⟨info, found⟩ := Option.isSome_iff_exists.mp
      (AList.lookup_isSome.mpr present)
    simp only [present, if_true, found, Option.getD_some]
  · simp only [present, if_false, AList.lookup_insert,
      AList.lookup_eq_none.mpr present, Option.getD_none]

theorem registerApp_other {other : String} (different : other ≠ appId) :
    (registerApp appId attr mock).listApps.lookup other =
        mock.listApps.lookup other ∧
      (registerApp appId attr mock).appAttr.lookup other =
        mock.appAttr.lookup other := by
  constructor
  · simp only [registerApp]
    split
    · rfl
    · exact AList.lookup_insert_ne different
  · simp only [registerApp]
    split
    · rfl
    · exact AList.lookup_insert_ne different

theorem registerApp_counted (counted : Counted mock appId) :
    (registerApp appId attr mock).appAttr.lookup appId =
      some (attrOf mock appId attr, (infoOf mock appId).tasks.length) := by
  unfold Counted at counted
  unfold registerApp attrOf infoOf
  by_cases present : appId ∈ mock.appAttr
  · obtain ⟨⟨attr', taskCount⟩, found⟩ := Option.isSome_iff_exists.mp
      (AList.lookup_isSome.mpr present)
    simp only [present, if_true]
    rw [found] at counted ⊢
    cases listed : mock.listApps.lookup appId with
    | none =>
        rw [listed] at counted
        cases counted
    | some info =>
        rw [listed] at counted
        cases counted
        rfl
  · have unlisted : mock.listApps.lookup appId = none := by
      rw [AList.lookup_eq_none.mpr present, Option.map_none] at counted
      exact Option.map_eq_none_iff.mp counted.symm
    simp only [present, if_false, AList.lookup_insert, unlisted,
      AList.lookup_eq_none.mpr present]
    rfl

end Register

/-- A launch adds one task with the next ports to the application, and a job
under a new name. -/
structure AddsTask (appId name : String) (attr : LaunchAttr)
    (before after : MockMarathonIF) : Prop where
  envPorts : after.envPorts = before.envPorts
  portIndex : after.portIndex = before.portIndex + attr.ports.length
  room : before.portIndex + attr.ports.length ≤ before.envPorts.length
  positive : 0 < attr.ports.length
  fresh : name ∉ (infoOf before appId).cmgr
  task : ∃ info task, after.listApps.lookup appId = some info ∧
    info.tasks = (infoOf before appId).tasks ++ [task] ∧
    task.ports = nextPorts before attr.ports.length ∧
    info.tasksRunning = info.tasks.length ∧
    after.appAttr.lookup appId =
      some (attrOf before appId attr, info.tasks.length) ∧
    ∀ other, other ∈ info.cmgr ↔
      other = name ∨ other ∈ (infoOf before appId).cmgr
  others : ∀ other, other ≠ appId →
    after.listApps.lookup other = before.listApps.lookup other ∧
      after.appAttr.lookup other = before.appAttr.lookup other

section Child

variable {popen : Popen} {appId name : String} {info : AppInfo}
  {ports : List Int} {cmd : List String} {wdir : Option String}
  {env : Dict String}

theorem childrenOf_found (found : mock.listApps.lookup appId = some info) :
    childrenOf appId mock = ⟨info.cmgr, mock.started⟩ := by
  simp only [childrenOf, found]

theorem setChildren_found (found : mock.listApps.lookup appId = some info)
    (cmgr : ChildManager) :
    setChildren appId cmgr mock =
      { mock with
        listApps := mock.listApps.insert appId { info with cmgr := cmgr.jobs }
        started := cmgr.started } := by
  rw [setChildren, modifyApp_found found]

theorem child_returned (found : mock.listApps.lookup appId = some info)
    (returned : onChildren appId
      (startChild popen ports name cmd wdir env) mock = .ok () after) :
    name ∉ info.cmgr ∧ ∃ (cmgr : ChildManager) (pid : Int),
      after = { mock with
        listApps := mock.listApps.insert appId { info with cmgr := cmgr.jobs }
        started := cmgr.started } ∧
      cmgr.jobs.lookup name =
        some (launchedJob { cmd, cwd := wdir, env } pid ports) ∧
      ∀ other, other ∈ cmgr.jobs ↔ other = name ∨ other ∈ info.cmgr := by
  obtain ⟨cmgr, launched, afterEq⟩ := onPart_ok_iff.mp returned
  rw [childrenOf_found found] at launched
  rw [setChildren_found found] at afterEq
  obtain ⟨fresh, ⟨pid, job⟩, names⟩ := startChild_returned launched
  exact ⟨fresh, cmgr, pid, afterEq, job, names⟩

theorem child_returns (succeed : LaunchesSucceed popen)
    (found : mock.listApps.lookup appId = some info)
    (fresh : name ∉ info.cmgr) :
    ∃ after, onChildren appId (startChild popen ports name cmd wdir env) mock =
      .ok () after := by
  obtain ⟨cmgr, launched⟩ := @startChild_returns popen ports
    ⟨info.cmgr, mock.started⟩ name cmd wdir env succeed fresh
  rw [← childrenOf_found found] at launched
  exact ⟨_, onPart_ok_iff.mpr ⟨cmgr, launched, rfl⟩⟩

end Child

section Create

variable {popen : Popen} {environ : Dict String} {appId : String}
  {attr : LaunchAttr} {appLocalLaunchName : String}

/-- The name of the job. -/
def launchName (appId appLocalLaunchName : String) : String :=
  if appLocalLaunchName = "" then appId else appLocalLaunchName

/-- The state of the mock when the child is launched. -/
def beforeChild (appId : String) (attr : LaunchAttr) (mock : MockMarathonIF) :
    MockMarathonIF :=
  registerApp appId attr
    { mock with portIndex := mock.portIndex + attr.ports.length }

theorem beforeChild_found : (beforeChild appId attr mock).listApps.lookup appId =
    some (infoOf mock appId) :=
  @registerApp_found { mock with portIndex := mock.portIndex + attr.ports.length }
    appId attr

theorem beforeChild_counted (counted : Counted mock appId) :
    (beforeChild appId attr mock).appAttr.lookup appId =
      some (attrOf mock appId attr, (infoOf mock appId).tasks.length) :=
  @registerApp_counted
    { mock with portIndex := mock.portIndex + attr.ports.length } appId attr
    counted

/-- The part of `create_app` from the launch on. -/
def launchTask (popen : Popen) (appId name : String) (attr : LaunchAttr)
    (currPorts : List Int) (myenv : Dict String) : MockM Unit := do
  onChildren appId (startChild popen currPorts name (launchCommand attr.cmd) none
    (myenv.insert "mock" "true"))
  recordTask appId name

/-- A `create_app` that gets its ports goes on to launch the task. -/
theorem createApp_eq {myenv : Dict String} {currPorts : List Int}
    (took : takePorts attr.ports.length 0 environ [] mock =
      .ok (myenv, currPorts)
        { mock with portIndex := mock.portIndex + attr.ports.length }) :
    createApp popen environ appId attr appLocalLaunchName mock =
      launchTask popen appId (launchName appId appLocalLaunchName) attr currPorts
        myenv (beforeChild appId attr mock) := by
  rw [createApp, bind_of_ok took]
  exact bind_of_ok (modify_ok _ _)

/-- The state after a child was recorded. -/
def recorded (appId : String) (info : AppInfo) (attr : LaunchAttr)
    (currPorts : List Int) (cmgr : ChildManager) (pid : Int)
    (mock : MockMarathonIF) : MockMarathonIF :=
  { mock with
    listApps := mock.listApps.insert appId
      { cmgr := cmgr.jobs
        tasks := info.tasks ++ [recordedTask (some pid) currPorts]
        tasksRunning := info.tasks.length + 1 }
    appAttr := mock.appAttr.insert appId (attr, info.tasks.length + 1)
    started := cmgr.started }

section Task

variable {name : String} {currPorts : List Int} {myenv : Dict String}
  {info : AppInfo} {attr' : LaunchAttr}

/-- A child that was launched is recorded, unless it has no ports. -/
theorem recordTask_child {started : MockMarathonIF}
    (found : mock.listApps.lookup appId = some info)
    (taskCount : mock.appAttr.lookup appId = some (attr', info.tasks.length))
    (launched : onChildren appId (startChild popen currPorts name
      (launchCommand attr.cmd) none myenv) mock = .ok () started) :
    ∃ (cmgr : ChildManager) (pid : Int),
      (∀ other, other ∈ cmgr.jobs ↔ other = name ∨ other ∈ info.cmgr) ∧
      (currPorts = [] → ∀ after, recordTask appId name started ≠ .ok () after) ∧
      (currPorts ≠ [] → recordTask appId name started =
        .ok () (recorded appId info attr' currPorts cmgr pid mock)) := by
  obtain ⟨_, cmgr, pid, startedEq, job, names⟩ := child_returned found launched
  have foundStarted : started.listApps.lookup appId =
      some { info with cmgr := cmgr.jobs } := by
    rw [startedEq]
    exact AList.lookup_insert _
  have countStarted : started.appAttr.lookup appId =
      some (attr', info.tasks.length) := by
    rw [startedEq]
    exact taskCount
  have outcome := recordTask_eq foundStarted countStarted job
  refine ⟨cmgr, pid, names, ?_, ?_⟩
  · intro none after same
    simp only [launchedJob, none, if_true] at outcome
    rw [same] at outcome
    cases outcome
  · intro given
    simp only [launchedJob, given, if_false] at outcome
    rw [outcome, startedEq]
    simp only [AList.insert_insert]
    rfl

/-- A launch that returns has recorded the new child. -/
theorem launchTask_returned
    (found : mock.listApps.lookup appId = some info)
    (taskCount : mock.appAttr.lookup appId = some (attr', info.tasks.length))
    (returned : launchTask popen appId name attr currPorts myenv mock =
      .ok () after) :
    currPorts ≠ [] ∧ name ∉ info.cmgr ∧ ∃ (cmgr : ChildManager) (pid : Int),
      after = recorded appId info attr' currPorts cmgr pid mock ∧
        ∀ other, other ∈ cmgr.jobs ↔ other = name ∨ other ∈ info.cmgr := by
  obtain ⟨_, started, launched, ended⟩ := bind_ok_iff.mp returned
  obtain ⟨cmgr, pid, names, refused, accepted⟩ :=
    recordTask_child found taskCount launched
  have given : currPorts ≠ [] := fun none => refused none after ended
  rw [accepted given] at ended
  cases ended
  exact ⟨given, (child_returned found launched).1, cmgr, pid, rfl, names⟩

theorem launchTask_returns (succeed : LaunchesSucceed popen)
    (found : mock.listApps.lookup appId = some info)
    (taskCount : mock.appAttr.lookup appId = some (attr', info.tasks.length))
    (given : currPorts ≠ []) (fresh : name ∉ info.cmgr) :
    ∃ after, launchTask popen appId name attr currPorts myenv mock =
      .ok () after := by
  obtain ⟨started, launched⟩ := child_returns succeed found fresh
  obtain ⟨cmgr, pid, _, _, accepted⟩ :=
    recordTask_child found taskCount launched
  exact ⟨_, (bind_of_ok launched).trans (accepted given)⟩

end Task

theorem createApp_addsTask (counted : Counted mock appId)
    (returned : createApp popen environ appId attr appLocalLaunchName mock =
      .ok () after) :
    AddsTask appId (launchName appId appLocalLaunchName) attr mock after := by
  cases took : takePorts attr.ports.length 0 environ [] mock with
  | error stop taken =>
      rw [createApp, bind_of_error took] at returned
      cases returned
  | ok result taken =>
      obtain ⟨myenv, currPorts⟩ := result
      obtain ⟨portsEq, rfl, room⟩ := takePorts_returned took
      rw [createApp_eq took] at returned
      obtain ⟨given, fresh, cmgr, pid, rfl, names⟩ := launchTask_returned
        beforeChild_found (beforeChild_counted counted) returned
      have positive : attr.ports.length ≠ 0 := by
        intro zero
        rw [zero] at portsEq
        exact given (by simpa using portsEq)
      constructor
      · rfl
      · rfl
      · exact room.resolve_left positive
      · exact Nat.pos_of_ne_zero positive
      · exact fresh
      · refine ⟨_, _, AList.lookup_insert _, rfl, portsEq, by simp, ?_, names⟩
        refine (AList.lookup_insert _).trans ?_
        simp only [List.length_append, List.length_singleton]
      · intro other different
        obtain ⟨apps, attrs⟩ := registerApp_other attr different
        exact ⟨(AList.lookup_insert_ne different).trans apps,
          (AList.lookup_insert_ne different).trans attrs⟩

/-- With ports left and a new name a launch returns, as long as children
start. -/
theorem createApp_returns (succeed : LaunchesSucceed popen)
    (counted : Counted mock appId)
    (room : mock.portIndex + attr.ports.length ≤ mock.envPorts.length)
    (positive : 0 < attr.ports.length)
    (fresh : launchName appId appLocalLaunchName ∉ (infoOf mock appId).cmgr) :
    ∃ after, createApp popen environ appId attr appLocalLaunchName mock =
      .ok () after := by
  obtain ⟨⟨myenv, currPorts⟩, took⟩ := takePorts_returns room 0 environ []
  obtain ⟨portsEq, _, _⟩ := takePorts_returned took
  have given : currPorts ≠ [] := by
    intro none
    have lengths := congrArg List.length portsEq
    simp only [none, List.length_nil, List.nil_append, List.length_take,
      List.length_drop] at lengths
    omega
  obtain ⟨after, launched⟩ := @launchTask_returns _ popen appId attr
    (launchName appId appLocalLaunchName) currPorts myenv _ _ succeed
    beforeChild_found (beforeChild_counted counted) given fresh
  exact ⟨after, (createApp_eq took).trans launched⟩

theorem AddsTask.counted {name : String}
    (added : AddsTask appId name attr mock after) : Counted after appId := by
  obtain ⟨info, _, listed, _, _, _, entered, _⟩ := added.task
  rw [Counted, listed, entered]
  rfl

end Create

end Parts

end MockMarathonIF

end MockBackend

end MScale
