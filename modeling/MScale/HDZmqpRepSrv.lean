import MScale.HydraMessages
import MScale.PublisherLoop

/-!
# The Python ZMQ publisher

The main loop waits until `run_data['start']` is set, runs the publishing loop,
writes its statistics, and waits again.  A daemon shares `run_data` and the
configuration with it and handles one command at a time, between any two
statements of the main loop.  The statements that the publishing loop takes in
one step work on its own variables and one attribute of the configuration: a
new configuration between them acts as one before them, and any other command
as one after them.
-/

namespace MScale

namespace HDZmqpRepSrv

open PublisherLoop

/-! ### `run_data` -/

/-- The readings of `psutil`, as their JSON texts. -/
structure Usage where
  netIoCounters : String
  cpuTimes : String
  memoryInfo : String
  deriving DecidableEq, Repr

/-- A value in `stats`: a number, the JSON text of a time, or the JSON text of
a reading. -/
inductive StatValue
  | int (number : ℕ)
  | float (number : ℚ)
  | time (time : ℚ)
  | usage (text : String)
  deriving DecidableEq, Repr

structure RunData where
  start : Bool
  stats : Dict StatValue
  testStatus : String

/-- `run_data` as `run` creates it. -/
def RunData.initial : RunData where
  start := false
  stats := ((∅ : Dict StatValue).insert "msg_cnt" (.int 0)).insert "rate"
    (.int 0)
  testStatus := "stopped"

/-- `run_data['stats'][key] = value`. -/
def RunData.assign (key : String) (value : StatValue) (runData : RunData) :
    RunData :=
  { runData with stats := runData.stats.insert key value }

/-- The statistics that `test_start` begins with. -/
def startStats (usage : Usage) (now : ℚ) : Dict StatValue :=
  ((((∅ : Dict StatValue).insert "time:start" (.time now)).insert "mem:start"
    (.usage usage.memoryInfo)).insert "cpu:start"
    (.usage usage.cpuTimes)).insert "net:start" (.usage usage.netIoCounters)

/-! ### Commands -/

/-- The second component of a handler's result. -/
inductive Result
  | none
  | stats (stats : Dict StatValue)
  | status (text : String)

abbrev Answer := String × Result

/-- `test_start` when `time.time()` is `now`. -/
def testStart (usage : Usage) (now : ℚ) (_ : RunData) : Answer × RunData :=
  (("ok", .none),
    { start := true
      stats := startStats usage now
      testStatus := "running" })

def getStats (runData : RunData) : Answer :=
  ("ok", .stats runData.stats)

def testStatus (runData : RunData) : Answer :=
  ("ok", .status runData.testStatus)

/-- `update_config` with arguments that it can convert. -/
def updateConfig (updated : PubMetrics) (_ : PubMetrics) :
    Answer × PubMetrics :=
  (("ok", .none), updated)

/-- A command that the publisher registers, with what its handler reads. -/
inductive Command
  | teststart (usage : Usage)
  | getstats
  | teststatus
  | updateconfig (updated : PubMetrics)
  deriving DecidableEq, Repr

def Command.isTeststart : Command → Bool
  | .teststart _ => true
  | _ => false

/-! ### The main loop -/

/-- What happens to the tests: a `teststart` is answered with `ok`, the main
loop begins a test run, hands over a message, leaves the publishing loop, writes
the end time, and resets `run_data['start']`. -/
inductive Event
  | accepted (time : ℚ)
  | began (time : ℚ)
  | published
  | leftLoop (time : ℚ)
  | stopped (time : ℚ)
  | reset
  deriving DecidableEq, Repr

/-- The statement that the main loop executes next. -/
inductive MainPoint
  | checkStart
  | sleeping (wakeTime : ℚ)
  | begin
  | publishing
  | writeTimeEnd
  | writeRate
  | writeMsgCnt
  | writeNetEnd
  | writeCpuEnd
  | writeMemEnd
  | setStopping
  | resetStart
  | raised
  deriving DecidableEq, Repr

/-- The program: the shared data, the variables of the main loop, the clock in
`loop`, and the events so far. -/
structure PubState where
  runData : RunData
  metrics : PubMetrics
  loop : LoopState
  elapsedTime : ℚ
  point : MainPoint
  trace : List Event

/-- `time.time()`. -/
def PubState.now (state : PubState) : ℚ :=
  state.loop.clock

/-- Call the handler of a command. -/
def handle (command : Command) (state : PubState) : Answer × PubState :=
  match command with
  | .teststart usage =>
      let handled := testStart usage state.now state.runData
      (handled.1, { state with runData := handled.2 })
  | .getstats => (getStats state.runData, state)
  | .teststatus => (testStatus state.runData, state)
  | .updateconfig updated =>
      let handled := updateConfig updated state.metrics
      (handled.1, { state with metrics := handled.2 })

/-- Answer a command. -/
def answer (command : Command) (state : PubState) : PubState :=
  let handled := handle command state
  if command.isTeststart && handled.1.1 = "ok" then
    { handled.2 with trace := state.trace ++ [.accepted state.now] }
  else handled.2

/-- The next statement of the publishing loop. -/
def publish (outcome : SendOutcome) (state : PubState) : PubState :=
  let loop := executeStatement .zmq state.metrics outcome state.loop
  match state.loop.point with
  | .send =>
      if outcome = .handedOver then
        { state with loop := loop, trace := state.trace ++ [.published] }
      else { state with loop := loop, point := .raised }
  | .computeDelay =>
      -- The expected time is a quotient by the requested rate.
      if state.metrics.msgRequestedRate = 0
      then { state with point := .raised }
      else { state with loop := loop }
  | .checkDuration =>
      if state.loop.elapsed ≥ state.metrics.testDuration then
        { state with
          loop := loop
          elapsedTime := state.loop.elapsed
          point := .writeTimeEnd
          trace := state.trace ++ [.leftLoop state.now] }
      else { state with loop := loop, elapsedTime := state.loop.elapsed }
  | _ => { state with loop := loop }

/-- Write one of the statistics and go on to the next statement. -/
def PubState.writeStat (key : String) (value : StatValue) (next : MainPoint)
    (state : PubState) : PubState :=
  { state with runData := state.runData.assign key value, point := next }

/-- Execute the next statement of the main loop, where a call that sends has
the given outcome and `psutil` the given readings. -/
def execute (outcome : SendOutcome) (usage : Usage) (state : PubState) :
    PubState :=
  match state.point with
  | .checkStart =>
      if state.runData.start
      then { state with point := .begin }
      else { state with point := .sleeping (state.now + 1) }
  | .sleeping wakeTime =>
      if wakeTime ≤ state.now
      then { state with point := .checkStart }
      else state
  | .begin =>
      { state with
        loop := PublisherLoop.initial state.now
        point := .publishing
        trace := state.trace ++ [.began state.now] }
  | .publishing => publish outcome state
  | .writeTimeEnd =>
      { state.writeStat "time:end" (.time state.now) .writeRate with
        trace := state.trace ++ [.stopped state.now] }
  | .writeRate =>
      if state.elapsedTime = 0
      then { state with point := .raised }
      else state.writeStat "rate"
        (.float (state.loop.msgCnt / state.elapsedTime)) .writeMsgCnt
  | .writeMsgCnt =>
      state.writeStat "msg_cnt" (.int state.loop.msgCnt) .writeNetEnd
  | .writeNetEnd =>
      state.writeStat "net:end" (.usage usage.netIoCounters) .writeCpuEnd
  | .writeCpuEnd =>
      state.writeStat "cpu:end" (.usage usage.cpuTimes) .writeMemEnd
  | .writeMemEnd =>
      state.writeStat "mem:end" (.usage usage.memoryInfo) .setStopping
  | .setStopping =>
      { state with
        runData := { state.runData with testStatus := "stopping" }
        point := .resetStart }
  | .resetStart =>
      { state with
        runData := { state.runData with start := false }
        point := .checkStart
        trace := state.trace ++ [.reset] }
  | .raised => state

/-- What happens next: time passes, the daemon handles a command, or the main
loop executes a statement. -/
inductive Move
  | tick (time : ℚ≥0)
  | command (command : Command)
  | execute (outcome : SendOutcome) (usage : Usage)
  deriving DecidableEq

/-- One move. -/
def step (state : PubState) : Move → PubState
  | .tick time =>
      { state with
        loop := { state.loop with clock := state.loop.clock + time } }
  | .command command => answer command state
  | .execute outcome usage => execute outcome usage state

/-- The state in which the main loop is entered, where its variables have no
values yet. -/
def initial (metrics : PubMetrics) (clock : ℚ) : PubState where
  runData := .initial
  metrics := metrics
  loop := PublisherLoop.initial clock
  elapsedTime := 0
  point := .checkStart
  trace := []

/-! ### Test runs -/

/-- The events since `run_data['start']` was last reset. -/
def sinceReset (trace : List Event) : List Event :=
  trace.foldl (fun since event =>
    if event = .reset then [] else since ++ [event]) []

/-- A test run: when its `teststart` was answered, when the main loop began it,
how many messages it handed over, and when it left the publishing loop and
wrote the end time. -/
structure TestRun where
  accepted : ℚ
  began : ℚ
  msgCnt : ℕ
  left : ℚ
  stopped : ℚ
  deriving DecidableEq, Repr

/-- The events of a test run of its own. -/
def TestRun.events (test : TestRun) : List Event :=
  .accepted test.accepted :: .began test.began ::
    (List.replicate test.msgCnt .published ++
      [.leftLoop test.left, .stopped test.stopped])

/-- The statistics are those of the test run. -/
structure TestRun.Describes (test : TestRun) (stats : Dict StatValue) :
    Prop where
  timeStart : stats.lookup "time:start" = some (.time test.accepted)
  timeEnd : stats.lookup "time:end" = some (.time test.stopped)
  rate : stats.lookup "rate" =
    some (.float (test.msgCnt / (test.left - test.began)))
  msgCnt : stats.lookup "msg_cnt" = some (.int test.msgCnt)

/-- The move ends a test run: it resets `run_data['start']`. -/
def EndsRun (before : PubState) (move : Move) : Prop :=
  before.point = .resetStart ∧ ∃ outcome usage, move = .execute outcome usage

/-- Exactly one `teststart` was answered since the last reset, a test run of its
own followed it, and the statistics are those of that run. -/
def EndsOwnRun (before after : PubState) : Prop :=
  ∃ test : TestRun, sinceReset before.trace = test.events ∧
    test.Describes after.runData.stats

/-- A `teststart` arrives before the test run that an earlier one started has
ended. -/
def Interrupts (before : PubState) (move : Move) : Prop :=
  (∃ usage, move = .command (.teststart usage)) ∧
    before.runData.start = true

end HDZmqpRepSrv

end MScale
