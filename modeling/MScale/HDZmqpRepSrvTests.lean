import MScale.HDZmqpRepSrv
import MScale.LabelledRuns
import MScale.PublisherPacing

/-!
# Tests of the Python ZMQ publisher

As long as every `teststart` arrives while `run_data['start']` is unset, the
events since the last reset are the beginning of one test run, and the shared
statistics agree with it.  A `teststart` that arrives earlier replaces the
statistics of the test run in progress, and the next reset takes back its start
too.  So the test runs that end are runs of their own exactly if none ends after
such a `teststart`.
-/

namespace MScale

namespace HDZmqpRepSrv

open PublisherLoop LabelledRuns

/-! ### Events since the last reset -/

theorem sinceReset_concat (trace : List Event) (event : Event) :
    sinceReset (trace ++ [event]) =
      if event = .reset then [] else sinceReset trace ++ [event] := by
  simp [sinceReset, List.foldl_append]

theorem sinceReset_append {events : List Event} (trace : List Event)
    (noReset : .reset ∉ events) :
    sinceReset (trace ++ events) = sinceReset trace ++ events := by
  induction events using List.reverseRecOn with
  | nil => simp
  | append_singleton events event ih =>
      rw [List.mem_append, not_or, List.mem_singleton] at noReset
      rw [← List.append_assoc, sinceReset_concat, if_neg (Ne.symm noReset.2),
        ih noReset.1, List.append_assoc]

/-- Where a test run is, with the part of it that has already happened. -/
inductive TestPhase
  | idle
  | starting (accepted : ℚ)
  | running (accepted began : ℚ) (sent : ℕ)
  | leaving (accepted began : ℚ) (sent : ℕ) (left : ℚ)
  | stopping (test : TestRun)
  deriving DecidableEq, Repr

/-- The events of a test run up to a phase. -/
def TestPhase.events : TestPhase → List Event
  | .idle => []
  | .starting accepted => [.accepted accepted]
  | .running accepted began sent =>
      .accepted accepted :: .began began :: List.replicate sent .published
  | .leaving accepted began sent left =>
      .accepted accepted :: .began began ::
        (List.replicate sent .published ++ [.leftLoop left])
  | .stopping test => test.events

/-- The main loop waits for a test. -/
def MainPoint.Waits : MainPoint → Prop
  | .checkStart | .sleeping _ => True
  | _ => False

/-- A test is accepted or running: `run_data['start']` is set, and the
statistics begin with the time at which it was accepted. -/
structure Underway (accepted : ℚ) (state : PubState) : Prop where
  start : state.runData.start = true
  timeStart : state.runData.stats.lookup "time:start" = some (.time accepted)

/-- The publishing loop counts the messages that it hands over. -/
structure Publishes (began : ℚ) (sent : ℕ) (state : PubState) : Prop where
  point : state.point = .publishing
  startTime : state.loop.startTime = began
  sent : state.loop.sent = sent
  counted : state.loop.sent = state.loop.msgCnt + state.loop.point.inFlight

/-- Which statistics of a stopped test run are already written, and from which
variables the others will be. -/
def TestRun.WrittenAt (test : TestRun) (state : PubState) : Prop :=
  match state.point with
  | .writeRate =>
      state.loop.msgCnt = test.msgCnt ∧
        state.elapsedTime = test.left - test.began
  | .writeMsgCnt =>
      state.loop.msgCnt = test.msgCnt ∧
        state.runData.stats.lookup "rate" =
          some (.float (test.msgCnt / (test.left - test.began)))
  | .writeNetEnd | .writeCpuEnd | .writeMemEnd | .setStopping | .resetStart =>
      test.Describes state.runData.stats
  | .raised => True
  | _ => False

/-- The shared data and the main loop in a phase. -/
def TestPhase.Agrees (state : PubState) : TestPhase → Prop
  | .idle => state.runData.start = false ∧ state.point.Waits
  | .starting accepted =>
      Underway accepted state ∧ (state.point.Waits ∨ state.point = .begin)
  | .running accepted began sent =>
      Underway accepted state ∧
        (Publishes began sent state ∨ state.point = .raised)
  | .leaving accepted began sent left =>
      Underway accepted state ∧ state.point = .writeTimeEnd ∧
        state.loop.msgCnt = sent ∧ state.elapsedTime = left - began
  | .stopping test =>
      Underway test.accepted state ∧
        state.runData.stats.lookup "time:end" = some (.time test.stopped) ∧
        test.WrittenAt state

/-- The events since the last reset lead to a phase that the program agrees
with. -/
def InTest (state : PubState) : Prop :=
  ∃ phase : TestPhase, sinceReset state.trace = phase.events ∧
    phase.Agrees state

/-! ### Time and commands -/

/-- The phase does not depend on the clock and on the configuration. -/
theorem InTest.withClock {state : PubState} (inTest : InTest state)
    (clock : ℚ) (metrics : PubMetrics) :
    InTest
      { state with
        loop := { state.loop with clock := clock }
        metrics := metrics } := by
  obtain ⟨phase, events, agrees⟩ := inTest
  refine ⟨phase, events, ?_⟩
  cases phase with
  | idle => exact agrees
  | starting accepted =>
      obtain ⟨underway, point⟩ := agrees
      exact ⟨{ underway with }, point⟩
  | running accepted began sent =>
      obtain ⟨underway, publishes | raised⟩ := agrees
      · exact ⟨{ underway with }, .inl { publishes with }⟩
      · exact ⟨{ underway with }, .inr raised⟩
  | leaving accepted began sent left =>
      obtain ⟨underway, rest⟩ := agrees
      exact ⟨{ underway with }, rest⟩
  | stopping test =>
      obtain ⟨underway, rest⟩ := agrees
      exact ⟨{ underway with }, rest⟩

/-- A test run is idle exactly if `run_data['start']` is unset. -/
theorem TestPhase.Agrees.eq_idle_iff {state : PubState} {phase : TestPhase}
    (agrees : phase.Agrees state) :
    phase = .idle ↔ state.runData.start = false := by
  cases phase with
  | idle => exact iff_of_true rfl agrees.1
  | starting | running | leaving | stopping =>
      simp [agrees.1.start]

theorem answer_teststart (state : PubState) (usage : Usage) :
    answer (.teststart usage) state =
      { state with
        runData := ⟨true, startStats usage state.now, "running"⟩
        trace := state.trace ++ [.accepted state.now] } := by
  simp [answer, handle, testStart, Command.isTeststart]

theorem lookup_startStats (usage : Usage) (now : ℚ) :
    (startStats usage now).lookup "time:start" = some (.time now) := by
  rw [startStats, AList.lookup_insert_ne (by decide),
    AList.lookup_insert_ne (by decide), AList.lookup_insert_ne (by decide),
    AList.lookup_insert]

/-- A `teststart` that arrives while no test is underway begins a phase. -/
theorem InTest.teststart {state : PubState} (inTest : InTest state)
    (notStarted : state.runData.start = false) (usage : Usage) :
    InTest (answer (.teststart usage) state) := by
  obtain ⟨phase, events, agrees⟩ := inTest
  obtain rfl := agrees.eq_idle_iff.mpr notStarted
  refine ⟨.starting state.now, ?_, ?_⟩
  · rw [answer_teststart, sinceReset_concat, events]
    rfl
  · rw [answer_teststart]
    exact ⟨⟨rfl, lookup_startStats usage state.now⟩, .inl agrees.2⟩

/-- A command that does not interrupt a test keeps the phase. -/
theorem InTest.answer {state : PubState} (inTest : InTest state)
    (command : Command) (permitted : ¬ Interrupts state (.command command)) :
    InTest (answer command state) := by
  cases command with
  | teststart usage =>
      refine inTest.teststart ?_ usage
      by_contra started
      rw [Bool.not_eq_false] at started
      exact permitted ⟨⟨usage, rfl⟩, started⟩
  | getstats | teststatus => exact inTest
  | updateconfig updated => exact inTest.withClock state.loop.clock updated

/-! ### Statements of the main loop -/

section Execute

variable {state : PubState} (outcome : SendOutcome) (usage : Usage)

/-- A main loop that waits goes on waiting until `run_data['start']` is set. -/
theorem execute_of_waits (waits : state.point.Waits) :
    ∃ point, execute outcome usage state = { state with point := point } ∧
      (point.Waits ∨ state.runData.start = true ∧ point = .begin) := by
  cases atPoint : state.point with
  | checkStart =>
      cases started : state.runData.start with
      | true =>
          exact ⟨.begin, by simp [execute, atPoint, started], .inr ⟨rfl, rfl⟩⟩
      | false =>
          exact ⟨.sleeping (state.now + 1),
            by simp [execute, atPoint, started], .inl trivial⟩
  | sleeping wakeTime =>
      by_cases awake : wakeTime ≤ state.now
      · exact ⟨.checkStart, by simp [execute, atPoint, awake], .inl trivial⟩
      · refine ⟨.sleeping wakeTime, ?_, .inl trivial⟩
        rw [execute, atPoint]
        simp only [if_neg awake]
        rw [← atPoint]
  | _ => simp [atPoint, MainPoint.Waits] at waits

theorem InTest.execute_idle
    (events : sinceReset state.trace = TestPhase.idle.events)
    (agrees : TestPhase.idle.Agrees state) :
    InTest (execute outcome usage state) := by
  obtain ⟨notStarted, waits⟩ := agrees
  obtain ⟨point, executes, stillWaits | ⟨started, _⟩⟩ :=
    execute_of_waits outcome usage waits
  · rw [executes]
    exact ⟨.idle, events, notStarted, stillWaits⟩
  · rw [notStarted] at started
    cases started

theorem InTest.execute_starting {accepted : ℚ}
    (events : sinceReset state.trace = (TestPhase.starting accepted).events)
    (agrees : (TestPhase.starting accepted).Agrees state) :
    InTest (execute outcome usage state) := by
  obtain ⟨underway, waits | atBegin⟩ := agrees
  · obtain ⟨point, executes, stillWaits | ⟨_, atBegin⟩⟩ :=
      execute_of_waits outcome usage waits
    · rw [executes]
      exact ⟨.starting accepted, events, { underway with }, .inl stillWaits⟩
    · rw [executes]
      exact ⟨.starting accepted, events, { underway with }, .inr atBegin⟩
  · have executes : execute outcome usage state =
        { state with
          loop := PublisherLoop.initial state.now
          point := .publishing
          trace := state.trace ++ [.began state.now] } := by
      rw [execute, atBegin]
    rw [executes]
    refine ⟨.running accepted state.now 0, ?_, { underway with },
      .inl ⟨rfl, rfl, rfl, rfl⟩⟩
    rw [sinceReset_concat, events]
    rfl

/-- A statement that sends nothing leaves the main loop in the publishing
loop. -/
theorem Publishes.executeStatement {began : ℚ} {sent : ℕ}
    (publishes : Publishes began sent state)
    (notSend : state.loop.point ≠ .send) :
    Publishes began sent
      { state with
        loop := executeStatement .zmq state.metrics outcome state.loop } where
  point := publishes.point
  startTime := by
    rw [executeStatement_startTime]
    exact publishes.startTime
  sent := by
    rw [executeStatement_sent _ _ _ notSend]
    exact publishes.sent
  counted := executeStatement_counted state.metrics outcome publishes.counted

/-- A message that is handed over. -/
theorem InTest.publish_send {accepted began : ℚ} {sent : ℕ}
    (events :
      sinceReset state.trace = (TestPhase.running accepted began sent).events)
    (underway : Underway accepted state)
    (publishes : Publishes began sent state)
    (atSend : state.loop.point = .send) :
    InTest (publish outcome state) := by
  by_cases handedOver : outcome = .handedOver
  · have executes : publish outcome state =
        { state with
          loop := executeStatement .zmq state.metrics outcome state.loop
          trace := state.trace ++ [.published] } := by
      simp [publish, atSend, handedOver]
    rw [executes]
    refine ⟨.running accepted began (sent + 1), ?_, { underway with },
      .inl ⟨publishes.point, ?_, ?_, ?_⟩⟩
    · rw [sinceReset_concat, events]
      simp [TestPhase.events, List.replicate_succ']
    · rw [executeStatement_startTime]
      exact publishes.startTime
    · simp [PublisherLoop.executeStatement, atSend, handedOver, publishes.sent]
    · exact executeStatement_counted state.metrics outcome publishes.counted
  · have executes : publish outcome state =
        { state with
          loop := executeStatement .zmq state.metrics outcome state.loop
          point := .raised } := by
      simp [publish, atSend, handedOver]
    rw [executes]
    exact ⟨.running accepted began sent, events, { underway with }, .inr rfl⟩

/-- The end of a round of the publishing loop. -/
theorem InTest.publish_checkDuration {accepted began : ℚ} {sent : ℕ}
    (events :
      sinceReset state.trace = (TestPhase.running accepted began sent).events)
    (underway : Underway accepted state)
    (publishes : Publishes began sent state)
    (atCheck : state.loop.point = .checkDuration) :
    InTest (publish outcome state) := by
  by_cases lasted : state.loop.elapsed ≥ state.metrics.testDuration
  · have executes : publish outcome state =
        { state with
          loop := executeStatement .zmq state.metrics outcome state.loop
          elapsedTime := state.loop.elapsed
          point := .writeTimeEnd
          trace := state.trace ++ [.leftLoop state.now] } := by
      simp only [publish, atCheck, if_pos lasted]
    have msgCnt : (PublisherLoop.executeStatement .zmq state.metrics outcome
        state.loop).msgCnt = sent := by
      have counted := publishes.counted
      rw [atCheck, publishes.sent] at counted
      simpa [PublisherLoop.executeStatement, atCheck, Point.inFlight] using
        counted.symm
    rw [executes]
    refine ⟨.leaving accepted began sent state.now, ?_, { underway with }, rfl,
      msgCnt, ?_⟩
    · rw [sinceReset_concat, events]
      simp [TestPhase.events]
    · rw [← publishes.startTime]
      rfl
  · have executes : publish outcome state =
        { state with
          loop := executeStatement .zmq state.metrics outcome state.loop
          elapsedTime := state.loop.elapsed } := by
      simp only [publish, atCheck, if_neg lasted]
    rw [executes]
    have goesOn := publishes.executeStatement outcome (by simp [atCheck])
    exact ⟨.running accepted began sent, events, { underway with },
      .inl { goesOn with }⟩

/-- A statement of the publishing loop. -/
theorem InTest.publish {accepted began : ℚ} {sent : ℕ}
    (events :
      sinceReset state.trace = (TestPhase.running accepted began sent).events)
    (underway : Underway accepted state)
    (publishes : Publishes began sent state) :
    InTest (publish outcome state) := by
  cases atPoint : state.loop.point with
  | send => exact InTest.publish_send outcome events underway publishes atPoint
  | checkDuration =>
      exact InTest.publish_checkDuration outcome events underway publishes
        atPoint
  | computeDelay =>
      have goesOn := publishes.executeStatement outcome (by simp [atPoint])
      simp only [HDZmqpRepSrv.publish, atPoint]
      split
      · exact ⟨.running accepted began sent, events, { underway with },
          .inr rfl⟩
      · exact ⟨.running accepted began sent, events, { underway with },
          .inl goesOn⟩
  | count | sleep | sleeping | finished | raised =>
      have goesOn := publishes.executeStatement outcome (by simp [atPoint])
      simp only [HDZmqpRepSrv.publish, atPoint]
      exact ⟨.running accepted began sent, events, { underway with },
        .inl goesOn⟩

theorem execute_of_raised (raised : state.point = .raised) :
    execute outcome usage state = state := by
  rw [execute, raised]

theorem InTest.execute_running {accepted began : ℚ} {sent : ℕ}
    (events :
      sinceReset state.trace = (TestPhase.running accepted began sent).events)
    (agrees : (TestPhase.running accepted began sent).Agrees state) :
    InTest (execute outcome usage state) := by
  obtain ⟨underway, publishes | raised⟩ := agrees
  · have executes : execute outcome usage state =
        HDZmqpRepSrv.publish outcome state := by
      rw [execute, publishes.point]
    rw [executes]
    exact InTest.publish outcome events underway publishes
  · rw [execute_of_raised outcome usage raised]
    exact ⟨.running accepted began sent, events, underway, .inr raised⟩

/-- What one statistic does to a test that is underway. -/
theorem Underway.writeStat {accepted : ℚ} (underway : Underway accepted state)
    {key : String} (otherKey : "time:start" ≠ key) (value : StatValue)
    (next : MainPoint) :
    Underway accepted (state.writeStat key value next) where
  start := underway.start
  timeStart := by
    rw [← underway.timeStart]
    exact AList.lookup_insert_ne otherKey

theorem InTest.execute_leaving {accepted began left : ℚ} {sent : ℕ}
    (events : sinceReset state.trace =
      (TestPhase.leaving accepted began sent left).events)
    (agrees : (TestPhase.leaving accepted began sent left).Agrees state) :
    InTest (execute outcome usage state) := by
  obtain ⟨underway, atPoint, msgCnt, elapsedTime⟩ := agrees
  have executes : execute outcome usage state =
      { state.writeStat "time:end" (.time state.now) .writeRate with
        trace := state.trace ++ [.stopped state.now] } := by
    rw [execute, atPoint]
  have written := underway.writeStat (by decide : "time:start" ≠ "time:end")
    (.time state.now) .writeRate
  rw [executes]
  refine ⟨.stopping ⟨accepted, began, sent, left, state.now⟩, ?_,
    { written with }, AList.lookup_insert _, msgCnt, elapsedTime⟩
  rw [sinceReset_concat, events]
  simp [TestPhase.events, TestRun.events]

/-- Another statistic leaves the description of a test run as it is. -/
theorem TestRun.Describes.insert {test : TestRun} {stats : Dict StatValue}
    (describes : test.Describes stats) {key : String}
    (otherKey : key ∉ ["time:start", "time:end", "rate", "msg_cnt"])
    (value : StatValue) : test.Describes (stats.insert key value) := by
  simp only [List.mem_cons, List.not_mem_nil, or_false, not_or] at otherKey
  obtain ⟨notTimeStart, notTimeEnd, notRate, notMsgCnt⟩ := otherKey
  constructor
  · rw [AList.lookup_insert_ne (Ne.symm notTimeStart)]
    exact describes.timeStart
  · rw [AList.lookup_insert_ne (Ne.symm notTimeEnd)]
    exact describes.timeEnd
  · rw [AList.lookup_insert_ne (Ne.symm notRate)]
    exact describes.rate
  · rw [AList.lookup_insert_ne (Ne.symm notMsgCnt)]
    exact describes.msgCnt

/-- A test run is described once its message count is written. -/
theorem TestRun.describes_of_written {test : TestRun}
    (underway : Underway test.accepted state)
    (timeEnd :
      state.runData.stats.lookup "time:end" = some (.time test.stopped))
    (rate : state.runData.stats.lookup "rate" =
      some (.float (test.msgCnt / (test.left - test.began)))) :
    test.Describes
      (state.runData.stats.insert "msg_cnt" (.int test.msgCnt)) where
  timeStart := by
    rw [AList.lookup_insert_ne (by decide)]
    exact underway.timeStart
  timeEnd := by
    rw [AList.lookup_insert_ne (by decide)]
    exact timeEnd
  rate := by
    rw [AList.lookup_insert_ne (by decide)]
    exact rate
  msgCnt := AList.lookup_insert _

/-- One of the last readings is written. -/
theorem InTest.writeUsage {test : TestRun}
    (events : sinceReset state.trace = (TestPhase.stopping test).events)
    (underway : Underway test.accepted state)
    (describes : test.Describes state.runData.stats) {key : String}
    (otherKey : key ∉ ["time:start", "time:end", "rate", "msg_cnt"])
    (value : StatValue) {next : MainPoint}
    (isNext : next ∈ [.writeCpuEnd, .writeMemEnd, .setStopping]) :
    InTest (state.writeStat key value next) := by
  have described := describes.insert otherKey value
  refine ⟨.stopping test, events,
    ⟨underway.start, described.timeStart⟩, described.timeEnd, ?_⟩
  simp only [List.mem_cons, List.not_mem_nil, or_false] at isNext
  rcases isNext with rfl | rfl | rfl <;> exact described

/-- A statement after the publishing loop that does not reset
`run_data['start']`. -/
theorem InTest.execute_stopping {test : TestRun}
    (events : sinceReset state.trace = (TestPhase.stopping test).events)
    (agrees : (TestPhase.stopping test).Agrees state)
    (notReset : state.point ≠ .resetStart) :
    InTest (execute outcome usage state) := by
  obtain ⟨underway, timeEnd, written⟩ := agrees
  unfold TestRun.WrittenAt at written
  cases atPoint : state.point with
  | writeRate =>
      simp only [atPoint] at written
      obtain ⟨msgCnt, elapsedTime⟩ := written
      simp only [execute, atPoint]
      split
      · exact ⟨.stopping test, events, { underway with }, timeEnd, trivial⟩
      · refine ⟨.stopping test, events,
          underway.writeStat (by decide) _ _, ?_, msgCnt, ?_⟩
        · exact (AList.lookup_insert_ne (by decide)).trans timeEnd
        · rw [msgCnt, elapsedTime]
          exact AList.lookup_insert _
  | writeMsgCnt =>
      simp only [atPoint] at written
      obtain ⟨msgCnt, rate⟩ := written
      have described := TestRun.describes_of_written underway timeEnd rate
      simp only [execute, atPoint, msgCnt]
      exact ⟨.stopping test, events,
        underway.writeStat (by decide) _ _, described.timeEnd, described⟩
  | writeNetEnd | writeCpuEnd | writeMemEnd =>
      simp only [atPoint] at written
      simp only [execute, atPoint]
      exact InTest.writeUsage events underway written (by decide) _ (by simp)
  | setStopping =>
      simp only [atPoint] at written
      simp only [execute, atPoint]
      exact ⟨.stopping test, events, { underway with }, timeEnd, written⟩
  | resetStart => exact (notReset atPoint).elim
  | raised =>
      rw [execute_of_raised outcome usage atPoint]
      refine ⟨.stopping test, events, underway, timeEnd, ?_⟩
      simp only [TestRun.WrittenAt, atPoint]
  | _ => simp [atPoint] at written

/-- Before the reset the program has stopped a test run and described it. -/
theorem TestPhase.Agrees.of_resetStart {phase : TestPhase}
    (agrees : phase.Agrees state) (atReset : state.point = .resetStart) :
    ∃ test, phase = .stopping test ∧ test.Describes state.runData.stats := by
  cases phase with
  | idle => simp [TestPhase.Agrees, MainPoint.Waits, atReset] at agrees
  | starting => simp [TestPhase.Agrees, MainPoint.Waits, atReset] at agrees
  | running accepted began sent =>
      obtain ⟨_, publishes | raised⟩ := agrees
      · simpa [atReset] using publishes.point
      · simp [atReset] at raised
  | leaving => simp [TestPhase.Agrees, atReset] at agrees
  | stopping test =>
      have written := agrees.2.2
      simp only [TestRun.WrittenAt, atReset] at written
      exact ⟨test, rfl, written⟩

theorem execute_of_resetStart (atReset : state.point = .resetStart) :
    execute outcome usage state =
      { state with
        runData := { state.runData with start := false }
        point := .checkStart
        trace := state.trace ++ [.reset] } := by
  rw [execute, atReset]

/-- The reset ends the test run that was described, and the publisher is idle
again. -/
theorem InTest.reset (inTest : InTest state)
    (atReset : state.point = .resetStart) :
    EndsOwnRun state (execute outcome usage state) ∧
      InTest (execute outcome usage state) := by
  obtain ⟨phase, events, agrees⟩ := inTest
  obtain ⟨test, rfl, describes⟩ := agrees.of_resetStart atReset
  rw [execute_of_resetStart outcome usage atReset]
  refine ⟨⟨test, events, describes⟩, .idle, ?_, rfl, trivial⟩
  rw [sinceReset_concat, if_pos rfl]
  rfl

/-- Any statement of the main loop. -/
theorem InTest.execute (inTest : InTest state) :
    InTest (execute outcome usage state) := by
  by_cases atReset : state.point = .resetStart
  · exact (inTest.reset outcome usage atReset).2
  · obtain ⟨phase, events, agrees⟩ := inTest
    cases phase with
    | idle => exact InTest.execute_idle outcome usage events agrees
    | starting => exact InTest.execute_starting outcome usage events agrees
    | running => exact InTest.execute_running outcome usage events agrees
    | leaving => exact InTest.execute_leaving outcome usage events agrees
    | stopping =>
        exact InTest.execute_stopping outcome usage events agrees atReset

end Execute

/-- A move that does not interrupt a test run keeps the phase, and ends at most
a test run of its own. -/
theorem InTest.move {state : PubState} (inTest : InTest state) (move : Move) :
    (EndsRun state move → EndsOwnRun state (step state move)) ∧
      (¬ Interrupts state move → InTest (step state move)) := by
  cases move with
  | tick time =>
      refine ⟨?_, fun _ => inTest.withClock _ state.metrics⟩
      rintro ⟨_, _, _, isExecute⟩
      cases isExecute
  | command command =>
      refine ⟨?_, inTest.answer command⟩
      rintro ⟨_, _, _, isExecute⟩
      cases isExecute
  | execute outcome usage =>
      exact ⟨fun ends => (inTest.reset outcome usage ends.1).1,
        fun _ => inTest.execute outcome usage⟩

/-! ### Test runs that are merged -/

/-- The event is a `teststart` that is answered with `ok`. -/
def Event.isAccepted : Event → Bool
  | .accepted _ => true
  | _ => false

/-- The number of starts accepted since the last reset. -/
def acceptedStarts (trace : List Event) : ℕ :=
  (sinceReset trace).countP Event.isAccepted

/-- More than one start was accepted for the test that is underway. -/
structure Merged (state : PubState) : Prop where
  start : state.runData.start = true
  accepted : 2 ≤ acceptedStarts state.trace

theorem TestRun.countP_events (test : TestRun) :
    test.events.countP Event.isAccepted = 1 := by
  simp [TestRun.events, Event.isAccepted, List.countP_cons,
    List.countP_append, List.countP_replicate]

theorem TestPhase.one_le_countP_events {phase : TestPhase}
    (notIdle : phase ≠ .idle) : 1 ≤ phase.events.countP Event.isAccepted := by
  cases phase with
  | idle => exact (notIdle rfl).elim
  | starting | running | leaving =>
      simp [TestPhase.events, Event.isAccepted]
  | stopping test => exact test.countP_events.ge

/-- A `teststart` that interrupts a test run is merged into it. -/
theorem InTest.merged {state : PubState} {move : Move} (inTest : InTest state)
    (interrupts : Interrupts state move) : Merged (step state move) := by
  obtain ⟨⟨usage, rfl⟩, started⟩ := interrupts
  obtain ⟨phase, events, agrees⟩ := inTest
  have notIdle : phase ≠ .idle := by
    rw [Ne, agrees.eq_idle_iff, started]
    decide
  have earlier := TestPhase.one_le_countP_events notIdle
  have isAccepted : (Event.accepted state.now).isAccepted = true := rfl
  rw [step, answer_teststart]
  refine ⟨rfl, ?_⟩
  rw [acceptedStarts, sinceReset_concat, if_neg (by simp), List.countP_append,
    events, List.countP_singleton, if_pos isAccepted]
  exact Nat.succ_le_succ earlier

theorem publish_grows (outcome : SendOutcome) (state : PubState) :
    (publish outcome state).runData = state.runData ∧
      ∃ events, (publish outcome state).trace = state.trace ++ events ∧
        .reset ∉ events := by
  unfold publish
  split
  · split
    · exact ⟨rfl, [.published], rfl, by simp⟩
    · exact ⟨rfl, [], (List.append_nil _).symm, by simp⟩
  · split <;> exact ⟨rfl, [], (List.append_nil _).symm, by simp⟩
  · split
    · exact ⟨rfl, [.leftLoop state.now], rfl, by simp⟩
    · exact ⟨rfl, [], (List.append_nil _).symm, by simp⟩
  · exact ⟨rfl, [], (List.append_nil _).symm, by simp⟩

/-- A statement of the main loop other than the reset keeps the start. -/
theorem execute_grows (outcome : SendOutcome) (usage : Usage)
    {state : PubState} (notReset : state.point ≠ .resetStart) :
    (execute outcome usage state).runData.start = state.runData.start ∧
      ∃ events, (execute outcome usage state).trace = state.trace ++ events ∧
        .reset ∉ events := by
  cases atPoint : state.point with
  | checkStart | sleeping =>
      have waits : state.point.Waits := by
        rw [atPoint]
        trivial
      obtain ⟨point, executes, _⟩ := execute_of_waits outcome usage waits
      rw [executes]
      exact ⟨rfl, [], (List.append_nil _).symm, by simp⟩
  | begin =>
      rw [execute, atPoint]
      exact ⟨rfl, [.began state.now], rfl, by simp⟩
  | publishing =>
      obtain ⟨sameData, grows⟩ := publish_grows outcome state
      rw [execute, atPoint]
      exact ⟨congrArg RunData.start sameData, grows⟩
  | writeTimeEnd =>
      rw [execute, atPoint]
      exact ⟨rfl, [.stopped state.now], rfl, by simp⟩
  | writeRate =>
      by_cases instant : state.elapsedTime = 0
      · simp [execute, atPoint, instant]
      · refine ⟨?_, [], ?_, by simp⟩ <;>
          simp [execute, atPoint, instant, PubState.writeStat, RunData.assign]
  | resetStart => exact (notReset atPoint).elim
  | writeMsgCnt | writeNetEnd | writeCpuEnd | writeMemEnd | setStopping
  | raised =>
      rw [execute, atPoint]
      exact ⟨rfl, [], (List.append_nil _).symm, by simp⟩

/-- A move that does not end the test run keeps its start and its events. -/
theorem step_grows {state : PubState} {move : Move}
    (notEnds : ¬ EndsRun state move) (started : state.runData.start = true) :
    (step state move).runData.start = true ∧
      ∃ events, (step state move).trace = state.trace ++ events ∧
        .reset ∉ events := by
  cases move with
  | tick time => exact ⟨started, [], (List.append_nil _).symm, by simp⟩
  | command command =>
      cases command with
      | teststart usage =>
          rw [step, answer_teststart]
          exact ⟨rfl, [.accepted state.now], rfl, by simp⟩
      | getstats | teststatus | updateconfig =>
          exact ⟨started, [], (List.append_nil _).symm, by simp⟩
  | execute outcome usage =>
      have notReset : state.point ≠ .resetStart :=
        fun atReset => notEnds ⟨atReset, outcome, usage, rfl⟩
      obtain ⟨sameStart, grows⟩ := execute_grows outcome usage notReset
      exact ⟨sameStart.trans started, grows⟩

/-- Merged test runs stay merged until the reset. -/
theorem Merged.move {state : PubState} {move : Move} (merged : Merged state)
    (notEnds : ¬ EndsRun state move) : Merged (step state move) := by
  obtain ⟨started, events, grows, noReset⟩ := step_grows notEnds merged.start
  refine ⟨started, merged.accepted.trans ?_⟩
  rw [acceptedStarts, acceptedStarts, grows, sinceReset_append _ noReset,
    List.countP_append]
  exact Nat.le_add_right _ _

/-- No merged test run ends as a test run of its own. -/
theorem Merged.not_endsOwnRun {before after : PubState}
    (merged : Merged before) : ¬ EndsOwnRun before after := by
  rintro ⟨test, events, _⟩
  have accepted := merged.accepted
  rw [acceptedStarts, events, test.countP_events] at accepted
  omega

/-! ### Runs -/

/-- The transitions of the program. -/
def Transition (before : PubState) (move : Move) (after : PubState) : Prop :=
  after = step before move

/-- In every run, each test run that ends is a run of its own if and only if
none ends after a `teststart` that arrived while another test was underway. -/
theorem endsOwnRun_throughout_iff {metrics : PubMetrics} {clock : ℚ}
    {steps : List (Step PubState Move)} {final : PubState}
    (run : Run Transition (initial metrics clock) steps final) :
    (∀ step ∈ steps, EndsRun step.before step.label →
      EndsOwnRun step.before step.after) ↔
    steps.Pairwise fun step later => Interrupts step.before step.label →
      ¬ EndsRun later.before later.label := by
  have good (before : PubState) (move : Move) (after : PubState)
      (inTest : InTest before) (taken : Transition before move after) :
      (EndsRun before move → EndsOwnRun before after) ∧
        (¬ Interrupts before move → InTest after) ∧
        (Interrupts before move → Merged after) := by
    obtain rfl := taken
    obtain ⟨endsOwn, keeps⟩ := inTest.move move
    exact ⟨endsOwn, keeps, inTest.merged⟩
  have bad (before : PubState) (move : Move) (after : PubState)
      (merged : Merged before) (taken : Transition before move after) :
      ((EndsRun before move → EndsOwnRun before after) ↔
          ¬ EndsRun before move) ∧
        (¬ EndsRun before move → Merged after) := by
    obtain rfl := taken
    exact ⟨imp_congr_right fun _ => iff_false_intro merged.not_endsOwnRun,
      merged.move⟩
  have idle : InTest (initial metrics clock) := ⟨.idle, rfl, rfl, trivial⟩
  exact @Run.forall_iff_pairwise _ _ _ InTest Merged
    (fun step => EndsRun step.before step.label →
      EndsOwnRun step.before step.after)
    Interrupts (fun before move => ¬ EndsRun before move)
    _ _ _ good bad run idle

/-- Every test run that ends is a run of its own. -/
def OwnTestRuns : Prop :=
  ∀ (metrics : PubMetrics) (clock : ℚ) (steps : List (Step PubState Move))
    (final : PubState), Run Transition (initial metrics clock) steps final →
    ∀ step ∈ steps, EndsRun step.before step.label →
      EndsOwnRun step.before step.after

/-- The steps of the given moves. -/
def stepsFrom (state : PubState) : List Move → List (Step PubState Move)
  | [] => []
  | move :: moves =>
      ⟨state, move, step state move⟩ :: stepsFrom (step state move) moves

theorem run_stepsFrom (state : PubState) (moves : List Move) :
    Run Transition state (stepsFrom state moves) (moves.foldl step state) := by
  induction moves generalizing state with
  | nil => exact .stop
  | cons move moves ih => exact .next rfl (ih (step state move))

theorem mem_stepsFrom (state : PubState) (moves : List Move) (move : Move)
    (later : List Move) :
    ⟨moves.foldl step state, move, step (moves.foldl step state) move⟩ ∈
      stepsFrom state (moves ++ move :: later) := by
  induction moves generalizing state with
  | nil => exact List.mem_cons_self
  | cons first moves ih =>
      exact List.mem_cons_of_mem _ (ih (step state first))

/-- One message in one second. -/
def oneMessage : PubMetrics := ⟨1, 1, 1⟩

def noUsage : Usage := ⟨"[]", "[]", "[]"⟩

/-- The next statement, with all calls successful. -/
def statement : Move := .execute .handedOver noUsage

/-- A test up to the delay after its first message. -/
def untilDelay : List Move :=
  .command (.teststart noUsage) :: List.replicate 6 statement

/-- The rest of the test up to the reset. -/
def afterDelay : List Move :=
  .tick 1 :: List.replicate 9 statement

/-- Two tests, one after the other. -/
def twoTests : List Move :=
  untilDelay ++ afterDelay ++ [statement] ++
    (untilDelay ++ afterDelay ++ [statement])

/-- A second `teststart` arrives during the delay. -/
def interruptedTest : List Move :=
  untilDelay ++ .command (.teststart noUsage) :: afterDelay

theorem twoTests_endsOwnRun_iff :
    (∀ step ∈ stepsFrom (initial oneMessage 0) twoTests,
      EndsRun step.before step.label → EndsOwnRun step.before step.after) ↔
    (stepsFrom (initial oneMessage 0) twoTests).Pairwise fun step later =>
      Interrupts step.before step.label →
        ¬ EndsRun later.before later.label :=
  endsOwnRun_throughout_iff (run_stepsFrom _ _)

/-- The second start is answered with `ok` and no test run follows it. -/
theorem interruptedTest_loses_start : ¬ OwnTestRuns := by
  intro ownRuns
  let before := interruptedTest.foldl step (initial oneMessage 0)
  have atReset : before.point = .resetStart := by decide +kernel
  have merged : Merged before := ⟨by decide +kernel, by decide +kernel⟩
  have endsOwn := ownRuns oneMessage 0 _ _
    (run_stepsFrom _ (interruptedTest ++ [statement])) _
    (mem_stepsFrom _ interruptedTest statement [])
    ⟨atReset, .handedOver, noUsage, rfl⟩
  exact merged.not_endsOwnRun endsOwn

end HDZmqpRepSrv

end MScale
