import MScale.HDZmqpRepSrvTests
import Mathlib.Data.List.Infix

/-!
# Tests of a master on the Python publisher

A master runs one test after the other: it may update the configuration, starts
a test, waits until the publisher says that the test has ended, and asks for the
statistics.  Such statistics are always those of the test that the master
started last.  But `wait_for_testend` already returns when the publisher is
about to reset `run_data['start']`.  A test that the master starts before the
reset is lost, and the master then waits for ever.
-/

namespace MScale

namespace HDZmqpRepSrv

open PublisherLoop LabelledRuns

/-! ### The master -/

/-- What the master knows: it has started no test, it waits for the end of the
test that was started at the given time, or it was told of that end. -/
inductive Master
  | free
  | waiting (started : ℚ)
  | told (started : ℚ)
  deriving DecidableEq, Repr

/-- The publisher and its master. -/
structure Session where
  pub : PubState
  master : Master

/-- A move of the publisher, or a request of the master with its reply. -/
inductive SessionMove
  | tick (time : ℚ≥0)
  | execute (outcome : SendOutcome) (usage : Usage)
  | updateConfig (updated : PubMetrics)
  | startTest (usage : Usage)
  | pollStatus
  | getStats
  deriving DecidableEq

/-- What the publisher does in a move. -/
def SessionMove.move : SessionMove → Move
  | .tick time => .tick time
  | .execute outcome usage => .execute outcome usage
  | .updateConfig updated => .command (.updateconfig updated)
  | .startTest usage => .command (.teststart usage)
  | .pollStatus => .command .teststatus
  | .getStats => .command .getstats

/-- `wait_for_testend` sends nothing but `teststatus`, and the statistics are
asked for after it has returned. -/
def Master.permits : Master → SessionMove → Bool
  | _, .tick _ => true
  | _, .execute _ _ => true
  | .waiting _, move => move = .pollStatus
  | .free, .updateConfig _ => true
  | .free, .startTest _ => true
  | .free, _ => false
  | .told _, .pollStatus => false
  | .told _, _ => true

/-- The answers that let `wait_for_testend` return. -/
def endsWait (resp : String) : Bool :=
  resp = "done" || resp = "stopping" || resp = "stopped"

/-- What the master knows after a move. -/
def Master.next (pub : PubState) : Master → SessionMove → Master
  | _, .startTest _ => .waiting pub.now
  | .waiting started, .pollStatus =>
      if endsWait pub.runData.testStatus then .told started
      else .waiting started
  | master, _ => master

def Session.initial (metrics : PubMetrics) (clock : ℚ) : Session :=
  ⟨HDZmqpRepSrv.initial metrics clock, .free⟩

def Session.step (session : Session) (move : SessionMove) : Session :=
  ⟨HDZmqpRepSrv.step session.pub move.move,
    session.master.next session.pub move⟩

/-- The steps of a session. -/
def SessionStep (before : Session) (move : SessionMove) (after : Session) :
    Prop :=
  before.master.permits move = true ∧ after = before.step move

/-! ### Statements of the main loop -/

section Execute

variable {pub : PubState} (outcome : SendOutcome) (usage : Usage)

theorem sinceReset_suffix (trace : List Event) : sinceReset trace <:+ trace := by
  induction trace using List.reverseRecOn with
  | nil => exact List.suffix_refl []
  | append_singleton trace event ih =>
      rw [sinceReset_concat]
      split
      · exact List.nil_suffix
      · obtain ⟨earlier, whole⟩ := ih
        refine ⟨earlier, ?_⟩
        rw [← List.append_assoc, whole]

theorem publish_point_ne_resetStart (publishing : pub.point ≠ .resetStart) :
    (publish outcome pub).point ≠ .resetStart := by
  unfold publish
  split <;> (try split) <;> simp [publishing]

/-- A statement that does not announce the end leaves the announcement alone. -/
theorem execute_of_not_setStopping (notStopping : pub.point ≠ .setStopping) :
    (execute outcome usage pub).runData.testStatus = pub.runData.testStatus ∧
      (execute outcome usage pub).point ≠ .resetStart := by
  cases atPoint : pub.point with
  | checkStart | sleeping =>
      have waits : pub.point.Waits := by
        rw [atPoint]
        trivial
      obtain ⟨point, executes, stillWaits | ⟨_, rfl⟩⟩ :=
        execute_of_waits outcome usage waits
      · rw [executes]
        refine ⟨rfl, ?_⟩
        rintro rfl
        exact stillWaits
      · rw [executes]
        exact ⟨rfl, by simp⟩
  | publishing =>
      rw [execute, atPoint]
      refine ⟨congrArg RunData.testStatus (publish_grows outcome pub).1, ?_⟩
      exact publish_point_ne_resetStart outcome (by simp [atPoint])
  | writeRate =>
      by_cases instant : pub.elapsedTime = 0
      · simp [execute, atPoint, instant]
      · simp [execute, atPoint, instant, PubState.writeStat, RunData.assign]
  | setStopping => exact (notStopping atPoint).elim
  | begin | writeTimeEnd | writeMsgCnt | writeNetEnd | writeCpuEnd
  | writeMemEnd | resetStart | raised =>
      simp [execute, atPoint, PubState.writeStat, RunData.assign]

/-- Before the end is announced the test is described. -/
theorem TestPhase.Agrees.of_setStopping {phase : TestPhase}
    (agrees : phase.Agrees pub) (atEnd : pub.point = .setStopping) :
    ∃ test, phase = .stopping test ∧ test.Describes pub.runData.stats := by
  cases phase with
  | idle => simp [TestPhase.Agrees, MainPoint.Waits, atEnd] at agrees
  | starting => simp [TestPhase.Agrees, MainPoint.Waits, atEnd] at agrees
  | running accepted began sent =>
      obtain ⟨_, publishes | raised⟩ := agrees
      · simpa [atEnd] using publishes.point
      · simp [atEnd] at raised
  | leaving => simp [TestPhase.Agrees, atEnd] at agrees
  | stopping test =>
      have written := agrees.2.2
      simp only [TestRun.WrittenAt, atEnd] at written
      exact ⟨test, rfl, written⟩

end Execute

/-! ### What the publisher is doing -/

/-- No test is underway. -/
def Idle (pub : PubState) : Prop :=
  sinceReset pub.trace = [] ∧ TestPhase.idle.Agrees pub

/-- The test that was started at the given time is underway, and its end is not
announced yet. -/
structure Testing (started : ℚ) (pub : PubState) : Prop where
  inTest : InTest pub
  begins : (sinceReset pub.trace).head? = some (.accepted started)
  running : pub.runData.testStatus = "running"
  notReset : pub.point ≠ .resetStart

/-- The statistics are those of the test that was started at the given time,
whose events are a part of the trace. -/
def Reports (started : ℚ) (pub : PubState) : Prop :=
  ∃ test : TestRun, test.accepted = started ∧
    test.Describes pub.runData.stats ∧ test.events <:+: pub.trace

/-- The end of the test that was started at the given time is announced. -/
structure Over (started : ℚ) (pub : PubState) : Prop where
  stopping : pub.runData.testStatus = "stopping"
  reports : Reports started pub
  ended : pub.point = .resetStart ∨ Idle pub

/-- A test seems to be running, but its start is taken back. -/
def Lost (pub : PubState) : Prop :=
  pub.runData.testStatus = "running" ∧
    (pub.point = .resetStart ∨ pub.runData.start = false ∧ pub.point.Waits)

/-- The master waits for a test that will never be run. -/
def Session.Stuck (session : Session) : Prop :=
  (∃ started, session.master = .waiting started) ∧ Lost session.pub

/-- The publisher is doing what the master thinks. -/
def Session.Sound (session : Session) : Prop :=
  match session.master with
  | .free => Idle session.pub
  | .waiting started =>
      Testing started session.pub ∨ Over started session.pub
  | .told started => Over started session.pub

/-- A test is started between the announcement that the last one has ended and
the reset. -/
def StartsEarly (session : Session) (move : SessionMove) : Prop :=
  (∃ usage, move = .startTest usage) ∧ session.pub.point = .resetStart

/-! ### Steps while no test is underway -/

section Steps

variable {pub : PubState} {started : ℚ}

theorem Idle.execute (idle : Idle pub) (outcome : SendOutcome)
    (usage : Usage) :
    Idle (execute outcome usage pub) ∧
      (execute outcome usage pub).runData = pub.runData ∧
      (execute outcome usage pub).trace = pub.trace := by
  obtain ⟨events, notStarted, waits⟩ := idle
  obtain ⟨point, executes, stillWaits | ⟨start, _⟩⟩ :=
    execute_of_waits outcome usage waits
  · rw [executes]
    exact ⟨⟨events, notStarted, stillWaits⟩, rfl, rfl⟩
  · rw [notStarted] at start
    cases start

/-- A test that is started while none is underway. -/
theorem Idle.startTest (idle : Idle pub) (usage : Usage) :
    Testing pub.now (answer (.teststart usage) pub) where
  inTest := by
    have inTest : InTest pub := ⟨.idle, idle.1, idle.2⟩
    exact inTest.teststart idle.2.1 usage
  begins := by
    rw [answer_teststart, sinceReset_concat, idle.1]
    rfl
  running := by
    rw [answer_teststart]
  notReset := by
    intro atReset
    have waits := idle.2.2
    rw [answer_teststart] at atReset
    rw [atReset] at waits
    exact waits

/-- A statement of the main loop after the end is announced. -/
theorem Over.execute (isOver : Over started pub) (outcome : SendOutcome)
    (usage : Usage) : Over started (execute outcome usage pub) := by
  obtain ⟨stopping, ⟨test, accepted, describes, events⟩, atReset | idle⟩ := isOver
  · rw [execute_of_resetStart outcome usage atReset]
    refine ⟨stopping, ⟨test, accepted, describes, ?_⟩, .inr ⟨?_, rfl, trivial⟩⟩
    · exact events.trans (List.prefix_append _ _).isInfix
    · exact (sinceReset_concat _ _).trans (if_pos rfl)
  · obtain ⟨stillIdle, sameData, sameTrace⟩ := idle.execute outcome usage
    refine ⟨sameData ▸ stopping, ⟨test, accepted, ?_, ?_⟩, .inr stillIdle⟩
    · rw [sameData]
      exact describes
    · rw [sameTrace]
      exact events

/-- Time and the configuration do not matter once the end is announced. -/
theorem Over.withClock (isOver : Over started pub) (clock : ℚ)
    (metrics : PubMetrics) :
    Over started
      { pub with
        loop := { pub.loop with clock := clock }
        metrics := metrics } :=
  ⟨isOver.stopping, isOver.reports, isOver.ended⟩

/-! ### Steps of a test -/

/-- A statement of the main loop while a test is underway. -/
theorem Testing.execute (testing : Testing started pub)
    (outcome : SendOutcome) (usage : Usage) :
    Testing started (execute outcome usage pub) ∨
      Over started (execute outcome usage pub) := by
  by_cases atEnd : pub.point = .setStopping
  · obtain ⟨phase, events, agrees⟩ := testing.inTest
    obtain ⟨test, rfl, describes⟩ := agrees.of_setStopping atEnd
    have accepted : test.accepted = started := by
      have begins := testing.begins
      rw [events] at begins
      simpa [TestPhase.events, TestRun.events] using begins
    have part : test.events <:+: pub.trace := by
      have suffixed := sinceReset_suffix pub.trace
      rw [events] at suffixed
      exact suffixed.isInfix
    right
    rw [HDZmqpRepSrv.execute, atEnd]
    exact ⟨rfl, ⟨test, accepted, describes, part⟩, .inl rfl⟩
  · obtain ⟨sameStatus, notReset⟩ :=
      execute_of_not_setStopping outcome usage atEnd
    obtain ⟨_, events, grows, noReset⟩ :=
      execute_grows outcome usage testing.notReset
    left
    refine ⟨testing.inTest.execute outcome usage, ?_,
      sameStatus.trans testing.running, notReset⟩
    rw [grows, sinceReset_append _ noReset, List.head?_append, testing.begins]
    rfl

theorem Testing.withClock (testing : Testing started pub) (clock : ℚ) :
    Testing started { pub with loop := { pub.loop with clock := clock } } :=
  ⟨testing.inTest.withClock clock pub.metrics, testing.begins, testing.running,
    testing.notReset⟩

/-- `run_data['start']` is set while a test is underway. -/
theorem Testing.start (testing : Testing started pub) :
    pub.runData.start = true := by
  obtain ⟨phase, events, agrees⟩ := testing.inTest
  by_contra notStarted
  rw [Bool.not_eq_true] at notStarted
  obtain rfl := agrees.eq_idle_iff.mpr notStarted
  have begins := testing.begins
  rw [events] at begins
  simp [TestPhase.events] at begins

end Steps

/-! ### Steps of a session -/

theorem Session.Sound.not_stuck {session : Session} (sound : session.Sound) :
    ¬ session.Stuck := by
  rintro ⟨⟨started, waiting⟩, running, lost⟩
  rw [Session.Sound, waiting] at sound
  rcases sound with testing | isOver
  · rcases lost with atReset | ⟨notStarted, _⟩
    · exact testing.notReset atReset
    · simp [testing.start] at notStarted
  · rw [isOver.stopping] at running
    exact absurd running (by decide)

/-- The main loop and the clock do not tell the master anything. -/
theorem Session.Sound.execute {pub : PubState} {master : Master}
    (sound : (Session.mk pub master).Sound) (outcome : SendOutcome)
    (usage : Usage) :
    (Session.mk (execute outcome usage pub) master).Sound := by
  cases master with
  | free => exact (Idle.execute sound outcome usage).1
  | waiting started =>
      rcases sound with testing | isOver
      · exact testing.execute outcome usage
      · exact .inr (isOver.execute outcome usage)
  | told started => exact Over.execute sound outcome usage

theorem Session.Sound.tick {pub : PubState} {master : Master}
    (sound : (Session.mk pub master).Sound) (time : ℚ≥0) :
    (Session.mk (HDZmqpRepSrv.step pub (.tick time)) master).Sound := by
  cases master with
  | free => exact sound
  | waiting started =>
      rcases sound with testing | isOver
      · exact .inl (testing.withClock _)
      · exact .inr (isOver.withClock _ pub.metrics)
  | told started => exact Over.withClock sound _ pub.metrics

/-- The master polls the status of the test. -/
theorem Session.Sound.pollStatus {pub : PubState} {started : ℚ}
    (sound : (Session.mk pub (.waiting started)).Sound) :
    (Session.mk pub ((Master.waiting started).next pub .pollStatus)).Sound := by
  rcases sound with testing | isOver
  · have notEnded : endsWait pub.runData.testStatus = false := by
      rw [testing.running]
      decide
    rw [Master.next, notEnded]
    exact .inl testing
  · have ended : endsWait pub.runData.testStatus = true := by
      rw [isOver.stopping]
      decide
    rw [Master.next, if_pos ended]
    exact isOver

/-- The master starts a test, but not before the reset. -/
theorem Session.Sound.startTest {pub : PubState} {master : Master}
    {usage : Usage} (sound : (Session.mk pub master).Sound)
    (permitted : master.permits (.startTest usage) = true)
    (afterReset : pub.point ≠ .resetStart) :
    (Session.mk (answer (.teststart usage) pub) (.waiting pub.now)).Sound := by
  left
  cases master with
  | free => exact Idle.startTest sound usage
  | waiting started => simp [Master.permits] at permitted
  | told started =>
      obtain ⟨_, _, atReset | idle⟩ := sound
      · exact (afterReset atReset).elim
      · exact idle.startTest usage

/-- A session stays sound until a test is started early. -/
theorem Session.Sound.step {session : Session} {move : SessionMove}
    (sound : session.Sound) (permitted : session.master.permits move = true)
    (notEarly : ¬ StartsEarly session move) : (session.step move).Sound := by
  obtain ⟨pub, master⟩ := session
  cases move with
  | tick time =>
      cases master <;> exact sound.tick time
  | execute outcome usage =>
      cases master <;> exact sound.execute outcome usage
  | startTest usage =>
      have afterReset : pub.point ≠ .resetStart :=
        fun atReset => notEarly ⟨⟨usage, rfl⟩, atReset⟩
      cases master <;> exact sound.startTest permitted afterReset
  | pollStatus =>
      cases master with
      | waiting started => exact sound.pollStatus
      | free | told => simp [Master.permits] at permitted
  | updateConfig updated =>
      cases master with
      | free => exact sound
      | waiting started => simp [Master.permits] at permitted
      | told started => exact Over.withClock sound pub.loop.clock updated
  | getStats =>
      cases master with
      | told started => exact sound
      | free | waiting => simp [Master.permits] at permitted

/-- A test that is started before the reset is lost. -/
theorem Session.stuck_of_startsEarly {session : Session} {move : SessionMove}
    (early : StartsEarly session move) : (session.step move).Stuck := by
  obtain ⟨⟨usage, rfl⟩, atReset⟩ := early
  have answered := answer_teststart session.pub usage
  refine ⟨⟨session.pub.now, ?_⟩, ?_, .inl ?_⟩
  · simp [Session.step, Master.next]
  · exact congrArg (fun pub => pub.runData.testStatus) answered
  · exact (congrArg PubState.point answered).trans atReset

/-- No statement of the main loop brings a lost test back. -/
theorem Lost.execute {pub : PubState} (lost : Lost pub)
    (outcome : SendOutcome) (usage : Usage) :
    Lost (execute outcome usage pub) := by
  obtain ⟨running, atReset | ⟨notStarted, waits⟩⟩ := lost
  · rw [execute_of_resetStart outcome usage atReset]
    exact ⟨running, .inr ⟨rfl, trivial⟩⟩
  · obtain ⟨point, executes, stillWaits | ⟨start, _⟩⟩ :=
      execute_of_waits outcome usage waits
    · rw [executes]
      exact ⟨running, .inr ⟨notStarted, stillWaits⟩⟩
    · rw [notStarted] at start
      cases start

/-- The master of a stuck session goes on waiting. -/
theorem Session.Stuck.step {session : Session} {move : SessionMove}
    (stuck : session.Stuck) (permitted : session.master.permits move = true) :
    (session.step move).Stuck ∧
      (session.step move).master = session.master := by
  obtain ⟨pub, master⟩ := session
  obtain ⟨⟨started, rfl⟩, lost⟩ := stuck
  cases move with
  | tick time => exact ⟨⟨⟨started, rfl⟩, lost⟩, rfl⟩
  | execute outcome usage =>
      exact ⟨⟨⟨started, rfl⟩, lost.execute outcome usage⟩, rfl⟩
  | pollStatus =>
      have notEnded : endsWait pub.runData.testStatus = false := by
        rw [lost.1]
        decide
      have waits :
          (Master.waiting started).next pub .pollStatus = .waiting started := by
        simp [Master.next, notEnded]
      exact ⟨⟨⟨started, waits⟩, lost⟩, waits⟩
  | updateConfig | startTest | getStats => simp [Master.permits] at permitted

/-! ### Sessions -/

/-- The statistics that a master fetches are those of the test that it started
last. -/
def Fetches (step : Step Session SessionMove) : Prop :=
  step.label = .getStats →
    ∃ started, step.before.master = .told started ∧
      Reports started step.before.pub

theorem Session.sound_or_stuck {session : Session} {move : SessionMove}
    (good : session.Sound ∨ session.Stuck)
    (permitted : session.master.permits move = true) :
    (session.step move).Sound ∨ (session.step move).Stuck := by
  rcases good with sound | stuck
  · by_cases early : StartsEarly session move
    · exact .inr (Session.stuck_of_startsEarly early)
    · exact .inl (sound.step permitted early)
  · exact .inr (stuck.step permitted).1

theorem Session.fetches {session after : Session} {move : SessionMove}
    (good : session.Sound ∨ session.Stuck)
    (permitted : session.master.permits move = true) :
    Fetches ⟨session, move, after⟩ := by
  rintro rfl
  obtain ⟨pub, master⟩ := session
  cases master with
  | told started =>
      rcases good with sound | ⟨⟨_, waiting⟩, _⟩
      · exact ⟨started, rfl, sound.reports⟩
      · cases waiting
  | free | waiting => simp [Master.permits] at permitted

/-- Once a session is stuck its master waits for ever. -/
theorem Session.Stuck.run {start final : Session}
    {steps : List (Step Session SessionMove)}
    (run : Run SessionStep start steps final) (stuck : start.Stuck) :
    ∀ step ∈ steps, step.after.Stuck ∧ step.after.master = start.master := by
  have preserved (before : Session) (move : SessionMove) (after : Session)
      (waits : before.Stuck ∧ before.master = start.master)
      (taken : SessionStep before move after) :
      after.Stuck ∧ after.master = start.master := by
    obtain ⟨permitted, rfl⟩ := taken
    obtain ⟨stillStuck, sameMaster⟩ := waits.1.step permitted
    exact ⟨stillStuck, sameMaster.trans waits.2⟩
  have waits := run.invariant preserved ⟨stuck, rfl⟩
  exact fun step member => (waits step member).2.2

theorem stuck_pairwise {start final : Session}
    {steps : List (Step Session SessionMove)}
    (run : Run SessionStep start steps final) :
    steps.Pairwise fun step later => step.after.Stuck →
      later.after.Stuck ∧ later.after.master = step.after.master := by
  induction run with
  | stop => exact .nil
  | next taken rest ih =>
      exact .cons (fun later member stuck => stuck.run rest later member) ih

/-- In every session of a master that waits for the end of its tests, the
statistics that it fetches are those of the test that it started last.  The
master never waits for a test that is lost if and only if it never starts one
before the reset, and if it does then it waits for ever. -/
theorem session_tests {metrics : PubMetrics} {clock : ℚ}
    {steps : List (Step Session SessionMove)} {final : Session}
    (run : Run SessionStep (Session.initial metrics clock) steps final) :
    (∀ step ∈ steps, Fetches step) ∧
      ((∀ step ∈ steps, ¬ step.after.Stuck) ↔
        ∀ step ∈ steps, ¬ StartsEarly step.before step.label) ∧
      steps.Pairwise fun step later => step.after.Stuck →
        later.after.Stuck ∧ later.after.master = step.after.master := by
  have preserved (before : Session) (move : SessionMove) (after : Session)
      (good : before.Sound ∨ before.Stuck)
      (taken : SessionStep before move after) : after.Sound ∨ after.Stuck := by
    obtain ⟨permitted, rfl⟩ := taken
    exact Session.sound_or_stuck good permitted
  have exact (before : Session) (move : SessionMove) (after : Session)
      (good : before.Sound ∨ before.Stuck) (notStuck : ¬ before.Stuck)
      (taken : SessionStep before move after) :
      ¬ after.Stuck ↔ ¬ StartsEarly before move := by
    obtain ⟨permitted, rfl⟩ := taken
    have sound := good.resolve_right notStuck
    constructor
    · exact fun goesOn early => goesOn (Session.stuck_of_startsEarly early)
    · exact fun notEarly => (sound.step permitted notEarly).not_stuck
  have sound : (Session.initial metrics clock).Sound := ⟨rfl, rfl, trivial⟩
  refine ⟨?_, ?_, stuck_pairwise run⟩
  · intro step member
    obtain ⟨taken, good, _⟩ := run.invariant preserved (.inl sound) step member
    exact Session.fetches good taken.1
  · exact run.forall_iff (fun session => session.Sound ∨ session.Stuck)
      (fun session => ¬ session.Stuck)
      (fun before move after good _ taken =>
        preserved before move after good taken)
      exact (.inl sound) sound.not_stuck

/-- The steps of the given moves. -/
def Session.stepsFrom (session : Session) :
    List SessionMove → List (Step Session SessionMove)
  | [] => []
  | move :: moves =>
      ⟨session, move, session.step move⟩ ::
        (session.step move).stepsFrom moves

/-- The master may make all of the given moves. -/
def Session.permitsAll (session : Session) : List SessionMove → Bool
  | [] => true
  | move :: moves =>
      session.master.permits move && (session.step move).permitsAll moves

theorem Session.run_stepsFrom {session : Session} {moves : List SessionMove}
    (permitted : session.permitsAll moves = true) :
    Run SessionStep session (session.stepsFrom moves)
      (moves.foldl Session.step session) := by
  induction moves generalizing session with
  | nil => exact .stop
  | cons move moves ih =>
      rw [Session.permitsAll, Bool.and_eq_true] at permitted
      exact .next ⟨permitted.1, rfl⟩ (ih permitted.2)

/-- One test, and a second one that is started before the reset. -/
def earlyStart : List SessionMove :=
  .startTest noUsage :: List.replicate 6 (.execute .handedOver noUsage) ++
    .tick 1 :: List.replicate 9 (.execute .handedOver noUsage) ++
    [.pollStatus, .getStats, .startTest noUsage, .execute .handedOver noUsage,
      .pollStatus]

theorem earlyStart_tests :
    let steps := (Session.initial oneMessage 0).stepsFrom earlyStart
    (∀ step ∈ steps, Fetches step) ∧
      ((∀ step ∈ steps, ¬ step.after.Stuck) ↔
        ∀ step ∈ steps, ¬ StartsEarly step.before step.label) ∧
      steps.Pairwise fun step later => step.after.Stuck →
        later.after.Stuck ∧ later.after.master = step.after.master :=
  session_tests (Session.run_stepsFrom (by decide +kernel))

end HDZmqpRepSrv

end MScale
