import MScale.MessageChannels

/-!
# The measurement of a test

`rerun_test` configures the publisher, resets its subscribers, starts a test,
waits for its end, and fetches the statistics of the publisher and of the
subscribers.  This file puts the master, the publisher and the subscribers
together.
-/

namespace MScale

namespace TestMeasurement

open HDZmqpRepSrv LabelledRuns MessageChannels

/-! ### The system -/

/-- What a channel looks like at some time: how many messages the publisher has
handed over, how many of them were lost, and how many are on their way. -/
structure Mark where
  sent : ℕ
  lost : ℕ
  underway : ℕ
  deriving DecidableEq, Repr

/-- How many of the messages between two marks the subscriber missed, where those
on their way are missed messages at the end and additional ones at the start. -/
def Mark.missed (start finish : Mark) : ℤ :=
  ((finish.lost : ℤ) - start.lost) + ((finish.underway : ℤ) - start.underway)

/-- The publisher with the master and the channels to the subscribers.  The
master has begun to prepare the next test or not.  It holds the statistics of
the last test that it has fetched; for each subscriber also the marks of the
channel at the reset and when the statistics were read are recorded. -/
structure TestState where
  session : Session
  channels : String → Channel
  preparing : Bool
  resetAt : String → Option Mark
  pubStats : Option (Dict StatValue)
  subStats : String → Option (Dict SubStat × Mark)

/-- A move of the publisher or a request of the master to it, a move on a
channel, or a request of the master to a subscriber.  `fetch_app_stats` keeps
some of the statistics that it reads. -/
inductive TestMove
  | session (move : SessionMove)
  | channel (key : String) (move : ChannelMove)
  | resetStats (key : String) (usage : Usage)
  | updateConfig (key : String) (recvRate reconnectRate : ℚ)
  | getStats (key : String) (usage : Usage) (kept : Bool)
  deriving DecidableEq

/-- The mark of a channel. -/
def TestState.mark (now : TestState) (key : String) : Mark where
  sent := published now.session.pub
  lost := (now.channels key).lost
  underway := (now.channels key).underway

/-- The master was told of the end of its test and collects the statistics. -/
def TestState.collecting (now : TestState) : Bool :=
  match now.session.master with
  | .told _ => !now.preparing
  | _ => false

/-- `rerun_test` asks for one thing after the other, and a request that fails is
its last one. -/
def TestState.permits (instances : List String) (now : TestState) :
    TestMove → Bool
  | .session move =>
      now.session.master.permits move &&
        match move with
        | .startTest _ =>
            now.preparing && instances.all fun key => (now.resetAt key).isSome
        | .getStats => now.collecting
        | _ => true
  | .channel _ _ => true
  | .resetStats key _ => now.preparing && key ∈ instances
  | .updateConfig key _ _ => now.preparing && key ∈ instances
  | .getStats key usage _ =>
      now.collecting && key ∈ instances &&
        ((now.channels key).sub.hd.getStats usage).1.isOk

/-- What a request to the publisher changes for the master.  `rerun_test` begins
with `updateconfig`. -/
def TestState.request (now : TestState) : SessionMove → TestState
  | .updateConfig _ =>
      { now with preparing := true, resetAt := fun _ => none }
  | .startTest _ =>
      { now with
        preparing := false
        pubStats := none
        subStats := fun _ => none }
  | .getStats => { now with pubStats := some now.session.pub.runData.stats }
  | _ => now

/-- The subscriber handles a command. -/
def TestState.commandSub (now : TestState) (key : String)
    (command : SubscriberLoop.SubCommand) : TestState :=
  { now with
    channels := Function.update now.channels key
      ((now.channels key).command command) }

/-- One move. -/
def TestState.step (now : TestState) : TestMove → TestState
  | .session move =>
      { now.request move with
        session := now.session.step move
        channels := fun key =>
          (now.channels key).publish (sentTexts now.session.pub move) }
  | .channel key move =>
      { now with
        channels := Function.update now.channels key
          ((now.channels key).step move) }
  | .resetStats key usage =>
      { now.commandSub key (.resetstats usage) with
        resetAt := Function.update now.resetAt key (some (now.mark key)) }
  | .updateConfig key recvRate reconnectRate =>
      now.commandSub key (.updateconfig recvRate reconnectRate)
  | .getStats key usage kept =>
      let after := now.commandSub key (.getstats usage)
      if kept then
        { after with
          subStats := Function.update now.subStats key
            (some ((after.channels key).sub.hd.stats, now.mark key)) }
      else after

/-- The steps of the system. -/
def TestStep (instances : List String) (before : TestState) (move : TestMove)
    (after : TestState) : Prop :=
  before.permits instances move = true ∧ after = before.step move

/-- The publisher is launched, and the subscribers are in any state. -/
def TestState.initial (metrics : PublisherLoop.PubMetrics) (clock : ℚ)
    (channels : String → Channel) : TestState where
  session := Session.initial metrics clock
  channels := channels
  preparing := false
  resetAt := fun _ => none
  pubStats := none
  subStats := fun _ => none

/-! ### What a subscriber has counted -/

/-- Since its reset the subscriber has counted what was sent, except what was
lost and what is on its way. -/
def Balanced (now : TestState) : Prop :=
  ∀ key start, now.resetAt key = some start →
    (now.channels key).total + start.sent =
      published now.session.pub + start.lost + start.underway

section Balanced

variable {now : TestState}

theorem Balanced.session (balanced : Balanced now) (move : SessionMove) :
    Balanced (now.step (.session move)) := by
  have published := published_step now.session.pub move
  intro key start reset
  have before : now.resetAt key = some start := by
    cases move with
    | updateConfig updated => cases reset
    | _ => exact reset
  have counted := balanced key start before
  change ((now.channels key).publish _).total + start.sent =
    MessageChannels.published (HDZmqpRepSrv.step now.session.pub move.move) + _ + _
  rw [Channel.total_publish, published]
  omega

/-- What keeps the totals of the channels keeps the balance. -/
theorem Balanced.update (balanced : Balanced now) {key : String}
    {channel : Channel} (sameTotal : channel.total = (now.channels key).total) :
    Balanced { now with channels := Function.update now.channels key channel } := by
  intro other start reset
  have counted := balanced other start reset
  change (Function.update now.channels key channel other).total + _ = _
  by_cases same : other = key
  · subst same
    rw [Function.update_self, sameTotal]
    exact counted
  · rw [Function.update_of_ne same]
    exact counted

end Balanced

/-! ### What the publisher has sent -/

/-- The publisher has sent the given number of messages before its last test,
and reports its messages since then once the end of the test is announced. -/
structure Produced (base : ℕ) (pub : PubState) : Prop where
  running : pub.runData.testStatus = "running" →
    base + (sinceReset pub.trace).count .published = published pub
  stopping : pub.runData.testStatus = "stopping" → ∃ msgCnt : ℕ,
    pub.runData.stats.lookup "msg_cnt" = some (.int msgCnt) ∧
      base + msgCnt = published pub

section Produced

variable {pub : PubState} {base : ℕ} {started : ℚ}

theorem count_events (test : TestRun) :
    test.events.count .published = test.msgCnt := by
  simp [TestRun.events]

/-- A test whose end is announced reports the messages that it has sent. -/
theorem produced_execute_of_testing (testing : Testing started pub)
    (produced : Produced base pub) (outcome : PublisherLoop.SendOutcome)
    (usage : Usage) : Produced base (execute outcome usage pub) := by
  have sentSoFar := produced.running testing.running
  by_cases atEnd : pub.point = .setStopping
  · obtain ⟨phase, events, agrees⟩ := testing.inTest
    obtain ⟨test, rfl, describes⟩ := agrees.of_setStopping atEnd
    have isTest : sinceReset pub.trace = test.events := events
    rw [isTest, count_events] at sentSoFar
    rw [execute, atEnd]
    constructor
    · intro running
      exact absurd (show "stopping" = "running" from running) (by decide)
    · exact fun _ => ⟨test.msgCnt, describes.msgCnt, sentSoFar⟩
  · obtain ⟨sameStatus, _⟩ := execute_of_not_setStopping outcome usage atEnd
    obtain ⟨_, events, grows, noReset⟩ :=
      execute_grows outcome usage testing.notReset
    rw [testing.running] at sameStatus
    constructor
    · intro _
      rw [published, grows, sinceReset_append _ noReset, List.count_append,
        List.count_append, ← add_assoc, sentSoFar]
      rfl
    · intro stopping
      rw [sameStatus] at stopping
      exact absurd stopping (by decide)

/-- After the end is announced the publisher neither sends nor writes
statistics. -/
theorem execute_of_over (isOver : Over started pub)
    (outcome : PublisherLoop.SendOutcome) (usage : Usage) :
    (execute outcome usage pub).runData.stats = pub.runData.stats ∧
      published (execute outcome usage pub) = published pub := by
  rcases isOver.ended with atReset | idle
  · rw [execute_of_resetStart outcome usage atReset]
    simp [published]
  · obtain ⟨_, sameData, sameTrace⟩ := idle.execute outcome usage
    exact ⟨congrArg RunData.stats sameData, congrArg (List.count _) sameTrace⟩

theorem produced_execute_of_over (isOver : Over started pub)
    (produced : Produced base pub) (outcome : PublisherLoop.SendOutcome)
    (usage : Usage) : Produced base (execute outcome usage pub) := by
  obtain ⟨sameStats, samePublished⟩ := execute_of_over isOver outcome usage
  have stillOver := isOver.execute outcome usage
  constructor
  · intro running
    rw [stillOver.stopping] at running
    exact absurd running (by decide)
  · intro _
    rw [sameStats, samePublished]
    exact produced.stopping isOver.stopping

/-- A new test has sent nothing yet. -/
theorem produced_startTest (idle : Idle pub) (usage : Usage) :
    Produced (published pub) (answer (.teststart usage) pub) := by
  have samePublished := published_answer (.teststart usage) pub
  have testing := idle.startTest usage
  constructor
  · intro _
    rw [samePublished, answer_teststart, sinceReset_concat, idle.1]
    rfl
  · intro stopping
    rw [testing.running] at stopping
    exact absurd stopping (by decide)

end Produced

end TestMeasurement

end MScale
