import MScale.TestPhases

/-!
# Tests of the C++ publisher

The events of the publisher are always in the order of the test phases, and its
flags, counters and statistics agree with the phase.  It follows that a test is
started and stopped once, that the statistics of a test which a client was told
to have ended are complete, and that the rate is computed with a positive
divisor.
-/

namespace MScale

namespace ZmqPub

variable {FloatNum : Type} {protobuf : Protobuf FloatNum}
  {floatUnit : FloatUnit FloatNum}

/-! ### Answers -/

/-- Only the configuration differs. -/
def SameTest (tctrl updated : TestControl FloatNum) : Prop :=
  ∃ testDuration msgBatch msgRequestedRate,
    updated = { tctrl with
      testDuration := testDuration
      msgBatch := msgBatch
      msgRequestedRate := msgRequestedRate }

theorem SameTest.refl (tctrl : TestControl FloatNum) : SameTest tctrl tctrl :=
  ⟨_, _, _, rfl⟩

theorem SameTest.trans {tctrl updated final : TestControl FloatNum}
    (first : SameTest tctrl updated) (second : SameTest updated final) :
    SameTest tctrl final := by
  obtain ⟨_, _, _, rfl⟩ := first
  obtain ⟨testDuration, msgBatch, msgRequestedRate, rfl⟩ := second
  exact ⟨testDuration, msgBatch, msgRequestedRate, rfl⟩

theorem updateConfig_sameTest {tctrl updated : TestControl FloatNum}
    {arg : CommandArgs FloatNum}
    (isUpdated : tctrl.updateConfig floatUnit arg = some updated) :
    SameTest tctrl updated := by
  unfold TestControl.updateConfig at isUpdated
  split_ifs at isUpdated
  · obtain ⟨value, _, rfl⟩ := Option.map_eq_some_iff.mp isUpdated
    exact ⟨_, _, _, rfl⟩
  · obtain ⟨value, _, rfl⟩ := Option.map_eq_some_iff.mp isUpdated
    exact ⟨_, _, _, rfl⟩
  · split at isUpdated
    · obtain rfl := Option.some.inj isUpdated
      exact ⟨_, _, _, rfl⟩
    · obtain rfl := Option.some.inj isUpdated
      exact ⟨_, _, _, rfl⟩
    · simp at isUpdated
  · obtain rfl := Option.some.inj isUpdated
    exact SameTest.refl tctrl

/-- All arguments together change only the configuration. -/
theorem foldlM_updateConfig_sameTest {args : List (CommandArgs FloatNum)}
    {tctrl updated : TestControl FloatNum}
    (isUpdated :
      args.foldlM (TestControl.updateConfig floatUnit) tctrl = some updated) :
    SameTest tctrl updated := by
  induction args generalizing tctrl with
  | nil =>
      obtain rfl := Option.some.inj isUpdated
      exact SameTest.refl tctrl
  | cons arg args ih =>
      rw [List.foldlM_cons, Option.bind_eq_bind,
        Option.bind_eq_some_iff] at isUpdated
      obtain ⟨middle, isMiddle, isRest⟩ := isUpdated
      exact (updateConfig_sameTest isMiddle).trans (ih isRest)

/-- A test that is not ending has another status. -/
theorem status_of_tellsEnd {tctrl : TestControl FloatNum}
    (tells : tctrl.status = "stopping" ∨ tctrl.status = "stopped") :
    tctrl.startPublishing = false := by
  unfold TestControl.status at tells
  cases startPublishing : tctrl.startPublishing with
  | false => rfl
  | true => cases publishing : tctrl.publishing <;>
      simp [startPublishing, publishing] at tells

/-- What a command does: it accepts a test when both flags are unset, or it
leaves everything but the configuration as it is. -/
theorem processCommand_cases {cmd : Command FloatNum}
    {tctrl updated : TestControl FloatNum} {reply : ResponseMessage FloatNum}
    (answers : processCommand floatUnit cmd tctrl = some (updated, reply)) :
    ((Event.answered (some ⟨.subcmd, some cmd⟩) reply).testEvent =
          some .accepted ∧
        tctrl.publishing = false ∧ tctrl.startPublishing = false ∧
        updated = { tctrl with startPublishing := true }) ∨
      ((Event.answered (some ⟨.subcmd, some cmd⟩) reply).testEvent = none ∧
        SameTest tctrl updated ∧
        ((Event.answered (some ⟨.subcmd, some cmd⟩) reply).tellsEnd = true →
          tctrl.startPublishing = false)) := by
  unfold processCommand at answers
  split_ifs at answers with isPing isStart isBusy isStatus isUpdate isStats
  · obtain ⟨rfl, rfl⟩ := Prod.mk.inj (Option.some.inj answers)
    exact .inr ⟨by simp [Event.testEvent, isCommand, isPing],
      SameTest.refl tctrl, by simp [Event.tellsEnd, isCommand, isPing]⟩
  · obtain ⟨rfl, rfl⟩ := Prod.mk.inj (Option.some.inj answers)
    exact .inr ⟨by simp [Event.testEvent],
      SameTest.refl tctrl, by simp [Event.tellsEnd, isCommand, isStart]⟩
  · obtain ⟨rfl, rfl⟩ := Prod.mk.inj (Option.some.inj answers)
    rw [Bool.or_eq_true, not_or, Bool.not_eq_true, Bool.not_eq_true] at isBusy
    exact .inl ⟨by simp [Event.testEvent, isCommand, isStart], isBusy.1,
      isBusy.2, rfl⟩
  · obtain ⟨rfl, rfl⟩ := Prod.mk.inj (Option.some.inj answers)
    refine .inr ⟨by simp [Event.testEvent, isCommand, isStart],
      SameTest.refl tctrl, fun tells => status_of_tellsEnd ?_⟩
    simpa [Event.tellsEnd, isCommand, isStatus, textResp] using tells
  · obtain ⟨changed, isChanged, changedEq⟩ := Option.map_eq_some_iff.mp answers
    obtain ⟨rfl, rfl⟩ := Prod.mk.inj changedEq
    exact .inr ⟨by simp [Event.testEvent, isCommand, isStart],
      foldlM_updateConfig_sameTest isChanged,
      by simp [Event.tellsEnd, isCommand, isStatus]⟩
  · obtain ⟨rfl, rfl⟩ := Prod.mk.inj (Option.some.inj answers)
    exact .inr ⟨by simp [Event.testEvent, isCommand, isStart],
      SameTest.refl tctrl, by simp [Event.tellsEnd, isCommand, isStatus]⟩
  · obtain ⟨rfl, rfl⟩ := Prod.mk.inj (Option.some.inj answers)
    exact .inr ⟨by simp [Event.testEvent, isCommand, isStart],
      SameTest.refl tctrl, by simp [Event.tellsEnd, isCommand, isStatus]⟩

/-- What an answer does. -/
theorem processMessage_cases {cmsg : Option (CommandMessage FloatNum)}
    {tctrl updated : TestControl FloatNum} {reply : ResponseMessage FloatNum}
    (answers : processMessage floatUnit cmsg tctrl = some (updated, reply)) :
    ((Event.answered cmsg reply).testEvent = some .accepted ∧
        tctrl.publishing = false ∧ tctrl.startPublishing = false ∧
        updated = { tctrl with startPublishing := true }) ∨
      ((Event.answered cmsg reply).testEvent = none ∧ SameTest tctrl updated ∧
        ((Event.answered cmsg reply).tellsEnd = true →
          tctrl.startPublishing = false)) := by
  unfold processMessage at answers
  split at answers
  · obtain ⟨rfl, rfl⟩ := Prod.mk.inj (Option.some.inj answers)
    exact .inr ⟨by simp [Event.testEvent], SameTest.refl tctrl,
      by simp [Event.tellsEnd, isCommand]⟩
  · exact processCommand_cases answers
  · next type cmd notCommand =>
    obtain ⟨rfl, rfl⟩ := Prod.mk.inj (Option.some.inj answers)
    refine .inr ⟨by simp [Event.testEvent], SameTest.refl tctrl, ?_⟩
    have isOther : isCommand "teststatus" (some ⟨type, cmd⟩) = false := by
      cases type with
      | stop => rfl
      | subcmd =>
          cases cmd with
          | none => rfl
          | some cmd => exact (notCommand cmd rfl rfl).elim
    simp [Event.tellsEnd, isOther]

/-! ### Agreement with the phase -/

/-- The integer statistics of a complete test. -/
def completeIntStats (start stop : UInt64) (handed : ℕ) : StatMap UInt64 :=
  [("msg_cnt", UInt64.ofNat handed), ("time:end", stop), ("time:start", start)]

/-- The publisher while a test runs.  It is only asked to end the test after
some time and outside of the loop that sends, and a client is only told so right
before the flags are checked. -/
structure RunsTest (loop : MainLoop FloatNum) (start : UInt64) (handed : ℕ)
    (told : Bool) : Prop where
  publishing : loop.tctrl.publishing = true
  intStats : loop.tctrl.intStats = [("time:start", start)]
  floatStats : loop.tctrl.floatStats = []
  msgCnt : loop.tctrl.msgCnt = UInt64.ofNat handed
  startTime : loop.startTime = start
  started : start ≤ loop.clock
  ending : loop.tctrl.startPublishing = false →
    start < loop.clock ∧ loop.point ≠ .publish
  toldEnding : told = true →
    loop.tctrl.startPublishing = false ∧ loop.point = .checkFlags

/-- The publisher after a test. -/
structure HasEndedTest (floatUnit : FloatUnit FloatNum)
    (loop : MainLoop FloatNum) (start stop : UInt64) (handed : ℕ) : Prop where
  notPublishing : loop.tctrl.publishing = false
  notStarting : loop.tctrl.startPublishing = false
  intStats : loop.tctrl.intStats = completeIntStats start stop handed
  floatStats : loop.tctrl.floatStats =
    [("rate", floatUnit.quotient (UInt64.ofNat handed) (stop - start))]

/-- The flags, counters and statistics of the publisher in a phase. -/
def TestPhase.Agrees (floatUnit : FloatUnit FloatNum)
    (loop : MainLoop FloatNum) : TestPhase → Prop
  | .idle =>
      loop.tctrl.publishing = false ∧ loop.tctrl.startPublishing = false
  | .accepted =>
      loop.tctrl.publishing = false ∧ loop.tctrl.startPublishing = true ∧
        loop.point = .checkFlags
  | .running start handed told => RunsTest loop start handed told
  | .ended start stop handed => HasEndedTest floatUnit loop start stop handed

theorem RunsTest.notTold_of_point {loop : MainLoop FloatNum} {start : UInt64}
    {handed : ℕ} {told : Bool} (runs : RunsTest loop start handed told)
    (elsewhere : loop.point ≠ .checkFlags) : told = false :=
  Bool.eq_false_iff.mpr fun isTold => elsewhere (runs.toldEnding isTold).2

theorem RunsTest.notTold_of_starting {loop : MainLoop FloatNum}
    {start : UInt64} {handed : ℕ} {told : Bool}
    (runs : RunsTest loop start handed told)
    (starting : loop.tctrl.startPublishing = true) : told = false :=
  Bool.eq_false_iff.mpr fun isTold => by
    simpa [starting] using (runs.toldEnding isTold).1

/-- The events so far are in order, and the publisher agrees with the phase
after them. -/
def InPhase (floatUnit : FloatUnit FloatNum) (loop : MainLoop FloatNum) :
    Prop :=
  ∃ phase, phaseAfter loop.trace = some phase ∧ phase.Agrees floatUnit loop

/-! ### One move -/

theorem InPhase.tick {loop : MainLoop FloatNum}
    (inPhase : InPhase floatUnit loop) (later : UInt64) :
    InPhase floatUnit (step protobuf floatUnit loop (.tick later)) := by
  obtain ⟨phase, inOrder, agrees⟩ := inPhase
  refine ⟨phase, inOrder, ?_⟩
  cases phase with
  | idle | accepted => exact agrees
  | ended start stop handed => exact { agrees with }
  | running start handed told =>
      have started : start ≤
          if loop.clock ≤ later then later else loop.clock := by
        have := agrees.started
        grind
      have ending (stop : loop.tctrl.startPublishing = false) :
          start < if loop.clock ≤ later then later else loop.clock := by
        have := (agrees.ending stop).1
        grind
      exact { agrees with
        started := started
        ending := fun stop => ⟨ending stop, (agrees.ending stop).2⟩ }

/-- A phase in which the publisher polls still agrees when only the point
changes to another one where it does not send. -/
theorem TestPhase.Agrees.of_poll {phase : TestPhase}
    {loop : MainLoop FloatNum} (agrees : phase.Agrees floatUnit loop)
    (atPoll : loop.point = .poll) {point : LoopPoint}
    (notPublish : point ≠ .publish) :
    phase.Agrees floatUnit { loop with point := point } := by
  cases phase with
  | idle => exact agrees
  | ended start stop handed => exact { agrees with }
  | accepted => simp [atPoll, TestPhase.Agrees] at agrees
  | running start handed told =>
      have notTold : told = false := agrees.notTold_of_point (by simp [atPoll])
      exact { agrees with
        ending := fun stop => ⟨(agrees.ending stop).1, notPublish⟩
        toldEnding := by simp [notTold] }

/-- An answer that accepts a test begins the phase `accepted`. -/
theorem InPhase.accept {loop : MainLoop FloatNum}
    (inPhase : InPhase floatUnit loop)
    {cmsg : Option (CommandMessage FloatNum)}
    {reply : ResponseMessage FloatNum}
    (accepts : (Event.answered cmsg reply).testEvent = some .accepted)
    (notPublishing : loop.tctrl.publishing = false)
    (notStarting : loop.tctrl.startPublishing = false) :
    InPhase floatUnit
      { loop with
        tctrl := { loop.tctrl with startPublishing := true }
        point := .checkFlags
        trace := loop.trace ++ [.answered cmsg reply] } := by
  obtain ⟨phase, inOrder, agrees⟩ := inPhase
  refine ⟨.accepted, ?_, notPublishing, rfl, rfl⟩
  rw [phaseAfter_concat, inOrder, Option.bind_some]
  cases phase with
  | idle | ended => rw [TestPhase.next, if_pos accepts]
  | accepted => simp [TestPhase.Agrees, notStarting] at agrees
  | running => simpa [notPublishing] using agrees.publishing

/-- Any other answer keeps the phase, but may tell a client that the test
ends. -/
theorem InPhase.answer {loop : MainLoop FloatNum}
    (inPhase : InPhase floatUnit loop) (atPoll : loop.point = .poll)
    {cmsg : Option (CommandMessage FloatNum)}
    {reply : ResponseMessage FloatNum} {updated : TestControl FloatNum}
    (neutral : (Event.answered cmsg reply).testEvent = none)
    (sameTest : SameTest loop.tctrl updated)
    (tells : (Event.answered cmsg reply).tellsEnd = true →
      loop.tctrl.startPublishing = false) :
    InPhase floatUnit
      { loop with
        tctrl := updated
        point := .checkFlags
        trace := loop.trace ++ [.answered cmsg reply] } := by
  obtain ⟨phase, inOrder, agrees⟩ := inPhase
  obtain ⟨_, _, _, rfl⟩ := sameTest
  have notAccepted : (Event.answered cmsg reply).testEvent ≠
      some .accepted := by simp [neutral]
  cases phase with
  | idle =>
      refine ⟨.idle, ?_, agrees⟩
      rw [phaseAfter_concat, inOrder, Option.bind_some, TestPhase.next,
        if_neg notAccepted]
  | accepted => simp [atPoll, TestPhase.Agrees] at agrees
  | running start handed told =>
      have notTold : told = false := agrees.notTold_of_point (by simp [atPoll])
      refine ⟨.running start handed
        (told || (Event.answered cmsg reply).tellsEnd), ?_, ?_⟩
      · rw [phaseAfter_concat, inOrder, Option.bind_some, TestPhase.next,
          if_neg notAccepted]
      · rw [notTold, Bool.false_or]
        exact { agrees with
          ending := fun stop => ⟨(agrees.ending stop).1, by simp⟩
          toldEnding := fun isTold => ⟨tells isTold, rfl⟩ }
  | ended start stop handed =>
      refine ⟨.ended start stop handed, ?_, { agrees with }⟩
      rw [phaseAfter_concat, inOrder, Option.bind_some, TestPhase.next,
        if_neg notAccepted]

theorem InPhase.pollCommand {loop : MainLoop FloatNum}
    (inPhase : InPhase floatUnit loop) (atPoll : loop.point = .poll)
    (polled : PollResult) :
    InPhase floatUnit (pollCommand protobuf floatUnit polled loop) := by
  cases polled with
  | error =>
      obtain ⟨phase, inOrder, agrees⟩ := inPhase
      exact ⟨phase, inOrder, agrees.of_poll atPoll (by simp)⟩
  | nothing =>
      obtain ⟨phase, inOrder, agrees⟩ := inPhase
      exact ⟨phase, inOrder, agrees.of_poll atPoll (by simp)⟩
  | message msg =>
      unfold ZmqPub.pollCommand
      dsimp only
      split
      · obtain ⟨phase, inOrder, agrees⟩ := inPhase
        exact ⟨phase, inOrder, agrees.of_poll atPoll (by simp)⟩
      · next updated reply answers =>
        rcases processMessage_cases answers with
          ⟨accepts, notPublishing, notStarting, rfl⟩ | ⟨neutral, same, tells⟩
        · exact inPhase.accept accepts notPublishing notStarting
        · exact inPhase.answer atPoll neutral same tells

/-- The time between the start of a test and a later time is at least a
second. -/
theorem one_le_sub_of_lt {start now : UInt64} (isLater : start < now) :
    1 ≤ now - start := by
  rw [UInt64.le_iff_toNat_le,
    UInt64.toNat_sub_of_le _ _ (UInt64.le_of_lt isLater)]
  rw [UInt64.lt_iff_toNat_lt] at isLater
  simp only [UInt64.reduceToNat]
  omega

/-- A test is stopped with complete statistics. -/
theorem RunsTest.checkFlags_of_ending {loop : MainLoop FloatNum}
    {start : UInt64} {handed : ℕ} {told : Bool}
    (runs : RunsTest loop start handed told)
    (stopping : loop.tctrl.startPublishing = false) :
    checkFlags floatUnit loop =
      { loop with
        tctrl :=
          { loop.tctrl with
            publishing := false
            intStats := completeIntStats start loop.clock handed
            floatStats := [("rate", floatUnit.quotient (UInt64.ofNat handed)
              (loop.clock - start))] }
        point := .publish
        trace := loop.trace ++
          [.stoppedTest loop.clock (loop.clock - start)] } := by
  simp only [checkFlags, runs.publishing, stopping, Bool.not_true,
    Bool.not_false, Bool.and_self, Bool.false_eq_true, if_false, if_true,
    TestControl.stopTest, TestControl.elapsedTime, runs.intStats,
    runs.floatStats, runs.msgCnt]
  rfl

/-- Flags that agree demand nothing. -/
theorem checkFlags_of_same {loop : MainLoop FloatNum}
    (same : loop.tctrl.publishing = loop.tctrl.startPublishing) :
    checkFlags floatUnit loop = { loop with point := .publish } := by
  simp [checkFlags, same]

/-- An accepted test is started with statistics of its own. -/
theorem checkFlags_of_accepted {loop : MainLoop FloatNum}
    (notPublishing : loop.tctrl.publishing = false)
    (starting : loop.tctrl.startPublishing = true) :
    checkFlags floatUnit loop =
      { loop with
        tctrl :=
          { loop.tctrl with
            publishing := true
            intStats := [("time:start", loop.clock)]
            floatStats := []
            msgCnt := 0 }
        startTime := loop.clock
        cnt := 0
        point := .publish
        trace := loop.trace ++ [.startedTest loop.clock] } := by
  simp [checkFlags, notPublishing, starting, TestControl.startTest,
    StatMap.assign]

theorem InPhase.checkFlags {loop : MainLoop FloatNum}
    (inPhase : InPhase floatUnit loop) :
    InPhase floatUnit (checkFlags floatUnit loop) := by
  obtain ⟨phase, inOrder, agrees⟩ := inPhase
  cases phase with
  | idle =>
      obtain ⟨notPublishing, notStarting⟩ := agrees
      rw [checkFlags_of_same (notPublishing.trans notStarting.symm)]
      exact ⟨.idle, inOrder, notPublishing, notStarting⟩
  | accepted =>
      obtain ⟨notPublishing, starting, _⟩ := agrees
      rw [checkFlags_of_accepted notPublishing starting]
      refine ⟨.running loop.clock 0 false, ?_, ?_⟩
      · rw [phaseAfter_concat, inOrder, Option.bind_some, TestPhase.next]
      · exact
          { publishing := rfl
            intStats := rfl
            floatStats := rfl
            msgCnt := rfl
            startTime := rfl
            started := UInt64.le_refl _
            ending := by simp [starting]
            toldEnding := by simp }
  | running start handed told =>
      cases startPublishing : loop.tctrl.startPublishing with
      | true =>
          have notTold := agrees.notTold_of_starting startPublishing
          rw [checkFlags_of_same
            (agrees.publishing.trans startPublishing.symm)]
          refine ⟨.running start handed told, inOrder, ?_⟩
          exact { agrees with
            ending := by simp [startPublishing]
            toldEnding := by simp [notTold] }
      | false =>
          have isLater := (agrees.ending startPublishing).1
          rw [agrees.checkFlags_of_ending startPublishing]
          refine ⟨.ended start loop.clock handed, ?_,
            ⟨rfl, startPublishing, rfl, rfl⟩⟩
          rw [phaseAfter_concat, inOrder, Option.bind_some, TestPhase.next,
            if_pos ⟨rfl, one_le_sub_of_lt isLater⟩]
  | ended start stop handed =>
      rw [checkFlags_of_same
        (agrees.notPublishing.trans agrees.notStarting.symm)]
      exact ⟨.ended start stop handed, inOrder, { agrees with }⟩

/-- A test is only asked to end when the clock has advanced. -/
theorem lt_of_lt_toInt64_sub {start now : UInt64} {testDuration : UInt32}
    (isLater : start ≤ now)
    (isOver : (now - start).toInt64 > testDuration.toUInt64.toInt64) :
    start < now := by
  have durationNonneg : (0 : Int64) ≤ testDuration.toUInt64.toInt64 := by
    have isSmall : 2 * testDuration.toUInt64.toBitVec.toNat < 2 ^ 64 := by
      have := testDuration.toNat_lt
      simp only [UInt64.toNat_toBitVec, UInt32.toNat_toUInt64]
      omega
    rw [Int64.le_iff_toInt_le]
    change 0 ≤ testDuration.toUInt64.toBitVec.toInt
    rw [BitVec.toInt_eq_toNat_of_lt isSmall]
    exact Int.natCast_nonneg _
  by_contra notLater
  obtain rfl : now = start := by grind
  simp only [UInt64.sub_self, UInt64.toInt64_ofNat] at isOver
  grind

/-- What one round of the loop that sends does: it goes to the poll, asks the
test to end after a positive duration, or sends a message. -/
theorem publishOnce_cases {loop : MainLoop FloatNum}
    (isLater : loop.startTime ≤ loop.clock) :
    ∃ cnt,
      publishOnce loop = { loop with cnt := cnt, point := .poll } ∨
        (loop.startTime < loop.clock ∧
          publishOnce loop =
            { loop with
              tctrl := { loop.tctrl with startPublishing := false }
              cnt := cnt
              point := .poll }) ∨
        publishOnce loop = sendMessage { loop with cnt := cnt } := by
  unfold publishOnce
  dsimp only
  split_ifs with atBatchEnd isLast isFull isOver
  · exact ⟨_, .inl rfl⟩
  · exact ⟨_, .inr (.inl ⟨lt_of_lt_toInt64_sub isLater isOver, rfl⟩)⟩
  · exact ⟨_, .inr (.inr rfl)⟩
  · exact ⟨_, .inr (.inr rfl)⟩
  · exact ⟨_, .inr (.inr rfl)⟩

theorem InPhase.publish {loop : MainLoop FloatNum}
    (inPhase : InPhase floatUnit loop) (atPublish : loop.point = .publish)
    (publishing : loop.tctrl.publishing = true) :
    InPhase floatUnit (publishOnce loop) := by
  obtain ⟨phase, inOrder, agrees⟩ := inPhase
  cases phase with
  | idle | accepted => simp [TestPhase.Agrees, publishing] at agrees
  | ended => simpa [publishing] using agrees.notPublishing
  | running start handed told =>
      have notTold : told = false :=
        agrees.notTold_of_point (by simp [atPublish])
      have starting : loop.tctrl.startPublishing = true := by
        by_contra notStarting
        rw [Bool.not_eq_true] at notStarting
        exact (agrees.ending notStarting).2 atPublish
      have started : loop.startTime ≤ loop.clock := by
        rw [agrees.startTime]
        exact agrees.started
      obtain ⟨cnt, polls | ⟨isLater, ends⟩ | sends⟩ :=
        publishOnce_cases started
      · rw [polls]
        refine ⟨.running start handed told, inOrder, ?_⟩
        exact { agrees with
          ending := by simp [starting]
          toldEnding := by simp [notTold] }
      · rw [agrees.startTime] at isLater
        rw [ends]
        refine ⟨.running start handed told, inOrder, ?_⟩
        exact { agrees with
          ending := fun _ => ⟨isLater, by simp⟩
          toldEnding := by simp [notTold] }
      · rw [sends]
        refine ⟨.running start (handed + 1) told, ?_, ?_⟩
        · rw [sendMessage, phaseAfter_concat, inOrder, Option.bind_some,
            TestPhase.next]
        · exact { agrees with
            msgCnt := by simp [sendMessage, agrees.msgCnt] }

/-- One move keeps the publisher in a phase. -/
theorem InPhase.step {loop : MainLoop FloatNum}
    (inPhase : InPhase floatUnit loop) (move : Move) :
    InPhase floatUnit (step protobuf floatUnit loop move) := by
  cases move with
  | tick later => exact inPhase.tick later
  | execute polled =>
      cases atPoint : loop.point with
      | poll =>
          simp only [ZmqPub.step, atPoint]
          exact inPhase.pollCommand atPoint polled
      | checkFlags =>
          simp only [ZmqPub.step, atPoint]
          exact inPhase.checkFlags
      | publish =>
          simp only [ZmqPub.step, atPoint]
          split
          · next publishing => exact inPhase.publish atPoint publishing
          · next notPublishing =>
            rw [Bool.not_eq_true] at notPublishing
            obtain ⟨phase, inOrder, agrees⟩ := inPhase
            refine ⟨phase, inOrder, ?_⟩
            cases phase with
            | idle => exact agrees
            | ended => exact { agrees with }
            | accepted => simp [TestPhase.Agrees, atPoint] at agrees
            | running => simpa [notPublishing] using agrees.publishing
      | returned | aborted =>
          simpa only [ZmqPub.step, atPoint] using inPhase

/-- Every reached state is in a phase. -/
theorem run_inPhase (uninitialized clock : UInt64) (moves : List Move) :
    InPhase floatUnit (run protobuf floatUnit uninitialized clock moves) := by
  refine List.foldlRecOn moves _ ?_ ?_
  · exact ⟨.idle, rfl, rfl, rfl⟩
  · exact fun loop inPhase move _ => inPhase.step move

/-! ### Every test is started and stopped once -/

/-- `teststart` is answered `ok` exactly if both flags are unset.  Tests are
accepted, started and stopped one after the other, and a test that was accepted
last is started by the next statement. -/
structure TestsOnceEach (protobuf : Protobuf FloatNum)
    (floatUnit : FloatUnit FloatNum) (loop : MainLoop FloatNum) : Prop where
  accepts_iff : loop.point = .poll →
    ∀ msg, isCommand "teststart" (protobuf.parseCommand msg) = true →
      ∃ reply,
        (step protobuf floatUnit loop (.execute (.message msg))).trace =
            loop.trace ++ [.answered (protobuf.parseCommand msg) reply] ∧
          (reply.status = "ok" ↔
            loop.tctrl.publishing = false ∧
              loop.tctrl.startPublishing = false)
  in_order : ∃ count, testEvents loop.trace <+: completeTests count
  started_next : (testEvents loop.trace).getLast? = some .accepted →
    ∀ polled, (step protobuf floatUnit loop (.execute polled)).trace =
      loop.trace ++ [.startedTest loop.clock]

/-- A message that is a given command is parsed as one. -/
theorem eq_of_isCommand {name : String}
    {cmsg : Option (CommandMessage FloatNum)}
    (isNamed : isCommand name cmsg = true) :
    ∃ cmd, cmsg = some ⟨.subcmd, some cmd⟩ ∧ cmd.cmdName = name := by
  unfold isCommand at isNamed
  split at isNamed
  · next cmd => exact ⟨cmd, rfl, by simpa using isNamed⟩
  · simp at isNamed

theorem InPhase.testsOnceEach {loop : MainLoop FloatNum}
    (inPhase : InPhase floatUnit loop) :
    TestsOnceEach protobuf floatUnit loop := by
  obtain ⟨phase, inOrder, agrees⟩ := inPhase
  refine ⟨?_, testEvents_prefix_of_phaseAfter inOrder, ?_⟩
  · intro atPoll msg isStart
    obtain ⟨cmd, parsed, named⟩ := eq_of_isCommand isStart
    by_cases isBusy : (loop.tctrl.publishing || loop.tctrl.startPublishing)
    · refine ⟨⟨"error", textResp "test is still running, cant start."⟩, ?_, ?_⟩
      · simp [ZmqPub.step, atPoll, ZmqPub.pollCommand, parsed, processMessage,
          processCommand, named, isBusy]
      · rw [Bool.or_eq_true] at isBusy
        rcases isBusy with publishing | starting
        · simp [publishing]
        · simp [starting]
    · refine ⟨⟨"ok", textResp "starting"⟩, ?_, ?_⟩
      · simp [ZmqPub.step, atPoll, ZmqPub.pollCommand, parsed, processMessage,
          processCommand, named, isBusy]
      · simpa using isBusy
  · intro lastAccepted polled
    obtain rfl := phase_eq_accepted_of_getLast inOrder lastAccepted
    obtain ⟨notPublishing, starting, atCheck⟩ := agrees
    simp [ZmqPub.step, atCheck, ZmqPub.checkFlags, notPublishing, starting]

/-! ### The statistics of a test that has ended -/

/-- The answer to `getstats` after a test. -/
def testStats (floatUnit : FloatUnit FloatNum) (start stop : UInt64)
    (handed : ℕ) : List (Resp FloatNum) :=
  [{ name := "msg_cnt", intValue := some (Int64.ofNat handed) },
    { name := "time:end", intValue := some stop.toInt64 },
    { name := "time:start", intValue := some start.toInt64 },
    { name := "rate",
      floatValue :=
        some (floatUnit.quotient (UInt64.ofNat handed) (stop - start)) }]

/-- Once a client was told that the last accepted test ends, `getstats` is
answered with the statistics of that test. -/
def StatsComplete (protobuf : Protobuf FloatNum)
    (floatUnit : FloatUnit FloatNum) (loop : MainLoop FloatNum) : Prop :=
  loop.point = .poll →
    ∀ before start since, loop.trace = before ++ start :: since →
      start.testEvent = some .accepted →
      (∀ event ∈ since, event.testEvent ≠ some .accepted) →
      (∃ event ∈ since, event.tellsEnd = true) →
      ∀ msg, isCommand "getstats" (protobuf.parseCommand msg) = true →
        ∃ startTime stopTime,
          .startedTest startTime ∈ since ∧
            .stoppedTest stopTime (stopTime - startTime) ∈ since ∧
            (step protobuf floatUnit loop (.execute (.message msg))).trace =
              loop.trace ++ [.answered (protobuf.parseCommand msg)
                ⟨"ok", testStats floatUnit startTime stopTime
                  (handedOver since)⟩]

theorem InPhase.statsComplete {loop : MainLoop FloatNum}
    (inPhase : InPhase floatUnit loop) :
    StatsComplete protobuf floatUnit loop := by
  obtain ⟨phase, inOrder, agrees⟩ := inPhase
  intro atPoll before start since traceEq isAccepted isLast told msg isStats
  rw [traceEq] at inOrder
  have describes := describes_of_phaseAfter inOrder isAccepted isLast
  obtain ⟨event, member, tells⟩ := told
  cases phase with
  | idle => exact describes.elim
  | accepted => simp [describes.2 event member] at tells
  | running start handed told =>
      have notTold : told = false := agrees.notTold_of_point (by simp [atPoll])
      simp [describes.2.2 notTold event member] at tells
  | ended startTime stopTime handed =>
      obtain ⟨isStarted, isStopped, sameCount⟩ := describes
      obtain ⟨cmd, parsed, named⟩ := eq_of_isCommand isStats
      refine ⟨startTime, stopTime, isStarted, isStopped, ?_⟩
      simp [ZmqPub.step, atPoll, ZmqPub.pollCommand, parsed, processMessage,
        processCommand, named, TestControl.stats, agrees.intStats,
        agrees.floatStats, completeIntStats, testStats, sameCount]

/-! ### Every run -/

/-- In every run of the publisher each accepted test is started and stopped
once, the statistics are complete once a client was told that the test ends,
and the divisor of the rate is at least one. -/
theorem run_tests (protobuf : Protobuf FloatNum)
    (floatUnit : FloatUnit FloatNum) (uninitialized clock : UInt64)
    (moves : List Move) :
    TestsOnceEach protobuf floatUnit
        (run protobuf floatUnit uninitialized clock moves) ∧
      StatsComplete protobuf floatUnit
        (run protobuf floatUnit uninitialized clock moves) ∧
      ∀ time elapsedTime,
        .stoppedTest time elapsedTime ∈
            (run protobuf floatUnit uninitialized clock moves).trace →
          1 ≤ elapsedTime := by
  have inPhase : InPhase floatUnit
      (run protobuf floatUnit uninitialized clock moves) :=
    run_inPhase uninitialized clock moves
  refine ⟨inPhase.testsOnceEach, inPhase.statsComplete, ?_⟩
  intro time elapsedTime isStopped
  obtain ⟨phase, inOrder, _⟩ := inPhase
  exact one_le_elapsedTime_of_phaseAfter inOrder isStopped

end ZmqPub

end MScale
