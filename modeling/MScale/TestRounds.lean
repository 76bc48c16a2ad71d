import MScale.TestMeasurement

/-!
# Rounds of a master that measures tests

A round of `rerun_test` prepares a test, waits for its end and collects the
statistics.  Nothing is sent between the resets and the start of the test, nor
after its end.  So the counts that the master collects for a subscriber are
those of its last test, up to the messages that were lost or on their way.
-/

namespace MScale

namespace TestMeasurement

open HDZmqpRepSrv LabelledRuns MessageChannels

/-- A test is underway or was measured, with the given number of messages sent
before it. -/
structure Measuring (instances : List String) (base : ℕ) (now : TestState) :
    Prop where
  resets : ∀ key ∈ instances, ∃ start, now.resetAt key = some start ∧
    start.sent = base
  produced : Produced base now.session.pub
  pubStats : ∀ stats, now.pubStats = some stats →
    now.collecting = true ∧
      stats.lookup "msg_cnt" = now.session.pub.runData.stats.lookup "msg_cnt"
  subStats : ∀ key stats finish, now.subStats key = some (stats, finish) →
    now.collecting = true ∧ finish.sent = published now.session.pub ∧
      ∃ (start : Mark) (msgCnt : ℕ), now.resetAt key = some start ∧
        start.sent = base ∧ stats.lookup "msg_cnt" = some (.number msgCnt) ∧
        msgCnt + start.missed finish = (finish.sent : ℤ) - base

/-- The master prepares a test: nothing was sent since the resets. -/
structure Preparing (now : TestState) : Prop where
  notWaiting : ∀ started, now.session.master ≠ .waiting started
  resets : ∀ key start, now.resetAt key = some start →
    start.sent = published now.session.pub

/-- Where the master is in `rerun_test`. -/
def InRound (instances : List String) (now : TestState) : Prop :=
  now.preparing = true ∧ Preparing now ∨
    now.preparing = false ∧
      (now.session.master = .free ∨ ∃ base, Measuring instances base now)

section Rounds

variable {instances : List String} {now : TestState} {base : ℕ}

theorem not_publishing_of_idle {pub : PubState} (idle : Idle pub) :
    pub.point ≠ .publishing := by
  intro publishing
  have waits := idle.2.2
  rw [publishing] at waits
  exact waits

/-- A publisher whose master does not wait for it sends nothing. -/
theorem not_publishing_of_sound {session : Session} (sound : session.Sound)
    (notWaiting : ∀ started, session.master ≠ .waiting started) :
    session.pub.point ≠ .publishing := by
  unfold Session.Sound at sound
  split at sound
  · exact not_publishing_of_idle sound
  · next started waiting => exact (notWaiting started waiting).elim
  · rcases sound.ended with atReset | idle
    · simp [atReset]
    · exact not_publishing_of_idle idle

/-- A start and a poll alone change what the master knows. -/
theorem master_step {session : Session} {move : SessionMove}
    (notStart : ∀ usage, move ≠ .startTest usage) (notPoll : move ≠ .pollStatus) :
    (session.step move).master = session.master := by
  obtain ⟨pub, master⟩ := session
  cases move with
  | startTest usage => exact (notStart usage rfl).elim
  | pollStatus => exact (notPoll rfl).elim
  | tick | execute | updateConfig | getStats => cases master <;> rfl

/-- The first request of a round. -/
theorem inRound_updateConfig (updated : PublisherLoop.PubMetrics)
    (permitted : now.session.master.permits (.updateConfig updated) = true) :
    InRound instances (now.step (.session (.updateConfig updated))) := by
  refine .inl ⟨rfl, fun started waiting => ?_, fun _ _ reset => by cases reset⟩
  have sameMaster : (now.session.step (.updateConfig updated)).master =
      now.session.master := master_step (by simp) (by simp)
  rw [sameMaster.symm.trans waiting] at permitted
  simp [Master.permits] at permitted

/-- While a test is prepared the publisher does nothing. -/
theorem Preparing.execute (preparing : Preparing now)
    (isPreparing : now.preparing = true) (sound : now.session.Sound)
    (outcome : PublisherLoop.SendOutcome) (usage : Usage) :
    InRound instances (now.step (.session (.execute outcome usage))) := by
  have quiet := not_publishing_of_sound sound preparing.notWaiting
  have samePublished := published_execute outcome usage now.session.pub
  rw [sentText_of_not_publishing outcome quiet] at samePublished
  have sameMaster : (now.session.step (.execute outcome usage)).master =
      now.session.master := master_step (by simp) (by simp)
  refine .inl ⟨isPreparing, ?_, ?_⟩
  · intro started waiting
    exact preparing.notWaiting started (sameMaster.symm.trans waiting)
  · intro key start reset
    exact (preparing.resets key start reset).trans samePublished.symm

/-- The test is started after all subscribers were reset. -/
theorem Preparing.startTest (preparing : Preparing now) {usage : Usage}
    (sound : now.session.Sound)
    (permitted : now.permits instances (.session (.startTest usage)) = true)
    (afterReset : now.session.pub.point ≠ .resetStart) :
    InRound instances (now.step (.session (.startTest usage))) := by
  have idle : Idle now.session.pub := by
    unfold Session.Sound at sound
    split at sound
    · exact sound
    · next started waiting => exact (preparing.notWaiting started waiting).elim
    · exact sound.ended.resolve_left afterReset
  simp only [TestState.permits, Bool.and_eq_true, List.all_eq_true] at permitted
  refine .inr ⟨rfl, .inr ⟨published now.session.pub, ?_,
    produced_startTest idle usage, ?_, ?_⟩⟩
  · intro key member
    obtain ⟨start, reset⟩ := Option.isSome_iff_exists.mp
      (permitted.2.2 key member)
    exact ⟨start, reset, preparing.resets key start reset⟩
  · intro stats fetched
    cases fetched
  · intro key stats finish fetched
    cases fetched

theorem collecting_iff :
    now.collecting = true ↔
      (∃ started, now.session.master = .told started) ∧
        now.preparing = false := by
  unfold TestState.collecting
  cases now.session.master <;> simp

/-- What keeps the records of the master, and also what was sent while the
statistics are collected, keeps the measurement. -/
theorem Measuring.frame {after : TestState}
    (measuring : Measuring instances base now)
    (produced : Produced base after.session.pub)
    (sameResets : after.resetAt = now.resetAt)
    (samePubStats : after.pubStats = now.pubStats)
    (sameSubStats : after.subStats = now.subStats)
    (collects : now.collecting = true → after.collecting = true ∧
      after.session.pub.runData.stats = now.session.pub.runData.stats ∧
      published after.session.pub = published now.session.pub) :
    Measuring instances base after where
  resets := by
    rw [sameResets]
    exact measuring.resets
  produced := produced
  pubStats := by
    intro stats fetched
    rw [samePubStats] at fetched
    obtain ⟨collecting, sameCount⟩ := measuring.pubStats stats fetched
    obtain ⟨still, sameStats, _⟩ := collects collecting
    rw [sameStats]
    exact ⟨still, sameCount⟩
  subStats := by
    intro key stats finish fetched
    rw [sameSubStats] at fetched
    obtain ⟨collecting, sent, counted⟩ :=
      measuring.subStats key stats finish fetched
    obtain ⟨still, _, samePublished⟩ := collects collecting
    rw [samePublished, sameResets]
    exact ⟨still, sent, counted⟩

theorem Measuring.execute (measuring : Measuring instances base now)
    (sound : now.session.Sound) (notFree : now.session.master ≠ .free)
    (outcome : PublisherLoop.SendOutcome) (usage : Usage) :
    Measuring instances base
      (now.step (.session (.execute outcome usage))) := by
  have sameMaster : (now.session.step (.execute outcome usage)).master =
      now.session.master := master_step (by simp) (by simp)
  refine measuring.frame ?_ rfl rfl rfl ?_
  · change Produced base (HDZmqpRepSrv.execute outcome usage now.session.pub)
    unfold Session.Sound at sound
    split at sound
    · next free => exact (notFree free).elim
    · rcases sound with testing | isOver
      · exact produced_execute_of_testing testing measuring.produced outcome usage
      · exact produced_execute_of_over isOver measuring.produced outcome usage
    · exact produced_execute_of_over sound measuring.produced outcome usage
  · intro collecting
    obtain ⟨⟨started, told⟩, notPreparing⟩ := collecting_iff.mp collecting
    rw [Session.Sound, told] at sound
    refine ⟨collecting_iff.mpr ⟨⟨started, sameMaster.trans told⟩,
      notPreparing⟩, ?_⟩
    exact execute_of_over sound outcome usage

/-- The master polls the status of its test. -/
theorem Measuring.pollStatus (measuring : Measuring instances base now)
    (permitted : now.session.master.permits .pollStatus = true) :
    Measuring instances base (now.step (.session .pollStatus)) := by
  refine measuring.frame measuring.produced rfl rfl rfl fun collecting => ?_
  obtain ⟨⟨started, told⟩, _⟩ := collecting_iff.mp collecting
  rw [told] at permitted
  simp [Master.permits] at permitted

/-- The master fetches the statistics of the publisher. -/
theorem Measuring.getStats (measuring : Measuring instances base now)
    (collecting : now.collecting = true) :
    Measuring instances base (now.step (.session .getStats)) := by
  have sameMaster : (now.session.step .getStats).master = now.session.master :=
    master_step (by simp) (by simp)
  obtain ⟨⟨started, told⟩, notPreparing⟩ := collecting_iff.mp collecting
  have still : (now.step (.session .getStats)).collecting = true :=
    collecting_iff.mpr ⟨⟨started, sameMaster.trans told⟩, notPreparing⟩
  refine ⟨measuring.resets, measuring.produced, ?_, ?_⟩
  · intro stats fetched
    cases fetched
    exact ⟨still, rfl⟩
  · intro key stats finish fetched
    obtain ⟨_, counted⟩ := measuring.subStats key stats finish fetched
    exact ⟨still, counted⟩

/-- `getstats` reports the messages that were counted since the reset. -/
theorem lookup_getStats (usage : Usage) (hd : HDZmqsRepSrv) :
    (hd.getStats usage).2.stats.lookup "msg_cnt" =
      some (.number hd.msgCnt) := by
  unfold HDZmqsRepSrv.getStats
  dsimp only
  split <;> simp [AList.lookup_insert_ne]

/-- Statistics that the master reads from a subscriber count what was sent since
its reset, except the messages that it missed. -/
theorem Measuring.keepStats (measuring : Measuring instances base now)
    (balanced : Balanced now) {key : String} (member : key ∈ instances)
    (collecting : now.collecting = true) (usage : Usage) :
    Measuring instances base (now.step (.getStats key usage true)) := by
  refine ⟨measuring.resets, measuring.produced, measuring.pubStats, ?_⟩
  intro other stats finish fetched
  change Function.update now.subStats key _ other = _ at fetched
  by_cases same : other = key
  · subst same
    rw [Function.update_self, Option.some.injEq, Prod.mk.injEq] at fetched
    obtain ⟨rfl, rfl⟩ := fetched
    obtain ⟨start, reset, isBase⟩ := measuring.resets other member
    refine ⟨collecting, rfl, start, (now.channels other).sub.hd.msgCnt, reset,
      isBase, ?_, ?_⟩
    · change (Function.update now.channels other _ other).sub.hd.stats.lookup _ = _
      rw [Function.update_self]
      exact lookup_getStats usage (now.channels other).sub.hd
    · have counted := balanced other start reset
      simp only [Channel.total] at counted
      simp only [Mark.missed, TestState.mark]
      omega
  · rw [Function.update_of_ne same] at fetched
    exact measuring.subStats other stats finish fetched

end Rounds

/-! ### Steps of the system -/

section Steps

variable {instances : List String} {now : TestState}

theorem Balanced.step (balanced : Balanced now) (move : TestMove) :
    Balanced (now.step move) := by
  cases move with
  | session move => exact balanced.session move
  | channel key move =>
      exact balanced.update ((now.channels key).total_step move)
  | resetStats key usage =>
      intro other start reset
      change Function.update now.resetAt key _ other = _ at reset
      change (Function.update now.channels key _ other).total + _ = _
      by_cases same : other = key
      · subst same
        rw [Function.update_self, Option.some.injEq] at reset
        obtain rfl := reset
        rw [Function.update_self, Channel.total_resetstats]
        simp only [TestState.mark, TestState.step, TestState.commandSub]
        omega
      · rw [Function.update_of_ne same] at reset ⊢
        exact balanced other start reset
  | updateConfig key recvRate reconnectRate =>
      exact balanced.update ((now.channels key).total_command (by simp))
  | getStats key usage kept =>
      have sameTotal : ((now.channels key).command (.getstats usage)).total =
          (now.channels key).total := Channel.total_command _ (by simp)
      cases kept <;> exact balanced.update sameTotal

/-- A move of the session that does not start a test early keeps the round. -/
theorem InRound.session (round : InRound instances now)
    (sound : now.session.Sound) {move : SessionMove}
    (permitted : now.permits instances (.session move) = true)
    (notEarly : ¬ StartsEarly now.session move) :
    InRound instances (now.step (.session move)) := by
  have sessionPermits : now.session.master.permits move = true :=
    (Bool.and_eq_true_iff.mp permitted).1
  cases move with
  | tick time =>
      have sameMaster : (now.session.step (.tick time)).master =
          now.session.master := master_step (by simp) (by simp)
      rcases round with ⟨isPreparing, preparing⟩ | ⟨notPreparing, free | measuring⟩
      · refine .inl ⟨isPreparing, ?_, preparing.resets⟩
        intro started waiting
        exact preparing.notWaiting started (sameMaster.symm.trans waiting)
      · exact .inr ⟨notPreparing, .inl (sameMaster.trans free)⟩
      · obtain ⟨base, measuring⟩ := measuring
        refine .inr ⟨notPreparing, .inr ⟨base, measuring.frame
          ⟨measuring.produced.running, measuring.produced.stopping⟩ rfl rfl rfl
          fun collecting => ?_⟩⟩
        obtain ⟨⟨started, told⟩, _⟩ := collecting_iff.mp collecting
        exact ⟨collecting_iff.mpr ⟨⟨started, sameMaster.trans told⟩,
          notPreparing⟩, rfl, rfl⟩
  | execute outcome usage =>
      have sameMaster : (now.session.step (.execute outcome usage)).master =
          now.session.master := master_step (by simp) (by simp)
      rcases round with ⟨isPreparing, preparing⟩ | ⟨notPreparing, free | measuring⟩
      · exact preparing.execute isPreparing sound outcome usage
      · exact .inr ⟨notPreparing, .inl (sameMaster.trans free)⟩
      · obtain ⟨base, measuring⟩ := measuring
        by_cases free : now.session.master = .free
        · exact .inr ⟨notPreparing, .inl (sameMaster.trans free)⟩
        · exact .inr ⟨notPreparing, .inr ⟨base,
            measuring.execute sound free outcome usage⟩⟩
  | updateConfig updated => exact inRound_updateConfig updated sessionPermits
  | startTest usage =>
      have isPreparing : now.preparing = true := by
        simp only [TestState.permits, Bool.and_eq_true] at permitted
        exact permitted.2.1
      rcases round with ⟨_, preparing⟩ | ⟨notPreparing, _⟩
      · exact preparing.startTest sound permitted
          fun atReset => notEarly ⟨⟨usage, rfl⟩, atReset⟩
      · simp [notPreparing] at isPreparing
  | pollStatus =>
      rcases round with ⟨_, preparing⟩ | ⟨notPreparing, free | measuring⟩
      · cases known : now.session.master with
        | waiting started => exact (preparing.notWaiting started known).elim
        | free | told => simp [known, Master.permits] at sessionPermits
      · simp [free, Master.permits] at sessionPermits
      · obtain ⟨base, measuring⟩ := measuring
        exact .inr ⟨notPreparing, .inr ⟨base,
          measuring.pollStatus sessionPermits⟩⟩
  | getStats =>
      have collecting : now.collecting = true := by
        simp only [TestState.permits, Bool.and_eq_true] at permitted
        exact permitted.2
      obtain ⟨⟨started, told⟩, notPreparing⟩ := collecting_iff.mp collecting
      rcases round with ⟨isPreparing, _⟩ | ⟨_, free | measuring⟩
      · simp [notPreparing] at isPreparing
      · simp [told] at free
      · obtain ⟨base, measuring⟩ := measuring
        exact .inr ⟨notPreparing, .inr ⟨base, measuring.getStats collecting⟩⟩

/-- The system as long as no test is lost, or after one was lost. -/
structure Sound (instances : List String) (now : TestState) : Prop where
  balanced : Balanced now
  round : now.session.Sound ∧ InRound instances now ∨ now.session.Stuck

/-- The round does not depend on the channels. -/
theorem InRound.withChannels (round : InRound instances now)
    (channels : String → Channel) :
    InRound instances { now with channels := channels } := by
  rcases round with ⟨isPreparing, preparing⟩ | ⟨notPreparing, free | measuring⟩
  · exact .inl ⟨isPreparing, { preparing with }⟩
  · exact .inr ⟨notPreparing, .inl free⟩
  · obtain ⟨base, measuring⟩ := measuring
    exact .inr ⟨notPreparing, .inr ⟨base, { measuring with }⟩⟩

/-- A request to a subscriber. -/
theorem InRound.subscriber (round : InRound instances now)
    (balanced : Balanced now) {move : TestMove}
    (permitted : now.permits instances move = true)
    (notSession : ∀ move', move ≠ .session move') :
    InRound instances (now.step move) := by
  cases move with
  | session move => exact (notSession move rfl).elim
  | channel | updateConfig => exact round.withChannels _
  | resetStats key usage =>
      simp only [TestState.permits, Bool.and_eq_true] at permitted
      rcases round with ⟨isPreparing, preparing⟩ | ⟨notPreparing, _⟩
      · refine .inl ⟨isPreparing, preparing.notWaiting, ?_⟩
        intro other start reset
        change Function.update now.resetAt key _ other = _ at reset
        by_cases same : other = key
        · subst same
          rw [Function.update_self, Option.some.injEq] at reset
          rw [← reset]
          rfl
        · rw [Function.update_of_ne same] at reset
          exact preparing.resets other start reset
      · simp [notPreparing] at permitted
  | getStats key usage kept =>
      cases kept with
      | false => exact round.withChannels _
      | true =>
          simp only [TestState.permits, Bool.and_eq_true,
            decide_eq_true_eq] at permitted
          obtain ⟨⟨collecting, member⟩, _⟩ := permitted
          obtain ⟨⟨started, told⟩, notPreparing⟩ := collecting_iff.mp collecting
          rcases round with ⟨isPreparing, _⟩ | ⟨_, free | measuring⟩
          · simp [notPreparing] at isPreparing
          · simp [told] at free
          · obtain ⟨base, measuring⟩ := measuring
            exact .inr ⟨notPreparing, .inr ⟨base,
              measuring.keepStats balanced member collecting usage⟩⟩

/-- A request to a subscriber leaves the session as it is. -/
theorem session_eq_of_subscriber {move : TestMove}
    (notSession : ∀ move', move ≠ .session move') :
    (now.step move).session = now.session := by
  cases move with
  | session move => exact (notSession move rfl).elim
  | channel | resetStats | updateConfig => rfl
  | getStats key usage kept => cases kept <;> rfl

theorem Sound.step (sound : Sound instances now) {move : TestMove}
    (permitted : now.permits instances move = true) :
    Sound instances (now.step move) := by
  refine ⟨sound.balanced.step move, ?_⟩
  by_cases ofSession : ∃ move', move = .session move'
  · obtain ⟨move, rfl⟩ := ofSession
    have sessionPermits : now.session.master.permits move = true :=
      (Bool.and_eq_true_iff.mp permitted).1
    rcases sound.round with ⟨sessionSound, round⟩ | stuck
    · by_cases early : StartsEarly now.session move
      · exact .inr (Session.stuck_of_startsEarly early)
      · exact .inl ⟨sessionSound.step sessionPermits early,
          round.session sessionSound permitted early⟩
    · exact .inr (stuck.step sessionPermits).1
  · have notSession : ∀ move', move ≠ .session move' :=
      fun move' same => ofSession ⟨move', same⟩
    rw [session_eq_of_subscriber notSession]
    exact sound.round.imp_left fun ⟨sessionSound, round⟩ =>
      ⟨sessionSound, round.subscriber sound.balanced permitted notSession⟩

theorem initial_sound (metrics : PublisherLoop.PubMetrics) (clock : ℚ)
    (channels : String → Channel) :
    Sound instances (TestState.initial metrics clock channels) where
  balanced := fun _ _ reset => by cases reset
  round := .inl ⟨⟨rfl, rfl, trivial⟩, .inr ⟨rfl, .inl rfl⟩⟩

end Steps

end TestMeasurement

end MScale
