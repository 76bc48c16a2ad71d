import MScale.PublisherPacing
import MScale.ResultAgreement

/-!
# What the Kafka publisher reports

The publishing loop of the Kafka publisher goes on when `produce` times out,
and counts the message as if it had been published.  The reported `msg_cnt` is
therefore the number of `produce` calls, and `result_parser` turns each call
that timed out into messages that every subscriber lost.  This file embeds what
the publisher does after the loop, and determines the runs whose report is
right.
-/

namespace MScale

namespace KafkaPub

open PublisherLoop RunningTotals

/-! ## The calls of `produce` -/

/-- How the calls of `produce` ended that are made in the given moves. -/
def produceOutcomes (metrics : PubMetrics) :
    LoopState → List Move → List SendOutcome
  | _, [] => []
  | loop, .tick time :: moves =>
      produceOutcomes metrics (step .kafka metrics loop (.tick time)) moves
  | loop, .execute outcome :: moves =>
      let later := produceOutcomes metrics
        (step .kafka metrics loop (.execute outcome)) moves
      if loop.point = .send then outcome :: later else later

/-- The number of messages that were published. -/
def published (outcomes : List SendOutcome) : Nat :=
  outcomes.count .handedOver

/-- The number of messages counted, with the one in flight. -/
def counted (loop : LoopState) : Nat :=
  loop.msgCnt + loop.point.inFlight

section Loop

variable {metrics : PubMetrics} {loop : LoopState}

theorem raised_remains (raised : loop.point = .raised) (moves : List Move) :
    (moves.foldl (step .kafka metrics) loop).point = .raised := by
  induction moves generalizing loop with
  | nil => exact raised
  | cons move moves ih =>
      apply ih
      cases move with
      | tick time => exact raised
      | execute outcome => simp [step, executeStatement, raised]

/-- Outside `send`, a statement neither counts nor raises. -/
theorem counted_execute (notSend : loop.point ≠ .send) (outcome : SendOutcome) :
    counted (step .kafka metrics loop (.execute outcome)) = counted loop := by
  cases atPoint : loop.point with
  | send => exact (notSend atPoint).elim
  | count | sleeping | checkDuration =>
      simp only [counted, step, executeStatement, atPoint]
      split_ifs <;> simp [Point.inFlight, atPoint]
  | computeDelay | sleep | finished | raised =>
      simp [counted, step, executeStatement, atPoint, Point.inFlight]

/-- Every call of `produce` that does not end the publisher is counted. -/
theorem counted_send (atSend : loop.point = .send) {outcome : SendOutcome}
    (goesOn : (step .kafka metrics loop (.execute outcome)).point ≠ .raised) :
    counted (step .kafka metrics loop (.execute outcome)) =
      counted loop + 1 := by
  cases outcome with
  | otherError =>
      simp [step, executeStatement, atSend, Publisher.continuesAfter] at goesOn
  | handedOver | kafkaTimeout =>
      simp [counted, step, executeStatement, atSend, Publisher.continuesAfter,
        Point.inFlight]

/-- A loop that has not raised has counted its calls of `produce`. -/
theorem counted_run {moves : List Move}
    (goesOn : (moves.foldl (step .kafka metrics) loop).point ≠ .raised) :
    counted (moves.foldl (step .kafka metrics) loop) =
      counted loop + (produceOutcomes metrics loop moves).length := by
  induction moves generalizing loop with
  | nil => rfl
  | cons move moves ih =>
      rw [List.foldl_cons] at goesOn ⊢
      rw [ih goesOn]
      have here : (step .kafka metrics loop move).point ≠ .raised :=
        fun raised => goesOn (raised_remains raised moves)
      cases move with
      | tick time => rfl
      | execute outcome =>
          rw [produceOutcomes]
          split_ifs with atSend
          · rw [counted_send atSend here, List.length_cons]
            omega
          · rw [counted_execute atSend]

/-- A run that goes on had no exception but time-outs. -/
theorem produceOutcomes_caught {moves : List Move}
    (goesOn : (moves.foldl (step .kafka metrics) loop).point ≠ .raised) :
    ∀ outcome ∈ produceOutcomes metrics loop moves,
      outcome ≠ .otherError := by
  induction moves generalizing loop with
  | nil => exact fun _ member => by cases member
  | cons move moves ih =>
      rw [List.foldl_cons] at goesOn
      cases move with
      | tick time => exact ih goesOn
      | execute outcome =>
          rw [produceOutcomes]
          split_ifs with atSend
          · refine List.forall_mem_cons.mpr ⟨?_, ih goesOn⟩
            rintro rfl
            apply goesOn
            apply raised_remains
            simp [step, executeStatement, atSend, Publisher.continuesAfter]
          · exact ih goesOn

theorem published_eq_length_iff {outcomes : List SendOutcome}
    (caught : ∀ outcome ∈ outcomes, outcome ≠ .otherError) :
    outcomes.length = published outcomes ↔ .kafkaTimeout ∉ outcomes := by
  rw [eq_comm, published, List.count_eq_length]
  constructor
  · intro all timedOut
    cases all _ timedOut
  · intro none outcome member
    cases outcome with
    | handedOver => rfl
    | kafkaTimeout => exact (none member).elim
    | otherError => exact (caught _ member rfl).elim

/-- The loop ends only after it counted a message. -/
def CountsFirst (loop : LoopState) : Prop :=
  loop.point = .send ∨ loop.point = .count ∨ loop.point = .raised ∨
    0 < loop.msgCnt

theorem CountsFirst.step (countsFirst : CountsFirst loop) (move : Move) :
    CountsFirst (step .kafka metrics loop move) := by
  cases move with
  | tick time => exact countsFirst
  | execute outcome =>
      rw [CountsFirst] at countsFirst
      cases atPoint : loop.point with
      | send =>
          rw [CountsFirst]
          simp only [PublisherLoop.step, executeStatement, atPoint]
          split_ifs
          · exact .inr (.inl rfl)
          · exact .inr (.inr (.inl rfl))
      | count => simp [CountsFirst, PublisherLoop.step, executeStatement,
          atPoint]
      | checkDuration | sleeping =>
          have counted : 0 < loop.msgCnt := by simpa [atPoint] using countsFirst
          rw [CountsFirst]
          simp only [PublisherLoop.step, executeStatement, atPoint]
          split_ifs <;> simp [counted]
      | raised => simp [CountsFirst, PublisherLoop.step, executeStatement,
          atPoint]
      | computeDelay | sleep | finished =>
          simpa [CountsFirst, PublisherLoop.step, executeStatement, atPoint]
            using countsFirst

theorem countsFirst_run (startTime : ℚ) (moves : List Move) :
    CountsFirst (run .kafka metrics startTime moves) := by
  refine List.foldlRecOn moves _ (.inl rfl) ?_
  intro loop countsFirst move _
  exact countsFirst.step move

end Loop

/-! ## The report -/

/-- What the publisher reads while it updates its statistics: `elapsed_time` as
the loop left it, the times, and the counters of `psutil`. -/
structure Readings where
  elapsedTime : ℚ
  timeStart : ℚ
  timeEnd : ℚ
  cpu : CounterSpan
  net : CounterSpan
  deriving DecidableEq, Repr

/-- Update 'stats' to 'hd' (HDaemon). -/
def report (readings : Readings) (loop : LoopState) :
    Except ResultError PubStats := do
  let rate ← divide loop.msgCnt (.float readings.elapsedTime)
  pure
    { rate
      msgCnt := loop.msgCnt
      timeStart := .float readings.timeStart
      timeEnd := .float readings.timeEnd
      cpu := some readings.cpu
      net := some readings.net }

theorem report_msgCnt {readings : Readings} {loop : LoopState}
    {stats : PubStats} (reported : report readings loop = .ok stats) :
    stats.msgCnt = loop.msgCnt := by
  rw [report] at reported
  cases divided : divide loop.msgCnt (.float readings.elapsedTime) with
  | error error =>
      rw [divided] at reported
      cases reported
  | ok rate =>
      rw [divided] at reported
      cases reported
      rfl

theorem exists_report (loop : LoopState) :
    ∃ readings stats, report readings loop = .ok stats := by
  let readings : Readings :=
    ⟨1, 0, 1, ⟨(0, 0), (0, 0)⟩, ⟨(0, 0), (0, 0)⟩⟩
  have divided : divide loop.msgCnt (.float readings.elapsedTime) =
      .ok ((loop.msgCnt : PyNumber).quotient (.float 1)) :=
    divide_of_ne one_ne_zero
  cases reported : report readings loop with
  | ok stats => exact ⟨readings, stats, reported⟩
  | error error =>
      rw [report, divided] at reported
      cases reported

/-- The reported count is the number of messages that were published, and
`result_parser` sees no loss where every subscriber received as many. -/
structure ReportsPublished (loop : LoopState) (outcomes : List SendOutcome) :
    Prop where
  msgCnt : ∀ readings stats, report readings loop = .ok stats →
    stats.msgCnt = published outcomes
  lossless : ∀ readings stats (collected : Collected ClientStats),
    report readings loop = .ok stats →
    firstValue collected.pubStats = .ok stats →
    stats.timeStart.value < stats.timeEnd.value →
    EntryLists.values collected.subStats ≠ [] →
    (∀ info ∈ EntryLists.values collected.subStats,
      info.msgCnt = published outcomes) →
    ∃ result loss, RunTestKAFKA.resultParser collected = .ok result ∧
      result.lookup "average_packet_loss" = some loss ∧ loss.value = 0

/-- Where every subscriber received what the publisher reports, there is no
loss. -/
theorem resultParser_lossless {collected : Collected ClientStats}
    {stats : PubStats} (publisher : firstValue collected.pubStats = .ok stats)
    (sent : 0 < stats.msgCnt)
    (lasting : stats.timeStart.value < stats.timeEnd.value)
    (any : EntryLists.values collected.subStats ≠ [])
    (received : ∀ info ∈ EntryLists.values collected.subStats,
      info.msgCnt = stats.msgCnt) :
    ∃ result loss, RunTestKAFKA.resultParser collected = .ok result ∧
      result.lookup "average_packet_loss" = some loss ∧ loss.value = 0 := by
  have lengthEq : (EntryLists.values collected.subStats).length =
      collected.subStats.entries.length := List.length_map _
  have clientsPos : 0 < collected.subStats.entries.length := by
    rw [← lengthEq]
    exact List.length_pos_of_ne_nil any
  have packets : (collected.plainTotals stats.msgCnt).clientsPacketCount =
      collected.subStats.entries.length * stats.msgCnt := by
    rw [Collected.plainTotals, Collected.foldl_addClient_clientsPacketCount,
      ← lengthEq]
    exact (Nat.zero_add _).trans ((sum_eq_length_mul_iff
      fun info member => (received info member).le).mpr received)
  refine ⟨_, _, Collected.plainResult_ok publisher sent lasting clientsPos.ne',
    figures_averagePacketLoss _ _ _ _, ?_⟩
  have sentPos : (0 : ℚ) < stats.msgCnt := Nat.cast_pos.mpr sent
  have clientsNe : (collected.subStats.entries.length : ℚ) ≠ 0 :=
    Nat.cast_ne_zero.mpr clientsPos.ne'
  change shortfallPercent _ _ = 0
  rw [shortfallPercent_eq_zero_iff sentPos, packets, Nat.cast_mul,
    mul_div_cancel_left₀ _ clientsNe]

/-- A run that has ended reports what it published exactly if no call of
`produce` timed out. -/
theorem reportsPublished_iff {metrics : PubMetrics} {startTime : ℚ}
    {moves : List Move}
    (ended : (run .kafka metrics startTime moves).point = .finished) :
    ReportsPublished (run .kafka metrics startTime moves)
        (produceOutcomes metrics (initial startTime) moves) ↔
      .kafkaTimeout ∉ produceOutcomes metrics (initial startTime) moves := by
  have goesOn : (run .kafka metrics startTime moves).point ≠ .raised := by
    rw [ended]
    exact Point.noConfusion
  have total : (run .kafka metrics startTime moves).msgCnt =
      (produceOutcomes metrics (initial startTime) moves).length := by
    have none : counted (initial startTime) = 0 := rfl
    have counts := counted_run goesOn
    rwa [none, Nat.zero_add, ← run, counted, ended] at counts
  rw [← published_eq_length_iff (produceOutcomes_caught goesOn), ← total]
  constructor
  · intro reports
    obtain ⟨readings, stats, reported⟩ :=
      exists_report (run .kafka metrics startTime moves)
    rw [← report_msgCnt reported]
    exact reports.msgCnt readings stats reported
  · intro same
    constructor
    · intro readings stats reported
      rw [report_msgCnt reported, same]
    · intro readings stats collected reported publisher lasting any received
      have msgCnt := report_msgCnt reported
      apply resultParser_lossless publisher ?_ lasting any
      · intro info member
        rw [received info member, msgCnt, same]
      · rw [msgCnt]
        have countsFirst := @countsFirst_run metrics startTime moves
        rw [CountsFirst, ended] at countsFirst
        simpa using countsFirst

/-! ## A call that times out -/

/-- A test of ten seconds whose only call of `produce` takes as long. -/
def tenSeconds : PubMetrics :=
  ⟨10, 50, 1000⟩

def onlyCall (outcome : SendOutcome) : List Move :=
  [.tick (10 : ℕ), .execute outcome, .execute .handedOver, .execute .handedOver]

theorem onlyCall_ended :
    (run .kafka tenSeconds 0 (onlyCall .kafkaTimeout)).point = .finished := by
  simp [run, onlyCall, step, executeStatement, initial, tenSeconds,
    LoopState.elapsed, Publisher.continuesAfter]

/-- A batch of three calls of `produce` in a test of ten seconds, with the
sleep after it. -/
def threeCalls (second : SendOutcome) : List Move :=
  [.execute .handedOver, .execute .handedOver, .execute .handedOver,
    .execute second, .execute .handedOver, .execute .handedOver,
    .tick (10 : ℕ), .execute .handedOver, .execute .handedOver,
    .execute .handedOver, .execute .handedOver, .execute .handedOver,
    .execute .handedOver]

/-- Ten seconds with one batch of three. -/
def batchOfThree : PubMetrics :=
  ⟨10, 3, 1⟩

theorem threeCalls_ended {second : SendOutcome}
    (caught : second ≠ .otherError) :
    (run .kafka batchOfThree 0 (threeCalls second)).point = .finished ∧
      produceOutcomes batchOfThree (initial 0) (threeCalls second) =
        [.handedOver, second, .handedOver] := by
  have early : ¬ (batchOfThree.testDuration ≤ 0) := by norm_num [batchOfThree]
  have noDelay : batchOfThree.delay 3 10 = 0 := by
    norm_num [PubMetrics.delay, batchOfThree]
  have batch : batchOfThree.msgBatch = 3 := rfl
  have duration : batchOfThree.testDuration ≤ 10 := le_refl _
  cases second with
  | otherError => exact (caught rfl).elim
  | handedOver | kafkaTimeout =>
      constructor <;>
        simp [run, threeCalls, produceOutcomes, step, executeStatement,
          initial, LoopState.elapsed, Publisher.continuesAfter, early, noDelay,
          batch, duration]

/-- Three calls that succeed are reported as published; when the second one
times out they are not. -/
theorem threeCalls_reportsPublished :
    (∀ second ≠ .otherError,
        produceOutcomes batchOfThree (initial 0) (threeCalls second) =
          [.handedOver, second, .handedOver]) ∧
      ReportsPublished (run .kafka batchOfThree 0 (threeCalls .handedOver))
        (produceOutcomes batchOfThree (initial 0) (threeCalls .handedOver)) ∧
      ¬ ReportsPublished (run .kafka batchOfThree 0 (threeCalls .kafkaTimeout))
        (produceOutcomes batchOfThree (initial 0)
          (threeCalls .kafkaTimeout)) := by
  have success := @threeCalls_ended .handedOver SendOutcome.noConfusion
  have timeout := @threeCalls_ended .kafkaTimeout SendOutcome.noConfusion
  refine ⟨fun second caught => (threeCalls_ended caught).2, ?_, ?_⟩
  · rw [reportsPublished_iff success.1, success.2]
    decide
  · rw [reportsPublished_iff timeout.1, timeout.2]
    decide

/-- The publisher reports what it published in every run that ends. -/
def AllRunsReportPublished : Prop :=
  ∀ metrics startTime moves,
    (run .kafka metrics startTime moves).point = .finished →
      ReportsPublished (run .kafka metrics startTime moves)
        (produceOutcomes metrics (initial startTime) moves)

/-- One message is reported and none was published. -/
theorem kafkaTimeout_counted : ¬ AllRunsReportPublished := by
  intro reports
  have reported := (reports tenSeconds 0 (onlyCall .kafkaTimeout)
    onlyCall_ended).msgCnt
  obtain ⟨readings, stats, readStats⟩ :=
    exists_report (run .kafka tenSeconds 0 (onlyCall .kafkaTimeout))
  have msgCnt := reported readings stats readStats
  rw [report_msgCnt readStats] at msgCnt
  simp [run, onlyCall, step, executeStatement, initial, tenSeconds,
    Publisher.continuesAfter, produceOutcomes, published] at msgCnt

end KafkaPub

end MScale
