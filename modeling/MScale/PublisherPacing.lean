import MScale.PublisherLoop
import Mathlib.Tactic.Linarith
import Mathlib.Tactic.Positivity
import Mathlib.Algebra.Order.Field.Basic

/-!
# Pacing of the publishing loop

The delay after a batch is what separates the messages sent so far from the
time that they should have taken, but never more than one second.  A batch that
takes longer than a second at the requested rate is therefore not slowed down
enough.  The loop keeps to the larger of the requested rate and one batch per
second, and to the requested rate itself exactly if a batch fits into a second
or the run does not outlast the first delay.
-/

namespace MScale

namespace PublisherLoop

variable {publisher : Publisher} {metrics : PubMetrics}

/-! ### The delay -/

/-- The delay makes up for the messages sent so far, unless it is cut off at
one second. -/
theorem PubMetrics.delay_eq_one_or_le (msgCnt : ℕ) (duration : ℚ) :
    metrics.delay msgCnt duration = 1 ∨
      msgCnt / metrics.msgRequestedRate ≤
        duration + metrics.delay msgCnt duration := by
  unfold PubMetrics.delay
  by_cases isCut : (if msgCnt / metrics.msgRequestedRate > duration
      then msgCnt / metrics.msgRequestedRate - duration else 0) > 1
  · left
    simp [isCut]
  · right
    simp only [isCut, if_false]
    split
    · linarith
    · linarith

/-- After the delay, the messages sent so far keep to the given rate. -/
theorem PubMetrics.le_rate_mul_delay {rate duration : ℚ} {msgCnt cnt : ℕ}
    (ratePositive : 0 < metrics.msgRequestedRate)
    (rateEnough : metrics.msgRequestedRate ≤ rate)
    (batchEnough : (metrics.msgBatch : ℚ) ≤ rate)
    (withinBatch : cnt ≤ metrics.msgBatch)
    (completed : (msgCnt : ℚ) ≤ rate * duration + cnt) :
    (msgCnt : ℚ) ≤ rate * (duration + metrics.delay msgCnt duration) := by
  rcases metrics.delay_eq_one_or_le msgCnt duration with isOne | madeUp
  · have cntLe : (cnt : ℚ) ≤ metrics.msgBatch := by exact_mod_cast withinBatch
    rw [isOne, mul_add, mul_one]
    linarith
  · rw [div_le_iff₀ ratePositive, mul_comm] at madeUp
    have durationNonneg :
        0 ≤ duration + metrics.delay msgCnt duration := by
      by_contra isNegative
      have := mul_neg_of_pos_of_neg ratePositive (not_le.mp isNegative)
      have : (0 : ℚ) ≤ msgCnt := msgCnt.cast_nonneg
      linarith
    exact madeUp.trans
      (mul_le_mul_of_nonneg_right rateEnough durationNonneg)

/-! ### What the loop keeps -/

/-- How many messages are sent but not counted yet. -/
def Point.inFlight : Point → ℕ
  | .count => 1
  | _ => 0

/-- How many messages the current batch lacks at least. -/
def Point.room : Point → ℕ
  | .send | .count | .checkDuration => 1
  | _ => 0

/-- The counters agree with the messages sent, and a batch is never exceeded. -/
structure Batched (metrics : PubMetrics) (loop : LoopState) : Prop where
  elapsed_nonneg : 0 ≤ loop.elapsed
  cnt_le : loop.cnt + loop.point.room ≤ metrics.msgBatch
  sent_le : loop.sent ≤ loop.msgCnt + loop.point.inFlight

@[simp]
theorem elapsed_tick (publisher : Publisher) (metrics : PubMetrics)
    (loop : LoopState) (time : ℚ≥0) :
    (step publisher metrics loop (.tick time)).elapsed =
      loop.elapsed + time := by
  simp [step, LoopState.elapsed, add_sub_right_comm]

@[simp]
theorem elapsed_execute (publisher : Publisher) (metrics : PubMetrics)
    (loop : LoopState) (outcome : SendOutcome) :
    (step publisher metrics loop (.execute outcome)).elapsed =
      loop.elapsed := by
  change (executeStatement publisher metrics outcome loop).elapsed = _
  unfold executeStatement
  split <;> try rfl
  split <;> rfl

@[simp]
theorem Publisher.continuesAfter_handedOver :
    publisher.continuesAfter .handedOver = true := by
  cases publisher <;> rfl

/-- One statement of the publishing loop of the ZMQ publisher keeps the number
of messages counted up to the message in flight. -/
theorem executeStatement_counted (metrics : PubMetrics) (outcome : SendOutcome)
    {loop : LoopState}
    (counted : loop.sent = loop.msgCnt + loop.point.inFlight) :
    (executeStatement .zmq metrics outcome loop).sent =
      (executeStatement .zmq metrics outcome loop).msgCnt +
        (executeStatement .zmq metrics outcome loop).point.inFlight := by
  cases atPoint : loop.point with
  | send =>
      cases outcome <;>
        simpa [executeStatement, atPoint, Publisher.continuesAfter,
          Point.inFlight] using counted
  | count =>
      simp only [atPoint, Point.inFlight] at counted
      simp only [executeStatement, atPoint]
      split <;> simpa [Point.inFlight] using counted
  | sleeping wakeTime =>
      simp only [atPoint, Point.inFlight] at counted
      simp only [executeStatement, atPoint]
      split <;> simpa [atPoint, Point.inFlight] using counted
  | checkDuration =>
      simp only [atPoint, Point.inFlight] at counted
      simp only [executeStatement, atPoint]
      split <;> simpa [Point.inFlight] using counted
  | computeDelay | sleep | finished | raised =>
      simpa [executeStatement, atPoint, Point.inFlight] using counted

@[simp]
theorem executeStatement_startTime (publisher : Publisher)
    (metrics : PubMetrics) (outcome : SendOutcome) (loop : LoopState) :
    (executeStatement publisher metrics outcome loop).startTime =
      loop.startTime := by
  unfold executeStatement
  split <;> try rfl
  split <;> rfl

theorem executeStatement_sent (publisher : Publisher) (metrics : PubMetrics)
    (outcome : SendOutcome) {loop : LoopState} (notSend : loop.point ≠ .send) :
    (executeStatement publisher metrics outcome loop).sent = loop.sent := by
  unfold executeStatement
  split <;> try rfl
  · next atSend => exact (notSend atSend).elim
  · split <;> rfl

/-- One statement keeps the counters in agreement with the messages sent. -/
theorem Batched.execute (batchPositive : 1 ≤ metrics.msgBatch)
    {loop : LoopState} (batched : Batched metrics loop)
    (outcome : SendOutcome) :
    Batched metrics (step publisher metrics loop (.execute outcome)) := by
  obtain ⟨elapsedNonneg, cntLe, sentLe⟩ := batched
  rw [← elapsed_execute publisher metrics loop outcome] at elapsedNonneg
  cases atPoint : loop.point with
  | send =>
      simp only [atPoint, Point.room, Point.inFlight] at cntLe sentLe
      by_cases handedOver : outcome = .handedOver
      · refine ⟨elapsedNonneg, ?_, ?_⟩ <;>
          simp [step, executeStatement, atPoint, handedOver, Point.room,
            Point.inFlight] <;> omega
      · refine ⟨elapsedNonneg, ?_, ?_⟩ <;>
          simp only [step, executeStatement, atPoint, handedOver, if_false] <;>
          split <;> simp only [Point.room, Point.inFlight] <;> omega
  | count =>
      simp only [atPoint, Point.room, Point.inFlight] at cntLe sentLe
      refine ⟨elapsedNonneg, ?_, ?_⟩ <;>
        simp only [step, executeStatement, atPoint] <;>
        split <;> simp only [Point.room, Point.inFlight] <;> omega
  | sleeping wakeTime =>
      simp only [atPoint, Point.room, Point.inFlight] at cntLe sentLe
      refine ⟨elapsedNonneg, ?_, ?_⟩ <;>
        simp only [step, executeStatement, atPoint] <;>
        split <;> simp only [atPoint, Point.room, Point.inFlight] <;> omega
  | checkDuration =>
      simp only [atPoint, Point.room, Point.inFlight] at cntLe sentLe
      refine ⟨elapsedNonneg, ?_, ?_⟩ <;>
        simp only [step, executeStatement, atPoint] <;>
        split <;> simp only [Point.room, Point.inFlight] <;> omega
  | computeDelay | sleep | finished | raised =>
      simp only [atPoint, Point.room, Point.inFlight] at cntLe sentLe
      refine ⟨elapsedNonneg, ?_, ?_⟩ <;>
        simpa [step, executeStatement, atPoint, Point.room, Point.inFlight]

/-- Every reached state has the counters in agreement with the messages sent. -/
theorem run_batched (batchPositive : 1 ≤ metrics.msgBatch) (startTime : ℚ)
    (moves : List Move) :
    Batched metrics (run publisher metrics startTime moves) := by
  refine List.foldlRecOn moves _ ?_ ?_
  · exact ⟨by simp [initial, LoopState.elapsed],
      by simpa [initial, Point.room] using batchPositive,
      by simp [initial]⟩
  · intro loop batched move _
    cases move with
    | tick time =>
        exact ⟨by
          rw [elapsed_tick]
          exact add_nonneg batched.elapsed_nonneg time.coe_nonneg,
          batched.cnt_le, batched.sent_le⟩
    | execute outcome => exact batched.execute batchPositive outcome

/-! ### The rate that every run keeps to -/

/-- All messages before the current batch keep to the rate, and so will the
current batch when the loop wakes up. -/
structure CaughtUp (rate : ℚ) (loop : LoopState) : Prop where
  completed : (loop.msgCnt : ℚ) ≤ rate * loop.elapsed + loop.cnt
  afterwards : match loop.point with
    | .sleep delay => (loop.msgCnt : ℚ) ≤ rate * (loop.elapsed + delay)
    | .sleeping wakeTime =>
        (loop.msgCnt : ℚ) ≤ rate * (wakeTime - loop.startTime)
    | _ => True

theorem CaughtUp.tick {rate : ℚ} (rateNonneg : 0 ≤ rate) {loop : LoopState}
    (caughtUp : CaughtUp rate loop) (time : ℚ≥0) :
    CaughtUp rate (step publisher metrics loop (.tick time)) := by
  have passed : rate * loop.elapsed ≤ rate * (loop.elapsed + time) := by
    rw [mul_add]
    linarith [mul_nonneg rateNonneg time.coe_nonneg]
  obtain ⟨completed, afterwards⟩ := caughtUp
  constructor
  · rw [elapsed_tick]
    exact completed.trans (add_le_add_left passed _)
  · rw [elapsed_tick]
    cases atPoint : loop.point with
    | sleep delay =>
        simp only [atPoint, step] at afterwards ⊢
        refine afterwards.trans (mul_le_mul_of_nonneg_left ?_ rateNonneg)
        linarith [time.coe_nonneg]
    | sleeping wakeTime => simpa [atPoint, step] using afterwards
    | send | count | computeDelay | checkDuration | finished | raised =>
        simp [atPoint, step]

/-- One statement keeps to a rate that is at least the requested rate and one
batch per second. -/
theorem CaughtUp.execute {rate : ℚ}
    (ratePositive : 0 < metrics.msgRequestedRate)
    (rateEnough : metrics.msgRequestedRate ≤ rate)
    (batchEnough : (metrics.msgBatch : ℚ) ≤ rate) {loop : LoopState}
    (batched : Batched metrics loop) (caughtUp : CaughtUp rate loop)
    (outcome : SendOutcome) :
    CaughtUp rate (step publisher metrics loop (.execute outcome)) := by
  have sameElapsed := elapsed_execute publisher metrics loop outcome
  obtain ⟨completed, afterwards⟩ := caughtUp
  cases atPoint : loop.point with
  | send =>
      refine ⟨by rw [sameElapsed]; simpa [step, executeStatement, atPoint], ?_⟩
      simp only [step, executeStatement, atPoint]
      split_ifs <;> trivial
  | count =>
      constructor
      · rw [sameElapsed]
        simp only [step, executeStatement, atPoint, Nat.cast_add, Nat.cast_one]
        linarith
      · simp only [step, executeStatement, atPoint]
        split_ifs <;> trivial
  | computeDelay =>
      refine ⟨by rw [sameElapsed]; simpa [step, executeStatement, atPoint], ?_⟩
      rw [sameElapsed]
      simp only [step, executeStatement, atPoint]
      exact metrics.le_rate_mul_delay ratePositive rateEnough batchEnough
        ((Nat.le_add_right _ _).trans batched.cnt_le) completed
  | sleep delay =>
      refine ⟨by rw [sameElapsed]; simpa [step, executeStatement, atPoint], ?_⟩
      simp only [atPoint] at afterwards
      simp only [step, executeStatement, atPoint]
      rwa [LoopState.elapsed, ← add_sub_right_comm] at afterwards
  | sleeping wakeTime =>
      simp only [atPoint] at afterwards
      by_cases awake : wakeTime ≤ loop.clock
      · refine ⟨?_, by simp [step, executeStatement, atPoint, awake]⟩
        rw [sameElapsed]
        simp only [step, executeStatement, atPoint, awake, if_true,
          Nat.cast_zero, add_zero]
        refine afterwards.trans (mul_le_mul_of_nonneg_left ?_
          (ratePositive.le.trans rateEnough))
        exact sub_le_sub_right awake _
      · refine ⟨by rw [sameElapsed]; simpa [step, executeStatement, atPoint,
          awake], ?_⟩
        simpa [step, executeStatement, atPoint, awake] using afterwards
  | checkDuration =>
      refine ⟨by rw [sameElapsed]; simpa [step, executeStatement, atPoint], ?_⟩
      simp only [step, executeStatement, atPoint]
      split_ifs <;> trivial
  | finished | raised =>
      refine ⟨by rw [sameElapsed]; simpa [step, executeStatement, atPoint], ?_⟩
      simp [step, executeStatement, atPoint]

/-- Every reached state has caught up with such a rate. -/
theorem run_caughtUp {rate : ℚ} (batchPositive : 1 ≤ metrics.msgBatch)
    (ratePositive : 0 < metrics.msgRequestedRate)
    (rateEnough : metrics.msgRequestedRate ≤ rate)
    (batchEnough : (metrics.msgBatch : ℚ) ≤ rate) (startTime : ℚ)
    (moves : List Move) :
    CaughtUp rate (run publisher metrics startTime moves) := by
  induction moves using List.reverseRecOn with
  | nil =>
      exact ⟨by simp [run, initial, LoopState.elapsed], by simp [run, initial]⟩
  | append_singleton moves move ih =>
      rw [run, List.foldl_concat]
      cases move with
      | tick time => exact ih.tick (ratePositive.le.trans rateEnough) time
      | execute outcome =>
          exact ih.execute ratePositive rateEnough batchEnough
            (run_batched batchPositive startTime moves) outcome

/-- A loop that has caught up has not sent more than the rate allows and one
batch. -/
theorem CaughtUp.sent_le {rate : ℚ} {loop : LoopState}
    (batched : Batched metrics loop) (caughtUp : CaughtUp rate loop) :
    (loop.sent : ℚ) ≤ rate * loop.elapsed + metrics.msgBatch := by
  have inFlightLe : loop.point.inFlight ≤ loop.point.room := by
    cases loop.point <;> simp [Point.inFlight, Point.room]
  have sentLe : loop.sent + loop.cnt ≤ loop.msgCnt + metrics.msgBatch := by
    have := batched.sent_le
    have := batched.cnt_le
    omega
  have sentLe' : (loop.sent : ℚ) + loop.cnt ≤
      loop.msgCnt + metrics.msgBatch := by
    exact_mod_cast sentLe
  linarith [caughtUp.completed]

/-- Every run keeps to the larger of the requested rate and one batch per
second. -/
theorem sentWithin_max (batchPositive : 1 ≤ metrics.msgBatch)
    (ratePositive : 0 < metrics.msgRequestedRate) :
    SentWithin publisher metrics
      (max metrics.msgRequestedRate metrics.msgBatch) := by
  intro startTime moves
  exact CaughtUp.sent_le (run_batched batchPositive startTime moves)
    (run_caughtUp batchPositive ratePositive (le_max_left _ _)
      (le_max_right _ _) startTime moves)

/-! ### Runs of one batch -/

/-- The loop is still in its first batch, or will finish after it. -/
def FirstBatchOnly (metrics : PubMetrics) (loop : LoopState) : Prop :=
  match loop.point with
  | .send | .count => loop.msgCnt = loop.cnt
  | .computeDelay =>
      loop.msgCnt = loop.cnt ∧ metrics.msgBatch ≤ loop.cnt
  | .sleep delay => loop.msgCnt = loop.cnt ∧ 1 ≤ loop.elapsed + delay
  | .sleeping wakeTime =>
      loop.msgCnt = loop.cnt ∧ 1 ≤ wakeTime - loop.startTime
  | .checkDuration =>
      loop.msgCnt = loop.cnt ∨
        loop.msgCnt ≤ metrics.msgBatch ∧ 1 ≤ loop.elapsed
  | .finished | .raised => loop.msgCnt ≤ metrics.msgBatch

theorem FirstBatchOnly.tick {loop : LoopState}
    (firstBatch : FirstBatchOnly metrics loop) (time : ℚ≥0) :
    FirstBatchOnly metrics (step publisher metrics loop (.tick time)) := by
  have timeNonneg : (0 : ℚ) ≤ time := time.coe_nonneg
  have samePoint :
      (step publisher metrics loop (.tick time)).point = loop.point := rfl
  unfold FirstBatchOnly at firstBatch ⊢
  rw [samePoint, elapsed_tick]
  cases atPoint : loop.point with
  | sleep delay =>
      simp only [atPoint] at firstBatch
      exact ⟨firstBatch.1, by linarith [firstBatch.2]⟩
  | checkDuration =>
      simp only [atPoint] at firstBatch
      exact firstBatch.imp_right fun later => ⟨later.1, by linarith [later.2]⟩
  | send | count | computeDelay | sleeping | finished | raised =>
      simpa [atPoint, step] using firstBatch

/-- Where a batch takes more than a second at the requested rate, the first
delay uses up a whole second. -/
theorem one_le_elapsed_add_delay (ratePositive : 0 < metrics.msgRequestedRate)
    {msgCnt : ℕ} {duration : ℚ} (durationNonneg : 0 ≤ duration)
    (aboveRate : metrics.msgRequestedRate < msgCnt) :
    1 ≤ duration + metrics.delay msgCnt duration := by
  rcases metrics.delay_eq_one_or_le msgCnt duration with isOne | madeUp
  · rw [isOne]
    linarith
  · refine le_trans ?_ madeUp
    rw [one_le_div₀ ratePositive]
    exact aboveRate.le

/-- One statement does not start a second batch if the run ends within a
second and a batch takes longer than that. -/
theorem FirstBatchOnly.execute (ratePositive : 0 < metrics.msgRequestedRate)
    (aboveRate : metrics.msgRequestedRate < metrics.msgBatch)
    (shortTest : metrics.testDuration ≤ 1) {loop : LoopState}
    (batched : Batched metrics loop) (firstBatch : FirstBatchOnly metrics loop)
    (outcome : SendOutcome) :
    FirstBatchOnly metrics (step publisher metrics loop (.execute outcome)) := by
  have cntLe : loop.cnt ≤ metrics.msgBatch :=
    (Nat.le_add_right _ _).trans batched.cnt_le
  cases atPoint : loop.point with
  | send =>
      simp only [FirstBatchOnly, atPoint] at firstBatch
      by_cases continues : publisher.continuesAfter outcome = true
      · simpa [FirstBatchOnly, step, executeStatement, atPoint, continues]
          using firstBatch
      · simpa [FirstBatchOnly, step, executeStatement, atPoint, continues]
          using firstBatch.le.trans cntLe
  | count =>
      simp only [FirstBatchOnly, atPoint] at firstBatch
      simp only [FirstBatchOnly, step, executeStatement, atPoint]
      split_ifs with isFull
      · exact ⟨by rw [firstBatch], isFull⟩
      · exact .inl (by rw [firstBatch])
  | computeDelay =>
      simp only [FirstBatchOnly, atPoint] at firstBatch
      have allCounted : loop.msgCnt = metrics.msgBatch :=
        firstBatch.1.trans (le_antisymm cntLe firstBatch.2)
      simp only [FirstBatchOnly, step, executeStatement, atPoint]
      exact ⟨firstBatch.1, one_le_elapsed_add_delay ratePositive
        batched.elapsed_nonneg (by rwa [allCounted])⟩
  | sleep delay =>
      simp only [FirstBatchOnly, atPoint, LoopState.elapsed] at firstBatch
      simp only [FirstBatchOnly, step, executeStatement, atPoint]
      exact ⟨firstBatch.1, by linarith [firstBatch.2]⟩
  | sleeping wakeTime =>
      simp only [FirstBatchOnly, atPoint] at firstBatch
      by_cases awake : wakeTime ≤ loop.clock
      · simp only [FirstBatchOnly, step, executeStatement, atPoint, awake,
          if_true, LoopState.elapsed]
        exact .inr ⟨firstBatch.1.le.trans cntLe, by linarith [firstBatch.2]⟩
      · simpa [FirstBatchOnly, step, executeStatement, atPoint, awake]
          using firstBatch
  | checkDuration =>
      simp only [FirstBatchOnly, atPoint] at firstBatch
      simp only [FirstBatchOnly, step, executeStatement, atPoint]
      rcases firstBatch with sameBatch | ⟨withinBatch, secondPassed⟩
      · split_ifs
        · exact sameBatch.le.trans cntLe
        · exact sameBatch
      · have isOver : loop.elapsed ≥ metrics.testDuration :=
          shortTest.trans secondPassed
        simpa [isOver] using withinBatch
  | finished | raised =>
      simpa [FirstBatchOnly, step, executeStatement, atPoint] using firstBatch

/-- Every reached state belongs to the only batch of such a run. -/
theorem run_firstBatchOnly (batchPositive : 1 ≤ metrics.msgBatch)
    (ratePositive : 0 < metrics.msgRequestedRate)
    (aboveRate : metrics.msgRequestedRate < metrics.msgBatch)
    (shortTest : metrics.testDuration ≤ 1) (startTime : ℚ)
    (moves : List Move) :
    FirstBatchOnly metrics (run publisher metrics startTime moves) := by
  induction moves using List.reverseRecOn with
  | nil => simp [run, initial, FirstBatchOnly]
  | append_singleton moves move ih =>
      rw [run, List.foldl_concat]
      cases move with
      | tick time => exact ih.tick time
      | execute outcome =>
          exact ih.execute ratePositive aboveRate shortTest
            (run_batched batchPositive startTime moves) outcome

/-- A state of the only batch has no more messages sent than that batch. -/
theorem FirstBatchOnly.sent_le {loop : LoopState}
    (batched : Batched metrics loop)
    (firstBatch : FirstBatchOnly metrics loop) :
    loop.sent ≤ metrics.msgBatch := by
  obtain ⟨_, cntLe, sentLe⟩ := batched
  cases atPoint : loop.point with
  | send | count | computeDelay | sleep | sleeping | finished | raised =>
      simp only [FirstBatchOnly, atPoint, Point.room, Point.inFlight]
        at firstBatch cntLe sentLe
      omega
  | checkDuration =>
      simp only [FirstBatchOnly, atPoint, Point.room, Point.inFlight]
        at firstBatch cntLe sentLe
      rcases firstBatch with sameBatch | ⟨withinBatch, _⟩ <;> omega

/-- A run that keeps to its first batch keeps to the requested rate. -/
theorem sentWithin_of_shortTest (batchPositive : 1 ≤ metrics.msgBatch)
    (ratePositive : 0 < metrics.msgRequestedRate)
    (aboveRate : metrics.msgRequestedRate < metrics.msgBatch)
    (shortTest : metrics.testDuration ≤ 1) :
    SentWithin publisher metrics metrics.msgRequestedRate := by
  intro startTime moves
  have batched : Batched metrics (run publisher metrics startTime moves) :=
    run_batched batchPositive startTime moves
  have sentLe := FirstBatchOnly.sent_le batched
    (run_firstBatchOnly batchPositive ratePositive aboveRate shortTest
      startTime moves)
  have sentLe' : ((run publisher metrics startTime moves).sent : ℚ) ≤
      metrics.msgBatch := by
    exact_mod_cast sentLe
  linarith [mul_nonneg ratePositive.le batched.elapsed_nonneg]

/-! ### A second batch after one second -/

/-- The statements executed for a message that does not complete a batch. -/
def messageMoves : List Move :=
  [.execute .handedOver, .execute .handedOver, .execute .handedOver]

/-- Messages within a batch that take no time are all sent. -/
theorem foldl_messages (publisher : Publisher) (count : ℕ) (loop : LoopState)
    (atSend : loop.point = .send)
    (hasRoom : loop.cnt + count < metrics.msgBatch)
    (isRunning : loop.elapsed < metrics.testDuration) :
    (List.replicate count messageMoves).flatten.foldl
        (step publisher metrics) loop =
      { loop with
        cnt := loop.cnt + count
        msgCnt := loop.msgCnt + count
        sent := loop.sent + count } := by
  induction count generalizing loop with
  | zero => simp
  | succ count ih =>
      have notFull : ¬ loop.cnt + 1 ≥ metrics.msgBatch := by omega
      have notOver : ¬ loop.clock - loop.startTime ≥ metrics.testDuration :=
        not_le.mpr isRunning
      have oneMessage : messageMoves.foldl (step publisher metrics) loop =
          { loop with
            cnt := loop.cnt + 1
            msgCnt := loop.msgCnt + 1
            sent := loop.sent + 1 } := by
        simp [messageMoves, step, executeStatement, atSend, notFull, notOver,
          LoopState.elapsed]
      rw [List.replicate_succ, List.flatten_cons, List.foldl_append, oneMessage]
      refine (ih ⟨loop.clock, loop.startTime, loop.cnt + 1, loop.msgCnt + 1,
        loop.sent + 1, loop.point⟩ atSend ?_ isRunning).trans ?_
      · change loop.cnt + 1 + count < metrics.msgBatch
        omega
      · simp only [LoopState.mk.injEq, true_and, and_true]
        omega

/-- The moves of the message that completes a batch, where the delay is one
second and the clock advances by just that. -/
def lastMessageMoves : List Move :=
  List.replicate 4 (.execute .handedOver) ++ .tick 1 ::
    List.replicate 2 (.execute .handedOver)

/-- After a delay of one second, the next batch starts if the run goes on. -/
theorem foldl_lastMessage (publisher : Publisher) (loop : LoopState)
    (atSend : loop.point = .send)
    (isLast : loop.cnt + 1 = metrics.msgBatch)
    (delayOne : metrics.delay (loop.msgCnt + 1) loop.elapsed = 1)
    (isRunning : loop.elapsed + 1 < metrics.testDuration) :
    lastMessageMoves.foldl (step publisher metrics) loop =
      { loop with
        clock := loop.clock + 1
        cnt := 0
        msgCnt := loop.msgCnt + 1
        sent := loop.sent + 1 } := by
  have notOver :
      ¬ loop.clock + 1 - loop.startTime ≥ metrics.testDuration := by
    rw [not_le, add_sub_right_comm]
    exact isRunning
  simp only [LoopState.elapsed] at delayOne
  simp [lastMessageMoves, List.replicate_succ, step, executeStatement, atSend,
    isLast, delayOne, notOver, LoopState.elapsed]

/-- Where a batch takes more than a second at the requested rate and the run
lasts longer than a second, two batches can be sent after one second. -/
theorem exists_secondBatch (publisher : Publisher)
    (batchPositive : 1 ≤ metrics.msgBatch)
    (ratePositive : 0 < metrics.msgRequestedRate)
    (aboveRate : metrics.msgRequestedRate < metrics.msgBatch)
    (longTest : 1 < metrics.testDuration) :
    ∃ moves, (run publisher metrics 0 moves).sent = 2 * metrics.msgBatch ∧
      (run publisher metrics 0 moves).elapsed = 1 := by
  obtain ⟨rest, batchEq⟩ : ∃ rest, rest + 1 = metrics.msgBatch :=
    ⟨metrics.msgBatch - 1, by omega⟩
  have delayOne : metrics.delay metrics.msgBatch 0 = 1 := by
    have aboveOne : 1 < (metrics.msgBatch : ℚ) / metrics.msgRequestedRate := by
      rwa [one_lt_div₀ ratePositive]
    simp [PubMetrics.delay, aboveOne, zero_lt_one.trans aboveOne]
  have firstBatch : (run publisher metrics 0
      ((List.replicate rest messageMoves).flatten ++ lastMessageMoves)) =
      ⟨1, 0, 0, metrics.msgBatch, metrics.msgBatch, .send⟩ := by
    rw [run, List.foldl_append,
      foldl_messages publisher rest _ rfl (by simp [initial]; omega)
        (by simp [initial, LoopState.elapsed]; linarith),
      foldl_lastMessage publisher _ rfl (by simpa [initial] using batchEq)
        (by simpa [initial, LoopState.elapsed, batchEq] using delayOne)
        (by simpa [initial, LoopState.elapsed] using longTest)]
    simp [initial, batchEq]
  refine ⟨(List.replicate rest messageMoves).flatten ++ lastMessageMoves ++
    ((List.replicate rest messageMoves).flatten ++ [.execute .handedOver]), ?_⟩
  rw [run, List.foldl_append, ← run, firstBatch, List.foldl_append,
    foldl_messages publisher rest _ rfl (by simp only; omega)
      (by simpa [LoopState.elapsed] using longTest)]
  constructor
  · simp [step, executeStatement]
    omega
  · simp [step, executeStatement, LoopState.elapsed]

/-! ### Pacing -/

/-- Every publisher keeps to the larger of the requested rate and one batch
per second.  It keeps to the requested rate exactly if a batch fits into a
second at that rate or the test is over after a second. -/
theorem sentWithin_requestedRate_iff (publisher : Publisher)
    (metrics : PubMetrics) (batchPositive : 1 ≤ metrics.msgBatch)
    (ratePositive : 0 < metrics.msgRequestedRate) :
    SentWithin publisher metrics
        (max metrics.msgRequestedRate metrics.msgBatch) ∧
      (SentWithin publisher metrics metrics.msgRequestedRate ↔
        (metrics.msgBatch : ℚ) ≤ metrics.msgRequestedRate ∨
          metrics.testDuration ≤ 1) := by
  refine ⟨sentWithin_max batchPositive ratePositive, ?_, ?_⟩
  · intro within
    by_contra! exceeds
    obtain ⟨moves, sentTwice, oneSecond⟩ := exists_secondBatch publisher
      batchPositive ratePositive exceeds.1 exceeds.2
    have bound := within 0 moves
    rw [sentTwice, oneSecond] at bound
    push_cast at bound
    linarith [exceeds.1]
  · intro fitsOrShort
    by_cases fits : (metrics.msgBatch : ℚ) ≤ metrics.msgRequestedRate
    · have keeps : SentWithin publisher metrics
          (max metrics.msgRequestedRate metrics.msgBatch) :=
        sentWithin_max batchPositive ratePositive
      rwa [max_eq_left fits] at keeps
    · exact sentWithin_of_shortTest batchPositive ratePositive (not_le.mp fits)
        (fitsOrShort.resolve_left fits)

/-- The default batch of 100 messages at 10000 messages a second for 10
seconds. -/
theorem defaultBatch_sentWithin_iff :
    (1 ≤ 100 ∧ (0 : ℚ) < 10000) ∧
      SentWithin .zmq ⟨10, 100, 10000⟩ (max 10000 (100 : ℕ)) ∧
        (SentWithin .zmq ⟨10, 100, 10000⟩ 10000 ↔
          ((100 : ℕ) : ℚ) ≤ 10000 ∨ (10 : ℚ) ≤ 1) :=
  ⟨⟨by decide, by decide +kernel⟩,
    sentWithin_requestedRate_iff .zmq ⟨10, 100, 10000⟩ (by decide)
      (by decide +kernel)⟩

/-- With two messages a batch and one message a second, four messages are sent
after one second. -/
theorem largeBatch_exceeds_requestedRate :
    ¬ ∀ (publisher : Publisher) (metrics : PubMetrics),
      1 ≤ metrics.msgBatch → 0 < metrics.msgRequestedRate →
        SentWithin publisher metrics metrics.msgRequestedRate := by
  intro keeps
  have bound := keeps .zmq ⟨15, 2, 1⟩ (by decide) (by decide +kernel) 0
    (messageMoves ++ lastMessageMoves ++ messageMoves ++
      [.execute .handedOver])
  revert bound
  decide +kernel

end PublisherLoop

end MScale
