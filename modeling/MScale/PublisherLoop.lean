import Mathlib.Algebra.Order.Field.Rat
import Mathlib.Data.NNRat.Defs
import Mathlib.Data.Rat.Floor

/-!
# The publishing loop

The ZMQ, RabbitMQ and Kafka publishers share one loop.  It counts the messages
of a batch, and after each batch it sleeps to slow down to the requested rate.
This file models the loop one statement at a time against a clock that it does
not control, over exact rational seconds.
-/

namespace MScale

namespace PublisherLoop

/-- The three programs that contain the loop. -/
inductive Publisher
  | zmq
  | rmq
  | kafka
  deriving DecidableEq, Repr

/-- How a call that sends one message ends. -/
inductive SendOutcome
  | handedOver
  | kafkaTimeout
  | otherError
  deriving DecidableEq, Repr

/-- Whether the loop goes on after the call.  Only the Kafka publisher catches
an exception here, and only `KafkaTimeoutError`. -/
def Publisher.continuesAfter : Publisher → SendOutcome → Bool
  | _, .handedOver => true
  | .kafka, .kafkaTimeout => true
  | _, _ => false

/-- The configuration of a test run. -/
structure PubMetrics where
  testDuration : ℚ
  msgBatch : ℕ
  msgRequestedRate : ℚ
  deriving DecidableEq, Repr

/-- The statement that the loop executes next.  A sleeping loop is at
`sleeping` until the clock reaches the given time. -/
inductive Point
  | send
  | count
  | computeDelay
  | sleep (delay : ℚ)
  | sleeping (wakeTime : ℚ)
  | checkDuration
  | finished
  | raised
  deriving DecidableEq, Repr

/-- The variables of the loop, the clock, and the number of messages handed
over for sending. -/
structure LoopState where
  clock : ℚ
  startTime : ℚ
  cnt : ℕ
  msgCnt : ℕ
  sent : ℕ
  point : Point
  deriving DecidableEq, Repr

/-- `time.time() - start_time`. -/
def LoopState.elapsed (loop : LoopState) : ℚ :=
  loop.clock - loop.startTime

/-- The delay after a batch. -/
def PubMetrics.delay (metrics : PubMetrics) (msgCnt : ℕ) (duration : ℚ) : ℚ :=
  let expectedTime := msgCnt / metrics.msgRequestedRate
  let delay := if expectedTime > duration then expectedTime - duration else 0
  if delay > 1 then 1 else delay

/-- What happens next: time passes, or the loop executes its next statement,
where a call that sends has the given outcome. -/
inductive Move
  | tick (time : ℚ≥0)
  | execute (outcome : SendOutcome)
  deriving DecidableEq

variable (publisher : Publisher) (metrics : PubMetrics)

/-- Execute the next statement. -/
def executeStatement (outcome : SendOutcome) (loop : LoopState) : LoopState :=
  match loop.point with
  | .send =>
      { loop with
        sent := if outcome = .handedOver then loop.sent + 1 else loop.sent
        point := if publisher.continuesAfter outcome then .count else .raised }
  | .count =>
      { loop with
        cnt := loop.cnt + 1
        msgCnt := loop.msgCnt + 1
        point := if loop.cnt + 1 ≥ metrics.msgBatch
          then .computeDelay
          else .checkDuration }
  | .computeDelay =>
      { loop with point := .sleep (metrics.delay loop.msgCnt loop.elapsed) }
  | .sleep delay =>
      { loop with point := .sleeping (loop.clock + delay) }
  | .sleeping wakeTime =>
      if wakeTime ≤ loop.clock
      then { loop with cnt := 0, point := .checkDuration }
      else loop
  | .checkDuration =>
      { loop with
        point := if loop.elapsed ≥ metrics.testDuration
          then .finished
          else .send }
  | .finished => loop
  | .raised => loop

/-- One move. -/
def step (loop : LoopState) : Move → LoopState
  | .tick time => { loop with clock := loop.clock + time }
  | .execute outcome => executeStatement publisher metrics outcome loop

/-- The state in which the loop is entered. -/
def initial (startTime : ℚ) : LoopState :=
  ⟨startTime, startTime, 0, 0, 0, .send⟩

/-- The state after the given moves. -/
def run (startTime : ℚ) (moves : List Move) : LoopState :=
  moves.foldl (step publisher metrics) (initial startTime)

/-- At every moment of every run, the number of messages sent is at most what
the given rate allows for the elapsed time, and one batch. -/
def SentWithin (rate : ℚ) : Prop :=
  ∀ startTime moves,
    ((run publisher metrics startTime moves).sent : ℚ) ≤
      rate * (run publisher metrics startTime moves).elapsed +
        metrics.msgBatch

end PublisherLoop

end MScale
