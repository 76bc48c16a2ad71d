import MScale.SubscriberLoop
import Mathlib.Tactic.Linarith
import Mathlib.Algebra.Order.Field.Basic
import Mathlib.Data.List.Induction

/-!
# Pacing of the receive loop

A client with a receive rate sleeps after a message for which it is too early,
but never longer than a second.  Like the publishers it therefore keeps to the
larger of its rate and one message per second, from the last reset of the
statistics on, wherever in the loop the daemon handled it.  The rate may be set
after the reset, and may change: what counts is the largest one that was in force
once a message was counted.
-/

namespace MScale

namespace SubscriberLoop

section Commands

variable (usage : HDZmqpRepSrv.Usage) (hd : HDZmqsRepSrv)

@[simp]
theorem getStats_msgCnt : (hd.getStats usage).2.msgCnt = hd.msgCnt := by
  unfold HDZmqsRepSrv.getStats
  dsimp only
  split <;> rfl

@[simp]
theorem getStats_firstMsgTimeR :
    (hd.getStats usage).2.firstMsgTimeR = hd.firstMsgTimeR := by
  unfold HDZmqsRepSrv.getStats
  dsimp only
  split <;> rfl

@[simp]
theorem getStats_reconnectCnt :
    (hd.getStats usage).2.reconnectCnt = hd.reconnectCnt := by
  unfold HDZmqsRepSrv.getStats
  dsimp only
  split <;> rfl

@[simp]
theorem getStats_reconnectRate :
    (hd.getStats usage).2.reconnectRate = hd.reconnectRate := by
  unfold HDZmqsRepSrv.getStats
  dsimp only
  split <;> rfl

@[simp]
theorem resetStats_firstMsgTimeR_value :
    (hd.resetStats usage).firstMsgTimeR.value = 0 :=
  PyNumber.value_zero

end Commands

@[simp]
theorem sub_value_float (number : ℚ) :
    number - (PyNumber.float number).value = 0 :=
  sub_self number

/-! ### The clock -/

/-- Readings of the clock are not negative, the first message did not come
later than now, and no loop sleeps until a negative time. -/
structure Timely (loop : LoopState) : Prop where
  clock_nonneg : 0 ≤ loop.clock
  first_le : loop.hd.firstMsgTimeR.value ≤ loop.clock
  wake_nonneg : match loop.point with
    | .sleeping wakeTime => 0 ≤ wakeTime
    | _ => True

theorem Timely.execute {loop : LoopState} (timely : Timely loop) :
    Timely (executeStatement loop) := by
  obtain ⟨clockNonneg, firstLe, wakeNonneg⟩ := timely
  cases atPoint : loop.point with
  | connect | recv | count | noteLast | close | raised =>
      simp only [executeStatement, atPoint]
      exact ⟨clockNonneg, firstLe, by simp [atPoint]⟩
  | noteFirst string =>
      simp only [executeStatement, atPoint]
      refine ⟨clockNonneg, ?_, trivial⟩
      dsimp only
      split
      · exact le_rfl
      · exact firstLe
  | checkIndex string =>
      simp only [executeStatement, atPoint]
      split
      · split
        · exact ⟨clockNonneg, firstLe, trivial⟩
        · exact ⟨clockNonneg, firstLe, trivial⟩
      · exact ⟨clockNonneg, firstLe, trivial⟩
  | limitRate =>
      simp only [executeStatement, atPoint]
      split
      · next early =>
          have positive := sub_pos.mpr early.2
          refine ⟨clockNonneg, firstLe, ?_⟩
          dsimp only
          split <;> linarith
      · exact ⟨clockNonneg, firstLe, trivial⟩
  | sleeping wakeTime =>
      simp only [executeStatement, atPoint]
      split
      · exact ⟨clockNonneg, firstLe, trivial⟩
      · exact ⟨clockNonneg, firstLe, by simpa [atPoint] using wakeNonneg⟩
  | reconnect =>
      simp only [executeStatement, atPoint]
      split
      · exact ⟨clockNonneg, firstLe, trivial⟩
      · exact ⟨clockNonneg, firstLe, trivial⟩

theorem Timely.command {loop : LoopState} (timely : Timely loop)
    (command : SubCommand) : Timely (handleCommand command loop) := by
  obtain ⟨clockNonneg, firstLe, wakeNonneg⟩ := timely
  refine ⟨clockNonneg, ?_, wakeNonneg⟩
  cases command with
  | resetstats usage =>
      exact (resetStats_firstMsgTimeR_value usage loop.hd).trans_le clockNonneg
  | getstats usage =>
      simpa [handleCommand, SubCommand.event, HDZmqsRepSrv.handle] using firstLe
  | updateconfig recvRate reconnectRate => exact firstLe

theorem Timely.step {loop : LoopState} (timely : Timely loop) (move : Move) :
    Timely (SubscriberLoop.step loop move) := by
  cases move with
  | tick time =>
      have passed : loop.clock ≤ loop.clock + time :=
        le_add_of_nonneg_right time.coe_nonneg
      exact ⟨timely.clock_nonneg.trans passed, timely.first_le.trans passed,
        timely.wake_nonneg⟩
  | arrive string =>
      obtain ⟨clockNonneg, firstLe, wakeNonneg⟩ := timely
      simp only [SubscriberLoop.step]
      split
      · exact ⟨clockNonneg, firstLe, trivial⟩
      · exact ⟨clockNonneg, firstLe, wakeNonneg⟩
  | command command => exact timely.command command
  | execute => exact timely.execute

theorem run_timely {start : LoopState} (timely : Timely start)
    (moves : List Move) : Timely (run start moves) :=
  List.foldlRecOn moves SubscriberLoop.step timely
    fun _ timely move _ => timely.step move

theorem initial_timely (usage : HDZmqpRepSrv.Usage) {clock : ℚ}
    (clockNonneg : 0 ≤ clock) : Timely (initial usage clock) :=
  ⟨clockNonneg,
    (resetStats_firstMsgTimeR_value usage _).trans_le clockNonneg, trivial⟩

/-! ### Runs since a reset -/

/-- The loop can get into this state. -/
def Reachable (loop : LoopState) : Prop :=
  ∃ usage clock moves, 0 ≤ clock ∧ loop = run (initial usage clock) moves

theorem Reachable.timely {loop : LoopState} (reachable : Reachable loop) :
    Timely loop := by
  obtain ⟨usage, clock, moves, clockNonneg, rfl⟩ := reachable
  exact run_timely (initial_timely usage clockNonneg) moves

/-- The daemon resets the statistics. -/
def Move.Resets : Move → Prop
  | .command (.resetstats _) => True
  | _ => False

/-- The daemon handled a reset in the first state, and the second one is reached
from it without another reset, through states that meet a condition. -/
inductive SinceReset (Meets : LoopState → Prop) (reset : LoopState) :
    LoopState → Prop
  | reset (usage : HDZmqpRepSrv.Usage) :
      SinceReset Meets reset (handleCommand (.resetstats usage) reset)
  | step {now : LoopState} {move : Move} (since : SinceReset Meets reset now)
      (meets : Meets now) (noReset : ¬ move.Resets) :
      SinceReset Meets reset (SubscriberLoop.step now move)

section Rules

variable {Meets : LoopState → Prop} {reset now : LoopState}

theorem SinceReset.run (since : SinceReset Meets reset now) {moves : List Move}
    (noReset : ∀ move ∈ moves, ¬ move.Resets)
    (meets : ∀ earlier, earlier <+: moves → Meets (run now earlier)) :
    SinceReset Meets reset (SubscriberLoop.run now moves) := by
  induction moves generalizing now with
  | nil => exact since
  | cons move moves ih =>
      rw [List.forall_mem_cons] at noReset
      have here : Meets now := meets [] (List.nil_prefix)
      apply ih (since.step here noReset.1) noReset.2
      intro earlier isPrefix
      exact meets (move :: earlier) (List.cons_prefix_cons.mpr ⟨rfl, isPrefix⟩)

/-- What the reset establishes and every later move keeps holds since the
reset. -/
theorem SinceReset.invariant {Invariant : LoopState → Prop}
    (since : SinceReset Meets reset now) (reachable : Reachable reset)
    (established : Timely reset →
      ∀ usage, Invariant (handleCommand (.resetstats usage) reset))
    (kept : ∀ loop move, Timely loop → Meets loop → ¬ move.Resets →
      Invariant loop → Invariant (SubscriberLoop.step loop move)) :
    Invariant now := by
  have both : Timely now ∧ Invariant now := by
    induction since with
    | reset usage =>
        exact ⟨reachable.timely.command _, established reachable.timely usage⟩
    | step since meets noReset ih =>
        exact ⟨ih.1.step _, kept _ _ ih.1 meets noReset ih.2⟩
  exact both.2

end Rules

/-! ### The receive rate -/

/-- How many messages are counted that the loop has not slept for yet. -/
def Point.inFlight : Point → ℕ
  | .checkIndex _ | .noteLast | .limitRate | .sleeping _ | .raised => 1
  | _ => 0

/-- Once a message is counted, a receive rate is in force, and it is at most the
given one. -/
def ReceivesAtMost (most : ℚ) (loop : LoopState) : Prop :=
  loop.hd.msgCnt ≠ 0 → 0 < loop.recvRate ∧ loop.recvRate ≤ most

/-- All messages before the one in flight keep to the rate, and so will that one
when the loop wakes up. -/
structure Paced (rate : ℚ) (loop : LoopState) : Prop where
  counted : (loop.hd.msgCnt : ℚ) ≤
    rate * loop.currentDuration + loop.point.inFlight
  awake : match loop.point with
    | .sleeping wakeTime =>
        (loop.hd.msgCnt : ℚ) ≤ rate * (wakeTime - loop.hd.firstMsgTimeR.value)
    | _ => True

section Paced

variable {rate recvRate most : ℚ} {loop : LoopState}

theorem Timely.currentDuration_nonneg (timely : Timely loop) :
    0 ≤ loop.currentDuration :=
  sub_nonneg.mpr timely.first_le

/-- A loop that sleeps will have kept to the rate when it wakes up. -/
theorem msgCnt_le_of_sleep (ratePositive : 0 < recvRate)
    (rateEnough : recvRate ≤ rate) (oneEnough : 1 ≤ rate) {msgCnt : ℕ}
    {duration : ℚ} (counted : (msgCnt : ℚ) ≤ rate * duration + 1) :
    (msgCnt : ℚ) ≤ rate * (duration +
      if msgCnt / recvRate - duration > 1 then 1
      else msgCnt / recvRate - duration) := by
  split
  · rw [mul_add, mul_one]
    linarith
  · have exact : duration + (msgCnt / recvRate - duration) = msgCnt / recvRate := by
      ring
    rw [exact]
    calc (msgCnt : ℚ) = recvRate * (msgCnt / recvRate) := by
          field_simp
      _ ≤ rate * (msgCnt / recvRate) := by
          have := msgCnt.cast_nonneg (α := ℚ)
          gcongr

/-- A loop that has counted no message since the reset does not sleep. -/
theorem not_early_of_uncounted (timely : Timely loop)
    (none : loop.hd.msgCnt = 0) :
    ¬ loop.currentDuration < loop.hd.msgCnt / loop.recvRate := by
  rw [none, Nat.cast_zero, zero_div, not_lt]
  exact timely.currentDuration_nonneg

theorem Paced.execute (rateEnough : most ≤ rate) (oneEnough : 1 ≤ rate)
    (timely : Timely loop) (atMost : ReceivesAtMost most loop)
    (paced : Paced rate loop) : Paced rate (executeStatement loop) := by
  have rateNonneg : 0 ≤ rate := zero_le_one.trans oneEnough
  obtain ⟨counted, awake⟩ := paced
  cases atPoint : loop.point with
  | connect | close =>
      simp only [atPoint, Point.inFlight] at counted
      simp only [executeStatement, atPoint]
      exact ⟨counted, trivial⟩
  | recv | raised =>
      simp only [executeStatement, atPoint]
      exact ⟨counted, by simp [atPoint]⟩
  | noteFirst string =>
      simp only [atPoint, Point.inFlight] at counted
      simp only [executeStatement, atPoint]
      refine ⟨?_, trivial⟩
      split
      · next none =>
          simp [LoopState.currentDuration, none, Point.inFlight]
      · exact counted
  | count string =>
      simp only [atPoint, Point.inFlight, Nat.cast_zero, add_zero] at counted
      simp only [executeStatement, atPoint]
      refine ⟨?_, trivial⟩
      simpa [LoopState.currentDuration, Point.inFlight] using counted
  | checkIndex string =>
      simp only [atPoint, Point.inFlight] at counted
      simp only [executeStatement, atPoint]
      split
      · split
        · exact ⟨counted, trivial⟩
        · exact ⟨counted, trivial⟩
      · exact ⟨counted, trivial⟩
  | noteLast =>
      simp only [atPoint, Point.inFlight] at counted
      simp only [executeStatement, atPoint]
      exact ⟨counted, trivial⟩
  | limitRate =>
      simp only [atPoint, Point.inFlight, Nat.cast_one] at counted
      simp only [executeStatement, atPoint]
      have durationNonneg := timely.currentDuration_nonneg
      by_cases none : loop.hd.msgCnt = 0
      · rw [if_neg fun early => not_early_of_uncounted timely none early.2]
        refine ⟨?_, trivial⟩
        simpa [none, LoopState.currentDuration, Point.inFlight]
          using mul_nonneg rateNonneg durationNonneg
      obtain ⟨ratePositive, withinMost⟩ := atMost none
      have withinRate := withinMost.trans rateEnough
      split
      · refine ⟨by simpa [LoopState.currentDuration, Point.inFlight]
          using counted, ?_⟩
        have slept := msgCnt_le_of_sleep ratePositive withinRate oneEnough
          counted
        simp only [LoopState.currentDuration] at slept ⊢
        rwa [add_sub_right_comm]
      · next late =>
          refine ⟨?_, trivial⟩
          have duration := not_lt.mp
            (fun early => late ⟨ratePositive.ne', early⟩)
          rw [div_le_iff₀ ratePositive, mul_comm] at duration
          simp only [Point.inFlight, Nat.cast_zero, add_zero]
          exact duration.trans
            (mul_le_mul_of_nonneg_right withinRate durationNonneg)
  | sleeping wakeTime =>
      simp only [atPoint] at awake
      simp only [executeStatement, atPoint]
      split
      · next wakes =>
          refine ⟨?_, trivial⟩
          simp only [Point.inFlight, Nat.cast_zero, add_zero]
          refine awake.trans (mul_le_mul_of_nonneg_left ?_ rateNonneg)
          exact sub_le_sub_right wakes _
      · exact ⟨counted, by simpa [atPoint] using awake⟩
  | reconnect =>
      simp only [atPoint, Point.inFlight] at counted
      simp only [executeStatement, atPoint]
      split
      · exact ⟨counted, trivial⟩
      · exact ⟨counted, trivial⟩

theorem Paced.tick (rateNonneg : 0 ≤ rate) (paced : Paced rate loop)
    (time : ℚ≥0) : Paced rate (step loop (.tick time)) := by
  refine ⟨paced.counted.trans ?_, paced.awake⟩
  have passed : loop.currentDuration ≤
      (step loop (.tick time)).currentDuration :=
    sub_le_sub_right (le_add_of_nonneg_right time.coe_nonneg) _
  exact add_le_add_left (mul_le_mul_of_nonneg_left passed rateNonneg) _

theorem Paced.arrive (paced : Paced rate loop) (string : String) :
    Paced rate (step loop (.arrive string)) := by
  simp only [step]
  split
  · next atRecv =>
      have counted := paced.counted
      rw [atRecv] at counted
      exact ⟨counted, trivial⟩
  · exact paced

theorem Paced.getstats (paced : Paced rate loop) (usage : HDZmqpRepSrv.Usage) :
    Paced rate (handleCommand (.getstats usage) loop) := by
  obtain ⟨counted, awake⟩ := paced
  constructor
  · simpa [handleCommand, SubCommand.event, HDZmqsRepSrv.handle,
      LoopState.currentDuration] using counted
  · simpa [handleCommand, SubCommand.event, HDZmqsRepSrv.handle] using awake

theorem Paced.step (rateEnough : most ≤ rate) (oneEnough : 1 ≤ rate)
    (timely : Timely loop) (atMost : ReceivesAtMost most loop) {move : Move}
    (noReset : ¬ move.Resets) (paced : Paced rate loop) :
    Paced rate (SubscriberLoop.step loop move) := by
  cases move with
  | tick time => exact paced.tick (zero_le_one.trans oneEnough) time
  | arrive string => exact paced.arrive string
  | command command =>
      cases command with
      | resetstats usage => exact (noReset trivial).elim
      | getstats usage => exact paced.getstats usage
      | updateconfig recvRate' reconnectRate' =>
          exact ⟨paced.counted, paced.awake⟩
  | execute => exact paced.execute rateEnough oneEnough timely atMost

end Paced

/-! ### The time since a reset -/

/-- The first message came after the given time, unless none has come yet. -/
structure Fresh (resetClock : ℚ) (loop : LoopState) : Prop where
  clock_le : resetClock ≤ loop.clock
  first_le : loop.hd.msgCnt = 0 ∧ (∀ string, loop.point ≠ .count string) ∨
    resetClock ≤ loop.hd.firstMsgTimeR.value

section Fresh

variable {resetClock : ℚ} {loop : LoopState}

theorem Fresh.execute (fresh : Fresh resetClock loop) :
    Fresh resetClock (executeStatement loop) := by
  obtain ⟨clockLe, firstLe⟩ := fresh
  cases atPoint : loop.point with
  | noteFirst string =>
      simp only [executeStatement, atPoint]
      refine ⟨clockLe, Or.inr ?_⟩
      dsimp only
      split
      · exact clockLe
      · next some =>
          exact firstLe.resolve_left fun none => some none.1
  | count string =>
      simp only [executeStatement, atPoint]
      exact ⟨clockLe, Or.inr
        (firstLe.resolve_left fun none => none.2 string atPoint)⟩
  | connect | noteLast | close =>
      simp only [executeStatement, atPoint]
      exact ⟨clockLe, firstLe.imp_left fun none => ⟨none.1, by simp⟩⟩
  | recv | raised =>
      simp only [executeStatement, atPoint]
      exact ⟨clockLe, firstLe⟩
  | checkIndex string =>
      simp only [executeStatement, atPoint]
      repeat' split
      all_goals
        exact ⟨clockLe, firstLe.imp_left fun none => ⟨none.1, by simp⟩⟩
  | limitRate | reconnect =>
      simp only [executeStatement, atPoint]
      split
      all_goals
        exact ⟨clockLe, firstLe.imp_left fun none => ⟨none.1, by simp⟩⟩
  | sleeping wakeTime =>
      simp only [executeStatement, atPoint]
      split
      · exact ⟨clockLe, firstLe.imp_left fun none => ⟨none.1, by simp⟩⟩
      · exact ⟨clockLe, firstLe⟩

theorem Fresh.step {move : Move} (noReset : ¬ move.Resets)
    (fresh : Fresh resetClock loop) :
    Fresh resetClock (SubscriberLoop.step loop move) := by
  obtain ⟨clockLe, firstLe⟩ := fresh
  cases move with
  | tick time =>
      exact ⟨clockLe.trans (le_add_of_nonneg_right time.coe_nonneg), firstLe⟩
  | arrive string =>
      simp only [SubscriberLoop.step]
      split
      · exact ⟨clockLe, firstLe.imp_left fun none => ⟨none.1, by simp⟩⟩
      · exact ⟨clockLe, firstLe⟩
  | command command =>
      refine ⟨clockLe, ?_⟩
      cases command with
      | resetstats usage => exact (noReset trivial).elim
      | getstats usage =>
          simpa [SubscriberLoop.step, handleCommand, SubCommand.event,
            HDZmqsRepSrv.handle] using firstLe
      | updateconfig recvRate' reconnectRate' => exact firstLe
  | execute => exact Fresh.execute ⟨clockLe, firstLe⟩

/-- Unless the reset came between noting the first message and counting it, the
loop has started anew. -/
theorem SinceReset.fresh {Meets : LoopState → Prop} {reset now : LoopState}
    (since : SinceReset Meets reset now) (reachable : Reachable reset)
    (notCounting : ∀ string, reset.point ≠ .count string) :
    Fresh reset.clock now :=
  since.invariant reachable
    (fun _ _ => ⟨le_rfl, Or.inl ⟨rfl, notCounting⟩⟩)
    fun _ _ _ _ noReset fresh => fresh.step noReset

end Fresh

/-! ### Keeping to the receive rate -/

/-- The moves in which a client of a lower rate than one message per second
counts two messages in a second. -/
def twoMessages : List Move :=
  [.execute, .arrive "0 msg0"] ++ List.replicate 5 .execute ++
    [.tick 1, .execute, .execute, .arrive "1 msg1", .execute, .execute]

end SubscriberLoop

end MScale
