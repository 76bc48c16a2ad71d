import MScale.SubscriberPacing

/-!
# Reconnects of the receive loop

A client with a reconnect rate leaves its socket whenever it is behind that
rate, and connects again.  It is never more than one reconnect ahead of the
largest rate that was in force once a message was counted, from the last reset of
the statistics on.
-/

namespace MScale

namespace SubscriberLoop

/-- `int` does not round up, except to zero. -/
theorem truncate_le (number : ℚ) :
    (HDZmqsRepSrv.truncate number : ℚ) ≤ max number 0 := by
  rcases le_or_gt 0 number.num with nonneg | negative
  · refine le_max_of_le_left ?_
    rw [HDZmqsRepSrv.truncate, Int.tdiv_eq_ediv_of_nonneg nonneg,
      ← Rat.floor_def']
    exact Int.floor_le number
  · refine le_max_of_le_right ?_
    have nonneg := Int.tdiv_nonneg (neg_nonneg.mpr negative.le)
      (Int.natCast_nonneg number.den)
    rw [Int.neg_tdiv] at nonneg
    rw [HDZmqsRepSrv.truncate]
    exact_mod_cast neg_nonneg.mp nonneg

/-- How many reconnects a loop may have made that has not counted a message
since the last reset. -/
def Point.reconnects : Point → ℕ
  | .connect | .recv | .noteFirst _ | .count _ => 1
  | _ => 0

/-- The reconnects are at most one ahead of the rate, and not ahead of it when
the loop is about to make another one. -/
structure Spaced (rate : ℚ) (loop : LoopState) : Prop where
  counted : (loop.hd.reconnectCnt : ℚ) ≤ rate * loop.currentDuration + 1
  closing : loop.point = .close →
    (loop.hd.reconnectCnt : ℚ) ≤ rate * loop.currentDuration
  unnoted : loop.hd.msgCnt = 0 →
    loop.hd.reconnectCnt ≤ loop.point.reconnects

/-- Once a message is counted, the reconnect rate in force is at most the given
one. -/
def ReconnectsAtMost (most : ℚ) (loop : LoopState) : Prop :=
  loop.hd.msgCnt ≠ 0 → loop.hd.reconnectRate ≤ most

section Spaced

variable {most : ℚ} {loop : LoopState}

/-- The loop reconnects only if it is behind the rate in force. -/
theorem reconnectCnt_le_of_behind (timely : Timely loop)
    (atMost : loop.hd.reconnectRate ≤ most)
    (behind : HDZmqsRepSrv.truncate
      (loop.hd.reconnectRate * loop.currentDuration) > loop.hd.reconnectCnt) :
    (loop.hd.reconnectCnt : ℚ) ≤ max most 0 * loop.currentDuration :=
  calc (loop.hd.reconnectCnt : ℚ)
      ≤ HDZmqsRepSrv.truncate
          (loop.hd.reconnectRate * loop.currentDuration) := by
        exact_mod_cast behind.le
    _ ≤ max (loop.hd.reconnectRate * loop.currentDuration) 0 := truncate_le _
    _ = max loop.hd.reconnectRate 0 * loop.currentDuration := by
        rw [max_mul_of_nonneg _ _ timely.currentDuration_nonneg, zero_mul]
    _ ≤ max most 0 * loop.currentDuration :=
        mul_le_mul_of_nonneg_right (max_le_max_right 0 atMost)
          timely.currentDuration_nonneg

/-- A loop that has counted no message has not reconnected before it checks its
rate, so it is not ahead of any rate. -/
theorem reconnectCnt_le_of_check (timely : Timely loop)
    (atMost : ReconnectsAtMost most loop) (spaced : Spaced (max most 0) loop)
    (atPoint : loop.point = .reconnect)
    (behind : HDZmqsRepSrv.truncate
      (loop.hd.reconnectRate * loop.currentDuration) > loop.hd.reconnectCnt) :
    (loop.hd.reconnectCnt : ℚ) ≤ max most 0 * loop.currentDuration := by
  by_cases none : loop.hd.msgCnt = 0
  · have unnoted := spaced.unnoted none
    simp only [atPoint, Point.reconnects, Nat.le_zero] at unnoted
    rw [unnoted, Nat.cast_zero]
    exact mul_nonneg (le_max_right _ _) timely.currentDuration_nonneg
  · exact reconnectCnt_le_of_behind timely (atMost none) behind

theorem Spaced.execute (timely : Timely loop)
    (atMost : ReconnectsAtMost most loop)
    (spaced : Spaced (max most 0) loop) :
    Spaced (max most 0) (executeStatement loop) := by
  have check := reconnectCnt_le_of_check timely atMost spaced
  obtain ⟨counted, closing, unnoted⟩ := spaced
  cases atPoint : loop.point with
  | connect =>
      simp only [atPoint, Point.reconnects] at unnoted
      simp only [executeStatement, atPoint]
      exact ⟨counted, by simp, unnoted⟩
  | recv | raised =>
      simp only [executeStatement, atPoint]
      exact ⟨counted, closing, unnoted⟩
  | noteFirst string =>
      simp only [atPoint, Point.reconnects] at unnoted
      simp only [executeStatement, atPoint]
      split
      · next none =>
          refine ⟨?_, by simp, fun _ => unnoted none⟩
          simp only [LoopState.currentDuration, sub_value_float, mul_zero, zero_add]
          exact_mod_cast unnoted none
      · exact ⟨counted, by simp, unnoted⟩
  | count string =>
      simp only [executeStatement, atPoint]
      exact ⟨counted, by simp, fun none => (Nat.succ_ne_zero _ none).elim⟩
  | checkIndex string =>
      simp only [atPoint, Point.reconnects] at unnoted
      simp only [executeStatement, atPoint]
      repeat' split
      all_goals exact ⟨counted, by simp, unnoted⟩
  | noteLast =>
      simp only [atPoint, Point.reconnects] at unnoted
      simp only [executeStatement, atPoint]
      exact ⟨counted, by simp, unnoted⟩
  | limitRate =>
      simp only [atPoint, Point.reconnects] at unnoted
      simp only [executeStatement, atPoint]
      split
      all_goals exact ⟨counted, by simp, unnoted⟩
  | sleeping wakeTime =>
      have unnotedHere := unnoted
      simp only [atPoint, Point.reconnects] at unnotedHere
      simp only [executeStatement, atPoint]
      split
      · exact ⟨counted, by simp, unnotedHere⟩
      · exact ⟨counted, closing, unnoted⟩
  | reconnect =>
      simp only [atPoint, Point.reconnects] at unnoted
      simp only [executeStatement, atPoint]
      split
      · next behind =>
          exact ⟨counted, fun _ => check atPoint behind.2, unnoted⟩
      · exact ⟨counted, by simp, fun none => (unnoted none).trans zero_le_one⟩
  | close =>
      simp only [atPoint, Point.reconnects] at unnoted
      simp only [executeStatement, atPoint]
      refine ⟨?_, by simp, fun none => Nat.succ_le_succ (unnoted none)⟩
      have behind := closing atPoint
      simp only [LoopState.currentDuration, Nat.cast_add, Nat.cast_one] at behind ⊢
      exact add_le_add_left behind 1

theorem Spaced.tick {rate : ℚ} (rateNonneg : 0 ≤ rate)
    (spaced : Spaced rate loop) (time : ℚ≥0) :
    Spaced rate (step loop (.tick time)) := by
  have passed : rate * loop.currentDuration ≤
      rate * (step loop (.tick time)).currentDuration :=
    mul_le_mul_of_nonneg_left
      (sub_le_sub_right (le_add_of_nonneg_right time.coe_nonneg) _) rateNonneg
  exact ⟨spaced.counted.trans (add_le_add_left passed _),
    fun atClose => (spaced.closing atClose).trans passed, spaced.unnoted⟩

theorem Spaced.arrive {rate : ℚ} (spaced : Spaced rate loop) (string : String) :
    Spaced rate (step loop (.arrive string)) := by
  simp only [step]
  split
  · next atRecv =>
      have unnoted := spaced.unnoted
      rw [atRecv] at unnoted
      exact ⟨spaced.counted, by simp, unnoted⟩
  · exact spaced

theorem Spaced.getstats {rate : ℚ} (spaced : Spaced rate loop)
    (usage : HDZmqpRepSrv.Usage) :
    Spaced rate (handleCommand (.getstats usage) loop) := by
  obtain ⟨counted, closing, unnoted⟩ := spaced
  constructor
  · simpa [handleCommand, SubCommand.event, HDZmqsRepSrv.handle,
      LoopState.currentDuration] using counted
  · simpa [handleCommand, SubCommand.event, HDZmqsRepSrv.handle,
      LoopState.currentDuration] using closing
  · simpa [handleCommand, SubCommand.event, HDZmqsRepSrv.handle] using unnoted

theorem Spaced.step (timely : Timely loop)
    (atMost : ReconnectsAtMost most loop) {move : Move}
    (noReset : ¬ move.Resets) (spaced : Spaced (max most 0) loop) :
    Spaced (max most 0) (SubscriberLoop.step loop move) := by
  cases move with
  | tick time => exact spaced.tick (le_max_right _ _) time
  | arrive string => exact spaced.arrive string
  | command command =>
      cases command with
      | resetstats usage => exact (noReset trivial).elim
      | getstats usage => exact spaced.getstats usage
      | updateconfig recvRate' reconnectRate' =>
          exact ⟨spaced.counted, spaced.closing, spaced.unnoted⟩
  | execute => exact spaced.execute timely atMost

end Spaced

end SubscriberLoop

end MScale
