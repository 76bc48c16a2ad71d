import MScale.SubscriberLoop
import Mathlib.Data.List.Induction
import Mathlib.Algebra.Order.Field.Rat

/-!
# The receive loop between messages

As long as the daemon handles commands only between two messages, the receive
loop does what the subscriber does that handles commands and messages one at a
time.  The readings of the clock for its messages are in order.
-/

namespace MScale

namespace SubscriberLoop

/-! ### Received messages -/

/-- The messages that the loop takes from its socket. -/
def received (loop : LoopState) : List Move → List String
  | [] => []
  | move :: moves =>
      (match move with
        | .arrive string => if loop.point = .recv then [string] else []
        | _ => []) ++ received (step loop move) moves

theorem received_append (loop : LoopState) (moves later : List Move) :
    received loop (moves ++ later) =
      received loop moves ++ received (run loop moves) later := by
  induction moves generalizing loop with
  | nil => rfl
  | cons move moves ih =>
      simp only [List.cons_append, received, ih, List.append_assoc]
      rfl

theorem run_append (loop : LoopState) (moves later : List Move) :
    run loop (moves ++ later) = run (run loop moves) later :=
  List.foldl_append

@[simp]
theorem handleCommand_point (command : SubCommand) (loop : LoopState) :
    (handleCommand command loop).point = loop.point :=
  rfl

@[simp]
theorem executeStatement_clock (loop : LoopState) :
    (executeStatement loop).clock = loop.clock := by
  simp only [executeStatement]
  repeat' split
  all_goals rfl

/-- The commands among the moves. -/
def commands (moves : List Move) : List (SubEvent ℚ) :=
  moves.filterMap fun
    | .command command => some command.event
    | _ => none

/-- Whether the loop is between two messages. -/
def Point.idle : Point → Bool
  | .connect | .recv => true
  | _ => false

/-- The daemon handles commands only between two messages. -/
def BetweenMessages (start : LoopState) (moves : List Move) : Prop :=
  ∀ earlier command later, moves = earlier ++ .command command :: later →
    (run start earlier).point.idle = true

theorem BetweenMessages.of_append {start : LoopState} {moves later : List Move}
    (between : BetweenMessages start (moves ++ later)) :
    BetweenMessages start moves := by
  rintro earlier command rest rfl
  exact between earlier command (rest ++ later) (by simp)

theorem BetweenMessages.concat {start : LoopState} {moves : List Move}
    (between : BetweenMessages start moves) {move : Move}
    (idle : ∀ command, move = .command command →
      (run start moves).point.idle = true) :
    BetweenMessages start (moves ++ [move]) := by
  intro earlier command later split
  rcases List.eq_nil_or_concat later with rfl | ⟨later, last, rfl⟩
  · obtain ⟨rfl, lastEq⟩ := List.append_inj' split rfl
    exact idle command (List.cons.inj lastEq).1
  · rw [List.concat_eq_append, ← List.cons_append, ← List.append_assoc] at split
    exact between earlier command later (List.append_inj' split rfl).1

theorem BetweenMessages.append {start : LoopState} {moves more : List Move}
    (between : BetweenMessages start moves) (none : commands more = []) :
    BetweenMessages start (moves ++ more) := by
  induction more using List.reverseRecOn with
  | nil => rwa [List.append_nil]
  | append_singleton more move ih =>
      rw [commands, List.filterMap_append, List.append_eq_nil_iff] at none
      rw [← List.append_assoc]
      apply (ih none.1).concat
      rintro command rfl
      cases none.2

theorem betweenMessages_of_commands {start : LoopState} {moves : List Move}
    (none : commands moves = []) : BetweenMessages start moves := by
  rintro earlier command later rfl
  simp [commands] at none

/-! ### Events -/

/-- The readings of the clock while the event is handled. -/
def times : SubEvent ℚ → List ℚ
  | .arrival readings => [readings.first, readings.last, readings.reconnect]
  | _ => []

def isArrival : SubEvent ℚ → Bool
  | .arrival _ => true
  | _ => false

/-- Times do not decrease. -/
def Chronological (times : List ℚ) : Prop :=
  times.Pairwise (· ≤ ·)

theorem Chronological.append_self {times : List ℚ} {clock : ℚ}
    (chronological : Chronological (times ++ [clock])) :
    Chronological (times ++ [clock] ++ [clock]) := by
  refine List.pairwise_append.mpr ⟨chronological, List.pairwise_singleton _ _, ?_⟩
  intro time member last isLast
  rw [List.mem_singleton.mp isLast]
  rcases List.mem_append.mp member with member | member
  · exact (List.pairwise_append.mp chronological).2.2 time member clock
      (List.mem_singleton_self clock)
  · exact (List.mem_singleton.mp member).le

theorem Chronological.later {times : List ℚ} {clock clock' : ℚ}
    (chronological : Chronological (times ++ [clock])) (later : clock ≤ clock') :
    Chronological (times ++ [clock']) := by
  obtain ⟨sorted, _, before⟩ := List.pairwise_append.mp chronological
  refine List.pairwise_append.mpr ⟨sorted, List.pairwise_singleton _ _, ?_⟩
  intro time member last isLast
  rw [List.mem_singleton.mp isLast]
  exact (before time member clock (List.mem_singleton_self clock)).trans later

/-! ### Handling a message -/

section Handling

variable (first last : ℚ) (hd : HDZmqsRepSrv)

/-- The daemon when the time of the first message is noted. -/
def noted : HDZmqsRepSrv :=
  if hd.msgCnt = 0 then
    { hd with
      firstMsgTimeR := .float first
      stats := hd.stats.insert "first_msg_time" (.time (.float first)) }
  else hd

/-- The daemon when the message is counted. -/
def counted : HDZmqsRepSrv :=
  { noted first hd with msgCnt := (noted first hd).msgCnt + 1 }

/-- The daemon when the time of the last message is noted. -/
def dated : HDZmqsRepSrv :=
  { counted first hd with
    lastMsgTimeR := .float last
    stats := (counted first hd).stats.insert "last_msg_time"
      (.time (.float last)) }

/-- The loop is left to reconnect at the given time. -/
def Behind (reconnect : ℚ) : Prop :=
  (dated first last hd).reconnectRate ≠ 0 ∧
    HDZmqsRepSrv.truncate ((dated first last hd).reconnectRate *
      (reconnect - (dated first last hd).firstMsgTimeR.value)) >
      (dated first last hd).reconnectCnt

variable {first last hd} {reconnect : ℚ}

theorem receive_of_behind (behind : Behind first last hd reconnect) :
    hd.receive ⟨first, last, reconnect⟩ =
      { dated first last hd with
        reconnectCnt := (dated first last hd).reconnectCnt + 1 } :=
  if_pos behind

theorem receive_of_not_behind (notBehind : ¬ Behind first last hd reconnect) :
    hd.receive ⟨first, last, reconnect⟩ = dated first last hd :=
  if_neg notBehind

end Handling

/-- The loop has the daemon of before the message, as far as the message is
handled, at the given readings of the clock. -/
def Amid (hd : HDZmqsRepSrv) (readings : List ℚ) (loop : LoopState) : Prop :=
  match loop.point with
  | .connect | .recv | .noteFirst _ => readings = [] ∧ loop.hd = hd
  | .count _ => ∃ first, readings = [first] ∧ loop.hd = noted first hd
  | .checkIndex _ | .noteLast | .raised =>
      ∃ first, readings = [first] ∧ loop.hd = counted first hd
  | .limitRate | .sleeping _ | .reconnect =>
      ∃ first last, readings = [first, last] ∧ loop.hd = dated first last hd
  | .close =>
      ∃ first last reconnect, readings = [first, last, reconnect] ∧
        loop.hd = dated first last hd ∧ Behind first last hd reconnect

/-- A statement reads the clock at most once.  It goes on with the message, or
completes it as `receive` does. -/
theorem Amid.execute {hd : HDZmqsRepSrv} {readings : List ℚ} {loop : LoopState}
    (amid : Amid hd readings loop) :
    ∃ more, (more = [] ∨ more = [loop.clock]) ∧
      ((Amid hd (readings ++ more) (executeStatement loop) ∧
          (executeStatement loop).point.idle = loop.point.idle) ∨
        loop.point.idle = false ∧ (executeStatement loop).point.idle = true ∧
          ∃ first last reconnect, readings ++ more = [first, last, reconnect] ∧
            (executeStatement loop).hd =
              hd.receive ⟨first, last, reconnect⟩) := by
  unfold Amid at amid
  cases atPoint : loop.point with
  | connect =>
      rw [atPoint] at amid
      obtain ⟨rfl, hdEq⟩ := amid
      refine ⟨[], Or.inl rfl, Or.inl ?_⟩
      simp only [executeStatement, atPoint]
      exact ⟨⟨rfl, hdEq⟩, rfl⟩
  | recv =>
      refine ⟨[], Or.inl rfl, Or.inl ?_⟩
      rw [List.append_nil]
      simp only [executeStatement, atPoint]
      exact ⟨by rwa [Amid], trivial⟩
  | raised =>
      refine ⟨[], Or.inl rfl, Or.inl ?_⟩
      rw [List.append_nil]
      simp only [executeStatement, atPoint]
      exact ⟨by rwa [Amid], trivial⟩
  | noteFirst string =>
      rw [atPoint] at amid
      obtain ⟨rfl, rfl⟩ := amid
      refine ⟨[loop.clock], Or.inr rfl, Or.inl ?_⟩
      simp only [executeStatement, atPoint]
      exact ⟨⟨loop.clock, rfl, rfl⟩, rfl⟩
  | count string =>
      rw [atPoint] at amid
      obtain ⟨first, rfl, hdEq⟩ := amid
      refine ⟨[], Or.inl rfl, Or.inl ?_⟩
      simp only [executeStatement, atPoint, hdEq]
      exact ⟨⟨first, rfl, rfl⟩, rfl⟩
  | checkIndex string =>
      rw [atPoint] at amid
      obtain ⟨first, rfl, hdEq⟩ := amid
      refine ⟨[], Or.inl rfl, Or.inl ?_⟩
      simp only [executeStatement, atPoint]
      repeat' split
      all_goals exact ⟨⟨first, rfl, hdEq⟩, rfl⟩
  | noteLast =>
      rw [atPoint] at amid
      obtain ⟨first, rfl, hdEq⟩ := amid
      refine ⟨[loop.clock], Or.inr rfl, Or.inl ?_⟩
      simp only [executeStatement, atPoint, hdEq]
      exact ⟨⟨first, loop.clock, rfl, rfl⟩, rfl⟩
  | limitRate =>
      rw [atPoint] at amid
      obtain ⟨first, last, rfl, hdEq⟩ := amid
      refine ⟨[], Or.inl rfl, Or.inl ?_⟩
      simp only [executeStatement, atPoint]
      split
      all_goals exact ⟨⟨first, last, rfl, hdEq⟩, rfl⟩
  | sleeping wakeTime =>
      refine ⟨[], Or.inl rfl, Or.inl ?_⟩
      rw [List.append_nil]
      simp only [executeStatement, atPoint]
      split
      · rw [atPoint] at amid
        exact ⟨amid, rfl⟩
      · exact ⟨by rwa [Amid], by rw [atPoint]⟩
  | reconnect =>
      rw [atPoint] at amid
      obtain ⟨first, last, rfl, hdEq⟩ := amid
      refine ⟨[loop.clock], Or.inr rfl, ?_⟩
      simp only [executeStatement, atPoint]
      split
      · next behind =>
          left
          rw [LoopState.currentDuration, hdEq] at behind
          exact ⟨⟨first, last, loop.clock, rfl, hdEq, behind⟩, rfl⟩
      · next notBehind =>
          right
          rw [LoopState.currentDuration, hdEq] at notBehind
          exact ⟨rfl, rfl, first, last, loop.clock, rfl,
            hdEq.trans (receive_of_not_behind notBehind).symm⟩
  | close =>
      rw [atPoint] at amid
      obtain ⟨first, last, reconnect, rfl, hdEq, behind⟩ := amid
      refine ⟨[], Or.inl rfl, Or.inr ?_⟩
      simp only [executeStatement, atPoint, hdEq]
      exact ⟨rfl, rfl, first, last, reconnect, rfl,
        (receive_of_behind behind).symm⟩

/-! ### Runs -/

/-- The events, and the readings for the message being handled, account for
what the loop has done. -/
structure Follows (usage : HDZmqpRepSrv.Usage) (clock : ℚ) (moves : List Move)
    (events : List (SubEvent ℚ)) (readings : List ℚ) : Prop where
  amid : Amid (HDZmqsRepSrv.run usage events) readings
    (run (initial usage clock) moves)
  commands_eq : events.filter (!isArrival ·) = commands moves
  received_eq : (received (initial usage clock) moves).length =
    (events.filter isArrival).length +
      (!(run (initial usage clock) moves).point.idle).toNat
  chronological : Chronological (clock :: events.flatMap times ++ readings ++
    [(run (initial usage clock) moves).clock])

section Follows

variable {usage : HDZmqpRepSrv.Usage} {clock : ℚ} {moves : List Move}
  {events : List (SubEvent ℚ)} {readings : List ℚ}

theorem follows_nil (usage : HDZmqpRepSrv.Usage) (clock : ℚ) :
    Follows usage clock [] [] [] where
  amid := ⟨rfl, rfl⟩
  commands_eq := rfl
  received_eq := rfl
  chronological := by simp [Chronological, run, initial]

theorem Follows.tick (follows : Follows usage clock moves events readings)
    (time : ℚ≥0) :
    Follows usage clock (moves ++ [.tick time]) events readings := by
  obtain ⟨amid, commandsEq, receivedEq, chronological⟩ := follows
  have ticked : run (initial usage clock) (moves ++ [.tick time]) =
      { run (initial usage clock) moves with
        clock := (run (initial usage clock) moves).clock + time } := by
    rw [run_append]
    rfl
  constructor
  · rw [ticked]
    exact amid
  · rw [commandsEq]
    simp [commands]
  · rw [ticked, received_append]
    simpa [received] using receivedEq
  · rw [ticked]
    exact chronological.later (le_add_of_nonneg_right time.coe_nonneg)

theorem Follows.arrive (follows : Follows usage clock moves events readings)
    (string : String) :
    Follows usage clock (moves ++ [.arrive string]) events readings := by
  obtain ⟨amid, commandsEq, receivedEq, chronological⟩ := follows
  by_cases atRecv : (run (initial usage clock) moves).point = .recv
  · have arrived : run (initial usage clock) (moves ++ [.arrive string]) =
        { run (initial usage clock) moves with point := .noteFirst string } := by
      rw [run_append]
      exact if_pos atRecv
    rw [Amid, atRecv] at amid
    rw [atRecv] at receivedEq
    constructor
    · rw [arrived]
      exact amid
    · rw [commandsEq]
      simp [commands]
    · rw [arrived, received_append]
      simp [received, atRecv, receivedEq, Point.idle]
    · rw [arrived]
      exact chronological
  · have ignored : run (initial usage clock) (moves ++ [.arrive string]) =
        run (initial usage clock) moves := by
      rw [run_append]
      exact if_neg atRecv
    constructor
    · rwa [ignored]
    · rw [commandsEq]
      simp [commands]
    · rw [ignored, received_append]
      simpa [received, atRecv] using receivedEq
    · rwa [ignored]

theorem Follows.command (follows : Follows usage clock moves events readings)
    (command : SubCommand)
    (idle : (run (initial usage clock) moves).point.idle = true) :
    Follows usage clock (moves ++ [.command command])
      (events ++ [command.event]) readings := by
  obtain ⟨amid, commandsEq, receivedEq, chronological⟩ := follows
  have handled : run (initial usage clock) (moves ++ [.command command]) =
      handleCommand command (run (initial usage clock) moves) := by
    rw [run_append]
    rfl
  have notArrival : isArrival command.event = false := by
    cases command <;> rfl
  have noTimes : times command.event = [] := by
    cases command <;> rfl
  constructor
  · have handledHd : HDZmqsRepSrv.run usage (events ++ [command.event]) =
        (HDZmqsRepSrv.run usage events).handle command.event := by
      rw [HDZmqsRepSrv.run, List.foldl_concat]
      rfl
    rw [handled, handledHd]
    unfold Amid at amid ⊢
    simp only [handleCommand]
    cases atPoint : (run (initial usage clock) moves).point with
    | connect | recv =>
        rw [atPoint] at amid
        exact ⟨amid.1, congrArg (HDZmqsRepSrv.handle · command.event) amid.2⟩
    | _ => simp [atPoint, Point.idle] at idle
  · rw [List.filter_append, commandsEq]
    simp [commands, notArrival]
  · rw [handled, received_append, List.filter_append]
    simpa [received, notArrival] using receivedEq
  · rw [handled, List.flatMap_append]
    simpa [noTimes, handleCommand] using chronological

theorem Follows.execute (follows : Follows usage clock moves events readings) :
    ∃ events readings,
      Follows usage clock (moves ++ [.execute]) events readings := by
  obtain ⟨amid, commandsEq, receivedEq, chronological⟩ := follows
  have executed : run (initial usage clock) (moves ++ [.execute]) =
      executeStatement (run (initial usage clock) moves) := by
    rw [run_append]
    rfl
  have commandsEq' : commands (moves ++ [.execute]) = commands moves := by
    simp [commands]
  have receivedEq' : received (initial usage clock) (moves ++ [.execute]) =
      received (initial usage clock) moves := by
    rw [received_append]
    simp [received]
  obtain ⟨more, read, ended⟩ := amid.execute
  have chronological' : Chronological (clock :: events.flatMap times ++
      (readings ++ more) ++ [(run (initial usage clock) moves).clock]) := by
    rcases read with rfl | rfl
    · rwa [List.append_nil]
    · rw [← List.append_assoc]
      exact chronological.append_self
  rcases ended with ⟨amid', sameIdle⟩ |
    ⟨handling, idle, first, last, reconnect, readingsEq, hdEq⟩
  · refine ⟨events, readings ++ more, ?_, ?_, ?_, ?_⟩
    · rwa [executed]
    · rw [commandsEq, commandsEq']
    · rw [executed, receivedEq', sameIdle, receivedEq]
    · rw [executed, executeStatement_clock]
      exact chronological'
  · refine ⟨events ++ [.arrival ⟨first, last, reconnect⟩], [], ?_, ?_, ?_, ?_⟩
    · rw [executed, HDZmqsRepSrv.run, List.foldl_concat]
      unfold Amid
      cases atPoint : (executeStatement (run (initial usage clock) moves)).point
        with
      | connect | recv => exact ⟨rfl, hdEq⟩
      | _ => simp [atPoint, Point.idle] at idle
    · rw [List.filter_append, commandsEq, commandsEq']
      simp [isArrival]
    · rw [executed, receivedEq', receivedEq, handling, idle,
        List.filter_append, List.length_append]
      rfl
    · rw [executed, executeStatement_clock, List.flatMap_append,
        List.append_nil, ← List.cons_append]
      simpa [times, readingsEq] using chronological'

theorem run_follows (usage : HDZmqpRepSrv.Usage) (clock : ℚ)
    (between : BetweenMessages (initial usage clock) moves) :
    ∃ events readings, Follows usage clock moves events readings := by
  induction moves using List.reverseRecOn with
  | nil => exact ⟨[], [], follows_nil usage clock⟩
  | append_singleton moves move ih =>
      obtain ⟨events, readings, follows⟩ := ih between.of_append
      cases move with
      | tick time => exact ⟨events, readings, follows.tick time⟩
      | arrive string => exact ⟨events, readings, follows.arrive string⟩
      | command command =>
          exact ⟨events ++ [command.event], readings,
            follows.command command (between moves command [] rfl)⟩
      | execute => exact follows.execute

end Follows

/-- Where commands are handled only between messages, the daemon is between
messages what the commands and the received messages make of it, one at a time
and at readings of the clock that are in order. -/
theorem run_handles_events (usage : HDZmqpRepSrv.Usage) (clock : ℚ)
    (moves : List Move) (between : BetweenMessages (initial usage clock) moves)
    (idle : (run (initial usage clock) moves).point.idle = true) :
    ∃ events, (run (initial usage clock) moves).hd =
        HDZmqsRepSrv.run usage events ∧
      events.filter (!isArrival ·) = commands moves ∧
      (events.filter isArrival).length =
        (received (initial usage clock) moves).length ∧
      Chronological (clock :: events.flatMap times ++
        [(run (initial usage clock) moves).clock]) := by
  obtain ⟨events, readings, amid, commandsEq, receivedEq, chronological⟩ :=
    run_follows usage clock between
  rw [idle, Bool.not_true, Bool.toNat_false, Nat.add_zero] at receivedEq
  unfold Amid at amid
  cases atPoint : (run (initial usage clock) moves).point with
  | connect | recv =>
      rw [atPoint] at amid
      obtain ⟨rfl, hdEq⟩ := amid
      rw [List.append_nil] at chronological
      exact ⟨events, hdEq, commandsEq, receivedEq.symm, chronological⟩
  | _ => simp [atPoint, Point.idle] at idle

/-- The client handles a message without receive and reconnect rates. -/
def firstMessage : List Move :=
  [.execute, .arrive "0 msg0", .execute, .execute, .tick 1, .execute, .execute,
    .execute, .execute]

/-- The client handles a message and connects again. -/
def reconnectingMessage : List Move :=
  [.tick 1, .arrive "1 msg1", .execute, .execute, .execute, .execute, .execute,
    .execute, .execute, .execute]

/-- A client that gets a reconnect rate after its first message, connects again
after its second one, and is asked for its statistics then. -/
theorem run_handles_messages :
    let usage : HDZmqpRepSrv.Usage := ⟨"", "", ""⟩
    let moves : List Move := firstMessage ++ [.command (.updateconfig 0 1)] ++
      reconnectingMessage ++ [.command (.getstats usage)]
    (run (initial usage 0) moves).hd.reconnectCnt = 1 ∧
    ∃ events, (run (initial usage 0) moves).hd =
        HDZmqsRepSrv.run usage events ∧
      events.filter (!isArrival ·) =
        [.updateconfig 0 1, .getstats usage] ∧
      (events.filter isArrival).length = 2 ∧
      Chronological (0 :: events.flatMap times ++
        [(run (initial usage 0) moves).clock]) := by
  intro usage moves
  have first : BetweenMessages (initial usage 0) firstMessage :=
    betweenMessages_of_commands rfl
  have between : BetweenMessages (initial usage 0) moves := by
    refine ((first.concat fun _ _ => ?_).append rfl).concat fun _ _ => ?_
    · decide +kernel
    · decide +kernel
  have received : (received (initial usage 0) moves).length = 2 := by
    decide +kernel
  obtain ⟨events, hdEq, commandsEq, receivedEq, chronological⟩ :=
    run_handles_events usage 0 moves between (by decide +kernel)
  exact ⟨by decide +kernel, events, hdEq, commandsEq, receivedEq.trans received,
    chronological⟩

end SubscriberLoop

end MScale
