import MScale.GapLog
import MScale.PublisherPacing
import MScale.SubscriberMessages

/-!
# The stream of messages

The ZMQ publisher numbers its messages, and the socket of a subscriber drops
some of them but keeps their order.  The subscriber logs the indices that it
misses.  This file connects the publishing loop to the receive loop and compares
the log with the messages that were lost.
-/

namespace MScale

namespace MessageStream

open SubscriberLoop (LoopState Point SubCommand executeStatement handleCommand
  isSpace split natOfDigits int)

/-! ### Texts of messages -/

/-- The text of the message with the given index. -/
def messageText (msgCnt : ℕ) : String :=
  toString msgCnt ++ " " ++ ("msg" ++ toString msgCnt)

theorem isDigit_of_mem_toString {msgCnt : ℕ} {char : Char}
    (member : char ∈ (toString msgCnt).toList) : char.isDigit = true := by
  rw [Nat.toString_eq_repr, Nat.toList_repr] at member
  exact Nat.isDigit_of_mem_toDigits (by decide) (by decide) member

theorem isSpace_of_isDigit {char : Char} (digit : char.isDigit = true) :
    isSpace char = false := by
  have atLeast := (Char.isDigit_iff_toNat.mp digit).1
  rw [isSpace, decide_eq_false_iff_not, not_or]
  constructor
  · rintro rfl
    exact absurd atLeast (by decide)
  · rintro ⟨_, most⟩
    have atMost : char.toNat ≤ '\r'.toNat := most
    exact absurd (atLeast.trans atMost) (by decide)

theorem split_messageText (msgCnt : ℕ) :
    split (messageText msgCnt) =
      [(toString msgCnt).toList, ("msg" ++ toString msgCnt).toList] := by
  have noSpace : ∀ char ∈ (toString msgCnt).toList, isSpace char = false :=
    fun char member => isSpace_of_isDigit (isDigit_of_mem_toString member)
  have noSpaceAfter :
      ∀ char ∈ ("msg" ++ toString msgCnt).toList, isSpace char = false := by
    have letters : ("msg".toList.all fun char => !isSpace char) = true := rfl
    rw [String.toList_append, List.forall_mem_append]
    refine ⟨fun char member => ?_, noSpace⟩
    simpa using List.all_eq_true.mp letters char member
  have textEq : (messageText msgCnt).toList = (toString msgCnt).toList ++
      ' ' :: ("msg" ++ toString msgCnt).toList := by
    simp [messageText, String.toList_append]
  rw [split, textEq,
    List.splitOnP_append_cons_of_forall_mem noSpace ' ' (by decide),
    List.splitOnP_eq_singleton noSpaceAfter]
  simp

theorem natOfDigits_toString (msgCnt : ℕ) :
    natOfDigits (toString msgCnt).toList = some (msgCnt : ℤ) := by
  have digits : (toString msgCnt).toList.all Char.isDigit = true :=
    List.all_eq_true.mpr fun char => isDigit_of_mem_toString
  rw [natOfDigits, if_pos]
  · rw [Nat.toString_eq_repr, Nat.toList_repr, Nat.ofDigitChars_ten_toDigits]
  · refine ⟨?_, digits⟩
    rw [Nat.toString_eq_repr, Nat.toList_repr]
    exact Nat.toDigits_ne_nil

theorem int_toString (msgCnt : ℕ) :
    int (toString msgCnt).toList = some (msgCnt : ℤ) := by
  rw [← natOfDigits_toString]
  have digits : ∀ char ∈ (toString msgCnt).toList, char.isDigit = true :=
    fun char => isDigit_of_mem_toString
  generalize (toString msgCnt).toList = text at digits
  unfold int
  split
  · exact absurd (digits '-' List.mem_cons_self) (by decide)
  · exact absurd (digits '+' List.mem_cons_self) (by decide)
  · rfl

theorem messageText_injective : Function.Injective messageText := by
  intro first second same
  have sameSplit := congrArg split same
  rw [split_messageText, split_messageText] at sameSplit
  have sameInt := congrArg int (List.cons.inj sameSplit).1
  rw [int_toString, int_toString] at sameInt
  exact Int.ofNat_inj.mp (Option.some.inj sameInt)

/-! ### The stream -/

/-- The publishing loop, the messages on their way with the oldest one first, and
the receive loop.  The texts handed over and the texts taken from the socket are
recorded. -/
structure Stream where
  pub : PublisherLoop.LoopState
  wire : List String
  sub : LoopState
  sent : List String
  received : List String

/-- What happens next: the publisher moves, the network loses a message on its
way or has the oldest one arrive at a subscriber that waits for one, or the
subscriber moves. -/
inductive StreamMove
  | publish (move : PublisherLoop.Move)
  | lose (position : ℕ)
  | deliver
  | tick (time : ℚ≥0)
  | command (command : SubCommand)
  | execute

/-- The text that the publisher hands over in the move. -/
def sentText (pub : PublisherLoop.LoopState) : PublisherLoop.Move → List String
  | .execute .handedOver =>
      if pub.point = .send then [messageText pub.msgCnt] else []
  | _ => []

/-- One move. -/
def step (metrics : PublisherLoop.PubMetrics) (stream : Stream) :
    StreamMove → Stream
  | .publish move =>
      { stream with
        pub := PublisherLoop.step .zmq metrics stream.pub move
        wire := stream.wire ++ sentText stream.pub move
        sent := stream.sent ++ sentText stream.pub move }
  | .lose position => { stream with wire := stream.wire.eraseIdx position }
  | .deliver =>
      match stream.wire with
      | [] => stream
      | string :: wire =>
          if stream.sub.point = .recv then
            { stream with
              wire := wire
              sub := SubscriberLoop.step stream.sub (.arrive string)
              received := stream.received ++ [string] }
          else stream
  | .tick time =>
      { stream with sub := SubscriberLoop.step stream.sub (.tick time) }
  | .command command =>
      { stream with sub := SubscriberLoop.step stream.sub (.command command) }
  | .execute =>
      { stream with sub := SubscriberLoop.step stream.sub .execute }

/-- A test begins while the subscriber is in the given state. -/
def initial (startTime : ℚ) (sub : LoopState) : Stream where
  pub := PublisherLoop.initial startTime
  wire := []
  sub := sub
  sent := []
  received := []

/-- The state after the given moves. -/
def run (metrics : PublisherLoop.PubMetrics) (startTime : ℚ) (sub : LoopState)
    (moves : List StreamMove) : Stream :=
  moves.foldl (step metrics) (initial startTime sub)

/-! ### What is sent and what comes -/

/-- The publisher has handed over the messages with the first indices, and the
subscriber gets some of those, in order. -/
structure InOrder (stream : Stream) : Prop where
  counted : stream.pub.sent = stream.pub.msgCnt + stream.pub.point.inFlight
  sent_eq : stream.sent = (List.range stream.pub.sent).map messageText
  sublist : (stream.received ++ stream.wire).Sublist stream.sent

theorem initial_inOrder (startTime : ℚ) (sub : LoopState) :
    InOrder (initial startTime sub) :=
  ⟨rfl, rfl, List.Sublist.refl _⟩

theorem sent_step (metrics : PublisherLoop.PubMetrics)
    (pub : PublisherLoop.LoopState) (move : PublisherLoop.Move) :
    (PublisherLoop.step .zmq metrics pub move).sent =
      pub.sent + (sentText pub move).length := by
  cases move with
  | tick time => rfl
  | execute outcome =>
      by_cases atSend : pub.point = .send
      · cases outcome <;>
          simp [PublisherLoop.step, PublisherLoop.executeStatement, sentText,
            atSend]
      · have same := PublisherLoop.executeStatement_sent .zmq metrics outcome
          atSend
        cases outcome <;> simpa [PublisherLoop.step, sentText, atSend] using same

/-- The publisher hands over the message with the next index. -/
theorem sentText_eq {pub : PublisherLoop.LoopState}
    (counted : pub.sent = pub.msgCnt + pub.point.inFlight)
    (move : PublisherLoop.Move) :
    sentText pub move = [] ∨ sentText pub move = [messageText pub.sent] := by
  unfold sentText
  split
  · split
    · next atSend =>
        rw [atSend] at counted
        exact Or.inr (by rw [counted]; rfl)
    · exact Or.inl rfl
  · exact Or.inl rfl

theorem InOrder.publish {metrics : PublisherLoop.PubMetrics} {stream : Stream}
    (inOrder : InOrder stream) (move : PublisherLoop.Move) :
    InOrder (step metrics stream (.publish move)) := by
  obtain ⟨counted, sentEq, sublist⟩ := inOrder
  have sentStep := sent_step metrics stream.pub move
  constructor
  · cases move with
    | tick time => exact counted
    | execute outcome =>
        exact PublisherLoop.executeStatement_counted metrics outcome counted
  · change stream.sent ++ sentText stream.pub move = _
    rw [show (step metrics stream (.publish move)).pub.sent = _ from sentStep,
      sentEq]
    rcases sentText_eq counted move with none | one
    · simp [none]
    · simp [one, List.range_succ]
  · change (stream.received ++
      (stream.wire ++ sentText stream.pub move)).Sublist _
    rw [← List.append_assoc]
    exact sublist.append (List.Sublist.refl _)

theorem InOrder.step {metrics : PublisherLoop.PubMetrics} {stream : Stream}
    (inOrder : InOrder stream) (move : StreamMove) :
    InOrder (MessageStream.step metrics stream move) := by
  cases move with
  | publish move => exact inOrder.publish move
  | lose position =>
      refine ⟨inOrder.counted, inOrder.sent_eq, ?_⟩
      have fewer := stream.wire.eraseIdx_sublist position
      exact ((List.Sublist.refl _).append fewer).trans inOrder.sublist
  | deliver =>
      cases wireEq : stream.wire with
      | nil => simpa [MessageStream.step, wireEq] using inOrder
      | cons string wire =>
          simp only [MessageStream.step, wireEq]
          split
          · refine ⟨inOrder.counted, inOrder.sent_eq, ?_⟩
            have sublist := inOrder.sublist
            rw [wireEq] at sublist
            simpa using sublist
          · exact inOrder
  | tick time => exact ⟨inOrder.counted, inOrder.sent_eq, inOrder.sublist⟩
  | command command =>
      exact ⟨inOrder.counted, inOrder.sent_eq, inOrder.sublist⟩
  | execute => exact ⟨inOrder.counted, inOrder.sent_eq, inOrder.sublist⟩

/-- The received messages have increasing indices of sent messages. -/
theorem InOrder.received_eq {stream : Stream} (inOrder : InOrder stream) :
    ∃ indices : List ℕ, stream.received = indices.map messageText ∧
      indices.Pairwise (· < ·) ∧ ∀ index ∈ indices, index < stream.pub.sent := by
  have sublist := (List.sublist_append_left stream.received stream.wire).trans
    inOrder.sublist
  rw [inOrder.sent_eq] at sublist
  obtain ⟨indices, fewer, receivedEq⟩ := List.sublist_map_iff.mp sublist
  refine ⟨indices, receivedEq, List.pairwise_lt_range.sublist fewer, ?_⟩
  exact fun index member => List.mem_range.mp (fewer.subset member)

/-! ### What is logged -/

/-- The message whose index the loop has not looked at yet. -/
def unchecked : Point → List String
  | .noteFirst string | .count string | .checkIndex string => [string]
  | _ => []

/-- The loop has looked at the checked indices and has the pending one before
it. -/
structure Heard (start : LoopState) (checked pending : List ℕ)
    (loop : LoopState) : Prop where
  unchecked_eq : unchecked loop.point = pending.map messageText
  running : loop.point ≠ .raised
  startIdx_eq : loop.startIdx =
    GapLog.next start.startIdx (checked.map Int.ofNat)
  missing_eq : loop.missing = start.missing ++
    GapLog.gaps start.startIdx (checked.map Int.ofNat)

section Heard

variable {start loop : LoopState} {checked pending : List ℕ}

/-- Looking at an index logs the gap before it. -/
theorem Heard.checkIndex (heard : Heard start checked pending loop)
    {string : String} (atCheck : loop.point = .checkIndex string) :
    Heard start (checked ++ pending) [] (executeStatement loop) := by
  obtain ⟨uncheckedEq, running, startIdxEq, missingEq⟩ := heard
  rw [atCheck] at uncheckedEq
  obtain ⟨index, rfl, rfl⟩ : ∃ index, pending = [index] ∧
      string = messageText index := by
    cases pending with
    | nil => cases uncheckedEq
    | cons index pending =>
        obtain ⟨stringEq, restEq⟩ := List.cons.inj uncheckedEq
        exact ⟨index, by rw [List.map_eq_nil_iff.mp restEq.symm], stringEq⟩
  simp only [executeStatement, atCheck, split_messageText, int_toString]
  constructor
  · rfl
  · simp
  · rw [List.map_append, List.map_singleton, GapLog.next_concat]
    rfl
  · rw [List.map_append, List.map_singleton, GapLog.gaps_concat, ← startIdxEq,
      ← List.append_assoc, ← missingEq, GapLog.gap]
    simp only [Int.ofNat_eq_natCast]
    split <;> simp

theorem Heard.execute (heard : Heard start checked pending loop) :
    ∃ checked' pending', checked' ++ pending' = checked ++ pending ∧
      Heard start checked' pending' (executeStatement loop) := by
  cases atPoint : loop.point with
  | checkIndex string =>
      exact ⟨checked ++ pending, [], List.append_nil _,
        heard.checkIndex atPoint⟩
  | raised => exact (heard.running atPoint).elim
  | _ =>
      obtain ⟨uncheckedEq, running, startIdxEq, missingEq⟩ := heard
      rw [atPoint] at uncheckedEq
      refine ⟨checked, pending, rfl, ?_⟩
      simp only [executeStatement, atPoint]
      repeat' split
      all_goals
        exact ⟨by simpa [unchecked, atPoint] using uncheckedEq, by simp [atPoint],
          startIdxEq, missingEq⟩

theorem Heard.arrive (heard : Heard start checked pending loop)
    (atRecv : loop.point = .recv) (index : ℕ) :
    Heard start (checked ++ pending) [index]
      (SubscriberLoop.step loop (.arrive (messageText index))) := by
  obtain ⟨uncheckedEq, running, startIdxEq, missingEq⟩ := heard
  rw [atRecv] at uncheckedEq
  obtain rfl := List.map_eq_nil_iff.mp uncheckedEq.symm
  rw [List.append_nil]
  simp only [SubscriberLoop.step, atRecv, if_true]
  exact ⟨rfl, by simp, startIdxEq, missingEq⟩

end Heard

/-- The subscriber has heard the messages with the given indices. -/
def HeardAll (start : LoopState) (indices : List ℕ) (loop : LoopState) : Prop :=
  ∃ checked pending, checked ++ pending = indices ∧
    Heard start checked pending loop

theorem run_heardAll (metrics : PublisherLoop.PubMetrics) (startTime : ℚ)
    {start : LoopState} (idle : start.point.idle = true)
    (moves : List StreamMove) :
    InOrder (run metrics startTime start moves) ∧
      ∃ indices, (run metrics startTime start moves).received =
          indices.map messageText ∧
        HeardAll start indices (run metrics startTime start moves).sub := by
  induction moves using List.reverseRecOn with
  | nil =>
      refine ⟨initial_inOrder startTime start, [], rfl, [], [], rfl, ?_, ?_,
        rfl, (List.append_nil _).symm⟩
      · change unchecked start.point = _
        revert idle
        cases start.point <;> simp [Point.idle, unchecked]
      · rintro (atRaised : start.point = .raised)
        simp [atRaised, Point.idle] at idle
  | append_singleton moves move ih =>
      rw [run, List.foldl_concat, ← run]
      obtain ⟨inOrder, indices, receivedEq, heardAll⟩ := ih
      generalize run metrics startTime start moves = stream at *
      refine ⟨inOrder.step move, ?_⟩
      obtain ⟨checked, pending, rfl, heard⟩ := heardAll
      cases move with
      | publish move => exact ⟨_, receivedEq, checked, pending, rfl, heard⟩
      | lose position => exact ⟨_, receivedEq, checked, pending, rfl, heard⟩
      | deliver =>
          cases wireEq : stream.wire with
          | nil =>
              simp only [step, wireEq]
              exact ⟨_, receivedEq, checked, pending, rfl, heard⟩
          | cons string wire =>
              simp only [step, wireEq]
              split
              · next atRecv =>
                  have member : string ∈ stream.sent :=
                    inOrder.sublist.subset (by simp [wireEq])
                  rw [inOrder.sent_eq] at member
                  obtain ⟨index, _, rfl⟩ := List.mem_map.mp member
                  refine ⟨checked ++ pending ++ [index], ?_,
                    checked ++ pending, [index], rfl,
                    heard.arrive atRecv index⟩
                  simp [receivedEq]
              · exact ⟨_, receivedEq, checked, pending, rfl, heard⟩
      | tick time =>
          exact ⟨_, receivedEq, checked, pending, rfl, heard.unchecked_eq,
            heard.running, heard.startIdx_eq, heard.missing_eq⟩
      | command command =>
          exact ⟨_, receivedEq, checked, pending, rfl, heard.unchecked_eq,
            heard.running, heard.startIdx_eq, heard.missing_eq⟩
      | execute =>
          obtain ⟨checked', pending', same, heard'⟩ := heard.execute
          exact ⟨_, receivedEq, checked', pending', same, heard'⟩

/-- Whatever the network loses and whatever commands come between, the
subscriber understands every message of a test.  Once it has looked at all that
it received, its log reports exactly the lost messages before the last received
one, except those before the first received one that it did not expect. -/
theorem missing_reports_lost (metrics : PublisherLoop.PubMetrics) (startTime : ℚ)
    {start : LoopState} (idle : start.point.idle = true)
    (moves : List StreamMove) :
    let now := run metrics startTime start moves
    now.sub.point ≠ .raised ∧
      ∃ indices : List ℕ, now.received = indices.map messageText ∧
        indices.Pairwise (· < ·) ∧ (∀ index ∈ indices, index < now.pub.sent) ∧
        ∃ log, now.sub.missing = start.missing ++ log ∧
          (unchecked now.sub.point = [] → ∀ lost : ℕ,
            GapLog.Reports log lost ↔
              lost ∉ indices ∧ (∃ later ∈ indices, lost < later) ∧
                (start.startIdx ≤ lost ∨
                  ∃ earlier ∈ indices, earlier < lost)) := by
  intro now
  obtain ⟨inOrder, indices, receivedEq, checked, pending, rfl, heard⟩ :=
    run_heardAll metrics startTime idle moves
  obtain ⟨indices, receivedEq', increasing, sent⟩ := inOrder.received_eq
  obtain rfl : checked ++ pending = indices :=
    messageText_injective.list_map (receivedEq.symm.trans receivedEq')
  refine ⟨heard.running, _, receivedEq, increasing, sent, _, heard.missing_eq,
    fun none lost => ?_⟩
  obtain rfl : pending = [] :=
    List.map_eq_nil_iff.mp (heard.unchecked_eq.symm.trans none)
  rw [List.append_nil] at increasing ⊢
  have increasingInt : (checked.map Int.ofNat).Pairwise (· < ·) :=
    increasing.map Int.ofNat fun _ _ => Int.ofNat_lt.mpr
  rw [GapLog.reports_gaps_iff increasingInt]
  simp

/-- Of three messages the first and the second are lost. -/
theorem missing_reports_two :
    let message : List StreamMove :=
      List.replicate 3 (.publish (.execute .handedOver))
    let moves := message ++ message ++ message ++
      [.lose 0, .lose 0, .execute, .deliver] ++ List.replicate 3 .execute
    let start := SubscriberLoop.initial ⟨"", "", ""⟩ 0
    let now := run ⟨15, 100, 10000⟩ 0 start moves
    now.sub.point ≠ .raised ∧
      ∃ indices : List ℕ, now.received = indices.map messageText ∧
        indices.Pairwise (· < ·) ∧ (∀ index ∈ indices, index < now.pub.sent) ∧
        ∃ log, now.sub.missing = start.missing ++ log ∧
          (unchecked now.sub.point = [] → ∀ lost : ℕ,
            GapLog.Reports log lost ↔
              lost ∉ indices ∧ (∃ later ∈ indices, lost < later) ∧
                (start.startIdx ≤ lost ∨
                  ∃ earlier ∈ indices, earlier < lost)) :=
  missing_reports_lost ⟨15, 100, 10000⟩ 0 rfl _

end MessageStream

end MScale
