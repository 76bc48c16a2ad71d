import MScale.ZmqPub
import Mathlib.Data.List.Induction

/-!
# Phases of a test as a client sees them

A publisher is idle until it accepts a test.  An accepted test is started,
hands over messages, and is stopped, and only then is another test accepted.
This file states that order as an automaton over the events of the publisher,
and derives what the current phase says about the events of the last accepted
test.
-/

namespace MScale

namespace ZmqPub

variable {FloatNum : Type}

/-! ### Events of a test -/

/-- The message is the given command. -/
def isCommand (name : String) : Option (CommandMessage FloatNum) → Bool
  | some ⟨.subcmd, some cmd⟩ => cmd.cmdName = name
  | _ => false

/-- What happens to a test. -/
inductive TestEvent
  | accepted
  | started
  | stopped
  deriving DecidableEq, Repr

/-- What an event means for a test. -/
def Event.testEvent : Event FloatNum → Option TestEvent
  | .answered cmsg reply =>
      if isCommand "teststart" cmsg && reply.status = "ok"
      then some .accepted
      else none
  | .startedTest _ => some .started
  | .stoppedTest _ _ => some .stopped
  | .published _ => none

theorem Event.testEvent_answered (cmsg : Option (CommandMessage FloatNum))
    (reply : ResponseMessage FloatNum) :
    (Event.answered cmsg reply).testEvent = some .accepted ∨
      (Event.answered cmsg reply).testEvent = none := by
  simp only [Event.testEvent]
  split
  · exact .inl rfl
  · exact .inr rfl

/-- The reply tells a client that the test is about to end or has ended. -/
def Event.tellsEnd : Event FloatNum → Bool
  | .answered cmsg reply =>
      isCommand "teststatus" cmsg && reply.resp.any fun resp =>
        resp.strValue = some "stopping" || resp.strValue = some "stopped"
  | _ => false

/-- The event hands a message to the PUB socket. -/
def Event.isPublished : Event FloatNum → Bool
  | .published _ => true
  | _ => false

/-- The number of messages handed to the PUB socket. -/
def handedOver (trace : List (Event FloatNum)) : ℕ :=
  trace.countP Event.isPublished

/-- The test events among the given events. -/
def testEvents (trace : List (Event FloatNum)) : List TestEvent :=
  trace.filterMap Event.testEvent

theorem testEvents_concat (trace : List (Event FloatNum))
    (event : Event FloatNum) :
    testEvents (trace ++ [event]) =
      testEvents trace ++ event.testEvent.toList := by
  rw [testEvents, List.filterMap_append, ← testEvents]
  cases isTest : event.testEvent <;> simp [isTest]

/-- The events of complete tests, one after the other. -/
def completeTests (count : ℕ) : List TestEvent :=
  (List.replicate count [.accepted, .started, .stopped]).flatten

/-! ### The automaton -/

/-- Where the last accepted test is: when it was started and stopped, how many
messages were handed over in it, and whether a client was told that it ends. -/
inductive TestPhase
  | idle
  | accepted
  | running (start : UInt64) (handed : ℕ) (told : Bool)
  | ended (start stop : UInt64) (handed : ℕ)
  deriving DecidableEq, Repr

/-- The phase after an event, if the event is in order. -/
def TestPhase.next : TestPhase → Event FloatNum → Option TestPhase
  | .idle, .answered cmsg reply =>
      if (Event.answered cmsg reply).testEvent = some .accepted
      then some .accepted
      else some .idle
  | .accepted, .startedTest time => some (.running time 0 false)
  | .running start handed told, .published _ =>
      some (.running start (handed + 1) told)
  | .running start handed told, .answered cmsg reply =>
      if (Event.answered cmsg reply).testEvent = some .accepted
      then none
      else some (.running start handed
        (told || (Event.answered cmsg reply).tellsEnd))
  | .running start handed _, .stoppedTest time elapsedTime =>
      if elapsedTime = time - start ∧ 1 ≤ elapsedTime
      then some (.ended start time handed)
      else none
  | .ended start stop handed, .answered cmsg reply =>
      if (Event.answered cmsg reply).testEvent = some .accepted
      then some .accepted
      else some (.ended start stop handed)
  | _, _ => none

/-- The phase after the given events, if all of them are in order. -/
def phaseAfter (trace : List (Event FloatNum)) : Option TestPhase :=
  trace.foldlM TestPhase.next .idle

theorem phaseAfter_concat (trace : List (Event FloatNum))
    (event : Event FloatNum) :
    phaseAfter (trace ++ [event]) =
      (phaseAfter trace).bind fun phase => phase.next event := by
  simp [phaseAfter, List.foldlM_append]

/-- The test events of the test that is not complete yet. -/
def TestPhase.pending : TestPhase → List TestEvent
  | .idle | .ended _ _ _ => []
  | .accepted => [.accepted]
  | .running _ _ _ => [.accepted, .started]

theorem completeTests_succ (count : ℕ) :
    completeTests (count + 1) =
      completeTests count ++ [.accepted, .started, .stopped] := by
  simp [completeTests, List.replicate_succ']

/-- One event in order adds its test event to the test that is not complete, or
completes it. -/
theorem TestPhase.next_pending {phase later : TestPhase}
    {event : Event FloatNum} (isNext : phase.next event = some later) :
    phase.pending ++ event.testEvent.toList = later.pending ∨
      phase.pending ++ event.testEvent.toList =
          [.accepted, .started, .stopped] ∧ later.pending = [] := by
  unfold TestPhase.next at isNext
  split at isNext
  case h_2 | h_3 =>
    simp only [Option.some.injEq] at isNext
    simp [← isNext, Event.testEvent, TestPhase.pending]
  case h_4 cmsg reply =>
    rcases Event.testEvent_answered cmsg reply with accepts | neutral
    · simp [accepts] at isNext
    · simp only [neutral, reduceCtorEq, if_false, Option.some.injEq] at isNext
      simp [← isNext, neutral, TestPhase.pending]
  case h_5 =>
    split at isNext
    · simp only [Option.some.injEq] at isNext
      simp [← isNext, Event.testEvent, TestPhase.pending]
    · simp at isNext
  case h_1 cmsg reply | h_6 _ _ _ cmsg reply =>
    rcases Event.testEvent_answered cmsg reply with accepts | neutral
    · simp only [accepts, if_true, Option.some.injEq] at isNext
      simp [← isNext, accepts, TestPhase.pending]
    · simp only [neutral, reduceCtorEq, if_false, Option.some.injEq] at isNext
      simp [← isNext, neutral, TestPhase.pending]
  case h_7 => simp at isNext

/-- Events in order consist of complete tests and what has happened in the
current phase. -/
theorem testEvents_of_phaseAfter {trace : List (Event FloatNum)}
    {phase : TestPhase} (inOrder : phaseAfter trace = some phase) :
    ∃ count, testEvents trace = completeTests count ++ phase.pending := by
  induction trace using List.reverseRecOn generalizing phase with
  | nil =>
      obtain rfl : TestPhase.idle = phase := by simpa [phaseAfter] using inOrder
      exact ⟨0, rfl⟩
  | append_singleton trace event ih =>
      rw [phaseAfter_concat, Option.bind_eq_some_iff] at inOrder
      obtain ⟨before, beforeInOrder, isNext⟩ := inOrder
      obtain ⟨count, eventsBefore⟩ := ih beforeInOrder
      have eventsAfter : testEvents (trace ++ [event]) =
          completeTests count ++ (before.pending ++ event.testEvent.toList) := by
        rw [testEvents_concat, eventsBefore, List.append_assoc]
      rcases TestPhase.next_pending isNext with goesOn | ⟨completes, noneLeft⟩
      · exact ⟨count, by rw [eventsAfter, goesOn]⟩
      · refine ⟨count + 1, ?_⟩
        rw [eventsAfter, completes, noneLeft, completeTests_succ,
          List.append_nil]

/-- Events in order are the beginning of complete tests. -/
theorem testEvents_prefix_of_phaseAfter {trace : List (Event FloatNum)}
    {phase : TestPhase} (inOrder : phaseAfter trace = some phase) :
    ∃ count, testEvents trace <+: completeTests count := by
  obtain ⟨count, events⟩ := testEvents_of_phaseAfter inOrder
  have pendingPrefix :
      phase.pending <+: [TestEvent.accepted, .started, .stopped] := by
    cases phase <;> simp [TestPhase.pending]
  refine ⟨count + 1, ?_⟩
  rw [events, completeTests_succ]
  exact (List.prefix_append_right_inj _).mpr pendingPrefix

/-- After events in order, a test that was accepted last is in the phase
`accepted`. -/
theorem phase_eq_accepted_of_getLast {trace : List (Event FloatNum)}
    {phase : TestPhase} (inOrder : phaseAfter trace = some phase)
    (lastAccepted : (testEvents trace).getLast? = some .accepted) :
    phase = .accepted := by
  obtain ⟨count, events⟩ := testEvents_of_phaseAfter inOrder
  rw [events] at lastAccepted
  cases phase with
  | accepted => rfl
  | running start handed told => simp [TestPhase.pending] at lastAccepted
  | idle | ended =>
      cases count with
      | zero => simp [completeTests, TestPhase.pending] at lastAccepted
      | succ count =>
          simp [completeTests_succ, TestPhase.pending] at lastAccepted

/-- A test that is accepted in order is in the phase `accepted`. -/
theorem TestPhase.eq_accepted_of_next {phase later : TestPhase}
    {event : Event FloatNum} (isNext : phase.next event = some later)
    (isAccepted : event.testEvent = some .accepted) : later = .accepted := by
  unfold TestPhase.next at isNext
  split at isNext
  case h_1 | h_6 =>
    rw [if_pos isAccepted, Option.some.injEq] at isNext
    exact isNext.symm
  case h_4 => simp [isAccepted] at isNext
  case h_2 | h_3 | h_5 => simp [Event.testEvent] at isAccepted
  case h_7 => simp at isNext

/-- Every divisor in events in order is at least one. -/
theorem one_le_elapsedTime_of_phaseAfter {trace : List (Event FloatNum)}
    {phase : TestPhase} (inOrder : phaseAfter trace = some phase)
    {time elapsedTime : UInt64}
    (isStopped : .stoppedTest time elapsedTime ∈ trace) : 1 ≤ elapsedTime := by
  induction trace using List.reverseRecOn generalizing phase with
  | nil => simp at isStopped
  | append_singleton trace event ih =>
      rw [phaseAfter_concat, Option.bind_eq_some_iff] at inOrder
      obtain ⟨before, beforeInOrder, isNext⟩ := inOrder
      rcases List.mem_append.mp isStopped with earlier | isLast
      · exact ih beforeInOrder earlier
      · obtain rfl := List.mem_singleton.mp isLast
        cases before with
        | running start handed told =>
            simp only [TestPhase.next, Option.ite_none_right_eq_some] at isNext
            exact isNext.1.2
        | idle | accepted | ended => simp [TestPhase.next] at isNext

/-! ### The events of the last accepted test -/

/-- What a phase says about the events since a test was accepted. -/
def TestPhase.Describes (since : List (Event FloatNum)) : TestPhase → Prop
  | .idle => False
  | .accepted =>
      handedOver since = 0 ∧ ∀ event ∈ since, event.tellsEnd = false
  | .running start handed told =>
      .startedTest start ∈ since ∧ handedOver since = handed ∧
        (told = false → ∀ event ∈ since, event.tellsEnd = false)
  | .ended start stop handed =>
      .startedTest start ∈ since ∧
        .stoppedTest stop (stop - start) ∈ since ∧ handedOver since = handed

theorem handedOver_concat (trace : List (Event FloatNum))
    (event : Event FloatNum) :
    handedOver (trace ++ [event]) =
      handedOver trace + if event.isPublished then 1 else 0 := by
  simp [handedOver, List.countP_append, List.countP_singleton]

/-- One event in order keeps the description of the events since a test was
accepted. -/
theorem TestPhase.Describes.next {since : List (Event FloatNum)}
    {phase later : TestPhase} {event : Event FloatNum}
    (describes : phase.Describes since) (isNext : phase.next event = some later)
    (notAccepted : event.testEvent ≠ some .accepted) :
    later.Describes (since ++ [event]) := by
  unfold TestPhase.next at isNext
  split at isNext
  case h_1 => exact describes.elim
  case h_2 time =>
    obtain ⟨noneHanded, notTold⟩ := describes
    obtain rfl := Option.some.inj isNext
    refine ⟨by simp, by simp [handedOver_concat, noneHanded, Event.isPublished],
      fun _ => ?_⟩
    simpa [Event.tellsEnd, or_imp, forall_and] using notTold
  case h_3 start handed told message =>
    obtain ⟨isStarted, sameCount, notTold⟩ := describes
    obtain rfl := Option.some.inj isNext
    refine ⟨by simp [isStarted],
      by simp [handedOver_concat, sameCount, Event.isPublished],
      fun untold => ?_⟩
    simpa [Event.tellsEnd, or_imp, forall_and] using notTold untold
  case h_4 start handed told cmsg reply =>
    obtain ⟨isStarted, sameCount, notTold⟩ := describes
    rw [if_neg notAccepted, Option.some.injEq] at isNext
    obtain rfl := isNext
    refine ⟨by simp [isStarted],
      by simp [handedOver_concat, sameCount, Event.isPublished],
      fun untold => ?_⟩
    rw [Bool.or_eq_false_iff] at untold
    simpa [or_imp, forall_and, untold.2] using notTold untold.1
  case h_5 start handed told time elapsedTime =>
    obtain ⟨isStarted, sameCount, _⟩ := describes
    rw [Option.ite_none_right_eq_some] at isNext
    obtain ⟨⟨elapsedEq, _⟩, laterEq⟩ := isNext
    obtain rfl := Option.some.inj laterEq
    exact ⟨by simp [isStarted], by simp [elapsedEq],
      by simp [handedOver_concat, sameCount, Event.isPublished]⟩
  case h_6 start stop handed cmsg reply =>
    obtain ⟨isStarted, isStopped, sameCount⟩ := describes
    rw [if_neg notAccepted, Option.some.injEq] at isNext
    obtain rfl := isNext
    exact ⟨by simp [isStarted], by simp [isStopped],
      by simp [handedOver_concat, sameCount, Event.isPublished]⟩
  case h_7 => simp at isNext

/-- The phase after events in order describes the events since the last
accepted test. -/
theorem describes_of_phaseAfter {before since : List (Event FloatNum)}
    {start : Event FloatNum} {phase : TestPhase}
    (inOrder : phaseAfter (before ++ start :: since) = some phase)
    (isAccepted : start.testEvent = some .accepted)
    (isLast : ∀ event ∈ since, event.testEvent ≠ some .accepted) :
    phase.Describes since := by
  induction since using List.reverseRecOn generalizing phase with
  | nil =>
      rw [phaseAfter_concat, Option.bind_eq_some_iff] at inOrder
      obtain ⟨phaseBefore, _, isNext⟩ := inOrder
      rw [TestPhase.eq_accepted_of_next isNext isAccepted]
      exact ⟨rfl, by simp⟩
  | append_singleton since event ih =>
      rw [← List.cons_append, ← List.append_assoc, phaseAfter_concat,
        Option.bind_eq_some_iff] at inOrder
      obtain ⟨phaseBefore, beforeInOrder, isNext⟩ := inOrder
      have describes := ih beforeInOrder fun event member =>
        isLast event (List.mem_append_left _ member)
      exact describes.next isNext (isLast event (by simp))

end ZmqPub

end MScale
