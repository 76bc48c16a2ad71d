import MScale.Subscribers

/-!
# When a subscriber can tell its rate

The rate is the number of messages since the last reset, divided by the time
between the first and the last of them.  The two ZMQ subscribers divide without
looking: the Python program starts from times one second apart, but after a
message both readings may be equal, and the C++ program starts from equal
times.  Only the RabbitMQ subscriber looks at the duration first.
-/

namespace MScale

open HDZmqpRepSrv (Usage)

/-! ### Messages since the last reset -/

section Messages

variable {Time : Type}

/-- One more event for a counter that wraps at `wrap`, or never if that is
zero: a reset starts anew, and so does the message after the counter
wrapped. -/
def countEvent (wrap : Nat) (messages : List (Readings Time)) :
    SubEvent Time → List (Readings Time)
  | .resetstats _ => []
  | .arrival readings =>
      if messages.length = wrap then [readings] else messages ++ [readings]
  | .getstats _ | .updateconfig _ _ => messages

/-- The messages that the counter has counted after the given events. -/
def countedMessages (wrap : Nat) (events : List (SubEvent Time)) :
    List (Readings Time) :=
  events.foldl (countEvent wrap) []

/-- There was a message, and the clock read differently at the first one and
at the last one. -/
def Apart (messages : List (Readings Time)) : Prop :=
  messages.head?.map Readings.first ≠ messages.getLast?.map Readings.last

instance [DecidableEq Time] (messages : List (Readings Time)) :
    Decidable (Apart messages) :=
  inferInstanceAs (Decidable (_ ≠ _))

/-- Something holds whenever `getstats` is handled in the course of the
events. -/
def EveryGetstats (holds : List (SubEvent Time) → Usage → Prop)
    (events : List (SubEvent Time)) : Prop :=
  ∀ earlier usage later, events = earlier ++ .getstats usage :: later →
    holds earlier usage

theorem EveryGetstats.congr {first second : List (SubEvent Time) → Usage → Prop}
    (same : ∀ earlier usage, first earlier usage ↔ second earlier usage)
    (events : List (SubEvent Time)) :
    EveryGetstats first events ↔ EveryGetstats second events := by
  constructor
  · intro holds earlier usage later split
    exact (same earlier usage).mp (holds earlier usage later split)
  · intro holds earlier usage later split
    exact (same earlier usage).mpr (holds earlier usage later split)

end Messages

/-! ### The Python ZMQ subscriber -/

namespace HDZmqsRepSrv

variable {hd : HDZmqsRepSrv} {messages : List (Readings ℚ)}

/-- The counter and the two times belong to the counted messages. -/
structure Tracks (messages : List (Readings ℚ)) (hd : HDZmqsRepSrv) :
    Prop where
  msgCnt : hd.msgCnt = messages.length
  first : hd.firstMsgTimeR =
    (messages.head?.map (PyNumber.float ∘ Readings.first)).getD (.int 0)
  last : hd.lastMsgTimeR =
    (messages.getLast?.map (PyNumber.float ∘ Readings.last)).getD (.int 1)

theorem tracks_resetStats (usage : Usage) (hd : HDZmqsRepSrv) :
    Tracks [] (hd.resetStats usage) :=
  ⟨rfl, rfl, rfl⟩

theorem Tracks.getStats (tracks : Tracks messages hd) (usage : Usage) :
    Tracks messages (hd.getStats usage).2 := by
  rw [HDZmqsRepSrv.getStats]
  cases divide hd.msgCnt (hd.lastMsgTimeR - hd.firstMsgTimeR) with
  | error error => exact ⟨tracks.msgCnt, tracks.first, tracks.last⟩
  | ok rate => exact ⟨tracks.msgCnt, tracks.first, tracks.last⟩

section Receive

variable (readings : Readings ℚ) (hd : HDZmqsRepSrv)

theorem receive_msgCnt : (hd.receive readings).msgCnt = hd.msgCnt + 1 := by
  simp only [receive]
  split_ifs <;> rfl

theorem receive_firstMsgTimeR :
    (hd.receive readings).firstMsgTimeR =
      if hd.msgCnt = 0 then .float readings.first else hd.firstMsgTimeR := by
  simp only [receive]
  split_ifs <;> rfl

theorem receive_lastMsgTimeR :
    (hd.receive readings).lastMsgTimeR = .float readings.last := by
  simp only [receive]
  split_ifs <;> rfl

end Receive

theorem Tracks.receive (tracks : Tracks messages hd) (readings : Readings ℚ) :
    Tracks (messages ++ [readings]) (hd.receive readings) where
  msgCnt := by
    rw [receive_msgCnt, tracks.msgCnt, List.length_append,
      List.length_singleton]
  first := by
    rw [receive_firstMsgTimeR, tracks.msgCnt, tracks.first]
    cases messages with
    | nil => rfl
    | cons message messages => rfl
  last := by
    rw [receive_lastMsgTimeR, List.getLast?_concat]
    rfl

theorem Tracks.handle (tracks : Tracks messages hd) (event : SubEvent ℚ) :
    Tracks (countEvent 0 messages event) (hd.handle event) := by
  cases event with
  | resetstats usage => exact tracks_resetStats usage hd
  | getstats usage => exact tracks.getStats usage
  | updateconfig recvRate reconnectRate =>
      exact ⟨tracks.msgCnt, tracks.first, tracks.last⟩
  | arrival readings =>
      have counted : countEvent 0 messages (.arrival readings) =
          messages ++ [readings] := by
        rw [countEvent]
        split_ifs with none
        · rw [List.length_eq_zero_iff.mp none, List.nil_append]
        · rfl
      rw [counted]
      exact tracks.receive readings

theorem run_tracks (usage : Usage) (events : List (SubEvent ℚ)) :
    Tracks (countedMessages 0 events) (run usage events) :=
  List.foldl_rel (tracks_resetStats usage _)
    fun event _ _ _ tracks => tracks.handle event

/-- `get_stats` returns unless it divides by zero. -/
theorem answersRate_iff_value_ne (usage : Usage) (hd : HDZmqsRepSrv) :
    AnswersRate usage hd ↔
      (hd.lastMsgTimeR - hd.firstMsgTimeR).value ≠ 0 := by
  constructor
  · rintro ⟨stats, rate, answered, _⟩ zero
    rw [getStats, divide_of_eq zero] at answered
    cases answered
  · intro nonzero
    rw [AnswersRate, getStats, divide_of_ne nonzero]
    exact ⟨_, _, rfl, AList.lookup_insert _⟩

/-- `getstats` divides by a zero duration exactly if there was a message and
the two times are equal. -/
theorem Tracks.answersRate_iff (tracks : Tracks messages hd) (usage : Usage) :
    AnswersRate usage hd ↔ messages = [] ∨ Apart messages := by
  rw [answersRate_iff_value_ne, PyNumber.value_sub, sub_ne_zero, tracks.first,
    tracks.last]
  cases messages with
  | nil => exact iff_of_true (by decide) (.inl rfl)
  | cons message messages =>
      rw [Apart, List.head?_cons, List.getLast?_cons]
      simp only [Option.map_some, Option.getD_some, ne_eq, Option.some.injEq,
        reduceCtorEq, false_or]
      exact ne_comm

end HDZmqsRepSrv

/-! ### The C++ ZMQ subscriber -/

namespace ZmqSub

open ZmqPub (StatMap)

variable {tctrl : TestControl} {messages : List (Readings UInt64)}

/-- The counter and the two times belong to the counted messages, and the
statistics have no other rate than the one that `getstats` computes. -/
structure Tracks (messages : List (Readings UInt64)) (tctrl : TestControl) :
    Prop where
  bounded : messages.length ≤ 2 ^ 64
  msgCnt : tctrl.msgCnt = UInt64.ofNat messages.length
  first : (tctrl.intStats.lookup "first_msg_time").getD 0 =
    (messages.head?.map Readings.first).getD 0
  last : (tctrl.intStats.lookup "last_msg_time").getD 0 =
    (messages.getLast?.map Readings.last).getD 0
  intKeys : ∀ stat ∈ tctrl.intStats, stat.1 ≠ "rate"
  floatStats : tctrl.floatStats = [] ∨ ∃ rate, tctrl.floatStats = [("rate", rate)]

theorem tracks_initial : Tracks [] {} where
  bounded := Nat.zero_le _
  msgCnt := rfl
  first := rfl
  last := rfl
  intKeys := fun _ member => absurd member List.not_mem_nil
  floatStats := .inl rfl

theorem Tracks.resetStats (tracks : Tracks messages tctrl) :
    Tracks [] tctrl.resetStats where
  bounded := Nat.zero_le _
  msgCnt := rfl
  first := by
    rw [TestControl.resetStats, StatMap.lookup_assign_of_ne (by decide),
      StatMap.lookup_assign]
    rfl
  last := by
    rw [TestControl.resetStats, StatMap.lookup_assign]
    rfl
  intKeys := StatMap.assign_lacks
    (StatMap.assign_lacks tracks.intKeys (by decide) 0) (by decide) 0
  floatStats := tracks.floatStats

theorem Tracks.getStats (tracks : Tracks messages tctrl) :
    Tracks messages tctrl.getStats where
  bounded := tracks.bounded
  msgCnt := tracks.msgCnt
  first := by
    rw [TestControl.getStats, StatMap.lookup_assign_of_ne (by decide),
      StatMap.getD_lookup_subscript, StatMap.getD_lookup_subscript]
    exact tracks.first
  last := by
    rw [TestControl.getStats, StatMap.lookup_assign_of_ne (by decide),
      StatMap.getD_lookup_subscript, StatMap.getD_lookup_subscript]
    exact tracks.last
  intKeys := by
    have afterLast := StatMap.subscript_lacks tracks.intKeys
      (by decide : "last_msg_time" ≠ "rate")
    have afterFirst := StatMap.subscript_lacks afterLast
      (by decide : "first_msg_time" ≠ "rate")
    exact StatMap.assign_lacks afterFirst (by decide) _
  floatStats := by
    right
    rcases tracks.floatStats with none | ⟨rate, earlier⟩
    · exact ⟨_, by rw [TestControl.getStats, none]; rfl⟩
    · exact ⟨_, by rw [TestControl.getStats, earlier]; rfl⟩

/-- The counter is zero before the first message and after it wrapped. -/
theorem Tracks.msgCnt_eq_zero_iff (tracks : Tracks messages tctrl) :
    tctrl.msgCnt = 0 ↔ messages = [] ∨ messages.length = 2 ^ 64 := by
  have bounded := tracks.bounded
  rw [tracks.msgCnt, ← UInt64.toNat_inj, UInt64.toNat_ofNat',
    ← List.length_eq_zero_iff]
  change messages.length % 2 ^ 64 = 0 ↔ _
  omega

theorem Tracks.receive_intKeys (tracks : Tracks messages tctrl)
    (readings : Readings UInt64) :
    ∀ stat ∈ (ZmqSub.receive readings tctrl).intStats, stat.1 ≠ "rate" := by
  rw [ZmqSub.receive]
  split_ifs with starts
  · exact StatMap.assign_lacks
      (StatMap.assign_lacks tracks.intKeys (by decide) _) (by decide) _
  · exact StatMap.assign_lacks tracks.intKeys (by decide) _

/-- With the counter at zero a message is the first one. -/
theorem Tracks.receive_first (tracks : Tracks messages tctrl)
    (starts : tctrl.msgCnt = 0) (readings : Readings UInt64) :
    Tracks [readings] (ZmqSub.receive readings tctrl) where
  bounded := by
    rw [List.length_singleton]
    decide
  msgCnt := by
    rw [ZmqSub.receive, starts]
    rfl
  first := by
    rw [ZmqSub.receive, if_pos starts,
      StatMap.lookup_assign_of_ne (by decide), StatMap.lookup_assign]
    rfl
  last := by
    rw [ZmqSub.receive, StatMap.lookup_assign]
    rfl
  intKeys := tracks.receive_intKeys readings
  floatStats := tracks.floatStats

theorem Tracks.receive_later (tracks : Tracks messages tctrl)
    (counting : tctrl.msgCnt ≠ 0) (unwrapped : messages.length ≠ 2 ^ 64)
    (readings : Readings UInt64) :
    Tracks (messages ++ [readings]) (ZmqSub.receive readings tctrl) where
  bounded := by
    have bounded := tracks.bounded
    rw [List.length_append, List.length_singleton]
    omega
  msgCnt := by
    rw [ZmqSub.receive, tracks.msgCnt, List.length_append,
      List.length_singleton, UInt64.ofNat_add]
    rfl
  first := by
    rw [ZmqSub.receive, if_neg counting,
      StatMap.lookup_assign_of_ne (by decide), tracks.first]
    cases messages with
    | nil => exact absurd tracks.msgCnt counting
    | cons message messages => rfl
  last := by
    rw [ZmqSub.receive, StatMap.lookup_assign, List.getLast?_concat]
    rfl
  intKeys := tracks.receive_intKeys readings
  floatStats := tracks.floatStats

theorem Tracks.handle (tracks : Tracks messages tctrl)
    (event : SubEvent UInt64) :
    Tracks (countEvent (2 ^ 64) messages event) (ZmqSub.handle tctrl event) := by
  cases event with
  | resetstats usage => exact tracks.resetStats
  | getstats usage => exact tracks.getStats
  | updateconfig recvRate reconnectRate => exact tracks
  | arrival readings =>
      rw [countEvent]
      by_cases starts : tctrl.msgCnt = 0
      · have counted : (if messages.length = 2 ^ 64 then [readings]
            else messages ++ [readings]) = [readings] := by
          rcases tracks.msgCnt_eq_zero_iff.mp starts with rfl | wrapped
          · rfl
          · rw [if_pos wrapped]
        rw [counted]
        exact tracks.receive_first starts readings
      · have unwrapped : messages.length ≠ 2 ^ 64 := fun wrapped =>
          starts (tracks.msgCnt_eq_zero_iff.mpr (.inr wrapped))
        rw [if_neg unwrapped]
        exact tracks.receive_later starts unwrapped readings

theorem run_tracks (events : List (SubEvent UInt64)) :
    Tracks (countedMessages (2 ^ 64) events) (run events) :=
  List.foldl_rel tracks_initial fun event _ _ _ tracks => tracks.handle event

theorem CFloat.quotient_finite_iff (dividend divisor : ℚ) :
    (∃ rate, CFloat.quotient dividend divisor = .finite rate) ↔
      divisor ≠ 0 := by
  rw [CFloat.quotient]
  split_ifs with nonzero nothing
  · exact iff_of_true ⟨_, rfl⟩ nonzero
  · exact iff_of_false (by rintro ⟨rate, same⟩; cases same) nonzero
  · exact iff_of_false (by rintro ⟨rate, same⟩; cases same) nonzero

/-- The rate that `getstats` reports. -/
theorem Tracks.getStats_floatStats (tracks : Tracks messages tctrl) :
    tctrl.getStats.floatStats =
      [("rate", CFloat.quotient tctrl.msgCnt.toNat
        ((messages.getLast?.map Readings.last).getD 0 -
          (messages.head?.map Readings.first).getD 0).toNat)] := by
  rw [TestControl.getStats, StatMap.subscript_fst, StatMap.subscript_fst,
    StatMap.getD_lookup_subscript, tracks.first, tracks.last]
  rcases tracks.floatStats with none | ⟨rate, earlier⟩
  · rw [none]
    rfl
  · rw [earlier]
    rfl

/-- The answer has one rate, and it may be finite or not. -/
theorem Tracks.answersRate_iff_finite (tracks : Tracks messages tctrl)
    {computed : CFloat}
    (reported : tctrl.getStats.floatStats = [("rate", computed)]) :
    AnswersRate tctrl ↔ ∃ rate, computed = .finite rate := by
  have reply : (processMessage (commandMessage "getstats") tctrl).2 =
      ⟨"ok", tctrl.getStats.stats⟩ := rfl
  rw [AnswersRate, reply, TestControl.stats, reported]
  constructor
  · rintro ⟨-, -, finite⟩
    obtain ⟨rate, same⟩ := finite { name := "rate", floatValue := some computed }
      (List.mem_append_right _ (List.mem_singleton.mpr rfl)) rfl
    exact ⟨rate, Option.some.inj same⟩
  · rintro ⟨rate, rfl⟩
    refine ⟨rfl, ⟨_, List.mem_append_right _ (List.mem_singleton.mpr rfl), rfl⟩,
      ?_⟩
    intro entry member named
    rcases List.mem_append.mp member with isInt | isFloat
    · obtain ⟨stat, listed, rfl⟩ := List.mem_map.mp isInt
      exact absurd named (tracks.getStats.intKeys stat listed)
    · rw [List.map_singleton, List.mem_singleton] at isFloat
      exact ⟨rate, by rw [isFloat]⟩

/-- `getstats` divides by the difference of the two times. -/
theorem Tracks.answersRate_iff (tracks : Tracks messages tctrl) :
    AnswersRate tctrl ↔ Apart messages := by
  rw [tracks.answersRate_iff_finite tracks.getStats_floatStats,
    CFloat.quotient_finite_iff, Nat.cast_ne_zero]
  cases messages with
  | nil => decide
  | cons message messages =>
      rw [Apart, List.head?_cons, List.getLast?_cons]
      simp only [Option.map_some, Option.getD_some, ne_eq, Option.some.injEq]
      rw [← UInt64.toNat_zero, UInt64.toNat_inj, UInt64.sub_eq_iff_eq_add,
        UInt64.zero_add]
      exact not_congr eq_comm

end ZmqSub

/-! ### The RabbitMQ subscriber -/

/-- A duration of zero is not divided by. -/
theorem HDRmqsRepSrv.answersRate (usage : Usage) (hd : HDRmqsRepSrv) :
    AnswersRate usage hd := by
  by_cases zero : (hd.runData.lastMsgTime - hd.runData.firstMsgTime).value = 0
  · rw [AnswersRate, getStats]
    simp only [if_pos zero]
    exact ⟨_, _, rfl, rfl⟩
  · rw [AnswersRate, getStats]
    simp only [if_neg zero, divide_of_ne zero]
    exact ⟨_, _, rfl, rfl⟩

/-! ### All three -/

/-- The three programs. -/
inductive Subscriber
  | zmqPython
  | zmqCpp
  | rmqPython
  deriving DecidableEq, Repr

namespace Subscriber

/-- What the program reads from the clock. -/
abbrev Time : Subscriber → Type
  | .zmqPython => ℚ
  | .zmqCpp => UInt64
  | .rmqPython => ℚ

/-- After the given events, counted from the initial reset of a Python program
and from the start of the C++ program, `getstats` is answered `ok` with a finite
rate. -/
def AnswersRate (usage : Usage) :
    (program : Subscriber) → List (SubEvent program.Time) → Usage → Prop
  | .zmqPython, earlier, asked =>
      HDZmqsRepSrv.AnswersRate asked (HDZmqsRepSrv.run usage earlier)
  | .zmqCpp, earlier, _ => ZmqSub.AnswersRate (ZmqSub.run earlier)
  | .rmqPython, earlier, asked =>
      HDRmqsRepSrv.AnswersRate asked (HDRmqsRepSrv.run usage earlier)

/-- The messages since the last reset give the program no duration of zero to
divide by. -/
def HasDuration :
    (program : Subscriber) → List (SubEvent program.Time) → Prop
  | .zmqPython, earlier =>
      countedMessages 0 earlier = [] ∨ Apart (countedMessages 0 earlier)
  | .zmqCpp, earlier => Apart (countedMessages (2 ^ 64) earlier)
  | .rmqPython, _ => True

/-- In any order of events every `getstats` is answered with a rate exactly if,
at each of them, the Python ZMQ subscriber got no message since the last reset
or its first and last one at different times, and the C++ one did get messages
at different times; the RabbitMQ subscriber needs nothing. -/
theorem everyGetstats_answersRate_iff (program : Subscriber) (usage : Usage)
    (events : List (SubEvent program.Time)) :
    EveryGetstats (program.AnswersRate usage) events ↔
      EveryGetstats (fun earlier _ => program.HasDuration earlier) events := by
  apply EveryGetstats.congr
  intro earlier asked
  cases program with
  | zmqPython =>
      exact (HDZmqsRepSrv.run_tracks usage earlier).answersRate_iff asked
  | zmqCpp => exact (ZmqSub.run_tracks earlier).answersRate_iff
  | rmqPython =>
      exact iff_of_true (HDRmqsRepSrv.answersRate asked _) trivial

/-- The readings of the clock never go back. -/
def NonDecreasing {Time : Type} [LE Time] (events : List (SubEvent Time)) :
    Prop :=
  (events.flatMap fun event =>
    match event with
    | .arrival readings => [readings.first, readings.last, readings.reconnect]
    | _ => []).Pairwise (· ≤ ·)

instance (program : Subscriber) : LE program.Time :=
  match program with
  | .zmqPython => inferInstanceAs (LE ℚ)
  | .zmqCpp => inferInstanceAs (LE UInt64)
  | .rmqPython => inferInstanceAs (LE ℚ)

def noUsage : Usage := ⟨"", "", ""⟩

/-- One message, during which the clock does not advance, and a question. -/
def oneMessage : List (SubEvent ℚ) :=
  [.arrival ⟨1, 1, 1⟩, .getstats noUsage]

theorem oneMessage_no_rate :
    ¬ ∀ (program : Subscriber) (usage : Usage)
        (events : List (SubEvent program.Time)), NonDecreasing events →
      EveryGetstats (program.AnswersRate usage) events := by
  intro answersAll
  have clocked : NonDecreasing oneMessage := by
    rw [NonDecreasing]
    decide
  have answers := answersAll .zmqPython noUsage oneMessage clocked
    [.arrival ⟨1, 1, 1⟩] noUsage [] rfl
  have tracked := HDZmqsRepSrv.run_tracks noUsage [.arrival ⟨1, 1, 1⟩]
  exact absurd ((tracked.answersRate_iff noUsage).mp answers) (by decide)

end Subscriber

end MScale
