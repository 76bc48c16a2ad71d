import MScale.HydraWire
import MScale.ZmqPubTests

/-!
# Batches of the C++ publisher

The loop that sends counts its iterations in a 32-bit variable.  It is left for
a poll when the counter is one below the batch size, and it tests the duration
when the counter reaches the batch size.  This file bounds the iterations
between two polls and between two tests of the duration, and shows that the
bounds need a batch of at least two messages.
-/

namespace MScale

namespace ZmqPub

variable {FloatNum : Type}

/-! ### Iterations -/

/-- How often the loop that sends was iterated: since it was last entered,
since the duration was last tested or the test was started, and since the
duration has passed without ending the test. -/
structure Iterations where
  sinceEntry : Nat := 0
  sinceTest : Nat := 0
  overdue : Nat := 0
  deriving DecidableEq, Repr

/-- The next iteration tests the duration. -/
def testsDuration (loop : MainLoop FloatNum) : Prop :=
  loop.cnt + 1 ≥ loop.tctrl.msgBatch - 1 ∧
    loop.cnt + 1 ≠ loop.tctrl.msgBatch - 1 ∧
    loop.cnt + 1 ≥ loop.tctrl.msgBatch

instance (loop : MainLoop FloatNum) : Decidable (testsDuration loop) :=
  inferInstanceAs (Decidable (_ ∧ _ ∧ _))

/-- The test has lasted longer than it was asked to. -/
def durationPassed (loop : MainLoop FloatNum) : Prop :=
  (loop.clock - loop.startTime).toInt64 >
    loop.tctrl.testDuration.toUInt64.toInt64

instance (loop : MainLoop FloatNum) : Decidable (durationPassed loop) :=
  inferInstanceAs (Decidable (_ < _))

/-- The counts after one more move. -/
def Iterations.after (count : Iterations) (loop : MainLoop FloatNum) :
    Move → Iterations
  | .tick _ => count
  | .execute _ =>
      match loop.point with
      | .checkFlags =>
          if !loop.tctrl.publishing && loop.tctrl.startPublishing then {}
          else { count with sinceEntry := 0 }
      | .publish =>
          if loop.tctrl.publishing then
            { sinceEntry := count.sinceEntry + 1
              sinceTest :=
                if testsDuration loop then 0 else count.sinceTest + 1
              overdue :=
                if durationPassed loop ∧
                    (publishOnce loop).tctrl.startPublishing = true then
                  count.overdue + 1
                else 0 }
          else count
      | .poll | .returned | .aborted => count

/-- The counts after a list of moves. -/
def countIterations (protobuf : Protobuf FloatNum)
    (floatUnit : FloatUnit FloatNum) :
    MainLoop FloatNum → Iterations → List Move → Iterations
  | _, count, [] => count
  | loop, count, move :: moves =>
      countIterations protobuf floatUnit (step protobuf floatUnit loop move)
        (count.after loop move) moves

/-- A test with this batch size has just been started. -/
structure StartsTest (msgBatch : UInt32) (loop : MainLoop FloatNum) : Prop where
  publishing : loop.tctrl.publishing = true
  startPublishing : loop.tctrl.startPublishing = true
  point : loop.point = .publish
  cnt : loop.cnt = 0
  msgBatch : loop.tctrl.msgBatch = msgBatch

/-- No move changes the batch size. -/
def KeepsBatch (protobuf : Protobuf FloatNum) (floatUnit : FloatUnit FloatNum)
    (msgBatch : UInt32) (loop : MainLoop FloatNum) (moves : List Move) : Prop :=
  ∀ earlier later, moves = earlier ++ later →
    (earlier.foldl (step protobuf floatUnit) loop).tctrl.msgBatch = msgBatch

/-- The loop that sends is left for a poll after as many iterations as there
are messages in a batch, and twice as many are made at most before the duration
is tested again, or before the test ends once the duration has passed. -/
structure WithinBatch (msgBatch : UInt32) (count : Iterations) : Prop where
  sinceEntry : count.sinceEntry ≤ max msgBatch.toNat 1
  sinceTest : count.sinceTest ≤ 2 * max msgBatch.toNat 1
  overdue : count.overdue ≤ 2 * max msgBatch.toNat 1

/-- Whatever happens after the start of a test with this batch size, the counts
stay within the batch. -/
def PacesTests (msgBatch : UInt32) : Prop :=
  ∀ (FloatNum : Type) (protobuf : Protobuf FloatNum)
    (floatUnit : FloatUnit FloatNum) (uninitialized clock : UInt64)
    (before moves : List Move),
    StartsTest msgBatch (run protobuf floatUnit uninitialized clock before) →
    KeepsBatch protobuf floatUnit msgBatch
      (run protobuf floatUnit uninitialized clock before) moves →
    WithinBatch msgBatch (countIterations protobuf floatUnit
      (run protobuf floatUnit uninitialized clock before) {} moves)

/-! ### One iteration -/

variable {protobuf : Protobuf FloatNum} {floatUnit : FloatUnit FloatNum}
variable {loop : MainLoop FloatNum} {count : Iterations}

/-- The counter has not reached the end of a batch of at least two messages:
the next iteration sends, is the one before the last, or is the last. -/
inductive NextIteration (loop : MainLoop FloatNum) : Prop
  | sends (counts : (loop.cnt + 1).toNat = loop.cnt.toNat + 1)
      (early : loop.cnt.toNat + 2 < loop.tctrl.msgBatch.toNat)
      (untested : ¬ testsDuration loop)
      (next : publishOnce loop = sendMessage { loop with cnt := loop.cnt + 1 })
  | polls (counts : (loop.cnt + 1).toNat = loop.cnt.toNat + 1)
      (beforeLast : loop.cnt.toNat + 2 = loop.tctrl.msgBatch.toNat)
      (untested : ¬ testsDuration loop)
      (next : publishOnce loop =
        { loop with cnt := loop.cnt + 1, point := .poll })
  | ends (last : loop.cnt.toNat + 1 = loop.tctrl.msgBatch.toNat)
      (tested : testsDuration loop) (passed : durationPassed loop)
      (next : publishOnce loop =
        { loop with
          tctrl := { loop.tctrl with startPublishing := false }
          cnt := loop.cnt + 1
          point := .poll })
  | restarts (last : loop.cnt.toNat + 1 = loop.tctrl.msgBatch.toNat)
      (tested : testsDuration loop) (lasting : ¬ durationPassed loop)
      (next : publishOnce loop = sendMessage { loop with cnt := 0 })

theorem nextIteration (large : 2 ≤ loop.tctrl.msgBatch.toNat)
    (within : loop.cnt.toNat < loop.tctrl.msgBatch.toNat) :
    NextIteration loop := by
  have batchLt := loop.tctrl.msgBatch.toNat_lt
  have counts : (loop.cnt + 1).toNat = loop.cnt.toNat + 1 := by
    rw [UInt32.toNat_add]
    exact Nat.mod_eq_of_lt (by simp; omega)
  have pollAt : (loop.tctrl.msgBatch - 1).toNat =
      loop.tctrl.msgBatch.toNat - 1 := by
    rw [UInt32.toNat_sub_of_le]
    · rfl
    · rw [UInt32.le_iff_toNat_le]
      simp
      omega
  have reachesPoll : loop.cnt + 1 ≥ loop.tctrl.msgBatch - 1 ↔
      loop.tctrl.msgBatch.toNat ≤ loop.cnt.toNat + 2 := by
    rw [ge_iff_le, UInt32.le_iff_toNat_le, counts, pollAt]
    omega
  have atPoll : loop.cnt + 1 = loop.tctrl.msgBatch - 1 ↔
      loop.cnt.toNat + 2 = loop.tctrl.msgBatch.toNat := by
    rw [← UInt32.toNat_inj, counts, pollAt]
    omega
  have atEnd : loop.cnt + 1 ≥ loop.tctrl.msgBatch ↔
      loop.tctrl.msgBatch.toNat ≤ loop.cnt.toNat + 1 := by
    rw [ge_iff_le, UInt32.le_iff_toNat_le, counts]
  have tested_iff : testsDuration loop ↔
      loop.cnt.toNat + 1 = loop.tctrl.msgBatch.toNat := by
    rw [testsDuration, ne_eq, reachesPoll, atPoll, atEnd]
    omega
  rcases Nat.lt_trichotomy (loop.cnt.toNat + 2) loop.tctrl.msgBatch.toNat with
    early | beforeLast | late
  · refine .sends counts early (mt tested_iff.mp (by omega)) ?_
    rw [publishOnce, if_neg (mt reachesPoll.mp (by omega))]
  · refine .polls counts beforeLast (mt tested_iff.mp (by omega)) ?_
    rw [publishOnce, if_pos (reachesPoll.mpr (by omega)),
      if_pos (atPoll.mpr beforeLast)]
  · have last : loop.cnt.toNat + 1 = loop.tctrl.msgBatch.toNat := by omega
    by_cases passed : durationPassed loop
    · refine .ends last (tested_iff.mpr last) passed ?_
      rw [durationPassed] at passed
      rw [publishOnce, if_pos (reachesPoll.mpr (by omega)),
        if_neg (mt atPoll.mp (by omega)), if_pos (atEnd.mpr (by omega))]
      simp only [passed, if_true]
    · refine .restarts last (tested_iff.mpr last) passed ?_
      rw [durationPassed] at passed
      rw [publishOnce, if_pos (reachesPoll.mpr (by omega)),
        if_neg (mt atPoll.mp (by omega)), if_pos (atEnd.mpr (by omega))]
      simp only [passed, if_false]

/-! ### Every run -/

/-- The counts of a publisher whose batches have at least two messages.  While
the loop that sends is being iterated they follow the counter, which starts a
stay in that loop at the last message of a batch. -/
structure Paced (loop : MainLoop FloatNum) (count : Iterations) : Prop where
  entry : count.sinceEntry ≤ loop.tctrl.msgBatch.toNat
  test : count.sinceTest ≤ loop.tctrl.msgBatch.toNat
  overdue : count.overdue ≤ count.sinceTest
  running : loop.tctrl.publishing = true →
    loop.tctrl.startPublishing = true →
    loop.cnt.toNat < loop.tctrl.msgBatch.toNat ∧
      count.sinceTest ≤ loop.cnt.toNat
  sending : loop.tctrl.publishing = true → loop.point = .publish →
    loop.tctrl.startPublishing = true ∧
      count.sinceEntry ≤ loop.cnt.toNat + 1 ∧
      (loop.cnt.toNat + 1 = loop.tctrl.msgBatch.toNat → count.sinceEntry = 0)

theorem StartsTest.paced {msgBatch : UInt32}
    (starts : StartsTest msgBatch loop) (large : 2 ≤ msgBatch.toNat) :
    Paced loop {} where
  entry := Nat.zero_le _
  test := Nat.zero_le _
  overdue := le_rfl
  running _ _ := by
    rw [starts.cnt, starts.msgBatch]
    exact ⟨by simp; omega, Nat.zero_le _⟩
  sending _ _ := ⟨starts.startPublishing, Nat.zero_le _, fun _ => rfl⟩

/-- A move away from the loop that sends keeps the counts, when it neither
starts a test nor touches the counter. -/
theorem Paced.of_elsewhere (paced : Paced loop count)
    {later : MainLoop FloatNum}
    (cnt : later.cnt = loop.cnt)
    (msgBatch : later.tctrl.msgBatch = loop.tctrl.msgBatch)
    (flags : later.tctrl.publishing = true →
      loop.tctrl.publishing = true ∧
        (later.tctrl.startPublishing = true →
          loop.tctrl.startPublishing = true))
    (elsewhere : later.tctrl.publishing = true → later.point ≠ .publish) :
    Paced later count where
  entry := msgBatch ▸ paced.entry
  test := msgBatch ▸ paced.test
  overdue := paced.overdue
  running publishing starting := by
    rw [cnt, msgBatch]
    exact paced.running (flags publishing).1 ((flags publishing).2 starting)
  sending publishing atPublish := (elsewhere publishing atPublish).elim

/-- An answer does not start a test that runs. -/
theorem processMessage_flags {cmsg : Option (CommandMessage FloatNum)}
    {tctrl updated : TestControl FloatNum} {reply : ResponseMessage FloatNum}
    (answers : processMessage floatUnit cmsg tctrl = some (updated, reply)) :
    updated.publishing = true →
      tctrl.publishing = true ∧
        (updated.startPublishing = true → tctrl.startPublishing = true) := by
  rcases processMessage_cases answers with
    ⟨_, notPublishing, _, rfl⟩ | ⟨_, ⟨_, _, _, rfl⟩, _⟩
  · intro publishing
    simp [notPublishing] at publishing
  · exact fun publishing => ⟨publishing, id⟩

theorem Paced.pollCommand (paced : Paced loop count) (polled : PollResult)
    (kept : (pollCommand protobuf floatUnit polled loop).tctrl.msgBatch =
      loop.tctrl.msgBatch) :
    Paced (pollCommand protobuf floatUnit polled loop) count := by
  cases polled with
  | error =>
      exact paced.of_elsewhere rfl rfl (fun publishing => ⟨publishing, id⟩)
        (by simp [ZmqPub.pollCommand])
  | nothing =>
      exact paced.of_elsewhere rfl rfl (fun publishing => ⟨publishing, id⟩)
        (by simp [ZmqPub.pollCommand])
  | message msg =>
      cases answers : processMessage floatUnit (protobuf.parseCommand msg)
          loop.tctrl with
      | none =>
          simp only [ZmqPub.pollCommand, answers]
          exact paced.of_elsewhere rfl rfl
            (fun publishing => ⟨publishing, id⟩) (by simp)
      | some answer =>
          obtain ⟨updated, reply⟩ := answer
          simp only [ZmqPub.pollCommand, answers] at kept ⊢
          exact paced.of_elsewhere rfl kept (processMessage_flags answers)
            (by simp)

theorem Paced.checkFlags (paced : Paced loop count)
    (large : 2 ≤ loop.tctrl.msgBatch.toNat)
    (atCheck : loop.point = .checkFlags) (polled : PollResult) :
    Paced (checkFlags floatUnit loop) (count.after loop (.execute polled)) := by
  simp only [Iterations.after, atCheck, ZmqPub.checkFlags]
  by_cases starts :
      (!loop.tctrl.publishing && loop.tctrl.startPublishing) = true
  · simp only [starts, if_true]
    have started : StartsTest loop.tctrl.msgBatch
        { loop with
          tctrl := { loop.tctrl with publishing := true }.startTest loop.clock
          startTime := loop.clock
          cnt := 0
          point := .publish
          trace := loop.trace ++ [.startedTest loop.clock] } :=
      ⟨rfl, (Bool.and_eq_true_iff.mp starts).2, rfl, rfl, rfl⟩
    exact started.paced large
  · simp only [starts]
    by_cases stops :
        (loop.tctrl.publishing && !loop.tctrl.startPublishing) = true
    · simp only [stops, if_true]
      exact ⟨Nat.zero_le _, paced.test, paced.overdue,
        fun publishing => (Bool.false_ne_true publishing).elim,
        fun publishing => (Bool.false_ne_true publishing).elim⟩
    · simp only [stops]
      refine ⟨Nat.zero_le _, paced.test, paced.overdue, paced.running,
        fun publishing _ => ⟨?_, Nat.zero_le _, fun _ => rfl⟩⟩
      have publishing' : loop.tctrl.publishing = true := publishing
      simpa [publishing'] using stops

private theorem overdue_le {overdue sinceTest : Nat} (isOverdue : Prop)
    [Decidable isOverdue] (le : overdue ≤ sinceTest) :
    (if isOverdue then overdue + 1 else 0) ≤ sinceTest + 1 := by
  split <;> omega

/-- An iteration of the loop that sends. -/
theorem Paced.publishOnce (paced : Paced loop count)
    (large : 2 ≤ loop.tctrl.msgBatch.toNat)
    (publishing : loop.tctrl.publishing = true)
    (atPublish : loop.point = .publish) (polled : PollResult) :
    Paced (publishOnce loop) (count.after loop (.execute polled)) := by
  obtain ⟨starting, entered, entersLast⟩ := paced.sending publishing atPublish
  obtain ⟨within, tested⟩ := paced.running publishing starting
  simp only [Iterations.after, atPublish, publishing, if_true]
  cases nextIteration large within with
  | sends counts early untested next =>
      rw [next, if_neg untested]
      refine ⟨?_, ?_, overdue_le _ paced.overdue, fun _ _ => ⟨?_, ?_⟩,
        fun _ _ => ⟨starting, ?_, fun last => ?_⟩⟩ <;>
          simp only [sendMessage, counts] at * <;> omega
  | polls counts beforeLast untested next =>
      rw [next, if_neg untested]
      refine ⟨?_, ?_, overdue_le _ paced.overdue, fun _ _ => ⟨?_, ?_⟩,
        fun _ atPublish => by cases atPublish⟩ <;>
          simp only [counts] <;> omega
  | ends last isTested passed next =>
      -- The counter is at the last message, so this stay has just begun.
      rw [next, if_pos isTested, entersLast last]
      refine ⟨?_, Nat.zero_le _, by simp, fun _ starting => ?_,
        fun _ atPublish => ?_⟩
      · simp only
        omega
      · cases starting
      · cases atPublish
  | restarts last isTested lasting next =>
      rw [next, if_pos isTested, entersLast last]
      refine ⟨?_, Nat.zero_le _, by simp [lasting], fun _ _ => ⟨?_, ?_⟩,
        fun _ _ => ⟨starting, ?_, fun last => ?_⟩⟩ <;>
          simp [sendMessage] at * <;> omega

theorem Paced.step (paced : Paced loop count)
    (large : 2 ≤ loop.tctrl.msgBatch.toNat) (move : Move)
    (kept : (step protobuf floatUnit loop move).tctrl.msgBatch =
      loop.tctrl.msgBatch) :
    Paced (step protobuf floatUnit loop move) (count.after loop move) := by
  cases move with
  | tick later => exact { paced with }
  | execute polled =>
      cases atPoint : loop.point with
      | poll =>
          simp only [ZmqPub.step, atPoint, Iterations.after] at kept ⊢
          exact paced.pollCommand polled kept
      | checkFlags =>
          simp only [ZmqPub.step, atPoint]
          exact paced.checkFlags large atPoint polled
      | publish =>
          simp only [ZmqPub.step, atPoint]
          by_cases publishing : loop.tctrl.publishing = true
          · rw [if_pos publishing]
            exact paced.publishOnce large publishing atPoint polled
          · simp only [Iterations.after, atPoint, publishing]
            exact paced.of_elsewhere rfl rfl
              (fun isPublishing => (publishing isPublishing).elim) (by simp)
      | returned =>
          simp only [ZmqPub.step, atPoint, Iterations.after]
          exact paced
      | aborted =>
          simp only [ZmqPub.step, atPoint, Iterations.after]
          exact paced

theorem KeepsBatch.head {msgBatch : UInt32} {moves : List Move}
    (keeps : KeepsBatch protobuf floatUnit msgBatch loop moves) :
    loop.tctrl.msgBatch = msgBatch :=
  keeps [] moves rfl

theorem KeepsBatch.tail {msgBatch : UInt32} {move : Move} {moves : List Move}
    (keeps : KeepsBatch protobuf floatUnit msgBatch loop (move :: moves)) :
    KeepsBatch protobuf floatUnit msgBatch
      (step protobuf floatUnit loop move) moves :=
  fun earlier later split => keeps (move :: earlier) later (by rw [split]; rfl)

/-- The counts stay within the batch in every run with batches of at least two
messages. -/
theorem Paced.withinBatch {msgBatch : UInt32} (large : 2 ≤ msgBatch.toNat)
    {moves : List Move} :
    ∀ {loop : MainLoop FloatNum} {count : Iterations}, Paced loop count →
      KeepsBatch protobuf floatUnit msgBatch loop moves →
      WithinBatch msgBatch (countIterations protobuf floatUnit loop count
        moves) := by
  induction moves with
  | nil =>
      intro loop count paced keeps
      have entry := paced.entry
      have test := paced.test
      have overdue := paced.overdue
      rw [keeps.head] at entry test
      constructor <;> simp only [countIterations] <;> omega
  | cons move moves ih =>
      intro loop count paced keeps
      have kept := keeps.tail.head.trans keeps.head.symm
      exact ih (paced.step (keeps.head ▸ large) move kept) keeps.tail

/-- A client sets the batch size and starts a test. -/
def startMoves (batch : Int64) : List Move :=
  [.execute (.message (HydraWire.encodeCommand
      ⟨.subcmd, some ⟨"updateconfig",
        [{ name := "msg_batch", intValue := some batch }]⟩⟩)),
    .execute .nothing, .execute .nothing,
    .execute (.message (HydraWire.encodeCommand
      ⟨.subcmd, some ⟨"teststart", []⟩⟩)),
    .execute .nothing]

/-- Arithmetic that always comes out as zero. -/
def zeroFloats : FloatUnit HydraWire.Float32Bytes where
  quotient _ _ := default
  toUInt32 _ := 0

/-- The test lasts five seconds by default, and no time has passed. -/
theorem run_startMoves (batch : Int64) :
    StartsTest batch.toUInt64.toUInt32
        (run HydraWire.protobuf zeroFloats 0 0 (startMoves batch)) ∧
      ¬ durationPassed
        (run HydraWire.protobuf zeroFloats 0 0 (startMoves batch)) := by
  refine ⟨⟨?_, ?_, ?_, ?_, ?_⟩, ?_⟩ <;>
    simp [run, startMoves, step, initial, pollCommand, HydraWire.protobuf,
      HydraWire.decodeCommand_encode, processMessage, processCommand,
      TestControl.updateConfig, checkFlags, TestControl.startTest,
      durationPassed]

theorem publishOnce_msgBatch (loop : MainLoop FloatNum) :
    (publishOnce loop).tctrl.msgBatch = loop.tctrl.msgBatch := by
  simp only [publishOnce]
  split_ifs <;> rfl

/-- The first iteration with batches of no or one message sends. -/
theorem StartsTest.publishOnce_of_short {msgBatch : UInt32}
    (starts : StartsTest msgBatch loop) (short : msgBatch = 0 ∨ msgBatch = 1)
    (lasting : ¬ durationPassed loop) :
    ∃ cnt, publishOnce loop = sendMessage { loop with cnt := cnt } := by
  rw [durationPassed] at lasting
  rcases short with rfl | rfl
  · refine ⟨1, ?_⟩
    have early : ¬ loop.cnt + 1 ≥ loop.tctrl.msgBatch - 1 := by
      rw [starts.cnt, starts.msgBatch]
      decide
    rw [publishOnce, if_neg early, starts.cnt]
    rfl
  · refine ⟨0, ?_⟩
    have late : loop.cnt + 1 ≥ loop.tctrl.msgBatch - 1 ∧
        loop.cnt + 1 ≠ loop.tctrl.msgBatch - 1 ∧
        loop.cnt + 1 ≥ loop.tctrl.msgBatch := by
      rw [starts.cnt, starts.msgBatch]
      decide
    rw [publishOnce, if_pos late.1, if_neg late.2.1, if_pos late.2.2]
    simp only [lasting, if_false]

/-- With batches of no or one message, the first iteration of a test is
followed by another one without a poll. -/
theorem StartsTest.iterates_twice {msgBatch : UInt32}
    (starts : StartsTest msgBatch loop) (short : msgBatch = 0 ∨ msgBatch = 1)
    (lasting : ¬ durationPassed loop) :
    KeepsBatch protobuf floatUnit msgBatch loop
        [.execute .nothing, .execute .nothing] ∧
      (countIterations protobuf floatUnit loop {}
        [.execute .nothing, .execute .nothing]).sinceEntry = 2 := by
  obtain ⟨cnt, sends⟩ := starts.publishOnce_of_short short lasting
  have first : step protobuf floatUnit loop (.execute .nothing) =
      sendMessage { loop with cnt := cnt } := by
    simp only [step, starts.point, starts.publishing, if_true, sends]
  have second : step protobuf floatUnit (sendMessage { loop with cnt := cnt })
      (.execute .nothing) = publishOnce (sendMessage { loop with cnt := cnt }) := by
    simp only [step, sendMessage, starts.point, starts.publishing, if_true]
  constructor
  · intro earlier later split
    cases earlier with
    | nil => exact starts.msgBatch
    | cons move earlier =>
        cases earlier with
        | nil =>
            cases List.cons.inj split with
            | intro moveEq _ =>
                rw [List.foldl_cons, List.foldl_nil, ← moveEq, first]
                exact starts.msgBatch
        | cons another earlier =>
            cases earlier with
            | nil =>
                simp only [List.cons_append, List.nil_append,
                  List.cons.injEq] at split
                rw [List.foldl_cons, List.foldl_cons, List.foldl_nil,
                  ← split.1, ← split.2.1, first, second, publishOnce_msgBatch]
                exact starts.msgBatch
            | cons third earlier => simp at split
  · simp only [countIterations, first]
    simp [Iterations.after, sendMessage, starts.point, starts.publishing]

theorem not_pacesTests_of_short {batch : Int64}
    (short : batch.toUInt64.toUInt32 = 0 ∨ batch.toUInt64.toUInt32 = 1) :
    ¬ PacesTests batch.toUInt64.toUInt32 := by
  intro paces
  obtain ⟨starts, lasting⟩ := run_startMoves batch
  obtain ⟨keeps, twice⟩ := starts.iterates_twice short lasting
  have within := (paces _ HydraWire.protobuf zeroFloats 0 0 (startMoves batch)
    _ starts keeps).sinceEntry
  rw [twice] at within
  rcases short with zero | one
  · rw [zero] at within
    exact absurd within (by decide)
  · rw [one] at within
    exact absurd within (by decide)

/-- The publisher polls and tests the duration within every batch exactly when
its batches have at least two messages. -/
theorem pacesTests_iff (msgBatch : UInt32) :
    PacesTests msgBatch ↔ 2 ≤ msgBatch := by
  rw [UInt32.le_iff_toNat_le]
  constructor
  · intro paces
    by_contra small
    have short : msgBatch = 0 ∨ msgBatch = 1 := by
      rw [← UInt32.toNat_inj, ← UInt32.toNat_inj]
      have value : msgBatch.toNat < 2 := not_le.mp small
      change msgBatch.toNat = 0 ∨ msgBatch.toNat = 1
      omega
    rcases short with rfl | rfl
    · exact @not_pacesTests_of_short 0 (.inl rfl) paces
    · exact @not_pacesTests_of_short 1 (.inr rfl) paces
  · intro large FloatNum protobuf floatUnit uninitialized clock before moves
      starts keeps
    exact (starts.paced large).withinBatch large keeps

/-- With batches of one message the publisher does not poll until the test
ends. -/
theorem oneMessageBatches_not_paced : ¬ ∀ msgBatch, PacesTests msgBatch :=
  fun paces => @not_pacesTests_of_short 1 (.inr rfl) (paces 1)

end ZmqPub

end MScale
