import MScale.ResultAccounts
import MScale.TestRounds

/-!
# The loss that a test reports

`result_parser` computes the average packet loss from the statistics that the
master has collected.  It is the share of the messages that were lost since the
resets or were still on their way when the statistics were read, less those that
were already on their way at the resets.
-/

namespace MScale

namespace TestMeasurement

open HDZmqpRepSrv LabelledRuns MessageChannels

/-- How many messages of the last test a subscriber missed, by its marks. -/
def TestState.missed (now : TestState) (key : String) : ℤ :=
  match now.resetAt key, now.subStats key with
  | some start, some (_, finish) => start.missed finish
  | _, _ => 0

/-- What `result_parser` finds is what the master has fetched. -/
structure Collects (now : TestState) (found : RunTestZMQ.Findings)
    (pubData : PubStats) : Prop where
  publisher : firstValue found.pubStats = .ok pubData
  pubStats : ∃ stats, now.pubStats = some stats ∧
    stats.lookup "msg_cnt" = some (.int pubData.msgCnt)
  subStats : ∀ key info, found.subStats.lookup key = some info →
    ∃ stats finish, now.subStats key = some (stats, finish) ∧
      stats.lookup "msg_cnt" = some (.number info.msgCnt)

/-- A master that collects has the statistics of a test that was measured. -/
theorem Sound.measuring {instances : List String} {now : TestState}
    (sound : Sound instances now) (collecting : now.collecting = true) :
    ∃ base, Measuring instances base now ∧
      now.session.pub.runData.testStatus = "stopping" := by
  obtain ⟨⟨started, told⟩, notPreparing⟩ := collecting_iff.mp collecting
  rcases sound.round with ⟨sessionSound, round⟩ | ⟨⟨_, waiting⟩, _⟩
  · rw [Session.Sound, told] at sessionSound
    rcases round with ⟨isPreparing, _⟩ | ⟨_, free | measuring⟩
    · simp [notPreparing] at isPreparing
    · simp [told] at free
    · obtain ⟨base, measuring⟩ := measuring
      exact ⟨base, measuring, sessionSound.stopping⟩
  · simp [told] at waiting

theorem natCast_injective {first second : ℕ}
    (same : (first : PyNumber) = second) : first = second := by
  have sameValue := congrArg PyNumber.value same
  rw [PyNumber.value_natCast, PyNumber.value_natCast] at sameValue
  exact Nat.cast_injective sameValue

/-- Every message that the publisher reports was counted by a subscriber or
missed. -/
theorem Sound.counted {instances : List String} {now : TestState}
    (sound : Sound instances now) (collecting : now.collecting = true)
    {found : RunTestZMQ.Findings} {pubData : PubStats}
    (collects : Collects now found pubData) {key : String}
    {info : RunTestZMQ.SubStats} (stored : found.subStats.lookup key = some info) :
    info.msgCnt + now.missed key = (pubData.msgCnt : ℤ) := by
  obtain ⟨base, measuring, stopping⟩ := sound.measuring collecting
  obtain ⟨pubStats, pubFetched, pubCount⟩ := collects.pubStats
  obtain ⟨stats, finish, subFetched, subCount⟩ :=
    collects.subStats key info stored
  obtain ⟨sent, sentCount, sentEq⟩ := measuring.produced.stopping stopping
  obtain ⟨_, samePub⟩ := measuring.pubStats pubStats pubFetched
  obtain ⟨_, finishSent, start, msgCnt, reset, _, counted, balance⟩ :=
    measuring.subStats key stats finish subFetched
  have sameSent : pubData.msgCnt = sent := by
    rw [pubCount, sentCount] at samePub
    simpa using samePub
  have sameCount : info.msgCnt = msgCnt := by
    rw [subCount] at counted
    exact natCast_injective (by simpa using counted)
  rw [TestState.missed, reset, subFetched, sameSent, sameCount]
  dsimp only
  omega

section Results

open RunTestZMQ RunningTotals

variable {found : Findings} {pubData : PubStats} {result : Dict PyNumber}

theorem ok_of_bind {Error Value Result : Type} {first : Except Error Value}
    {rest : Value → Except Error Result} {final : Result}
    (returned : first >>= rest = .ok final) :
    ∃ value, first = .ok value ∧ rest value = .ok final := by
  cases first with
  | error error => cases returned
  | ok value => exact ⟨value, rfl, returned⟩

theorem ne_zero_of_divide {dividend divisor quotient : PyNumber}
    (divided : divide dividend divisor = .ok quotient) :
    divisor.value ≠ 0 := by
  intro zero
  rw [divide_of_eq zero] at divided
  cases divided

theorem ne_zero_of_packetLoss {msgCntPubTx packets clients : ℕ}
    {loss : PyNumber} (lost : packetLoss msgCntPubTx packets clients = .ok loss) :
    msgCntPubTx ≠ 0 ∧ clients ≠ 0 := by
  obtain ⟨received, averaged, divided⟩ := ok_of_bind lost
  have sent := ne_zero_of_divide divided
  have any := ne_zero_of_divide averaged
  rw [PyNumber.value_natCast, Nat.cast_ne_zero] at sent any
  exact ⟨sent, any⟩

theorem lookup_of_addPubUsage {before : Dict PyNumber} {key : String}
    (other : key ∉ ["pub_cpu", "pub_net_txrate", "pub_net_rxrate"])
    (added : addPubUsage pubData before = .ok result) :
    result.lookup key = before.lookup key := by
  simp only [List.mem_cons, List.not_mem_nil, or_false, not_or] at other
  obtain ⟨_, _, added⟩ := ok_of_bind added
  obtain ⟨_, _, added⟩ := ok_of_bind added
  obtain ⟨_, _, added⟩ := ok_of_bind added
  cases added
  rw [AList.lookup_insert_ne other.2.2, AList.lookup_insert_ne other.2.1,
    AList.lookup_insert_ne other.1]

/-- A result that is returned has the loss over the valid clients, which are not
none, and the publisher has sent something. -/
theorem lookup_averagePacketLoss
    (publisher : firstValue found.pubStats = .ok pubData)
    (parsed : resultParser found = .ok result) :
    pubData.msgCnt ≠ 0 ∧ found.validClients.length ≠ 0 ∧
      result.lookup "average_packet_loss" = some (.float (shortfallPercent
        (pubData.msgCnt : ℚ)
        ((found.validClients.map fun info => info.msgCnt).sum /
          found.validClients.length))) := by
  rw [← found.totals_validClientCnt pubData.msgCnt,
    ← found.totals_clientsPacketCount pubData.msgCnt]
  rw [resultParser, publisher, ok_bind] at parsed
  obtain ⟨_, _, parsed⟩ := ok_of_bind parsed
  obtain ⟨_, _, parsed⟩ := ok_of_bind parsed
  obtain ⟨_, _, parsed⟩ := ok_of_bind parsed
  obtain ⟨_, _, parsed⟩ := ok_of_bind parsed
  obtain ⟨loss, lost, parsed⟩ := ok_of_bind parsed
  obtain ⟨sent, any⟩ := ne_zero_of_packetLoss lost
  refine ⟨sent, any, ?_⟩
  rw [packetLoss_eq sent any, Except.ok.injEq] at lost
  rw [lookup_of_addPubUsage (by decide) parsed, AList.lookup_insert, lost]

end Results

/-- The valid clients with their keys. -/
def validEntries (found : RunTestZMQ.Findings) :
    List ((_ : String) × RunTestZMQ.SubStats) :=
  found.subStats.entries.filter fun entry => found.Valid entry.2

theorem validClients_eq (found : RunTestZMQ.Findings) :
    found.validClients = (validEntries found).map Sigma.snd := by
  rw [RunTestZMQ.Findings.validClients, RunTestZMQ.Findings.clients,
    EntryLists.values, List.filter_map]
  rfl

/-- What the valid clients missed, together. -/
def TestState.totalMissed (now : TestState) (found : RunTestZMQ.Findings) : ℤ :=
  ((validEntries found).map fun entry => now.missed entry.1).sum

theorem Sound.sum_counted {instances : List String} {now : TestState}
    (sound : Sound instances now) (collecting : now.collecting = true)
    {found : RunTestZMQ.Findings} {pubData : PubStats}
    (collects : Collects now found pubData) :
    ((found.validClients.map fun info => info.msgCnt).sum : ℕ) +
        now.totalMissed found =
      (found.validClients.length : ℤ) * pubData.msgCnt := by
  have entries : ∀ entry ∈ validEntries found,
      found.subStats.lookup entry.1 = some entry.2 := by
    intro entry member
    exact AList.mem_lookup_iff.mpr (List.mem_of_mem_filter member)
  rw [validClients_eq, TestState.totalMissed]
  generalize validEntries found = valid at *
  induction valid with
  | nil => simp
  | cons entry rest ih =>
      rw [List.forall_mem_cons] at entries
      have counted := sound.counted collecting collects entries.1
      have countedRest := ih entries.2
      simp only [List.map_cons, List.sum_cons, List.length_cons, Nat.cast_add,
        Nat.cast_one, add_mul, one_mul] at countedRest ⊢
      rw [← countedRest, ← counted]
      ring

/-- The loss that a test reports is the share of the messages that its valid
clients missed. -/
theorem Sound.averagePacketLoss {instances : List String} {now : TestState}
    (sound : Sound instances now) (collecting : now.collecting = true)
    {found : RunTestZMQ.Findings} {pubData : PubStats}
    (collects : Collects now found pubData) {result : Dict PyNumber}
    (parsed : RunTestZMQ.resultParser found = .ok result) :
    result.lookup "average_packet_loss" = some (.float
      (100 * now.totalMissed found /
        (found.validClients.length * pubData.msgCnt))) := by
  obtain ⟨sent, any, loss⟩ :=
    lookup_averagePacketLoss collects.publisher parsed
  have balance := sound.sum_counted collecting collects
  have sentPos : (pubData.msgCnt : ℚ) ≠ 0 := Nat.cast_ne_zero.mpr sent
  have anyPos : (found.validClients.length : ℚ) ≠ 0 := Nat.cast_ne_zero.mpr any
  rw [loss]
  congr 2
  have balanceRat := congrArg (fun number : ℤ => (number : ℚ)) balance
  simp only [Int.cast_add, Int.cast_mul, Int.cast_natCast] at balanceRat
  rw [RunningTotals.shortfallPercent]
  field_simp
  linarith

theorem Sound.run {instances : List String} {start final : TestState}
    {steps : List (Step TestState TestMove)}
    (run : Run (TestStep instances) start steps final)
    (sound : Sound instances start) : Sound instances final := by
  induction run with
  | stop => exact sound
  | next taken rest ih =>
      obtain ⟨permitted, rfl⟩ := taken
      exact ih (sound.step permitted)

/-- Whenever a master that tests a publisher with its subscribers parses the
results, the reported loss is the share of the messages sent that the valid
clients missed: those that were lost between their reset and the reading of
their statistics, and those still on their way at the reading, less those
already on their way at the reset. -/
theorem reported_loss {instances : List String}
    {metrics : PublisherLoop.PubMetrics} {clock : ℚ}
    {channels : String → Channel} {steps : List (Step TestState TestMove)}
    {now : TestState}
    (run : Run (TestStep instances) (TestState.initial metrics clock channels)
      steps now)
    (collecting : now.collecting = true) {found : RunTestZMQ.Findings}
    {pubData : PubStats} (collects : Collects now found pubData)
    {result : Dict PyNumber}
    (parsed : RunTestZMQ.resultParser found = .ok result) :
    result.lookup "average_packet_loss" = some (.float
      (100 * now.totalMissed found /
        (found.validClients.length * pubData.msgCnt))) :=
  ((initial_sound metrics clock channels).run run).averagePacketLoss collecting
    collects parsed

/-- The steps of the given moves. -/
def TestState.stepsFrom (now : TestState) :
    List TestMove → List (Step TestState TestMove)
  | [] => []
  | move :: moves =>
      ⟨now, move, now.step move⟩ :: (now.step move).stepsFrom moves

/-- All of the given moves are possible. -/
def TestState.permitsAll (instances : List String) (now : TestState) :
    List TestMove → Bool
  | [] => true
  | move :: moves =>
      now.permits instances move && (now.step move).permitsAll instances moves

theorem TestState.run_stepsFrom {instances : List String} {now : TestState}
    {moves : List TestMove} (permitted : now.permitsAll instances moves = true) :
    Run (TestStep instances) now (now.stepsFrom moves)
      (moves.foldl TestState.step now) := by
  induction moves generalizing now with
  | nil => exact .stop
  | cons move moves ih =>
      rw [TestState.permitsAll, Bool.and_eq_true] at permitted
      exact .next ⟨permitted.1, rfl⟩ (ih permitted.2)

/-- Two messages, of which the second one is lost. -/
def twoMessages : List TestMove :=
  let statement : TestMove := .session (.execute .handedOver noUsage)
  let client : String := "10.0.0.2:31000"
  [.session (.updateConfig ⟨1, 2, 2⟩), .resetStats client noUsage,
    .session (.startTest noUsage)] ++
  List.replicate 10 statement ++
  [.channel client (.lose 1), .channel client .execute,
    .channel client .deliver, .channel client .execute,
    .channel client (.tick 1), .channel client .execute,
    .channel client .execute, .channel client .execute] ++
  .session (.tick 1) :: List.replicate 10 statement ++
  [.session .pollStatus, .session .getStats, .getStats client noUsage true]

/-- The system with one subscriber, at its launch. -/
def launched : TestState :=
  TestState.initial ⟨1, 1, 1⟩ 0 fun _ =>
    ⟨[], 0, SubscriberLoop.initial noUsage 0⟩

/-- The statistics of the publisher and of the subscriber, as they are parsed. -/
def twoSent : PubStats where
  rate := .float 2
  msgCnt := 2
  timeStart := .float 0
  timeEnd := .float 1

def oneCounted : RunTestZMQ.SubStats where
  rate := .float 1
  msgCnt := 1
  taskId := "sub_PORT31000"
  reconnectCnt := 0

def oneOfTwo : RunTestZMQ.Findings where
  pubStats := AList.singleton "10.0.0.1:15556" twoSent
  subStats := AList.insert "10.0.0.2:31000" oneCounted ∅

theorem twoMessages_collects :
    Collects (twoMessages.foldl TestState.step launched) oneOfTwo twoSent where
  publisher := rfl
  pubStats := by
    have fetched : ((twoMessages.foldl TestState.step launched).pubStats.map
        fun stats => stats.lookup "msg_cnt") = some (some (.int 2)) := by
      decide +kernel
    exact Option.map_eq_some_iff.mp fetched
  subStats := by
    intro key info stored
    change (AList.insert "10.0.0.2:31000" oneCounted
      (∅ : Dict RunTestZMQ.SubStats)).lookup key = _ at stored
    have fetched : ((twoMessages.foldl TestState.step launched).subStats
        "10.0.0.2:31000").map (fun read => read.1.lookup "msg_cnt") =
          some (some (.number (.int 1))) := by
      decide +kernel
    obtain ⟨⟨stats, finish⟩, read, count⟩ := Option.map_eq_some_iff.mp fetched
    by_cases same : key = "10.0.0.2:31000"
    · subst same
      rw [AList.lookup_insert, Option.some.injEq] at stored
      subst stored
      exact ⟨stats, finish, read, count⟩
    · rw [AList.lookup_insert_ne same] at stored
      cases stored

theorem twoMessages_loss :
    ∃ result, RunTestZMQ.resultParser oneOfTwo = .ok result ∧
      result.lookup "average_packet_loss" = some (.float
        (100 * (twoMessages.foldl TestState.step launched).totalMissed oneOfTwo /
          (oneOfTwo.validClients.length * twoSent.msgCnt))) := by
  have run : Run (TestStep ["10.0.0.2:31000"]) launched
      (launched.stepsFrom twoMessages)
      (twoMessages.foldl TestState.step launched) :=
    TestState.run_stepsFrom (by decide +kernel)
  obtain ⟨result, parsed, _⟩ := RunTestZMQ.resultParser_ok
    twoMessages_collects.publisher (by decide) (by decide) (by decide)
  exact ⟨result, parsed, reported_loss run (by decide +kernel)
    twoMessages_collects parsed⟩

end TestMeasurement

end MScale
