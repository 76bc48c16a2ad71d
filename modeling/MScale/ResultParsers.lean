import MScale.EntryLists
import MScale.HydraMessages
import MScale.PyNumber
import Mathlib.Data.Finset.Basic

/-!
# Parsing the results of a test

After a test the master has the statistics of the publisher and of every
subscriber, and `result_parser` condenses them into the figures of one test
run.  The three runners have their own versions: that of the ZMQ test sorts the
subscribers into slow, reconnecting and valid ones and averages over the valid
ones, the other two average over all.  This file embeds the three, with the
arithmetic of the statements that only log.
-/

namespace MScale

/-- The exceptions that parsing and judging the results can raise. -/
inductive ResultError
  | indexError
  | keyError (key : String)
  | zeroDivisionError
  deriving DecidableEq, Repr

/-- Statistics of one client as all three tests report them. -/
structure ClientStats where
  rate : PyNumber
  msgCnt : Nat
  deriving DecidableEq, Repr

/-- Readings of a pair of counters at the start and at the end of a test. -/
structure CounterSpan where
  atStart : PyNumber × PyNumber
  atEnd : PyNumber × PyNumber
  deriving DecidableEq, Repr

/-- Statistics of the publisher.  The C++ publisher reports no `cpu:start` and
no `net:start`; where these are reported, so are `cpu:end` and `net:end`. -/
structure PubStats where
  rate : PyNumber
  msgCnt : Nat
  timeStart : PyNumber
  timeEnd : PyNumber
  cpu : Option CounterSpan := none
  net : Option CounterSpan := none
  deriving DecidableEq, Repr

/-- The statistics that `fetch_app_stats` stored for the two applications. -/
structure Collected (Client : Type) where
  pubStats : Dict PubStats
  subStats : Dict Client

/-- `dict.values()[0]`. -/
def firstValue {Value : Type} (dict : Dict Value) : Except ResultError Value :=
  match EntryLists.values dict with
  | [] => throw .indexError
  | value :: _ => pure value

/-- Python's `/`. -/
def divide (dividend divisor : PyNumber) : Except ResultError PyNumber :=
  if divisor.value = 0 then throw .zeroDivisionError
  else pure (dividend.quotient divisor)

theorem divide_of_ne {dividend divisor : PyNumber}
    (nonzero : divisor.value ≠ 0) :
    divide dividend divisor = .ok (dividend.quotient divisor) :=
  if_neg nonzero

theorem divide_of_eq {dividend divisor : PyNumber}
    (zero : divisor.value = 0) :
    divide dividend divisor = .error .zeroDivisionError :=
  if_pos zero

theorem value_natCast_ne {number : Nat} (nonzero : number ≠ 0) :
    (number : PyNumber).value ≠ 0 := by
  rw [PyNumber.value_natCast]
  exact Nat.cast_ne_zero.mpr nonzero

/-- The percentage of the published messages that clients missed on average:
`(tx - (1.0 * packets / clients)) * 100.0 / tx`. -/
def packetLoss (msgCntPubTx packets clients : Nat) :
    Except ResultError PyNumber := do
  let received ← divide (.float 1 * packets) clients
  divide ((msgCntPubTx - received) * .float 100) msgCntPubTx

/-- The keys `result` is created with. -/
def initialResult : Dict PyNumber :=
  ((((AList.insert "average_packet_loss" 0 ∅).insert "failing_clients" 0).insert
    "average_rate" 0).insert "average_packets" 0).insert "client_count" 0

namespace PubStats

variable (pubData : PubStats)

def pubTotalCpu : PyNumber :=
  match pubData.cpu with
  | some cpu => cpu.atEnd.1 + cpu.atEnd.2 - (cpu.atStart.1 + cpu.atStart.2)
  | none => 0

def pubTotalTime : PyNumber :=
  pubData.timeEnd - pubData.timeStart

def pubTotalNwTxbytes : PyNumber :=
  match pubData.net with
  | some net => net.atEnd.1 - net.atStart.1
  | none => 0

def pubTotalNwRxbytes : PyNumber :=
  match pubData.net with
  | some net => net.atEnd.2 - net.atStart.2
  | none => 0

end PubStats

/-- The last part of every `result_parser`: load and traffic of the
publisher. -/
def addPubUsage (pubData : PubStats) (result : Dict PyNumber) :
    Except ResultError (Dict PyNumber) := do
  let pubCpu ← divide (.float 100 * pubData.pubTotalCpu) pubData.pubTotalTime
  let result := result.insert "pub_cpu" pubCpu
  let pubNetTxrate ← divide pubData.pubTotalNwTxbytes pubData.pubTotalTime
  let result := result.insert "pub_net_txrate" pubNetTxrate
  let pubNetRxrate ← divide pubData.pubTotalNwRxbytes pubData.pubTotalTime
  pure (result.insert "pub_net_rxrate" pubNetRxrate)

/-- `result['failing_clients_rate']`, entered only if some client failed. -/
def addFailingRate (badClients : Nat) (badClientRate : PyNumber)
    (result : Dict PyNumber) : Except ResultError (Dict PyNumber) :=
  if badClients = 0 then
    pure result
  else do
    let rate ← divide badClientRate badClients
    pure (result.insert "failing_clients_rate" rate)

/-- The log statement on the average rate of the failing clients. -/
def logFailing (badClients : Nat) (badClientRate : PyNumber) :
    Except ResultError Unit :=
  if badClients = 0 then
    pure ()
  else do
    let _ ← divide badClientRate badClients
    pure ()

namespace RunTestZMQ

/-- Statistics of one subscriber of the ZMQ test: `zmq_sub.py` also counts how
often it reconnected, and `fetch_app_stats` adds the task id.  The C++
subscriber counts no reconnects, but it refuses `updateconfig`, so that
`rerun_test` stops before the results if clients shall reconnect. -/
structure SubStats extends ClientStats where
  taskId : String
  reconnectCnt : Nat
  deriving DecidableEq, Repr

/-- What `result_parser` finds: the statistics, and the properties
`slow_clients` and `reconnecting_clients`. -/
structure Findings extends Collected SubStats where
  slowClients : Option (Finset String) := none
  recClients : Option (Finset String) := none

/-- What the loop over the clients adds up. -/
structure Totals where
  badClients : Nat := 0
  clientRate : PyNumber := 0
  badClientRate : PyNumber := 0
  clientsPacketCount : Nat := 0
  slowClientsRate : PyNumber := 0
  slowClientsPacketCnt : Nat := 0
  slowClientsCnt : Nat := 0
  recClientsRate : PyNumber := 0
  recClientsPacketCnt : Nat := 0
  recClientsCnt : Nat := 0
  recCnt : Nat := 0
  validClientCnt : Nat := 0
  deriving DecidableEq, Repr

namespace Findings

variable (found : Findings)

/-- A client that was made slow, or one that received nothing. -/
def Slow (info : SubStats) : Prop :=
  info.taskId ∈ found.slowClients.getD ∅ ∨ info.msgCnt = 0

/-- A client that was told to reconnect. -/
def Reconnecting (info : SubStats) : Prop :=
  info.taskId ∈ found.recClients.getD ∅

instance : DecidablePred found.Slow :=
  fun _ => inferInstanceAs (Decidable (_ ∨ _))

instance : DecidablePred found.Reconnecting :=
  fun info => inferInstanceAs (Decidable (info.taskId ∈ _))

/-- The body of the loop over the clients. -/
def addClient (msgCntPubTx : Nat) (totals : Totals) (info : SubStats) :
    Totals :=
  if found.Slow info then
    { totals with
      slowClientsRate := totals.slowClientsRate + info.rate
      slowClientsPacketCnt := totals.slowClientsPacketCnt + info.msgCnt
      slowClientsCnt := totals.slowClientsCnt + 1 }
  else if found.Reconnecting info then
    { totals with
      recClientsRate := totals.recClientsRate + info.rate
      recClientsPacketCnt := totals.recClientsPacketCnt + info.msgCnt
      recClientsCnt := totals.recClientsCnt + 1
      recCnt := totals.recCnt + info.reconnectCnt }
  else
    let totals := { totals with
      clientRate := totals.clientRate + info.rate
      clientsPacketCount := totals.clientsPacketCount + info.msgCnt
      validClientCnt := totals.validClientCnt + 1 }
    if info.msgCnt ≠ msgCntPubTx then
      { totals with
        badClients := totals.badClients + 1
        badClientRate := totals.badClientRate + info.rate }
    else
      totals

/-- The loop over the clients. -/
def totals (msgCntPubTx : Nat) : Totals :=
  (EntryLists.values found.subStats).foldl (found.addClient msgCntPubTx) {}

end Findings

/-- The log statement on the slow or on the reconnecting clients. -/
def logUnusual (msgCntPubTx clients packets : Nat) (rate : PyNumber) :
    Except ResultError Unit :=
  if clients = 0 then
    pure ()
  else do
    let _ ← packetLoss msgCntPubTx packets clients
    let _ ← divide packets clients
    let _ ← divide rate clients
    pure ()

/-- The log statements between the loop and the result. -/
def logTotals (msgCntPubTx : Nat) (totals : Totals) :
    Except ResultError Unit := do
  logFailing totals.badClients totals.badClientRate
  let _ ← divide totals.clientsPacketCount totals.validClientCnt
  let _ ← divide totals.clientRate totals.validClientCnt
  logUnusual msgCntPubTx totals.slowClientsCnt totals.slowClientsPacketCnt
    totals.slowClientsRate
  logUnusual msgCntPubTx totals.recClientsCnt totals.recClientsPacketCnt
    totals.recClientsRate

/-- `result_parser`. -/
def resultParser (found : Findings) : Except ResultError (Dict PyNumber) := do
  let pubData ← firstValue found.pubStats
  let msgCntPubTx := pubData.msgCnt
  let numSubs := found.subStats.entries.length
  let totals := found.totals msgCntPubTx
  logTotals msgCntPubTx totals
  let result := initialResult.insert "client_count" numSubs
  let result := result.insert "packet_tx" msgCntPubTx
  let averagePackets ← divide totals.clientsPacketCount totals.validClientCnt
  let result := result.insert "average_packets" averagePackets
  let averageRate ← divide totals.clientRate totals.validClientCnt
  let result := result.insert "average_rate" averageRate
  let result := result.insert "failing_clients" totals.badClients
  let result := result.insert "average_tx_rate" pubData.rate
  let result := result.insert "valid_client_cnt" totals.validClientCnt
  let result ← addFailingRate totals.badClients totals.badClientRate result
  let averagePacketLoss ← packetLoss msgCntPubTx totals.clientsPacketCount
    totals.validClientCnt
  let result := result.insert "average_packet_loss" averagePacketLoss
  addPubUsage pubData result

end RunTestZMQ

/-- What the loop over the clients adds up in the other two tests. -/
structure PlainTotals where
  badClients : Nat := 0
  clientRate : PyNumber := 0
  badClientRate : PyNumber := 0
  clientsPacketCount : Nat := 0
  deriving DecidableEq, Repr

namespace Collected

/-- The body of the loop over the clients in the other two tests. -/
def addClient (msgCntPubTx : Nat) (totals : PlainTotals) (info : ClientStats) :
    PlainTotals :=
  let totals := { totals with
    clientRate := totals.clientRate + info.rate
    clientsPacketCount := totals.clientsPacketCount + info.msgCnt }
  if info.msgCnt ≠ msgCntPubTx then
    { totals with
      badClients := totals.badClients + 1
      badClientRate := totals.badClientRate + info.rate }
  else
    totals

variable (collected : Collected ClientStats)

/-- The loop over the clients in the other two tests. -/
def plainTotals (msgCntPubTx : Nat) : PlainTotals :=
  (EntryLists.values collected.subStats).foldl (addClient msgCntPubTx) {}

/-- `result_parser` of the RabbitMQ and the Kafka test, which differ in the names
of their applications only. -/
def plainResult : Except ResultError (Dict PyNumber) := do
  let pubData ← firstValue collected.pubStats
  let msgCntPubTx := pubData.msgCnt
  let numSubs := collected.subStats.entries.length
  let totals := collected.plainTotals msgCntPubTx
  logFailing totals.badClients totals.badClientRate
  let _ ← divide totals.clientsPacketCount numSubs
  let _ ← divide totals.clientRate numSubs
  let result := initialResult.insert "client_count" numSubs
  let result := result.insert "packet_tx" msgCntPubTx
  let averagePackets ← divide totals.clientsPacketCount numSubs
  let result := result.insert "average_packets" averagePackets
  let averageRate ← divide totals.clientRate numSubs
  let result := result.insert "average_rate" averageRate
  let result := result.insert "failing_clients" totals.badClients
  let result := result.insert "average_tx_rate" pubData.rate
  let result ← addFailingRate totals.badClients totals.badClientRate result
  let averagePacketLoss ← packetLoss msgCntPubTx totals.clientsPacketCount
    numSubs
  let result := result.insert "average_packet_loss" averagePacketLoss
  addPubUsage pubData result

end Collected

/-- `RunTestRMQ.result_parser`. -/
def RunTestRMQ.resultParser (collected : Collected ClientStats) :
    Except ResultError (Dict PyNumber) :=
  collected.plainResult

/-- `RunTestKAFKA.result_parser`. -/
def RunTestKAFKA.resultParser (collected : Collected ClientStats) :
    Except ResultError (Dict PyNumber) :=
  collected.plainResult

/-- `res[key]`. -/
def readResult (res : Dict PyNumber) (key : String) :
    Except ResultError PyNumber :=
  match res.lookup key with
  | some value => pure value
  | none => throw (.keyError key)

/-- `boundary_resultfn`, where `logged` are the keys that its log statements
read.  A test passes if the publisher reached 70% of the requested rate. -/
def judgeResult (logged : List String) (messageRate : ℚ)
    (res : Dict PyNumber) : Except ResultError (Bool × PyNumber × PyNumber) := do
  let _ ← logged.mapM (readResult res)
  let averageTxRate ← readResult res "average_tx_rate"
  let runPass := ¬ averageTxRate.value < 7 / 10 * messageRate
  let averageRate ← readResult res "average_rate"
  let averagePacketLoss ← readResult res "average_packet_loss"
  pure (runPass, averageRate, averagePacketLoss)

/-- `RunTestZMQ.boundary_resultfn`. -/
def RunTestZMQ.boundaryResultfn : ℚ → Dict PyNumber →
    Except ResultError (Bool × PyNumber × PyNumber) :=
  judgeResult ["valid_client_cnt", "average_tx_rate", "average_rate",
    "average_packet_loss", "pub_cpu", "pub_net_txrate", "pub_net_rxrate"]

/-- `RunTestRMQ.boundary_resultfn`. -/
def RunTestRMQ.boundaryResultfn : ℚ → Dict PyNumber →
    Except ResultError (Bool × PyNumber × PyNumber) :=
  judgeResult ["average_tx_rate", "average_rate", "average_packet_loss",
    "pub_cpu", "pub_net_txrate", "pub_net_rxrate"]

/-- `RunTestKAFKA.boundary_resultfn`. -/
def RunTestKAFKA.boundaryResultfn : ℚ → Dict PyNumber →
    Except ResultError (Bool × PyNumber × PyNumber) :=
  judgeResult ["average_tx_rate", "average_rate", "average_packet_loss",
    "pub_cpu", "pub_net_txrate", "pub_net_rxrate"]

end MScale
