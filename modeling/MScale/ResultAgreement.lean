import MScale.ResultAccounts

/-!
# The results of the three tests

The runners of the ZMQ, the RabbitMQ and the Kafka test each have a version of
`result_parser`.  When no client of the ZMQ test is slow, silent or
reconnecting, all its clients are valid, and the three versions report the same
figures for the same statistics.
-/

namespace MScale

open RunningTotals EntryLists

section Keys

variable {pubData : PubStats} {numSubs divisor : Nat} {totals : PlainTotals}

theorem validClientCnt_notMem_figures :
    "valid_client_cnt" ∉ figures pubData numSubs divisor totals := by
  rw [← AList.lookup_eq_none, lookup_figures _ _ _ _ (by decide),
    clientFigures]
  simp only [AList.lookup_insert_ne, ne_eq, String.reduceEq,
    not_false_eq_true, initialResult, AList.lookup_empty]

end Keys

namespace Collected

variable {collected : Collected ClientStats} {pubData : PubStats}

theorem plainResult_ok
    (publisher : firstValue collected.pubStats = .ok pubData)
    (sent : 0 < pubData.msgCnt)
    (lasting : pubData.timeStart.value < pubData.timeEnd.value)
    (any : collected.subStats.entries.length ≠ 0) :
    collected.plainResult =
      .ok (figures pubData collected.subStats.entries.length
        collected.subStats.entries.length
        (collected.plainTotals pubData.msgCnt)) := by
  simp only [plainResult, publisher, ok_bind, logFailing_ok, addFailingRate_eq,
    divide_of_ne (value_natCast_ne any), packetLoss_eq sent.ne' any,
    addPubUsage_eq lasting]
  rfl

end Collected

namespace RunTestZMQ

namespace Findings

variable {found : Findings} {pubData : PubStats}

/-- The statistics as the parsers of the other tests read them. -/
def toPlain (found : Findings) : Collected ClientStats where
  pubStats := found.pubStats
  subStats := mapValues SubStats.toClientStats found.subStats

theorem toPlain_length :
    found.toPlain.subStats.entries.length = found.clients.length := by
  rw [clients, values, List.length_map]
  exact List.length_map _

/-- Without the two properties only silent clients are not valid. -/
theorem validClients_eq_clients (noSlow : found.slowClients = none)
    (noRec : found.recClients = none)
    (received : ∀ info ∈ found.clients, info.msgCnt ≠ 0) :
    found.validClients = found.clients := by
  rw [validClients, List.filter_eq_self]
  intro info member
  rw [decide_eq_true_eq]
  constructor
  · rw [Slow, noSlow]
    rintro (listed | silent)
    · exact Finset.notMem_empty _ listed
    · exact received info member silent
  · rw [Reconnecting, noRec]
    exact Finset.notMem_empty _

/-- If every client is valid, the two loops add up the same. -/
theorem totals_plain_eq_plainTotals
    (allValid : found.validClients = found.clients) (msgCntPubTx : Nat) :
    (found.totals msgCntPubTx).plain =
      found.toPlain.plainTotals msgCntPubTx := by
  rw [totals_plain, allValid, Collected.plainTotals, toPlain,
    values_mapValues, clients]

end Findings

variable {found : Findings} {pubData : PubStats}

/-- For subscribers that all received something, without slow or reconnecting
ones, the three tests report the same results; the ZMQ test adds the number of
valid clients, which are all. -/
theorem resultParsers_agree
    (publisher : firstValue found.pubStats = .ok pubData)
    (sent : 0 < pubData.msgCnt)
    (lasting : pubData.timeStart.value < pubData.timeEnd.value)
    (noSlow : found.slowClients = none) (noRec : found.recClients = none)
    (any : found.clients ≠ [])
    (received : ∀ info ∈ found.clients, info.msgCnt ≠ 0) :
    ∃ zmq rmq kafka,
      resultParser found = .ok zmq ∧
      RunTestRMQ.resultParser found.toPlain = .ok rmq ∧
      RunTestKAFKA.resultParser found.toPlain = .ok kafka ∧
      (∀ key, key ≠ "valid_client_cnt" →
        zmq.lookup key = rmq.lookup key ∧ zmq.lookup key = kafka.lookup key) ∧
      "valid_client_cnt" ∉ rmq ∧ "valid_client_cnt" ∉ kafka ∧
      zmq.lookup "valid_client_cnt" = some (found.clients.length : PyNumber) ∧
      zmq.lookup "client_count" = some (found.clients.length : PyNumber) := by
  have allValid := Findings.validClients_eq_clients noSlow noRec received
  obtain ⟨zmq, parsed, validCnt, agree⟩ :=
    resultParser_ok publisher sent lasting (allValid ▸ any)
  rw [Findings.totals_plain_eq_plainTotals allValid, allValid] at agree
  have nonempty : found.toPlain.subStats.entries.length ≠ 0 := by
    rw [Findings.toPlain_length]
    exact fun zero => any (List.length_eq_zero_iff.mp zero)
  have plain := Collected.plainResult_ok publisher sent lasting nonempty
  rw [Findings.toPlain_length] at plain
  refine ⟨zmq, _, _, parsed, plain, plain, ?_, validClientCnt_notMem_figures,
    validClientCnt_notMem_figures, ?_, ?_⟩
  · intro key shared
    exact ⟨agree key shared, agree key shared⟩
  · rw [validCnt, allValid]
  · rw [agree _ (by decide), figures_clientCount]

/-- Two subscribers, of which one misses messages. -/
def receivingClients : Findings where
  pubStats := AList.singleton "10.0.0.1:15556" tenSeconds
  subStats := (AList.singleton "10.0.0.2:31000"
    (subscriber "sub_PORT31000" 900 9000)).insert "10.0.0.2:31001"
    (subscriber "sub_PORT31001" 1000 10000)

theorem receivingClients_agree :
    ∃ zmq rmq kafka,
      resultParser receivingClients = .ok zmq ∧
      RunTestRMQ.resultParser receivingClients.toPlain = .ok rmq ∧
      RunTestKAFKA.resultParser receivingClients.toPlain = .ok kafka ∧
      (∀ key, key ≠ "valid_client_cnt" →
        zmq.lookup key = rmq.lookup key ∧ zmq.lookup key = kafka.lookup key) ∧
      "valid_client_cnt" ∉ rmq ∧ "valid_client_cnt" ∉ kafka ∧
      zmq.lookup "valid_client_cnt" = some 2 ∧
      zmq.lookup "client_count" = some 2 :=
  resultParsers_agree
    (rfl : firstValue receivingClients.pubStats = .ok tenSeconds) (by decide)
    (by decide) rfl rfl (by decide) (by decide)

end RunTestZMQ

end MScale
