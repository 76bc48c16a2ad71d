import MScale.ResultParsers
import MScale.RunningTotals

/-!
# What the results of the ZMQ test account for

On the clients that are neither slow nor reconnecting, the loop of
`RunTestZMQ.result_parser` is the plain loop of the other two tests, and the
other clients do not show in its averages.  So the result exists as soon as one
client is valid, every client is counted once, and the average packet loss is a
percentage that vanishes exactly if no valid client missed a message.
-/

namespace MScale

open RunningTotals

section Divisions

variable {msgCntPubTx packets clients : Nat}

theorem ok_bind {Error Value Result : Type} (value : Value)
    (rest : Value → Except Error Result) :
    ((.ok value : Except Error Value) >>= rest) = rest value :=
  rfl

theorem packetLoss_eq (sent : msgCntPubTx ≠ 0) (any : clients ≠ 0) :
    packetLoss msgCntPubTx packets clients =
      .ok (.float (shortfallPercent (msgCntPubTx : ℚ) (packets / clients))) := by
  have received : divide (.float 1 * packets) clients =
      .ok (.float ((packets : ℚ) / clients)) := by
    rw [divide_of_ne (value_natCast_ne any), PyNumber.float_mul, one_mul,
      PyNumber.value_natCast]
    exact congrArg (Except.ok ∘ PyNumber.float)
      (congrArg _ (PyNumber.value_natCast clients))
  rw [packetLoss, received]
  change divide (((msgCntPubTx : PyNumber) - .float (packets / clients)) *
    .float 100) msgCntPubTx = _
  rw [divide_of_ne (value_natCast_ne sent), PyNumber.sub_float,
    PyNumber.value_natCast, PyNumber.float_mul]
  exact congrArg (Except.ok ∘ PyNumber.float)
    (congrArg _ (PyNumber.value_natCast msgCntPubTx))

theorem logFailing_ok (badClients : Nat) (badClientRate : PyNumber) :
    logFailing badClients badClientRate = .ok () := by
  by_cases none : badClients = 0
  · exact if_pos none
  · rw [logFailing, if_neg none, divide_of_ne (value_natCast_ne none)]
    rfl

/-- What `addFailingRate` enters. -/
def withFailingRate (badClients : Nat) (badClientRate : PyNumber)
    (result : Dict PyNumber) : Dict PyNumber :=
  if badClients = 0 then result
  else result.insert "failing_clients_rate" (badClientRate.quotient badClients)

theorem addFailingRate_eq (badClients : Nat) (badClientRate : PyNumber)
    (result : Dict PyNumber) :
    addFailingRate badClients badClientRate result =
      .ok (withFailingRate badClients badClientRate result) := by
  by_cases none : badClients = 0
  · rw [addFailingRate, withFailingRate, if_pos none, if_pos none]
    rfl
  · rw [addFailingRate, withFailingRate, if_neg none, if_neg none,
      divide_of_ne (value_natCast_ne none)]
    rfl

/-- What `addPubUsage` enters for a test that took some time. -/
def withPubUsage (pubData : PubStats) (result : Dict PyNumber) :
    Dict PyNumber :=
  ((result.insert "pub_cpu"
      ((.float 100 * pubData.pubTotalCpu).quotient
        pubData.pubTotalTime)).insert "pub_net_txrate"
      (pubData.pubTotalNwTxbytes.quotient pubData.pubTotalTime)).insert
    "pub_net_rxrate"
      (pubData.pubTotalNwRxbytes.quotient pubData.pubTotalTime)

theorem addPubUsage_eq {pubData : PubStats}
    (lasting : pubData.timeStart.value < pubData.timeEnd.value)
    (result : Dict PyNumber) :
    addPubUsage pubData result = .ok (withPubUsage pubData result) := by
  have nonzero : pubData.pubTotalTime.value ≠ 0 := by
    rw [PubStats.pubTotalTime, PyNumber.value_sub]
    exact (sub_pos.mpr lasting).ne'
  rw [addPubUsage, divide_of_ne nonzero, divide_of_ne nonzero,
    divide_of_ne nonzero]
  rfl

end Divisions

/-- The figures on the clients that all three tests report: `numSubs` clients,
averages over `divisor` of them. -/
def clientFigures (pubData : PubStats) (numSubs divisor : Nat)
    (totals : PlainTotals) : Dict PyNumber :=
  (((((initialResult.insert "client_count" numSubs).insert "packet_tx"
    pubData.msgCnt).insert "average_packets"
    ((totals.clientsPacketCount : PyNumber).quotient divisor)).insert
    "average_rate" (totals.clientRate.quotient divisor)).insert
    "failing_clients" totals.badClients).insert "average_tx_rate" pubData.rate

/-- All figures that the three tests report. -/
def figures (pubData : PubStats) (numSubs divisor : Nat)
    (totals : PlainTotals) : Dict PyNumber :=
  withPubUsage pubData
    ((withFailingRate totals.badClients totals.badClientRate
      (clientFigures pubData numSubs divisor totals)).insert
      "average_packet_loss" (.float (shortfallPercent (pubData.msgCnt : ℚ)
        (totals.clientsPacketCount / divisor))))

section Lookups

variable {key : String} {result : Dict PyNumber}

theorem lookup_withFailingRate (other : key ≠ "failing_clients_rate")
    (badClients : Nat) (badClientRate : PyNumber) :
    (withFailingRate badClients badClientRate result).lookup key =
      result.lookup key := by
  rw [withFailingRate]
  split_ifs
  · rfl
  · rw [AList.lookup_insert_ne other]

theorem lookup_withPubUsage
    (other : key ∉ ["pub_cpu", "pub_net_txrate", "pub_net_rxrate"])
    (pubData : PubStats) :
    (withPubUsage pubData result).lookup key = result.lookup key := by
  simp only [List.mem_cons, List.not_mem_nil, or_false, not_or] at other
  rw [withPubUsage, AList.lookup_insert_ne other.2.2,
    AList.lookup_insert_ne other.2.1, AList.lookup_insert_ne other.1]

end Lookups

section Agreement

variable {name : String} {first second : Dict PyNumber}

theorem agreeExcept_withFailingRate
    (agree : EntryLists.AgreeExcept name first second) (badClients : Nat)
    (badClientRate : PyNumber) :
    EntryLists.AgreeExcept name
      (withFailingRate badClients badClientRate first)
      (withFailingRate badClients badClientRate second) := by
  rw [withFailingRate, withFailingRate]
  split_ifs
  · exact agree
  · exact agree.insert _ _

theorem agreeExcept_withPubUsage
    (agree : EntryLists.AgreeExcept name first second) (pubData : PubStats) :
    EntryLists.AgreeExcept name (withPubUsage pubData first)
      (withPubUsage pubData second) :=
  ((agree.insert _ _).insert _ _).insert _ _

end Agreement

section Figures

variable (pubData : PubStats) (numSubs divisor : Nat) (totals : PlainTotals)

theorem lookup_figures {key : String}
    (onClients : key ∉ ["average_packet_loss", "failing_clients_rate",
      "pub_cpu", "pub_net_txrate", "pub_net_rxrate"]) :
    (figures pubData numSubs divisor totals).lookup key =
      (clientFigures pubData numSubs divisor totals).lookup key := by
  rw [List.mem_cons, not_or, List.mem_cons, not_or] at onClients
  obtain ⟨notLoss, notRate, notUsage⟩ := onClients
  rw [figures, lookup_withPubUsage notUsage, AList.lookup_insert_ne notLoss,
    lookup_withFailingRate notRate]

theorem figures_clientCount :
    (figures pubData numSubs divisor totals).lookup "client_count" =
      some (numSubs : PyNumber) := by
  rw [lookup_figures _ _ _ _ (by decide), clientFigures]
  simp only [AList.lookup_insert, AList.lookup_insert_ne, ne_eq,
    String.reduceEq, not_false_eq_true]

theorem figures_failingClients :
    (figures pubData numSubs divisor totals).lookup "failing_clients" =
      some (totals.badClients : PyNumber) := by
  rw [lookup_figures _ _ _ _ (by decide), clientFigures]
  simp only [AList.lookup_insert, AList.lookup_insert_ne, ne_eq,
    String.reduceEq, not_false_eq_true]

theorem figures_averagePacketLoss :
    (figures pubData numSubs divisor totals).lookup "average_packet_loss" =
      some (.float (shortfallPercent (pubData.msgCnt : ℚ)
        (totals.clientsPacketCount / divisor))) := by
  rw [figures, lookup_withPubUsage (by decide), AList.lookup_insert]

end Figures

namespace Collected

variable (msgCntPubTx : Nat) (infos : List ClientStats) (totals : PlainTotals)

theorem foldl_addClient_clientsPacketCount :
    (infos.foldl (addClient msgCntPubTx) totals).clientsPacketCount =
      totals.clientsPacketCount + (infos.map ClientStats.msgCnt).sum := by
  apply foldl_adds
  intro totals info
  rw [addClient]
  split_ifs <;> rfl

theorem foldl_addClient_badClients :
    (infos.foldl (addClient msgCntPubTx) totals).badClients =
      totals.badClients +
        (infos.filter fun info => info.msgCnt ≠ msgCntPubTx).length := by
  apply foldl_counts
  · intro totals info mismatch
    rw [addClient, if_pos mismatch]
  · intro totals info matching
    rw [addClient, if_neg matching]

end Collected

namespace RunTestZMQ

/-- The totals that the plain loop keeps too. -/
def Totals.plain (totals : Totals) : PlainTotals where
  badClients := totals.badClients
  clientRate := totals.clientRate
  badClientRate := totals.badClientRate
  clientsPacketCount := totals.clientsPacketCount

namespace Findings

variable (found : Findings) (msgCntPubTx : Nat)

/-- The statistics of the clients. -/
def clients : List SubStats :=
  EntryLists.values found.subStats

/-- A client that counts for the averages. -/
def Valid (info : SubStats) : Prop :=
  ¬ found.Slow info ∧ ¬ found.Reconnecting info

instance : DecidablePred found.Valid :=
  fun _ => inferInstanceAs (Decidable (_ ∧ _))

def validClients : List SubStats :=
  found.clients.filter found.Valid

section OneClient

variable {found} {msgCntPubTx} (totals : Totals) {info : SubStats}

theorem addClient_of_valid (valid : found.Valid info) :
    (found.addClient msgCntPubTx totals info).plain =
        Collected.addClient msgCntPubTx totals.plain info.toClientStats ∧
      (found.addClient msgCntPubTx totals info).validClientCnt =
        totals.validClientCnt + 1 := by
  rw [addClient, if_neg valid.1, if_neg valid.2, Collected.addClient]
  split_ifs <;> exact ⟨rfl, rfl⟩

/-- Slow and reconnecting clients do not show in the other totals. -/
theorem addClient_of_not_valid (unusual : ¬ found.Valid info) :
    (found.addClient msgCntPubTx totals info).plain = totals.plain ∧
      (found.addClient msgCntPubTx totals info).validClientCnt =
        totals.validClientCnt := by
  rw [addClient]
  by_cases slow : found.Slow info
  · rw [if_pos slow]
    exact ⟨rfl, rfl⟩
  · have reconnecting : found.Reconnecting info := by
      by_contra steady
      exact unusual ⟨slow, steady⟩
    rw [if_neg slow, if_pos reconnecting]
    exact ⟨rfl, rfl⟩

end OneClient

/-- On the plain totals the loop is the plain loop over the valid clients. -/
theorem totals_plain :
    (found.totals msgCntPubTx).plain =
      (found.validClients.map SubStats.toClientStats).foldl
        (Collected.addClient msgCntPubTx) {} := by
  rw [List.foldl_map]
  exact foldl_view (fun totals _ valid => (addClient_of_valid totals valid).1)
    (fun totals _ unusual => (addClient_of_not_valid totals unusual).1) _ _

theorem totals_validClientCnt :
    (found.totals msgCntPubTx).validClientCnt = found.validClients.length := by
  have counted : (found.totals msgCntPubTx).validClientCnt =
      ({} : Totals).validClientCnt + found.validClients.length :=
    foldl_counts (fun totals _ valid => (addClient_of_valid totals valid).2)
      (fun totals _ unusual => (addClient_of_not_valid totals unusual).2) _ _
  exact counted.trans (Nat.zero_add _)

theorem totals_clientsPacketCount :
    (found.totals msgCntPubTx).clientsPacketCount =
      (found.validClients.map fun info => info.msgCnt).sum := by
  have counted := congrArg PlainTotals.clientsPacketCount
    (found.totals_plain msgCntPubTx)
  rw [Collected.foldl_addClient_clientsPacketCount, List.map_map,
    Nat.zero_add] at counted
  exact counted

theorem totals_badClients :
    (found.totals msgCntPubTx).badClients =
      (found.validClients.filter
        fun info => info.msgCnt ≠ msgCntPubTx).length := by
  have counted := congrArg PlainTotals.badClients
    (found.totals_plain msgCntPubTx)
  rw [Collected.foldl_addClient_badClients, List.filter_map, List.length_map,
    Nat.zero_add] at counted
  exact counted

end Findings

section Losses

variable {found : Findings} {msgCntPubTx : Nat}

/-- The number of valid clients whose count differs from the publisher's. -/
def Findings.failingClients (found : Findings) (msgCntPubTx : Nat) : Nat :=
  (found.validClients.filter fun info => info.msgCnt ≠ msgCntPubTx).length

/-- The percentage that the valid clients missed. -/
def Findings.lossPercent (found : Findings) (msgCntPubTx : Nat) : ℚ :=
  shortfallPercent (msgCntPubTx : ℚ)
    (((found.validClients.map fun info => info.msgCnt).sum : ℕ) /
      (found.validClients.length : ℕ))

/-- If no valid client received more than was sent, the loss is a percentage,
and it is zero exactly if every valid client received everything. -/
theorem lossPercent_bounds (sent : 0 < msgCntPubTx)
    (any : found.validClients ≠ [])
    (received : ∀ info ∈ found.validClients, info.msgCnt ≤ msgCntPubTx) :
    0 ≤ found.lossPercent msgCntPubTx ∧ found.lossPercent msgCntPubTx ≤ 100 ∧
      (found.lossPercent msgCntPubTx = 0 ↔
        found.failingClients msgCntPubTx = 0) := by
  have sentPos : (0 : ℚ) < msgCntPubTx := Nat.cast_pos.mpr sent
  have clientsPos : (0 : ℚ) < found.validClients.length :=
    Nat.cast_pos.mpr (List.length_pos_of_ne_nil any)
  have within := sum_le_length_mul received
  refine ⟨shortfallPercent_nonneg sentPos ?_,
    shortfallPercent_le_hundred sentPos ?_, ?_⟩
  · rw [div_le_iff₀ clientsPos, mul_comm]
    exact_mod_cast within
  · exact div_nonneg (Nat.cast_nonneg _) clientsPos.le
  · have noneFail : found.failingClients msgCntPubTx = 0 ↔
        ∀ info ∈ found.validClients, info.msgCnt = msgCntPubTx := by
      rw [Findings.failingClients, List.length_eq_zero_iff,
        List.filter_eq_nil_iff]
      simp only [ne_eq, decide_eq_true_eq, not_not]
    rw [Findings.lossPercent, shortfallPercent_eq_zero_iff sentPos, noneFail,
      ← sum_eq_length_mul_iff received, div_eq_iff clientsPos.ne', mul_comm]
    exact_mod_cast Iff.rfl

end Losses

section Results

variable {found : Findings} {pubData : PubStats}

theorem logUnusual_ok {msgCntPubTx : Nat} (sent : msgCntPubTx ≠ 0)
    (clients packets : Nat) (rate : PyNumber) :
    logUnusual msgCntPubTx clients packets rate = .ok () := by
  by_cases none : clients = 0
  · exact if_pos none
  · rw [logUnusual, if_neg none, packetLoss_eq sent none,
      divide_of_ne (value_natCast_ne none),
      divide_of_ne (value_natCast_ne none)]
    rfl

theorem logTotals_ok {msgCntPubTx : Nat} {totals : Totals}
    (sent : msgCntPubTx ≠ 0) (any : totals.validClientCnt ≠ 0) :
    logTotals msgCntPubTx totals = .ok () := by
  rw [logTotals, logFailing_ok, divide_of_ne (value_natCast_ne any),
    divide_of_ne (value_natCast_ne any), logUnusual_ok sent, logUnusual_ok sent]
  rfl

theorem logTotals_error {msgCntPubTx : Nat} {totals : Totals}
    (none : totals.validClientCnt = 0) :
    logTotals msgCntPubTx totals = .error .zeroDivisionError := by
  have zero : (totals.validClientCnt : PyNumber).value = 0 := by
    rw [none, PyNumber.value_natCast, Nat.cast_zero]
  rw [logTotals, logFailing_ok, divide_of_eq zero]
  rfl

/-- With a valid client the results are the common figures, averaged over the
valid clients, and their number. -/
theorem resultParser_ok (publisher : firstValue found.pubStats = .ok pubData)
    (sent : 0 < pubData.msgCnt)
    (lasting : pubData.timeStart.value < pubData.timeEnd.value)
    (any : found.validClients ≠ []) :
    ∃ result, resultParser found = .ok result ∧
      result.lookup "valid_client_cnt" = some (found.validClients.length : PyNumber) ∧
      EntryLists.AgreeExcept "valid_client_cnt" result
        (figures pubData found.clients.length found.validClients.length
          (found.totals pubData.msgCnt).plain) := by
  have counted := found.totals_validClientCnt pubData.msgCnt
  have nonzero : (found.totals pubData.msgCnt).validClientCnt ≠ 0 := by
    rw [counted]
    exact fun zero => any (List.length_eq_zero_iff.mp zero)
  have numSubs : found.clients.length = found.subStats.entries.length :=
    List.length_map _
  refine ⟨?result, ?parsed, ?counts, ?agree⟩
  case parsed =>
    simp only [resultParser, publisher, ok_bind,
      logTotals_ok sent.ne' nonzero, addFailingRate_eq,
      divide_of_ne (value_natCast_ne nonzero),
      packetLoss_eq sent.ne' nonzero, addPubUsage_eq lasting]
    rfl
  case counts =>
    rw [lookup_withPubUsage (by decide), AList.lookup_insert_ne (by decide),
      lookup_withFailingRate (by decide), AList.lookup_insert, counted]
  case agree =>
    rw [numSubs, ← counted]
    exact agreeExcept_withPubUsage ((agreeExcept_withFailingRate
      ((EntryLists.AgreeExcept.refl _ _).insert_left _) _ _).insert _ _) _

/-- Without a valid client the averages divide by zero. -/
theorem resultParser_error
    (publisher : firstValue found.pubStats = .ok pubData)
    (none : found.validClients = []) :
    resultParser found = .error .zeroDivisionError := by
  have zero : (found.totals pubData.msgCnt).validClientCnt = 0 := by
    rw [found.totals_validClientCnt, none, List.length_nil]
  simp only [resultParser, publisher, ok_bind, logTotals_error zero]
  rfl

theorem validClients_ne_nil_iff :
    found.validClients ≠ [] ↔ ∃ info ∈ found.clients, found.Valid info := by
  rw [Findings.validClients, ne_eq, List.filter_eq_nil_iff]
  simp only [decide_eq_true_eq, not_forall, not_not, exists_prop]

/-- A publisher that sent something in some time leaves results exactly if some
client is neither slow nor silent nor reconnecting. -/
theorem resultParser_returns_iff
    (publisher : firstValue found.pubStats = .ok pubData)
    (sent : 0 < pubData.msgCnt)
    (lasting : pubData.timeStart.value < pubData.timeEnd.value) :
    (∃ result, resultParser found = .ok result) ↔
      ∃ info ∈ found.clients, found.Valid info := by
  rw [← validClients_ne_nil_iff]
  constructor
  · rintro ⟨result, parsed⟩ none
    rw [resultParser_error publisher none] at parsed
    cases parsed
  · intro any
    obtain ⟨result, parsed, -⟩ := resultParser_ok publisher sent lasting any
    exact ⟨result, parsed⟩

/-- What the result says about the clients: each is counted once, the failing
ones are the valid ones that missed or doubled messages, and the loss is a
percentage that is zero exactly if no client failed. -/
structure Accounts (found : Findings) (pubData : PubStats)
    (result : Dict PyNumber) : Prop where
  clientCount : result.lookup "client_count" =
    some (found.clients.length : PyNumber)
  validClientCnt : result.lookup "valid_client_cnt" =
    some (found.validClients.length : PyNumber)
  countedOnce : found.clients.length = found.validClients.length +
    (found.clients.filter fun info => found.Slow info).length +
    (found.clients.filter fun info =>
      ¬ found.Slow info ∧ found.Reconnecting info).length
  failingClients : result.lookup "failing_clients" =
    some (found.failingClients pubData.msgCnt : PyNumber)
  averagePacketLoss :
    (∀ info ∈ found.validClients, info.msgCnt ≤ pubData.msgCnt) →
    ∃ loss, result.lookup "average_packet_loss" = some loss ∧
      0 ≤ loss.value ∧ loss.value ≤ 100 ∧
      (loss.value = 0 ↔ found.failingClients pubData.msgCnt = 0)

/-- With a valid client `result_parser` returns, and its result accounts for
every client. -/
theorem resultParser_accounts
    (publisher : firstValue found.pubStats = .ok pubData)
    (sent : 0 < pubData.msgCnt)
    (lasting : pubData.timeStart.value < pubData.timeEnd.value)
    (any : ∃ info ∈ found.clients, found.Valid info) :
    ∃ result, resultParser found = .ok result ∧
      Accounts found pubData result := by
  rw [← validClients_ne_nil_iff] at any
  obtain ⟨result, parsed, validCnt, agree⟩ :=
    resultParser_ok publisher sent lasting any
  refine ⟨result, parsed, ?_, validCnt, ?_, ?_, ?_⟩
  · rw [agree _ (by decide), figures_clientCount]
  · exact length_eq_neither_add_first_add_second found.Slow found.Reconnecting
      found.clients
  · rw [agree _ (by decide), figures_failingClients]
    exact congrArg (fun count : Nat => some (count : PyNumber))
      (found.totals_badClients pubData.msgCnt)
  · intro received
    refine ⟨.float (found.lossPercent pubData.msgCnt), ?_,
      lossPercent_bounds sent any received⟩
    rw [agree _ (by decide), figures_averagePacketLoss]
    exact congrArg (fun packets : Nat => some (PyNumber.float (shortfallPercent
      (pubData.msgCnt : ℚ) ((packets : ℚ) / found.validClients.length))))
      (found.totals_clientsPacketCount pubData.msgCnt)

end Results

/-- A publisher that sent 10000 messages in ten seconds. -/
def tenSeconds : PubStats where
  rate := .float 1000
  msgCnt := 10000
  timeStart := .float 0
  timeEnd := .float 10

def subscriber (taskId : String) (rate : ℚ) (msgCnt : Nat) : SubStats where
  rate := .float rate
  msgCnt := msgCnt
  taskId := taskId
  reconnectCnt := 0

/-- Four clients: one misses messages, one is slow, one receives nothing and
one reconnects. -/
def mixedClients : Findings where
  pubStats := AList.singleton "10.0.0.1:15556" tenSeconds
  subStats := (((AList.singleton "10.0.0.2:31000"
    (subscriber "sub_PORT31000" 900 9000)).insert "10.0.0.2:31001"
    (subscriber "sub_PORT31001" 50 500)).insert "10.0.0.2:31002"
    (subscriber "sub_PORT31002" 0 0)).insert "10.0.0.2:31003"
    (subscriber "sub_PORT31003" 800 8000)
  slowClients := some {"sub_PORT31001"}
  recClients := some {"sub_PORT31003", "sub_PORT31002"}

theorem mixedClients_accounts :
    ∃ result, resultParser mixedClients = .ok result ∧
      Accounts mixedClients tenSeconds result :=
  resultParser_accounts rfl (by decide) (by decide)
    ⟨subscriber "sub_PORT31000" 900 9000, by decide, by decide⟩

theorem mixedClients_returns :
    (∃ result, resultParser mixedClients = .ok result) ↔
      ∃ info ∈ mixedClients.clients, mixedClients.Valid info :=
  resultParser_returns_iff
    (rfl : firstValue mixedClients.pubStats = .ok tenSeconds)
    (by decide) (by decide)

/-- The only client received nothing. -/
def silentClient : Findings where
  pubStats := AList.singleton "10.0.0.1:15556" tenSeconds
  subStats := AList.singleton "10.0.0.2:31000" (subscriber "sub_PORT31000" 0 0)

theorem silentClient_no_result :
    ¬ ∀ (found : Findings) (pubData : PubStats),
      firstValue found.pubStats = .ok pubData → 0 < pubData.msgCnt →
      pubData.timeStart.value < pubData.timeEnd.value →
      found.clients ≠ [] → (∀ info ∈ found.clients, 0 ≤ info.rate.value) →
      ∃ result, resultParser found = .ok result := by
  intro returns
  obtain ⟨result, parsed⟩ := returns silentClient tenSeconds rfl (by decide)
    (by decide) (by decide) (by decide)
  rw [resultParser_error
    (rfl : firstValue silentClient.pubStats = .ok tenSeconds)
    (by decide)] at parsed
  cases parsed

end RunTestZMQ

end MScale
