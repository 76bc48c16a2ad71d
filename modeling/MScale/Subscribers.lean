import MScale.HDZmqpRepSrv
import MScale.ResultParsers
import MScale.ZmqPub

/-!
# The subscribers

The subscriber of the ZMQ test exists in Python and in C++, that of the RabbitMQ
test in Python.  Each notes the times of the first and of the last message since
its statistics were reset, and computes a rate from them when it is asked for
its statistics.  This file embeds the three programs as they handle commands and
messages one at a time.
-/

namespace MScale

open HDZmqpRepSrv (Usage)

/-- The readings of the clock while one message is handled: when it is the
first one, for the last one, and for the test whether to reconnect. -/
structure Readings (Time : Type) where
  first : Time
  last : Time
  reconnect : Time
  deriving DecidableEq, Repr

/-- What a subscriber handles.  `usage` are the readings of `psutil`. -/
inductive SubEvent (Time : Type)
  | resetstats (usage : Usage)
  | getstats (usage : Usage)
  | updateconfig (recvRate reconnectRate : ℚ)
  | arrival (readings : Readings Time)
  deriving DecidableEq, Repr

/-- A value in the statistics of the Python ZMQ subscriber: a number, or the
JSON text of a time or of readings of `psutil`. -/
inductive SubStat
  | number (number : PyNumber)
  | time (time : PyNumber)
  | usage (text : String)
  deriving DecidableEq, Repr

/-! ### `zmq_sub.py` -/

/-- `HDZmqsRepSrv` with the entries of `run_data`.  The rate limit is left out:
it only lets time pass. -/
structure HDZmqsRepSrv where
  msgCnt : Nat
  reconnectCnt : Nat
  reconnectRate : ℚ
  stats : Dict SubStat
  firstMsgTimeR : PyNumber
  lastMsgTimeR : PyNumber

namespace HDZmqsRepSrv

/-- `reset_stats`. -/
def resetStats (usage : Usage) (hd : HDZmqsRepSrv) : HDZmqsRepSrv :=
  { hd with
    stats := ((((((∅ : Dict SubStat).insert "msg_cnt" (.number 0)).insert
      "first_msg_time" (.number 0)).insert "last_msg_time" (.number 0)).insert
      "net:start" (.usage usage.netIoCounters)).insert
      "cpu:start" (.usage usage.cpuTimes)).insert
      "mem:start" (.usage usage.memoryInfo)
    firstMsgTimeR := .int 0
    lastMsgTimeR := .int 1
    msgCnt := 0
    reconnectCnt := 0 }

/-- `get_stats`.  What it wrote before an exception stays. -/
def getStats (usage : Usage) (hd : HDZmqsRepSrv) :
    Except ResultError (String × Dict SubStat) × HDZmqsRepSrv :=
  let stats := ((((hd.stats.insert "msg_cnt" (.number hd.msgCnt)).insert
    "net:end" (.usage usage.netIoCounters)).insert
    "cpu:end" (.usage usage.cpuTimes)).insert
    "mem:end" (.usage usage.memoryInfo)).insert
    "reconnect_cnt" (.number hd.reconnectCnt)
  match divide hd.msgCnt (hd.lastMsgTimeR - hd.firstMsgTimeR) with
  | .error error => (.error error, { hd with stats := stats })
  | .ok rate =>
      let stats := stats.insert "rate" (.number rate)
      (.ok ("ok", stats), { hd with stats := stats })

/-- Python's `int` of a number. -/
def truncate (number : ℚ) : ℤ :=
  number.num.tdiv number.den

/-- The body of the receive loop, and what follows it when it is left to
reconnect. -/
def receive (readings : Readings ℚ) (hd : HDZmqsRepSrv) : HDZmqsRepSrv :=
  let hd :=
    if hd.msgCnt = 0 then
      { hd with
        firstMsgTimeR := .float readings.first
        stats := hd.stats.insert "first_msg_time"
          (.time (.float readings.first)) }
    else hd
  let hd := { hd with
    msgCnt := hd.msgCnt + 1
    lastMsgTimeR := .float readings.last
    stats := hd.stats.insert "last_msg_time" (.time (.float readings.last)) }
  let currentDuration := readings.reconnect - hd.firstMsgTimeR.value
  if hd.reconnectRate ≠ 0 ∧
      truncate (hd.reconnectRate * currentDuration) > hd.reconnectCnt then
    { hd with reconnectCnt := hd.reconnectCnt + 1 }
  else hd

def handle (hd : HDZmqsRepSrv) : SubEvent ℚ → HDZmqsRepSrv
  | .resetstats usage => hd.resetStats usage
  | .getstats usage => (hd.getStats usage).2
  | .updateconfig _ reconnectRate => { hd with reconnectRate := reconnectRate }
  | .arrival readings => hd.receive readings

/-- `__init__` ends with a reset, and `run` makes another one. -/
def initial (usage : Usage) : HDZmqsRepSrv :=
  resetStats usage (resetStats usage ⟨0, 0, 0, ∅, 0, 0⟩)

/-- The program after its first reset and the given events. -/
def run (usage : Usage) (events : List (SubEvent ℚ)) : HDZmqsRepSrv :=
  events.foldl handle (initial usage)

/-- `getstats` is answered `ok` with a rate.  Where `get_stats` raises, the
daemon answers `exception`. -/
def AnswersRate (usage : Usage) (hd : HDZmqsRepSrv) : Prop :=
  ∃ stats rate, (hd.getStats usage).1 = .ok ("ok", stats) ∧
    stats.lookup "rate" = some (.number rate)

end HDZmqsRepSrv

/-! ### `zmq_sub.cc` -/

namespace ZmqSub

open ZmqPub (StatMap textResp commandTypeNumber)

/-- Results of a floating-point division.  Rounding is left out: it makes no
duration zero that was not, and no rate of a whole number of seconds
infinite. -/
inductive CFloat
  | finite (number : ℚ)
  | inf
  | nan
  deriving DecidableEq, Repr

/-- The quotient of two numbers that are not negative. -/
def CFloat.quotient (dividend divisor : ℚ) : CFloat :=
  if divisor ≠ 0 then .finite (dividend / divisor)
  else if dividend = 0 then .nan
  else .inf

structure TestControl where
  msgCnt : UInt64 := 0
  intStats : StatMap UInt64 := []
  floatStats : StatMap CFloat := []
  deriving DecidableEq, Repr

/-- The command `resetstats`. -/
def TestControl.resetStats (tctrl : TestControl) : TestControl where
  msgCnt := 0
  intStats := StatMap.assign "last_msg_time" 0
    (StatMap.assign "first_msg_time" 0 tctrl.intStats)
  floatStats := tctrl.floatStats

/-- The statistics that the command `getstats` reports. -/
def TestControl.getStats (tctrl : TestControl) : TestControl :=
  let last := StatMap.subscript "last_msg_time" tctrl.intStats
  let first := StatMap.subscript "first_msg_time" last.2
  let duration : ℚ := (last.1 - first.1).toNat
  { tctrl with
    intStats := StatMap.assign "msg_cnt" tctrl.msgCnt first.2
    floatStats := StatMap.assign "rate"
      (CFloat.quotient tctrl.msgCnt.toNat duration) tctrl.floatStats }

/-- The entries of the reply to `getstats`. -/
def TestControl.stats (tctrl : TestControl) : List (Resp CFloat) :=
  tctrl.intStats.map (fun stat =>
      { name := stat.1, intValue := some stat.2.toInt64 }) ++
    tctrl.floatStats.map (fun stat =>
      { name := stat.1, floatValue := some stat.2 })

/-- The branch of `process_message` for a command. -/
def processCommand (cmd : Command CFloat) (tctrl : TestControl) :
    TestControl × ResponseMessage CFloat :=
  if cmd.cmdName = "ping" then
    (tctrl, ⟨"ok", textResp "pong"⟩)
  else if cmd.cmdName = "resetstats" then
    (tctrl.resetStats, ⟨"ok", []⟩)
  else if cmd.cmdName = "getstats" then
    (tctrl.getStats, ⟨"ok", tctrl.getStats.stats⟩)
  else
    (tctrl, ⟨"error", textResp
      ("Did not find implemented for Command " ++ cmd.cmdName)⟩)

/-- `process_message` on a message that is parsed as `cmsg`, or not at all. -/
def processMessage (cmsg : Option (CommandMessage CFloat))
    (tctrl : TestControl) : TestControl × ResponseMessage CFloat :=
  match cmsg with
  | none =>
      (tctrl, ⟨"error", textResp "Unable to parse the protobuf string!!!"⟩)
  | some ⟨.subcmd, some cmd⟩ => processCommand cmd tctrl
  | some ⟨type, _⟩ =>
      (tctrl, ⟨"error", textResp
        ("Did not find Command in the message or cmd type[" ++
          commandTypeNumber type ++ "] is incorrect")⟩)

/-- The branch of the main loop for a message from the publisher. -/
def receive (readings : Readings UInt64) (tctrl : TestControl) : TestControl :=
  let intStats :=
    if tctrl.msgCnt = 0 then
      StatMap.assign "first_msg_time" readings.first tctrl.intStats
    else tctrl.intStats
  { tctrl with
    msgCnt := tctrl.msgCnt + 1
    intStats := StatMap.assign "last_msg_time" readings.last intStats }

/-- The message that carries a command without arguments. -/
def commandMessage (cmdName : String) : Option (CommandMessage CFloat) :=
  some ⟨.subcmd, some ⟨cmdName, []⟩⟩

def handle (tctrl : TestControl) : SubEvent UInt64 → TestControl
  | .resetstats _ => (processMessage (commandMessage "resetstats") tctrl).1
  | .getstats _ => (processMessage (commandMessage "getstats") tctrl).1
  | .updateconfig recvRate reconnectRate =>
      (processMessage (some ⟨.subcmd, some ⟨"updateconfig",
        [{ name := "recv_rate", floatValue := some (.finite recvRate) },
          { name := "reconnect_rate",
            floatValue := some (.finite reconnectRate) }]⟩⟩) tctrl).1
  | .arrival readings => receive readings tctrl

/-- The program after the given events. -/
def run (events : List (SubEvent UInt64)) : TestControl :=
  events.foldl handle {}

/-- `getstats` is answered `ok`, and every rate in the answer is finite. -/
def AnswersRate (tctrl : TestControl) : Prop :=
  let reply := (processMessage (commandMessage "getstats") tctrl).2
  reply.status = "ok" ∧ (∃ entry ∈ reply.resp, entry.name = "rate") ∧
    ∀ entry ∈ reply.resp, entry.name = "rate" →
      ∃ rate, entry.floatValue = some (.finite rate)

end ZmqSub

/-! ### `rmq_sub.py` -/

namespace HDRmqsRepSrv

/-- `run_data`; its entry `stats` holds readings of `psutil` at the reset and,
once they were asked for, at the end. -/
structure RunData where
  msgCnt : Nat
  firstMsgTime : PyNumber
  lastMsgTime : PyNumber
  rate : Option PyNumber
  statsStart : Usage
  statsEnd : Option Usage
  deriving DecidableEq, Repr

end HDRmqsRepSrv

structure HDRmqsRepSrv where
  msgCnt : Nat
  runData : HDRmqsRepSrv.RunData
  deriving DecidableEq, Repr

namespace HDRmqsRepSrv

/-- The state after `reset_stats`. -/
def resetStats (usage : Usage) : HDRmqsRepSrv where
  msgCnt := 0
  runData :=
    { msgCnt := 0
      firstMsgTime := .int 0
      lastMsgTime := .int 0
      rate := none
      statsStart := usage
      statsEnd := none }

/-- `get_stats`. -/
def getStats (usage : Usage) (hd : HDRmqsRepSrv) :
    Except ResultError (String × RunData) × HDRmqsRepSrv :=
  let runData := { hd.runData with statsEnd := some usage }
  let duration := runData.lastMsgTime - runData.firstMsgTime
  let computed :=
    if duration.value = 0 then pure (.int 0) else divide runData.msgCnt duration
  match computed with
  | .error error => (.error error, { hd with runData := runData })
  | .ok rate =>
      let runData := { runData with rate := some rate }
      (.ok ("ok", runData), { hd with runData := runData })

/-- `callback`. -/
def callback (readings : Readings ℚ) (hd : HDRmqsRepSrv) : HDRmqsRepSrv :=
  let msgCnt := hd.msgCnt + 1
  let runData :=
    if hd.runData.firstMsgTime.value = 0 then
      { hd.runData with firstMsgTime := .float readings.first }
    else hd.runData
  { msgCnt := msgCnt
    runData :=
      { runData with
        msgCnt := msgCnt
        lastMsgTime := .float readings.last } }

/-- The handler of `updateconfig` is the daemon's own, which does nothing. -/
def handle (hd : HDRmqsRepSrv) : SubEvent ℚ → HDRmqsRepSrv
  | .resetstats usage => resetStats usage
  | .getstats usage => (hd.getStats usage).2
  | .updateconfig _ _ => hd
  | .arrival readings => hd.callback readings

/-- The program after its first reset and the given events. -/
def run (usage : Usage) (events : List (SubEvent ℚ)) : HDRmqsRepSrv :=
  events.foldl handle (resetStats usage)

/-- `getstats` is answered `ok` with a rate. -/
def AnswersRate (usage : Usage) (hd : HDRmqsRepSrv) : Prop :=
  ∃ runData rate, (hd.getStats usage).1 = .ok ("ok", runData) ∧
    runData.rate = some rate

end HDRmqsRepSrv

end MScale
