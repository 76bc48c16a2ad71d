import MScale.Subscribers
import Mathlib.Data.NNRat.Defs

/-!
# The receive loop of the ZMQ subscriber

`zmq_sub.py` counts the messages of its publisher, notes the indices that it
misses, slows down to its receive rate, and now and then leaves its socket and
connects again.  This file models the loop one statement at a time, between
commands to the daemon and against a clock that it does not control.
-/

namespace MScale

open HDZmqpRepSrv (Usage)

namespace SubscriberLoop

/-! ### Texts -/

/-- The characters at which `split()` cuts a text. -/
def isSpace (char : Char) : Bool :=
  char = ' ' ∨ ('\t' ≤ char ∧ char ≤ '\r')

/-- `split()`. -/
def split (text : String) : List (List Char) :=
  (text.toList.splitOnP isSpace).filter (· ≠ [])

/-- The number that digits stand for. -/
def natOfDigits (digits : List Char) : Option ℤ :=
  if digits ≠ [] ∧ digits.all Char.isDigit then
    some (Nat.ofDigitChars 10 digits 0)
  else none

/-- `int` of a text without spaces. -/
def int : List Char → Option ℤ
  | '-' :: digits => (natOfDigits digits).map fun number => -number
  | '+' :: digits => natOfDigits digits
  | digits => natOfDigits digits

/-! ### The loop -/

/-- The statement that the loop executes next, with the message it handles.  A
sleeping loop is at `sleeping` until the clock reaches the given time. -/
inductive Point
  | connect
  | recv
  | noteFirst (string : String)
  | count (string : String)
  | checkIndex (string : String)
  | noteLast
  | limitRate
  | sleeping (wakeTime : ℚ)
  | reconnect
  | close
  | raised
  deriving DecidableEq, Repr

/-- The daemon, its receive rate, the variable `start_idx`, the indices that
were logged as missing with the one that came instead, and the clock. -/
structure LoopState where
  clock : ℚ
  hd : HDZmqsRepSrv
  recvRate : ℚ
  startIdx : ℤ
  missing : List (ℤ × ℤ)
  point : Point

/-- The commands to the daemon.  `usage` are the readings of `psutil`. -/
inductive SubCommand
  | resetstats (usage : Usage)
  | getstats (usage : Usage)
  | updateconfig (recvRate reconnectRate : ℚ)
  deriving DecidableEq, Repr

def SubCommand.event : SubCommand → SubEvent ℚ
  | resetstats usage => .resetstats usage
  | getstats usage => .getstats usage
  | updateconfig recvRate reconnectRate => .updateconfig recvRate reconnectRate

/-- The daemon handles a command. -/
def handleCommand (command : SubCommand) (loop : LoopState) : LoopState :=
  { loop with
    hd := loop.hd.handle command.event
    recvRate :=
      match command with
      | .updateconfig recvRate _ => recvRate
      | _ => loop.recvRate }

/-- `time.time() - hd.run_data['first_msg_time_r']`. -/
def LoopState.currentDuration (loop : LoopState) : ℚ :=
  loop.clock - loop.hd.firstMsgTimeR.value

/-- What happens next: time passes, a message arrives for the loop that waits
for one, the daemon handles a command, or the loop executes a statement. -/
inductive Move
  | tick (time : ℚ≥0)
  | arrive (string : String)
  | command (command : SubCommand)
  | execute

/-- Execute the next statement. -/
def executeStatement (loop : LoopState) : LoopState :=
  match loop.point with
  | .connect => { loop with point := .recv }
  | .recv => loop
  | .noteFirst string =>
      { loop with
        hd :=
          if loop.hd.msgCnt = 0 then
            { loop.hd with
              firstMsgTimeR := .float loop.clock
              stats := loop.hd.stats.insert "first_msg_time"
                (.time (.float loop.clock)) }
          else loop.hd
        point := .count string }
  | .count string =>
      { loop with
        hd := { loop.hd with msgCnt := loop.hd.msgCnt + 1 }
        point := .checkIndex string }
  | .checkIndex string =>
      match split string with
      | [index, _] =>
          match int index with
          | some iidx =>
              { loop with
                startIdx := iidx + 1
                missing :=
                  if loop.startIdx ≠ iidx then
                    loop.missing ++ [(loop.startIdx, iidx)]
                  else loop.missing
                point := .noteLast }
          | none => { loop with point := .raised }
      | _ => { loop with point := .raised }
  | .noteLast =>
      { loop with
        hd := { loop.hd with
          lastMsgTimeR := .float loop.clock
          stats := loop.hd.stats.insert "last_msg_time"
            (.time (.float loop.clock)) }
        point := .limitRate }
  | .limitRate =>
      let duration := loop.hd.msgCnt / loop.recvRate
      if loop.recvRate ≠ 0 ∧ loop.currentDuration < duration then
        let sleepTime := duration - loop.currentDuration
        let sleepTime := if sleepTime > 1 then 1 else sleepTime
        { loop with point := .sleeping (loop.clock + sleepTime) }
      else { loop with point := .reconnect }
  | .sleeping wakeTime =>
      if wakeTime ≤ loop.clock then { loop with point := .reconnect } else loop
  | .reconnect =>
      let numReconnects := HDZmqsRepSrv.truncate
        (loop.hd.reconnectRate * loop.currentDuration)
      if loop.hd.reconnectRate ≠ 0 ∧ numReconnects > loop.hd.reconnectCnt then
        { loop with point := .close }
      else { loop with point := .recv }
  | .close =>
      { loop with
        hd := { loop.hd with reconnectCnt := loop.hd.reconnectCnt + 1 }
        point := .connect }
  | .raised => loop

/-- One move. -/
def step (loop : LoopState) : Move → LoopState
  | .tick time => { loop with clock := loop.clock + time }
  | .arrive string =>
      if loop.point = .recv then { loop with point := .noteFirst string }
      else loop
  | .command command => handleCommand command loop
  | .execute => executeStatement loop

/-- The state after the given moves. -/
def run (start : LoopState) (moves : List Move) : LoopState :=
  moves.foldl step start

/-- The state in which the loop is entered. -/
def initial (usage : Usage) (clock : ℚ) : LoopState where
  clock := clock
  hd := HDZmqsRepSrv.initial usage
  recvRate := 0
  startIdx := 0
  missing := []
  point := .connect

end SubscriberLoop

end MScale
