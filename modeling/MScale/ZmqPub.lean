import MScale.HydraMessages

/-!
# The C++ publisher

The publisher is a single loop.  In each round it answers at most one command,
starts or stops a test as the two flags of the test control demand, and sends
messages until it is time to look for the next command.  Its `sleep` and
`usleep` calls only let time pass, and here time may pass between any two
statements.
-/

namespace MScale

namespace ZmqPub

variable {FloatNum : Type}

/-! ### Statistics -/

/-- A `std::map` with string keys, as the list of its entries in the order of
the keys. -/
abbrev StatMap (Value : Type) := List (String × Value)

/-- `map[key] = value`. -/
def StatMap.assign {Value : Type} (key : String) (value : Value) :
    StatMap Value → StatMap Value
  | [] => [(key, value)]
  | (otherKey, otherValue) :: rest =>
      if key = otherKey then (key, value) :: rest
      else if key < otherKey then
        (key, value) :: (otherKey, otherValue) :: rest
      else (otherKey, otherValue) :: StatMap.assign key value rest

/-- Read `map[key]`, which adds a missing key with the value zero. -/
def StatMap.subscript (key : String) (map : StatMap UInt64) :
    UInt64 × StatMap UInt64 :=
  match map.lookup key with
  | some value => (value, map)
  | none => (0, StatMap.assign key 0 map)

section StatMaps

variable {Value : Type} {key other : String} {value : Value}

theorem StatMap.lookup_assign (key : String) (value : Value)
    (map : StatMap Value) : (StatMap.assign key value map).lookup key =
      some value := by
  induction map with
  | nil => simp [StatMap.assign]
  | cons entry map ih =>
      rw [StatMap.assign]
      split_ifs with same before
      · exact List.lookup_cons_self
      · exact List.lookup_cons_self
      · rw [List.lookup_cons, beq_false_of_ne same]
        exact ih

theorem StatMap.lookup_assign_of_ne (different : other ≠ key)
    (value : Value) (map : StatMap Value) :
    (StatMap.assign key value map).lookup other = map.lookup other := by
  induction map with
  | nil => simp [StatMap.assign, different]
  | cons entry map ih =>
      obtain ⟨entryKey, entryValue⟩ := entry
      rw [StatMap.assign]
      split_ifs with same before
      · rw [List.lookup_cons, List.lookup_cons, ← same,
          beq_false_of_ne different]
      · rw [List.lookup_cons, beq_false_of_ne different]
      · rw [List.lookup_cons, List.lookup_cons, ih]

theorem StatMap.mem_assign {entry : String × Value} {map : StatMap Value}
    (member : entry ∈ StatMap.assign key value map) :
    entry = (key, value) ∨ entry ∈ map := by
  induction map with
  | nil => exact .inl (List.mem_singleton.mp member)
  | cons head map ih =>
      rw [StatMap.assign] at member
      split_ifs at member with same before
      · rcases List.mem_cons.mp member with new | old
        · exact .inl new
        · exact .inr (List.mem_cons_of_mem head old)
      · rcases List.mem_cons.mp member with new | old
        · exact .inl new
        · exact .inr old
      · rcases List.mem_cons.mp member with unchanged | later
        · exact .inr (List.mem_cons.mpr (.inl unchanged))
        · exact (ih later).imp_right (List.mem_cons_of_mem head)

theorem StatMap.subscript_fst (key : String) (map : StatMap UInt64) :
    (StatMap.subscript key map).1 = (map.lookup key).getD 0 := by
  rw [StatMap.subscript]
  cases map.lookup key <;> rfl

/-- A subscript changes no value that a later one reads. -/
theorem StatMap.getD_lookup_subscript (key other : String)
    (map : StatMap UInt64) :
    ((StatMap.subscript key map).2.lookup other).getD 0 =
      (map.lookup other).getD 0 := by
  rw [StatMap.subscript]
  cases found : map.lookup key with
  | some value => rfl
  | none =>
      change ((StatMap.assign key 0 map).lookup other).getD 0 = _
      by_cases same : other = key
      · rw [same, StatMap.lookup_assign, found]
        rfl
      · rw [StatMap.lookup_assign_of_ne same]

/-- Assigning to a key gives no other key an entry. -/
theorem StatMap.assign_lacks {name : String} {map : StatMap Value}
    (lacks : ∀ stat ∈ map, stat.1 ≠ name) (different : key ≠ name)
    (value : Value) : ∀ stat ∈ StatMap.assign key value map, stat.1 ≠ name := by
  intro stat member
  rcases StatMap.mem_assign member with rfl | old
  · exact different
  · exact lacks stat old

theorem StatMap.subscript_lacks {name : String} {map : StatMap UInt64}
    (lacks : ∀ stat ∈ map, stat.1 ≠ name) (different : key ≠ name) :
    ∀ stat ∈ (StatMap.subscript key map).2, stat.1 ≠ name := by
  rw [StatMap.subscript]
  cases map.lookup key with
  | some value => exact lacks
  | none => exact StatMap.assign_lacks lacks different 0

end StatMaps

/-! ### `TestControl` -/

/-- The floating-point operations of the program: `1.0 * a / b` as a `float`,
and the conversion of a `float` to `uint32_t`. -/
structure FloatUnit (FloatNum : Type) where
  quotient : UInt64 → UInt64 → FloatNum
  toUInt32 : FloatNum → UInt32

structure TestControl (FloatNum : Type) where
  publishing : Bool := false
  startPublishing : Bool := false
  intStats : StatMap UInt64 := []
  floatStats : StatMap FloatNum := []
  testDuration : UInt32 := 5
  msgBatch : UInt32 := 100
  msgRequestedRate : UInt32 := 1000
  msgCnt : UInt64 := 0
  deriving DecidableEq, Repr

/-- `start_test` when `std::time(0)` is `now`. -/
def TestControl.startTest (now : UInt64) (tctrl : TestControl FloatNum) :
    TestControl FloatNum :=
  { tctrl with
    floatStats := []
    intStats := StatMap.assign "time:start" now []
    msgCnt := 0 }

/-- The divisor `elapsed_time` of `stop_test` when `std::time(0)` is `now`. -/
def TestControl.elapsedTime (now : UInt64) (tctrl : TestControl FloatNum) :
    UInt64 :=
  now - (StatMap.subscript "time:start"
    (StatMap.assign "time:end" now tctrl.intStats)).1

/-- `stop_test` when `std::time(0)` is `now`. -/
def TestControl.stopTest (floatUnit : FloatUnit FloatNum) (now : UInt64)
    (tctrl : TestControl FloatNum) : TestControl FloatNum :=
  let intStats := (StatMap.subscript "time:start"
    (StatMap.assign "time:end" now tctrl.intStats)).2
  { tctrl with
    floatStats := StatMap.assign "rate"
      (floatUnit.quotient tctrl.msgCnt (tctrl.elapsedTime now)) tctrl.floatStats
    intStats := StatMap.assign "msg_cnt" tctrl.msgCnt intStats }

/-! ### `process_message` -/

/-- The entry `__r` of a reply. -/
def textResp (text : String) : List (Resp FloatNum) :=
  [{ name := "__r", strValue := some text }]

/-- The answer to `teststatus`. -/
def TestControl.status (tctrl : TestControl FloatNum) : String :=
  if tctrl.publishing && tctrl.startPublishing then "running"
  else if tctrl.publishing && !tctrl.startPublishing then "stopping"
  else if !tctrl.publishing && tctrl.startPublishing then "starting"
  else "stopped"

/-- One argument of `updateconfig`.  There is no result where an assertion
fails. -/
def TestControl.updateConfig (floatUnit : FloatUnit FloatNum)
    (tctrl : TestControl FloatNum) (arg : CommandArgs FloatNum) :
    Option (TestControl FloatNum) :=
  if arg.name = "test_duration" then
    arg.intValue.map fun value =>
      { tctrl with testDuration := value.toUInt64.toUInt32 }
  else if arg.name = "msg_batch" then
    arg.intValue.map fun value =>
      { tctrl with msgBatch := value.toUInt64.toUInt32 }
  else if arg.name = "msg_requested_rate" then
    match arg.intValue, arg.floatValue with
    | some value, _ =>
        some { tctrl with msgRequestedRate := value.toUInt64.toUInt32 }
    | none, some value =>
        some { tctrl with msgRequestedRate := floatUnit.toUInt32 value }
    | none, none => none
  else some tctrl

/-- The answer to `getstats`. -/
def TestControl.stats (tctrl : TestControl FloatNum) : List (Resp FloatNum) :=
  tctrl.intStats.map (fun stat =>
      { name := stat.1, intValue := some stat.2.toInt64 }) ++
    tctrl.floatStats.map (fun stat =>
      { name := stat.1, floatValue := some stat.2 })

/-- The number of a command type in a message. -/
def commandTypeNumber : CommandType → String
  | .subcmd => "0"
  | .stop => "2"

/-- The branch for a command.  There is no result where an assertion fails. -/
def processCommand (floatUnit : FloatUnit FloatNum)
    (cmd : Command FloatNum) (tctrl : TestControl FloatNum) :
    Option (TestControl FloatNum × ResponseMessage FloatNum) :=
  if cmd.cmdName = "ping" then
    some (tctrl, ⟨"ok", textResp "pong"⟩)
  else if cmd.cmdName = "teststart" then
    if tctrl.publishing || tctrl.startPublishing then
      some (tctrl, ⟨"error", textResp "test is still running, cant start."⟩)
    else
      some ({ tctrl with startPublishing := true },
        ⟨"ok", textResp "starting"⟩)
  else if cmd.cmdName = "teststatus" then
    some (tctrl, ⟨"ok", textResp tctrl.status⟩)
  else if cmd.cmdName = "updateconfig" then
    (cmd.argument.foldlM (TestControl.updateConfig floatUnit) tctrl).map
      fun updated => (updated, ⟨"ok", []⟩)
  else if cmd.cmdName = "getstats" then
    some (tctrl, ⟨"ok", tctrl.stats⟩)
  else
    some (tctrl, ⟨"error", textResp
      ("Did not find implemented for Command " ++ cmd.cmdName)⟩)

/-- `process_message` on a message that is parsed as `cmsg`, or not at all. -/
def processMessage (floatUnit : FloatUnit FloatNum)
    (cmsg : Option (CommandMessage FloatNum)) (tctrl : TestControl FloatNum) :
    Option (TestControl FloatNum × ResponseMessage FloatNum) :=
  match cmsg with
  | none =>
      some (tctrl, ⟨"error",
        textResp "Unable to parse the protobuf string!!!"⟩)
  | some ⟨.subcmd, some cmd⟩ => processCommand floatUnit cmd tctrl
  | some ⟨type, _⟩ =>
      some (tctrl, ⟨"error", textResp
        ("Did not find Command in the message or cmd type[" ++
          commandTypeNumber type ++ "] is incorrect")⟩)

/-! ### The main loop -/

/-- What the program does that its clients or subscribers can observe, and the
calls of `start_test` and `stop_test`. -/
inductive Event (FloatNum : Type)
  | answered (cmsg : Option (CommandMessage FloatNum))
      (reply : ResponseMessage FloatNum)
  | startedTest (time : UInt64)
  | stoppedTest (time elapsedTime : UInt64)
  | published (message : String)
  deriving DecidableEq, Repr

/-- Where the main loop is: before the poll, before it looks at the two flags,
or at the head of the loop that sends. -/
inductive LoopPoint
  | poll
  | checkFlags
  | publish
  | returned
  | aborted
  deriving DecidableEq, Repr

structure MainLoop (FloatNum : Type) where
  tctrl : TestControl FloatNum
  cnt : UInt32
  startTime : UInt64
  clock : UInt64
  point : LoopPoint
  trace : List (Event FloatNum)
  deriving DecidableEq, Repr

/-- What a poll of the reply socket comes back with. -/
inductive PollResult
  | error
  | nothing
  | message (msg : Bytes)
  deriving DecidableEq

/-- What happens next: the clock advances to a later time, or the program goes
on, where a poll has the given result. -/
inductive Move
  | tick (later : UInt64)
  | execute (polled : PollResult)
  deriving DecidableEq

variable (protobuf : Protobuf FloatNum) (floatUnit : FloatUnit FloatNum)

/-- Poll the reply socket and answer the message found there. -/
def pollCommand (polled : PollResult) (loop : MainLoop FloatNum) :
    MainLoop FloatNum :=
  match polled with
  | .error => { loop with point := .returned }
  | .nothing => { loop with point := .checkFlags }
  | .message msg =>
      match processMessage floatUnit (protobuf.parseCommand msg) loop.tctrl with
      | none => { loop with point := .aborted }
      | some (tctrl, reply) =>
          { loop with
            tctrl := tctrl
            point := .checkFlags
            trace := loop.trace ++
              [.answered (protobuf.parseCommand msg) reply] }

/-- Start or stop a test. -/
def checkFlags (loop : MainLoop FloatNum) : MainLoop FloatNum :=
  if !loop.tctrl.publishing && loop.tctrl.startPublishing then
    let tctrl := { loop.tctrl with publishing := true }
    { loop with
      tctrl := tctrl.startTest loop.clock
      startTime := loop.clock
      cnt := 0
      point := .publish
      trace := loop.trace ++ [.startedTest loop.clock] }
  else if loop.tctrl.publishing && !loop.tctrl.startPublishing then
    let tctrl := { loop.tctrl with publishing := false }
    { loop with
      tctrl := tctrl.stopTest floatUnit loop.clock
      point := .publish
      trace := loop.trace ++
        [.stoppedTest loop.clock (tctrl.elapsedTime loop.clock)] }
  else { loop with point := .publish }

/-- `"%ld msg%ld"`. -/
def messageText (msgCnt : UInt64) : String :=
  toString msgCnt.toInt64.toInt ++ " msg" ++ toString msgCnt.toInt64.toInt

/-- Send one message. -/
def sendMessage (loop : MainLoop FloatNum) : MainLoop FloatNum :=
  { loop with
    tctrl := { loop.tctrl with msgCnt := loop.tctrl.msgCnt + 1 }
    trace := loop.trace ++ [.published (messageText loop.tctrl.msgCnt)] }

/-- One round of the loop that sends.  It is left once for a poll before each
batch is complete, and for good when the test has lasted long enough. -/
def publishOnce (loop : MainLoop FloatNum) : MainLoop FloatNum :=
  let cnt := loop.cnt + 1
  if cnt ≥ loop.tctrl.msgBatch - 1 then
    if cnt = loop.tctrl.msgBatch - 1 then
      { loop with cnt := cnt, point := .poll }
    else if cnt ≥ loop.tctrl.msgBatch then
      let duration := (loop.clock - loop.startTime).toInt64
      if duration > loop.tctrl.testDuration.toUInt64.toInt64 then
        { loop with
          tctrl := { loop.tctrl with startPublishing := false }
          cnt := cnt
          point := .poll }
      else sendMessage { loop with cnt := 0 }
    else sendMessage { loop with cnt := cnt }
  else sendMessage { loop with cnt := cnt }

/-- One move. -/
def step (loop : MainLoop FloatNum) : Move → MainLoop FloatNum
  | .tick later =>
      { loop with clock := if loop.clock ≤ later then later else loop.clock }
  | .execute polled =>
      match loop.point with
      | .poll => pollCommand protobuf floatUnit polled loop
      | .checkFlags => checkFlags floatUnit loop
      | .publish =>
          if loop.tctrl.publishing then publishOnce loop
          else { loop with point := .poll }
      | .returned | .aborted => loop

/-- The state in which the main loop is entered, where the variable
`start_time` has no value yet. -/
def initial (uninitialized clock : UInt64) : MainLoop FloatNum :=
  ⟨{}, 0, uninitialized, clock, .poll, []⟩

/-- The state after the given moves. -/
def run (uninitialized clock : UInt64) (moves : List Move) :
    MainLoop FloatNum :=
  moves.foldl (step protobuf floatUnit) (initial uninitialized clock)

end ZmqPub

end MScale
