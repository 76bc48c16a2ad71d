import MScale.HAnalyser

/-!
# The command loop of the daemon

`HDaemonRepSrv.start` receives requests on a REP socket, calls the registered
handlers and answers.  Two message objects are reused from one request to the
next, so the embedding carries them in the loop state.  A request that makes
the loop raise ends the server thread.
-/

namespace MScale

namespace HDaemonRepSrv

variable {FloatNum HandlerState : Type}

/-- An argument as the handlers receive it. -/
inductive KwArg (FloatNum : Type)
  | int (number : Int64)
  | float (number : FloatNum)
  | str (text : String)
  | true
  deriving DecidableEq, Repr

/-- The second component of a handler's result: a dict, with its keys as
`str(key)`, or any other value. -/
inductive MsgHash (FloatNum : Type)
  | dict (entries : List (String × PyValue FloatNum))
  | value (result : PyValue FloatNum)
  deriving DecidableEq, Repr

/-- A handler returns a status with its result, or raises; then the daemon
sees the text of the traceback. -/
inductive HandlerResult (FloatNum : Type)
  | returned (status : String) (msghash : MsgHash FloatNum)
  | raised (traceback : String)
  deriving DecidableEq, Repr

/-- A registered function.  It may change the state it shares with the other
handlers and with the program the daemon runs in. -/
abbrev Handler (FloatNum HandlerState : Type) :=
  Dict (KwArg FloatNum) → HandlerState → HandlerResult FloatNum × HandlerState

/-- `msghash`: a result that is not a dict is wrapped under `__r`. -/
def MsgHash.entries : MsgHash FloatNum → List (String × PyValue FloatNum)
  | .dict entries => entries
  | .value result => [("__r", result)]

/-- The variable `msg`: the reused message object, until an error text is
assigned to it. -/
inductive MsgVar (FloatNum : Type)
  | message (message : CommandMessage FloatNum)
  | text (text : String)

inductive LoopPhase
  | running
  | stopped
  | raised
  deriving DecidableEq, Repr

/-- The server thread between two requests, with the replies sent so far. -/
structure RepLoop (FloatNum HandlerState : Type) where
  phase : LoopPhase
  msg : MsgVar FloatNum
  rmsg : ResponseMessage FloatNum
  handlerState : HandlerState
  sent : List Bytes

/-! ## The error reply -/

def hexDigit (number : Nat) : Char :=
  if number < 10 then Char.ofNat (number + 48) else Char.ofNat (number + 87)

def unicodeEscape (number : Nat) : List Char :=
  ['\\', 'u', hexDigit (number / 4096), hexDigit (number / 256 % 16),
    hexDigit (number / 16 % 16), hexDigit (number % 16)]

/-- `json.dumps` of one character of a string. -/
def jsonChar (char : Char) : List Char :=
  if char = '"' then ['\\', '"']
  else if char = '\\' then ['\\', '\\']
  else if char = '\n' then ['\\', 'n']
  else if char = '\r' then ['\\', 'r']
  else if char = '\t' then ['\\', 't']
  else if char.toNat = 8 then ['\\', 'b']
  else if char.toNat = 12 then ['\\', 'f']
  else if 32 ≤ char.toNat ∧ char.toNat < 127 then [char]
  else if char.toNat < 65536 then unicodeEscape char.toNat
  else
    -- Beyond the basic plane a surrogate pair is written.
    unicodeEscape (55296 + (char.toNat - 65536) / 1024) ++
      unicodeEscape (56320 + (char.toNat - 65536) % 1024)

def jsonString (text : String) : List Char :=
  ['"'] ++ text.toList.flatMap jsonChar ++ ['"']

/-- `json.dumps([status, msg])`. -/
def jsonDumps (status msg : String) : Bytes :=
  (['['] ++ jsonString status ++ [',', ' '] ++ jsonString msg ++ [']']).map
    fun char => UInt8.ofNat char.toNat

def unknownCommand (cmdName : String) : String :=
  "UNKNOWN message [" ++ cmdName ++ "] received... "

def missingCommand : String :=
  "UNKNOWN message with not cmd field received... "

/-- The error branch: the text replaces the message object in `msg`. -/
def sendError (loop : RepLoop FloatNum HandlerState) (text : String) :
    RepLoop FloatNum HandlerState :=
  { loop with
    msg := .text text
    sent := loop.sent ++ [jsonDumps "error" text] }

/-! ## Calling a handler -/

/-- The keyword argument decoded from one command argument. -/
def kwArg (targ : CommandArgs FloatNum) : KwArg FloatNum :=
  match targ.intValue, targ.floatValue, targ.strValue with
  | some number, _, _ => .int number
  | none, some number, _ => .float number
  | none, none, some text => .str text
  | none, none, none => .true

def kwargs (arguments : List (CommandArgs FloatNum)) : Dict (KwArg FloatNum) :=
  arguments.foldl (fun kwargs targ => kwargs.insert targ.name (kwArg targ)) ∅

/-- `sts` and the entries of `msghash` after the call. -/
def callResult :
    HandlerResult FloatNum → String × List (String × PyValue FloatNum)
  | .returned status msghash => (status, msghash.entries)
  | .raised traceback => ("exception", [("__r", .other traceback)])

/-- The item added to the response for one entry of `msghash`; `none` where
the assignment to a string field raises. -/
def respItem (protobuf : Protobuf FloatNum)
    (entry : String × PyValue FloatNum) : Option (Resp FloatNum) :=
  if !protobuf.acceptsText entry.1 then none
  else
    match entry.2 with
    | .int number => some { name := entry.1, intValue := some number }
    | .float number =>
        some { name := entry.1, floatValue := some (protobuf.narrow number) }
    | .other text =>
        if protobuf.acceptsText text then
          some { name := entry.1, strValue := some text }
        else none

/-- `rmsg` filled in from the result of a handler. -/
def fillResponse (protobuf : Protobuf FloatNum) (sts : String)
    (msghash : List (String × PyValue FloatNum)) :
    Option (ResponseMessage FloatNum) :=
  if !protobuf.acceptsText sts then none
  else (msghash.mapM (respItem protobuf)).map fun resp => ⟨sts, resp⟩

/-- The last branch: call the handler and send its result. -/
def callHandler (protobuf : Protobuf FloatNum)
    (fn : Handler FloatNum HandlerState) (command : Command FloatNum)
    (loop : RepLoop FloatNum HandlerState) : RepLoop FloatNum HandlerState :=
  let called := fn (kwargs command.argument) loop.handlerState
  let result := callResult called.1
  match fillResponse protobuf result.1 result.2 with
  | none => { loop with phase := .raised, handlerState := called.2 }
  | some rmsg =>
      { loop with
        rmsg := rmsg
        handlerState := called.2
        sent := loop.sent ++ [protobuf.serializeResponse rmsg] }

/-- The branches after a request was parsed. -/
def dispatch (protobuf : Protobuf FloatNum)
    (cbfn : Dict (Handler FloatNum HandlerState))
    (message : CommandMessage FloatNum)
    (loop : RepLoop FloatNum HandlerState) : RepLoop FloatNum HandlerState :=
  match message.type with
  | .stop => { loop with phase := .stopped }
  | .subcmd =>
      match message.cmd with
      | none => sendError loop missingCommand
      | some command =>
          match cbfn.lookup command.cmdName with
          | none => sendError loop (unknownCommand command.cmdName)
          | some fn => callHandler protobuf fn command loop

/-- One round of the loop of `start` with the received `rawMessage`. -/
def serve (protobuf : Protobuf FloatNum)
    (cbfn : Dict (Handler FloatNum HandlerState))
    (loop : RepLoop FloatNum HandlerState) (rawMessage : Bytes) :
    RepLoop FloatNum HandlerState :=
  match loop.phase, loop.msg with
  | .running, .message _ =>
      match protobuf.parseCommand rawMessage with
      | none => { loop with phase := .raised }
      | some message =>
          dispatch protobuf cbfn message { loop with msg := .message message }
  | .running, .text _ =>
      -- A text has no `ParseFromString`.
      { loop with phase := .raised }
  | _, _ => loop

/-- The loop before the first request. -/
def start (handlerState : HandlerState) : RepLoop FloatNum HandlerState where
  phase := .running
  msg := .message ⟨.subcmd, none⟩
  rmsg := ⟨"", []⟩
  handlerState := handlerState
  sent := []

end HDaemonRepSrv

end MScale
