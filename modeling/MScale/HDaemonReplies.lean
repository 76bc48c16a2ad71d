import MScale.HDaemonRepSrv
import MScale.HydraWire

/-!
# One readable reply to every request

The master waits for exactly one reply to each of its requests and parses it
as a response message.  This file determines the request sequences for which
the daemon does that and stays able to serve the next request.
-/

namespace MScale

namespace HDaemonRepSrv

variable {FloatNum HandlerState : Type}

/-- The loop waits for a request and can parse it. -/
def Ready (loop : RepLoop FloatNum HandlerState) : Prop :=
  loop.phase = .running ∧ ∃ message, loop.msg = .message message

/-- A round sent exactly one reply, a serialized response that the analyser
reads. -/
def RepliedOnce (protobuf : Protobuf FloatNum)
    (before after : RepLoop FloatNum HandlerState) : Prop :=
  ∃ message, after.sent =
      before.sent ++ [protobuf.serializeResponse message] ∧
    ∃ result, HAnalyser.doRespOnly protobuf
      (some (protobuf.serializeResponse message)) = .ok result

/-- Every request gets exactly one readable reply, and after each reply the
loop is ready for the next request. -/
def ServesEach (protobuf : Protobuf FloatNum)
    (cbfn : Dict (Handler FloatNum HandlerState)) :
    RepLoop FloatNum HandlerState → List Bytes → Prop
  | _, [] => True
  | loop, rawMessage :: later =>
      let next := serve protobuf cbfn loop rawMessage
      RepliedOnce protobuf loop next ∧ Ready next ∧
        ServesEach protobuf cbfn next later

/-- A handler result whose texts are plain ASCII; nothing is assumed of a
handler that raises. -/
def PlainResult : HandlerResult FloatNum → Prop
  | .returned status msghash =>
      IsAscii status ∧ ∀ entry ∈ msghash.entries,
        IsAscii entry.1 ∧ ∀ text, entry.2 = .other text → IsAscii text
  | .raised _ => True

/-- A result the daemon can send and the analyser can read: the text of a
traceback fits a string field, and the reserved status `exception` comes with
the entry `__r`. -/
def Deliverable (protobuf : Protobuf FloatNum) :
    HandlerResult FloatNum → Prop
  | .returned status msghash =>
      status = "exception" → "__r" ∈ msghash.entries.map Prod.fst
  | .raised traceback => protobuf.acceptsText traceback = true

/-- Every request is a command message for a registered name, and the result
of its handler can be delivered. -/
def OnlyRegistered (protobuf : Protobuf FloatNum)
    (cbfn : Dict (Handler FloatNum HandlerState)) :
    HandlerState → List Bytes → Prop
  | _, [] => True
  | handlerState, rawMessage :: later =>
      ∃ message command fn, protobuf.parseCommand rawMessage = some message ∧
        message.type = .subcmd ∧ message.cmd = some command ∧
        cbfn.lookup command.cmdName = some fn ∧
        Deliverable protobuf
          (fn (kwargs command.argument) handlerState).1 ∧
        OnlyRegistered protobuf cbfn
          (fn (kwargs command.argument) handlerState).2 later

variable {protobuf : Protobuf FloatNum}
variable {cbfn : Dict (Handler FloatNum HandlerState)}
variable {loop : RepLoop FloatNum HandlerState}

theorem respItem_eq_some_name {entry : String × PyValue FloatNum}
    {item : Resp FloatNum} (filled : respItem protobuf entry = some item) :
    item.name = entry.1 := by
  obtain ⟨name, value⟩ := entry
  unfold respItem at filled
  split at filled
  · cases filled
  · cases value with
    | int number => cases filled; rfl
    | float number => cases filled; rfl
    | other text =>
        simp only at filled
        split at filled
        · cases filled; rfl
        · cases filled

theorem respItem_isSome (lawful : protobuf.Lawful)
    {entry : String × PyValue FloatNum} (plainName : IsAscii entry.1)
    (plainText : ∀ text, entry.2 = .other text → IsAscii text) :
    ∃ item, respItem protobuf entry = some item := by
  obtain ⟨name, value⟩ := entry
  have nameAccepted := lawful.accepts_ascii name plainName
  cases value with
  | int number => simp [respItem, nameAccepted]
  | float number => simp [respItem, nameAccepted]
  | other text =>
      have textAccepted := lawful.accepts_ascii text (plainText text rfl)
      simp [respItem, nameAccepted, textAccepted]

theorem mapM_respItem_names {msghash : List (String × PyValue FloatNum)}
    {items : List (Resp FloatNum)}
    (filled : msghash.mapM (respItem protobuf) = some items) :
    items.map NamedValue.name = msghash.map Prod.fst := by
  induction msghash generalizing items with
  | nil =>
      simp only [List.mapM_nil, Option.pure_def, Option.some.injEq] at filled
      subst filled
      rfl
  | cons entry msghash ih =>
      simp only [List.mapM_cons, Option.pure_def, Option.bind_eq_bind,
        Option.bind_eq_some_iff, Option.some.injEq] at filled
      obtain ⟨item, itemEq, items, itemsEq, rfl⟩ := filled
      rw [List.map_cons, List.map_cons, respItem_eq_some_name itemEq,
        ih itemsEq]

theorem mapM_respItem_isSome (lawful : protobuf.Lawful)
    {msghash : List (String × PyValue FloatNum)}
    (plain : ∀ entry ∈ msghash,
      IsAscii entry.1 ∧ ∀ text, entry.2 = .other text → IsAscii text) :
    ∃ items, msghash.mapM (respItem protobuf) = some items := by
  induction msghash with
  | nil => exact ⟨[], rfl⟩
  | cons entry msghash ih =>
      obtain ⟨plainName, plainText⟩ := plain entry (by simp)
      obtain ⟨item, itemEq⟩ := respItem_isSome lawful plainName plainText
      obtain ⟨items, itemsEq⟩ :=
        ih fun other member => plain other (by simp [member])
      exact ⟨item :: items, by simp [List.mapM_cons, itemEq, itemsEq]⟩

/-- The response filled in from a result carries the status and the names. -/
theorem fillResponse_eq_some {sts : String}
    {msghash : List (String × PyValue FloatNum)}
    {rmsg : ResponseMessage FloatNum}
    (filled : fillResponse protobuf sts msghash = some rmsg) :
    rmsg.status = sts ∧
      rmsg.resp.map NamedValue.name = msghash.map Prod.fst := by
  unfold fillResponse at filled
  split at filled
  · cases filled
  · obtain ⟨items, itemsEq, rfl⟩ := Option.map_eq_some_iff.mp filled
    exact ⟨rfl, mapM_respItem_names itemsEq⟩

theorem isAscii_exception : IsAscii "exception" := by decide

theorem isAscii_r : IsAscii "__r" := by decide

/-- A plain result is filled in unless it is a traceback that does not fit a
string field. -/
theorem fillResponse_isSome_iff (lawful : protobuf.Lawful)
    {result : HandlerResult FloatNum} (plain : PlainResult result) :
    (∃ rmsg, fillResponse protobuf (callResult result).1
        (callResult result).2 = some rmsg) ↔
      ∀ traceback, result = .raised traceback →
        protobuf.acceptsText traceback = true := by
  cases result with
  | returned status msghash =>
      obtain ⟨plainStatus, plainEntries⟩ := plain
      obtain ⟨items, itemsEq⟩ := mapM_respItem_isSome lawful plainEntries
      simp [callResult, fillResponse, lawful.accepts_ascii _ plainStatus,
        itemsEq]
  | raised traceback =>
      simp only [callResult, fillResponse,
        lawful.accepts_ascii _ isAscii_exception, Bool.not_true,
        Bool.false_eq_true, if_false, List.mapM_cons, respItem,
        lawful.accepts_ascii _ isAscii_r]
      cases accepted : protobuf.acceptsText traceback <;> simp [accepted]

theorem callHandler_of_filled {fn : Handler FloatNum HandlerState}
    {command : Command FloatNum} {rmsg : ResponseMessage FloatNum}
    (filled : fillResponse protobuf
      (callResult (fn (kwargs command.argument) loop.handlerState).1).1
      (callResult (fn (kwargs command.argument) loop.handlerState).1).2 =
        some rmsg) :
    callHandler protobuf fn command loop =
      { loop with
        rmsg := rmsg
        handlerState := (fn (kwargs command.argument) loop.handlerState).2
        sent := loop.sent ++ [protobuf.serializeResponse rmsg] } := by
  simp [callHandler, filled]

theorem callHandler_of_unfilled {fn : Handler FloatNum HandlerState}
    {command : Command FloatNum}
    (unfilled : fillResponse protobuf
      (callResult (fn (kwargs command.argument) loop.handlerState).1).1
      (callResult (fn (kwargs command.argument) loop.handlerState).1).2 =
        none) :
    callHandler protobuf fn command loop =
      { loop with
        phase := .raised
        handlerState := (fn (kwargs command.argument) loop.handlerState).2 } := by
  simp [callHandler, unfilled]

/-- A call leaves the handlers' state as the handler left it. -/
@[simp]
theorem callHandler_handlerState (fn : Handler FloatNum HandlerState)
    (command : Command FloatNum) :
    (callHandler protobuf fn command loop).handlerState =
      (fn (kwargs command.argument) loop.handlerState).2 := by
  cases filled : fillResponse protobuf
      (callResult (fn (kwargs command.argument) loop.handlerState).1).1
      (callResult (fn (kwargs command.argument) loop.handlerState).1).2 with
  | none => rw [callHandler_of_unfilled filled]
  | some rmsg => rw [callHandler_of_filled filled]

/-- Calling a handler answers the request exactly when its result can be
delivered. -/
theorem callHandler_served_iff (lawful : protobuf.Lawful)
    {fn : Handler FloatNum HandlerState} {command : Command FloatNum}
    (ready : Ready loop)
    (plain : PlainResult (fn (kwargs command.argument) loop.handlerState).1) :
    (RepliedOnce protobuf loop (callHandler protobuf fn command loop) ∧
        Ready (callHandler protobuf fn command loop)) ↔
      Deliverable protobuf
        (fn (kwargs command.argument) loop.handlerState).1 := by
  have filledIff := fillResponse_isSome_iff lawful plain
  cases filled : fillResponse protobuf
      (callResult (fn (kwargs command.argument) loop.handlerState).1).1
      (callResult (fn (kwargs command.argument) loop.handlerState).1).2 with
  | none =>
      rw [callHandler_of_unfilled filled]
      simp only [filled, Ready, reduceCtorEq, false_and, and_false,
        exists_false, false_iff] at filledIff ⊢
      intro deliverable
      apply filledIff
      rintro traceback raised
      rw [raised] at deliverable
      exact deliverable
  | some rmsg =>
      rw [callHandler_of_filled filled]
      obtain ⟨statusEq, namesEq⟩ := fillResponse_eq_some filled
      have readable := HAnalyser.readReply_isOk_iff lawful rmsg
      rw [statusEq, namesEq] at readable
      have accepted := filledIff.mp ⟨rmsg, filled⟩
      generalize (fn (kwargs command.argument) loop.handlerState).1 = result
        at accepted readable ⊢
      have deliverable : Deliverable protobuf result ↔
          ((callResult result).1 = "exception" →
            "__r" ∈ (callResult result).2.map Prod.fst) := by
        cases result with
        | returned status msghash => rfl
        | raised traceback =>
            simp [Deliverable, callResult, accepted traceback rfl]
      rw [deliverable, ← readable]
      constructor
      · rintro ⟨⟨message, sentEq, answer, answerEq⟩, _⟩
        have sameBytes : protobuf.serializeResponse rmsg =
            protobuf.serializeResponse message := by
          simpa using sentEq
        exact ⟨answer, by rw [sameBytes]; exact answerEq⟩
      · rintro ⟨answer, answerEq⟩
        exact ⟨⟨rmsg, rfl, answer, answerEq⟩, ready⟩

/-- A request for a registered name is one call of its handler. -/
theorem serve_of_registered (ready : Ready loop) {rawMessage : Bytes}
    {message : CommandMessage FloatNum} {command : Command FloatNum}
    {fn : Handler FloatNum HandlerState}
    (parsed : protobuf.parseCommand rawMessage = some message)
    (subcmd : message.type = .subcmd) (cmdEq : message.cmd = some command)
    (registered : cbfn.lookup command.cmdName = some fn) :
    serve protobuf cbfn loop rawMessage =
      callHandler protobuf fn command
        { loop with msg := .message message } := by
  obtain ⟨running, current, msgEq⟩ := ready
  simp [serve, running, msgEq, parsed, dispatch, subcmd, cmdEq, registered]

/-- Every other request ends the thread or leaves a text in `msg`. -/
theorem serve_not_ready (ready : Ready loop) {rawMessage : Bytes}
    (unregistered : ¬ ∃ message command fn,
      protobuf.parseCommand rawMessage = some message ∧
        message.type = .subcmd ∧ message.cmd = some command ∧
        cbfn.lookup command.cmdName = some fn) :
    ¬ Ready (serve protobuf cbfn loop rawMessage) := by
  obtain ⟨running, current, msgEq⟩ := ready
  cases parsed : protobuf.parseCommand rawMessage with
  | none => simp [serve, running, msgEq, parsed, Ready]
  | some message =>
      cases typeEq : message.type with
      | stop => simp [serve, running, msgEq, parsed, dispatch, typeEq, Ready]
      | subcmd =>
          cases cmdEq : message.cmd with
          | none =>
              simp [serve, running, msgEq, parsed, dispatch, typeEq, cmdEq,
                sendError, Ready]
          | some command =>
              cases registered : cbfn.lookup command.cmdName with
              | none =>
                  simp [serve, running, msgEq, parsed, dispatch, typeEq,
                    cmdEq, registered, sendError, Ready]
              | some fn =>
                  exact absurd ⟨message, command, fn, parsed, typeEq, cmdEq,
                    registered⟩ unregistered

theorem servesEach_iff_of_ready (lawful : protobuf.Lawful)
    (plain : ∀ name fn, cbfn.lookup name = some fn →
      ∀ arguments handlerState, PlainResult (fn arguments handlerState).1)
    (ready : Ready loop) (rawMessages : List Bytes) :
    ServesEach protobuf cbfn loop rawMessages ↔
      OnlyRegistered protobuf cbfn loop.handlerState rawMessages := by
  induction rawMessages generalizing loop with
  | nil => simp [ServesEach, OnlyRegistered]
  | cons rawMessage later ih =>
      by_cases found : ∃ message command fn,
          protobuf.parseCommand rawMessage = some message ∧
            message.type = .subcmd ∧ message.cmd = some command ∧
            cbfn.lookup command.cmdName = some fn
      · obtain ⟨message, command, fn, parsed, subcmd, cmdEq, registered⟩ :=
          found
        have parsedReady : Ready { loop with msg := .message message } :=
          ⟨ready.1, message, rfl⟩
        have served := callHandler_served_iff lawful parsedReady
          (plain command.cmdName fn registered
            (kwargs command.argument) loop.handlerState)
        simp only [ServesEach, OnlyRegistered,
          serve_of_registered ready parsed subcmd cmdEq registered]
        constructor
        · rintro ⟨replied, nextReady, rest⟩
          refine ⟨message, command, fn, parsed, subcmd, cmdEq, registered,
            served.mp ⟨replied, nextReady⟩, ?_⟩
          rw [ih nextReady, callHandler_handlerState] at rest
          exact rest
        · rintro ⟨message', command', fn', parsed', subcmd', cmdEq',
            registered', deliverable, rest⟩
          cases Option.some.inj (parsed.symm.trans parsed')
          cases Option.some.inj (cmdEq.symm.trans cmdEq')
          cases Option.some.inj (registered.symm.trans registered')
          obtain ⟨replied, nextReady⟩ := served.mpr deliverable
          refine ⟨replied, nextReady, ?_⟩
          rw [ih nextReady, callHandler_handlerState]
          exact rest
      · constructor
        · rintro ⟨_, nextReady, _⟩
          exact absurd nextReady (serve_not_ready ready found)
        · rintro ⟨message, command, fn, parsed, subcmd, cmdEq, registered,
            _, _⟩
          exact absurd ⟨message, command, fn, parsed, subcmd, cmdEq,
            registered⟩ found

/-- The daemon serves a request sequence exactly when every request is a
command for a registered name whose result can be delivered. -/
theorem servesEach_iff (lawful : protobuf.Lawful)
    (plain : ∀ name fn, cbfn.lookup name = some fn →
      ∀ arguments handlerState, PlainResult (fn arguments handlerState).1)
    (handlerState : HandlerState) (rawMessages : List Bytes) :
    ServesEach protobuf cbfn (start handlerState) rawMessages ↔
      OnlyRegistered protobuf cbfn handlerState rawMessages :=
  servesEach_iff_of_ready lawful plain ⟨rfl, _, rfl⟩ rawMessages

/-- The request an analyser sends for a command without arguments. -/
def bareCommand (cmdName : String) : Bytes :=
  HydraWire.encodeCommand ⟨.subcmd, some ⟨cmdName, []⟩⟩

theorem parse_bareCommand (cmdName : String) :
    HydraWire.protobuf.parseCommand (bareCommand cmdName) =
      some ⟨.subcmd, some ⟨cmdName, []⟩⟩ :=
  HydraWire.decodeCommand_encode ⟨.subcmd, some ⟨cmdName, []⟩⟩

/-- A daemon that has registered `ping` only. -/
def pingOnly : Dict (Handler HydraWire.Float32Bytes Unit) :=
  (∅ : Dict (Handler HydraWire.Float32Bytes Unit)).insert "ping"
    fun _ handlerState =>
      (.returned "ok" (.value (.other "pong")), handlerState)

theorem pingOnly_plain (name : String)
    (fn : Handler HydraWire.Float32Bytes Unit)
    (registered : pingOnly.lookup name = some fn)
    (arguments : Dict (KwArg HydraWire.Float32Bytes)) (handlerState : Unit) :
    PlainResult (fn arguments handlerState).1 := by
  by_cases isPing : name = "ping"
  · subst isPing
    rw [pingOnly, AList.lookup_insert] at registered
    cases registered
    refine ⟨by decide, ?_⟩
    intro entry member
    cases List.mem_singleton.mp member
    refine ⟨by decide, ?_⟩
    intro text textEq
    cases textEq
    decide
  · rw [pingOnly, AList.lookup_insert_ne isPing, AList.lookup_empty]
      at registered
    cases registered

theorem pingOnly_lookup_reset : pingOnly.lookup "reset" = none := by
  rw [pingOnly, AList.lookup_insert_ne (by decide), AList.lookup_empty]

/-- After an unknown command the daemon dies at the next ping: `msg` holds the
error text. -/
theorem pingOnly_dies_after_unknown :
    HydraWire.protobuf.Lawful ∧
      (∀ rawMessage ∈ [bareCommand "reset", bareCommand "ping"],
        ∀ message, HydraWire.protobuf.parseCommand rawMessage = some message →
          message.type ≠ .stop) ∧
      (serve HydraWire.protobuf pingOnly
        (serve HydraWire.protobuf pingOnly (start ()) (bareCommand "reset"))
        (bareCommand "ping")).phase = .raised ∧
      ¬ ServesEach HydraWire.protobuf pingOnly (start ())
        [bareCommand "reset", bareCommand "ping"] := by
  have afterReset : serve HydraWire.protobuf pingOnly (start ())
      (bareCommand "reset") =
        sendError { start () with
          msg := .message ⟨.subcmd, some ⟨"reset", []⟩⟩ }
          (unknownCommand "reset") := by
    simp [serve, start, parse_bareCommand, dispatch, pingOnly_lookup_reset]
  refine ⟨HydraWire.protobuf_lawful, ?_, ?_, ?_⟩
  · intro rawMessage member message parsed
    simp only [List.mem_cons, List.not_mem_nil, or_false] at member
    rcases member with rfl | rfl <;>
      cases (parse_bareCommand _).symm.trans parsed <;> simp
  · rw [afterReset]
    rfl
  · rintro ⟨_, ⟨_, message, msgEq⟩, _⟩
    rw [afterReset] at msgEq
    cases msgEq

theorem onlyRegistered_ping_cons (later : List Bytes) :
    OnlyRegistered HydraWire.protobuf pingOnly ()
        (bareCommand "ping" :: later) ↔
      OnlyRegistered HydraWire.protobuf pingOnly () later := by
  constructor
  · rintro ⟨_, _, _, _, _, _, _, _, served⟩
    exact served
  · intro served
    exact ⟨_, _, _, parse_bareCommand "ping", rfl, rfl, AList.lookup_insert _,
      fun isException => absurd isException (by decide), served⟩

/-- Three pings are served; with an unknown command among them they are
not. -/
theorem pingOnly_servesEach :
    ServesEach HydraWire.protobuf pingOnly (start ())
        [bareCommand "ping", bareCommand "ping", bareCommand "ping"] ∧
      ¬ ServesEach HydraWire.protobuf pingOnly (start ())
        [bareCommand "ping", bareCommand "reset", bareCommand "ping"] := by
  constructor
  · rw [servesEach_iff HydraWire.protobuf_lawful pingOnly_plain]
    simp only [onlyRegistered_ping_cons]
    trivial
  · rw [servesEach_iff HydraWire.protobuf_lawful pingOnly_plain,
      onlyRegistered_ping_cons]
    rintro ⟨message, command, fn, parsed, _, cmdEq, registered, _⟩
    cases (parse_bareCommand "reset").symm.trans parsed
    cases cmdEq
    cases pingOnly_lookup_reset.symm.trans registered

end HDaemonRepSrv

end MScale
