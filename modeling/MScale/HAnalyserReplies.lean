import MScale.HAnalyserRequests

/-!
# Results of a command, sent and received

The daemon puts the result of a handler into a response message, wrapping a
result that is not a dict under the name `__r`; the analyser collects the
response into a dict and unwraps it.  Statistics are decoded once more, since
a publisher stores some of them as JSON texts.  This file embeds
`do_req_resp` and `get_stats` and shows that results arrive as the handler
returned them.
-/

namespace MScale

/-- The JSON library: `loads` answers `none` where it raises. -/
structure JsonLib (Json : Type) where
  dumps : Json → String
  loads : String → Option Json
  loadsBytes : Bytes → Option Json

/-- `json.loads` undoes `json.dumps`. -/
structure JsonLib.Lawful {Json : Type} (json : JsonLib Json) : Prop where
  loads_dumps : ∀ value, json.loads (json.dumps value) = some value

namespace HAnalyser

open HDaemonRepSrv

variable {FloatNum Json HandlerState : Type}

/-! ## Requests with a response -/

/-- What the daemon sent between two states, if anything. -/
def replyBetween (before after : RepLoop FloatNum HandlerState) :
    Option Bytes :=
  (after.sent.drop before.sent.length).head?

section Calls

variable (codec : CommandCodec FloatNum)
  (cbfn : Dict (Handler FloatNum HandlerState))

/-- `HAnalyser.do_req_resp` against a daemon in the given state, with the
daemon afterwards; `none` where sending raises. -/
def doReqResp (loop : RepLoop FloatNum HandlerState) (cmd : String)
    (kwargs : Dict (ArgValue FloatNum)) :
    Option (RepLoop FloatNum HandlerState ×
      Except RespError (RespResult FloatNum)) :=
  (doReqOnly codec cmd kwargs).map fun raw =>
    let after := serve codec.toProtobuf cbfn loop raw
    (after, doRespOnly codec.toProtobuf (replyBetween loop after))

/-- A statistic: a value of the response, or decoded JSON. -/
inductive StatValue (FloatNum Json : Type)
  | field (value : FieldValue FloatNum)
  | json (value : Json)
  deriving DecidableEq, Repr

/-- The exceptions of `get_stats`. -/
inductive StatsError
  | resp (error : RespError)
  | assertionError
  | attributeError
  deriving DecidableEq, Repr

/-- `resp[itm]` after the loop of `get_stats`: a text that is JSON is
decoded. -/
def loadsItem (json : JsonLib Json) (value : FieldValue FloatNum) :
    StatValue FloatNum Json :=
  match value with
  | .str text =>
      match json.loads text with
      | some loaded => .json loaded
      | none => .field value
  | .byte content =>
      match json.loadsBytes content with
      | some loaded => .json loaded
      | none => .field value
  | _ => .field value

/-- The part of `get_stats` after the response: a response that is not a dict
has no `keys`. -/
def loadsStats (json : JsonLib Json) :
    Except RespError (RespResult FloatNum) →
      Except StatsError (Dict (StatValue FloatNum Json))
  | .error error => .error (.resp error)
  | .ok .timedOut => .error .assertionError
  | .ok (.reply status body) =>
      if status ≠ "ok" then .error .assertionError
      else
        match body with
        | .single _ => .error .attributeError
        | .dict resp =>
            .ok (EntryLists.fill Sigma.fst
              (fun entry => loadsItem json entry.snd) resp.entries ∅)

/-- `HAnalyser.get_stats`. -/
def getStats (json : JsonLib Json) (loop : RepLoop FloatNum HandlerState) :
    Option (RepLoop FloatNum HandlerState ×
      Except StatsError (Dict (StatValue FloatNum Json))) :=
  (doReqResp codec cbfn loop "getstats" ∅).map fun (after, result) =>
    (after, loadsStats json result)

end Calls

/-! ## Earlier requests -/

/-- Every request is for a registered command and gets a reply. -/
def AnsweredEach (protobuf : Protobuf FloatNum)
    (cbfn : Dict (Handler FloatNum HandlerState)) :
    RepLoop FloatNum HandlerState → List Bytes → Prop
  | _, [] => True
  | loop, rawMessage :: later =>
      (∃ message command fn, protobuf.parseCommand rawMessage = some message ∧
        message.type = .subcmd ∧ message.cmd = some command ∧
        cbfn.lookup command.cmdName = some fn) ∧
      (∃ reply, (serve protobuf cbfn loop rawMessage).sent =
        loop.sent ++ [reply]) ∧
      AnsweredEach protobuf cbfn (serve protobuf cbfn loop rawMessage) later

section Earlier

variable {protobuf : Protobuf FloatNum}
  {cbfn : Dict (Handler FloatNum HandlerState)}
  {loop : RepLoop FloatNum HandlerState}

/-- A daemon that answered a command waits for the next request. -/
theorem ready_of_answered (ready : Ready loop) {rawMessage reply : Bytes}
    (registered : ∃ message command fn,
      protobuf.parseCommand rawMessage = some message ∧
        message.type = .subcmd ∧ message.cmd = some command ∧
        cbfn.lookup command.cmdName = some fn)
    (answered : (serve protobuf cbfn loop rawMessage).sent =
      loop.sent ++ [reply]) :
    Ready (serve protobuf cbfn loop rawMessage) := by
  obtain ⟨message, command, fn, parsed, subcmd, cmdEq, found⟩ := registered
  rw [serve_of_registered ready parsed subcmd cmdEq found] at answered ⊢
  generalize asking : { loop with msg := MsgVar.message message } = parsedLoop
    at answered ⊢
  have running : parsedLoop.phase = .running := by
    rw [← asking]
    exact ready.1
  have msgEq : parsedLoop.msg = .message message := by
    rw [← asking]
  have sentEq : parsedLoop.sent = loop.sent := by
    rw [← asking]
  cases filled : fillResponse protobuf
      (callResult (fn (kwargs command.argument) parsedLoop.handlerState).1).1
      (callResult (fn (kwargs command.argument) parsedLoop.handlerState).1).2 with
  | none =>
      rw [callHandler_of_unfilled filled, ← sentEq] at answered
      have lengthEq := congrArg List.length answered
      simp at lengthEq
  | some rmsg =>
      rw [callHandler_of_filled filled]
      exact ⟨running, message, msgEq⟩

theorem ready_of_answeredEach (ready : Ready loop) {rawMessages : List Bytes}
    (answered : AnsweredEach protobuf cbfn loop rawMessages) :
    Ready (rawMessages.foldl (serve protobuf cbfn) loop) := by
  induction rawMessages generalizing loop with
  | nil => exact ready
  | cons rawMessage later ih =>
      obtain ⟨registered, ⟨reply, replied⟩, answeredLater⟩ := answered
      exact ih (ready_of_answered ready registered replied) answeredLater

end Earlier

/-! ## Plain results -/

/-- A result value as the analyser returns it. -/
def fieldValue (narrow : FloatNum → FloatNum) :
    PyValue FloatNum → FieldValue FloatNum
  | .int number => .int number
  | .float number => .float (narrow number)
  | .other text => .str text

/-- A 64-bit `int`, or a value whose text is ASCII. -/
def PlainValue : PyValue FloatNum → Prop
  | .int _ => True
  | .float _ => False
  | .other text => IsAscii text

/-- Entries with distinct ASCII names and plain values. -/
structure PlainEntries (entries : List (String × PyValue FloatNum)) : Prop where
  distinct : (entries.map Prod.fst).Nodup
  names : ∀ entry ∈ entries, IsAscii entry.1
  values : ∀ entry ∈ entries, PlainValue entry.2

theorem PlainValue.entries {value : PyValue FloatNum}
    (plain : PlainValue value) :
    PlainEntries (MsgHash.value value).entries := by
  constructor
  · exact List.nodup_singleton "__r"
  · intro entry member
    rw [List.mem_singleton.mp member]
    exact isAscii_r
  · intro entry member
    rw [List.mem_singleton.mp member]
    exact plain

section Plain

variable {protobuf : Protobuf FloatNum}

/-- The response item of an entry. -/
def respOf (protobuf : Protobuf FloatNum)
    (entry : String × PyValue FloatNum) : Resp FloatNum :=
  match entry.2 with
  | .int number => { name := entry.1, intValue := some number }
  | .float number =>
      { name := entry.1, floatValue := some (protobuf.narrow number) }
  | .other text => { name := entry.1, strValue := some text }

@[simp]
theorem respOf_name (entry : String × PyValue FloatNum) :
    (respOf protobuf entry).name = entry.1 := by
  obtain ⟨name, value⟩ := entry
  cases value <;> rfl

@[simp]
theorem itemValue_respOf (entry : String × PyValue FloatNum) :
    itemValue (respOf protobuf entry) =
      fieldValue protobuf.narrow entry.2 := by
  obtain ⟨name, value⟩ := entry
  cases value <;> rfl

theorem respItem_of_plain (lawful : protobuf.Lawful)
    {entry : String × PyValue FloatNum} (plainName : IsAscii entry.1)
    (plainValue : PlainValue entry.2) :
    respItem protobuf entry = some (respOf protobuf entry) := by
  obtain ⟨name, value⟩ := entry
  have nameAccepted := lawful.accepts_ascii name plainName
  cases value with
  | int number => simp [respItem, respOf, nameAccepted]
  | float number => exact absurd plainValue id
  | other text =>
      have textAccepted := lawful.accepts_ascii text plainValue
      simp [respItem, respOf, nameAccepted, textAccepted]

/-- A plain result fills the response with its entries and nothing else. -/
theorem fillResponse_of_plain (lawful : protobuf.Lawful) {sts : String}
    (plainStatus : IsAscii sts) {entries : List (String × PyValue FloatNum)}
    (plain : PlainEntries entries) :
    fillResponse protobuf sts entries =
      some ⟨sts, entries.map (respOf protobuf)⟩ := by
  have converted : entries.mapM (respItem protobuf) =
      some (entries.map (respOf protobuf)) := by
    apply (EntryLists.mapM_eq_some_iff (fun _ => True) (respOf protobuf)
      ?_).mpr ⟨fun _ _ => trivial, rfl⟩
    intro entry member item
    rw [respItem_of_plain lawful (plain.names entry member)
      (plain.values entry member)]
    simp [eq_comm]
  rw [fillResponse, lawful.accepts_ascii _ plainStatus, converted]
  rfl

theorem names_respOf (entries : List (String × PyValue FloatNum)) :
    (entries.map (respOf protobuf)).map NamedValue.name =
      entries.map Prod.fst := by
  rw [List.map_map]
  exact List.map_congr_left fun entry _ => respOf_name entry

theorem lookup_collect {entries : List (String × PyValue FloatNum)}
    (distinct : (entries.map Prod.fst).Nodup) (name : String)
    (value : FieldValue FloatNum) :
    (collect (entries.map (respOf protobuf))).lookup name = some value ↔
      ∃ entry ∈ entries, entry.1 = name ∧
        fieldValue protobuf.narrow entry.2 = value := by
  have distinctItems : ((entries.map (respOf protobuf)).map
      NamedValue.name).Nodup := by
    rw [names_respOf]
    exact distinct
  have filled := @EntryLists.lookup_fill_eq_some_iff _ _ _ _ _
    itemValue _ distinctItems name value
  rw [EntryLists.fill] at filled
  rw [collect, filled]
  simp only [List.mem_map, exists_exists_and_eq_and, respOf_name,
    itemValue_respOf]

theorem keys_collect {entries : List (String × PyValue FloatNum)}
    (distinct : (entries.map Prod.fst).Nodup) :
    (collect (entries.map (respOf protobuf))).keys =
      (entries.map Prod.fst).reverse := by
  have distinctItems : ((entries.map (respOf protobuf)).map
      NamedValue.name).Nodup := by
    rw [names_respOf]
    exact distinct
  have filled := @EntryLists.keys_fill _ _ _ _ _ (@itemValue FloatNum) _
    distinctItems
  rw [names_respOf] at filled
  exact filled

/-- A response whose only entry is not `__r` is read as a dict. -/
theorem readReply_dict (lawful : protobuf.Lawful) {sts : String}
    (notException : sts ≠ "exception")
    {entries : List (String × PyValue FloatNum)}
    (distinct : (entries.map Prod.fst).Nodup)
    (notWrapped : entries.map Prod.fst ≠ ["__r"]) :
    readReply protobuf (protobuf.serializeResponse
        ⟨sts, entries.map (respOf protobuf)⟩) =
      .ok (.reply sts (.dict (collect (entries.map (respOf protobuf))))) := by
  rw [readReply, lawful.parse_serialize]
  simp only [notException, false_and, if_false]
  split
  · next key value keysEq found =>
      have member : "__r" ∈ (collect (entries.map (respOf protobuf))).keys :=
        AList.mem_keys.mp (AList.lookup_isSome.mp (by rw [found]; rfl))
      rw [keysEq, List.mem_singleton] at member
      rw [keys_collect distinct, ← member] at keysEq
      exact absurd (List.reverse_eq_iff.mp keysEq) notWrapped
  · rfl

theorem readReply_single (lawful : protobuf.Lawful) {sts : String}
    (notException : sts ≠ "exception") (value : PyValue FloatNum) :
    readReply protobuf (protobuf.serializeResponse
        ⟨sts, [("__r", value)].map (respOf protobuf)⟩) =
      .ok (.reply sts (.single (fieldValue protobuf.narrow value))) := by
  rw [readReply, lawful.parse_serialize]
  simp only [notException, false_and, if_false, List.map_cons, List.map_nil,
    collect, List.foldl_cons, List.foldl_nil, respOf_name, itemValue_respOf,
    AList.insert_empty, AList.keys_singleton]
  rw [← AList.insert_empty, AList.lookup_insert]

end Plain

/-! ## Results of a waiting daemon -/

section Waiting

variable {codec : CommandCodec FloatNum} {json : JsonLib Json}
  {cbfn : Dict (Handler FloatNum HandlerState)}
  {loop : RepLoop FloatNum HandlerState} {cmd : String}
  {fn : Handler FloatNum HandlerState} {sent : Dict (ArgValue FloatNum)}
  {raw : Bytes} {msghash : MsgHash FloatNum}

/-- A daemon that waits for a request answers a plain result with its
response. -/
theorem serve_of_plain (lawful : codec.Lawful) (ready : Ready loop)
    (registered : cbfn.lookup cmd = some fn)
    (encoded : doReqOnly codec cmd sent = some raw)
    (returned : (fn (receivedArguments codec sent) loop.handlerState).1 =
      .returned "ok" msghash)
    (plain : PlainEntries msghash.entries) :
    (serve codec.toProtobuf cbfn loop raw).sent = loop.sent ++
      [codec.serializeResponse
        ⟨"ok", msghash.entries.map (respOf codec.toProtobuf)⟩] := by
  obtain ⟨_, _, rfl⟩ := (doReqOnly_eq_some_iff lawful cmd sent raw).mp encoded
  have filled := fillResponse_of_plain lawful.protobuf
    (show IsAscii "ok" by decide) plain
  rw [serve_of_registered ready (lawful.parse_serializeCommand _) rfl rfl
    registered]
  unfold callHandler
  have returnedSame : (fn (kwargs (sent.entries.map fun entry =>
      sentArg codec entry.fst entry.snd)) loop.handlerState).1 =
        .returned "ok" msghash := returned
  simp only [returnedSame, callResult, filled]

/-- The analyser reads the response to its own request. -/
theorem doReqResp_of_plain (lawful : codec.Lawful) (ready : Ready loop)
    (registered : cbfn.lookup cmd = some fn)
    (encoded : doReqOnly codec cmd sent = some raw)
    (returned : (fn (receivedArguments codec sent) loop.handlerState).1 =
      .returned "ok" msghash)
    (plain : PlainEntries msghash.entries) :
    doReqResp codec cbfn loop cmd sent =
      some (serve codec.toProtobuf cbfn loop raw,
        readReply codec.toProtobuf (codec.serializeResponse
          ⟨"ok", msghash.entries.map (respOf codec.toProtobuf)⟩)) := by
  have served := serve_of_plain lawful ready registered encoded returned plain
  rw [doReqResp, encoded]
  simp [replyBetween, served, doRespOnly]

/-- A call of `do_req_resp` returns the entries as a dict with the status
`ok`. -/
def ReturnsDict (codec : CommandCodec FloatNum)
    (cbfn : Dict (Handler FloatNum HandlerState))
    (loop : RepLoop FloatNum HandlerState) (cmd : String)
    (sent : Dict (ArgValue FloatNum))
    (entries : List (String × PyValue FloatNum)) : Prop :=
  ∃ after resp,
    doReqResp codec cbfn loop cmd sent =
      some (after, .ok (.reply "ok" (.dict resp))) ∧
    ∀ name value, resp.lookup name = some value ↔
      ∃ entry ∈ entries, entry.1 = name ∧
        fieldValue codec.narrow entry.2 = value

/-- A call of `do_req_resp` returns the value with the status `ok`. -/
def ReturnsValue (codec : CommandCodec FloatNum)
    (cbfn : Dict (Handler FloatNum HandlerState))
    (loop : RepLoop FloatNum HandlerState) (cmd : String)
    (sent : Dict (ArgValue FloatNum)) (value : PyValue FloatNum) : Prop :=
  ∃ after, doReqResp codec cbfn loop cmd sent =
    some (after, .ok (.reply "ok" (.single (fieldValue codec.narrow value))))

/-- A statistic decoded from the value of an entry: JSON texts by what they
were dumped from, everything else as it is. -/
def Decodes (json : JsonLib Json) :
    PyValue FloatNum → StatValue FloatNum Json → Prop
  | .int number, stat => stat = .field (.int number)
  | .float _, _ => False
  | .other text, stat =>
      (∃ value, text = json.dumps value ∧ stat = .json value) ∨
        json.loads text = none ∧ stat = .field (.str text)

/-- A call of `get_stats` returns the entries with the dumped values
decoded. -/
def ReturnsStats (codec : CommandCodec FloatNum) (json : JsonLib Json)
    (cbfn : Dict (Handler FloatNum HandlerState))
    (loop : RepLoop FloatNum HandlerState)
    (entries : List (String × PyValue FloatNum)) : Prop :=
  ∃ after stats,
    getStats codec cbfn json loop = some (after, .ok stats) ∧
    ∀ name stat, stats.lookup name = some stat ↔
      ∃ entry ∈ entries, entry.1 = name ∧ Decodes json entry.2 stat

/-- Texts that are dumped JSON or no JSON at all. -/
def DumpedOrNoJson (json : JsonLib Json)
    (entries : List (String × PyValue FloatNum)) : Prop :=
  ∀ entry ∈ entries, ∀ text, entry.2 = .other text →
    (∃ value, text = json.dumps value) ∨ json.loads text = none

theorem returnsDict (lawful : codec.Lawful) (ready : Ready loop)
    (registered : cbfn.lookup cmd = some fn)
    (encoded : doReqOnly codec cmd sent = some raw)
    {entries : List (String × PyValue FloatNum)}
    (returned : (fn (receivedArguments codec sent) loop.handlerState).1 =
      .returned "ok" (.dict entries))
    (plain : PlainEntries entries)
    (notWrapped : entries.map Prod.fst ≠ ["__r"]) :
    ReturnsDict codec cbfn loop cmd sent entries := by
  have read := readReply_dict lawful.protobuf (show "ok" ≠ "exception" by decide)
    plain.distinct notWrapped
  refine ⟨serve codec.toProtobuf cbfn loop raw, _, ?_,
    lookup_collect plain.distinct⟩
  rw [doReqResp_of_plain lawful ready registered encoded returned plain]
  exact congrArg (fun result =>
    some (serve codec.toProtobuf cbfn loop raw, result)) read

theorem returnsValue (lawful : codec.Lawful) (ready : Ready loop)
    (registered : cbfn.lookup cmd = some fn)
    (encoded : doReqOnly codec cmd sent = some raw)
    {value : PyValue FloatNum}
    (returned : (fn (receivedArguments codec sent) loop.handlerState).1 =
      .returned "ok" (.value value))
    (plain : PlainValue value) :
    ReturnsValue codec cbfn loop cmd sent value := by
  have plainEntries := plain.entries
  have read := readReply_single lawful.protobuf
    (show "ok" ≠ "exception" by decide) value
  refine ⟨serve codec.toProtobuf cbfn loop raw, ?_⟩
  rw [doReqResp_of_plain lawful ready registered encoded returned plainEntries]
  exact congrArg (fun result =>
    some (serve codec.toProtobuf cbfn loop raw, result)) read

/-- Decoding in place gives each statistic what it was dumped from. -/
theorem decodes_iff (jsonLawful : json.Lawful) {value : PyValue FloatNum}
    (plain : PlainValue value)
    (texts : ∀ text, value = .other text →
      (∃ dumped, text = json.dumps dumped) ∨ json.loads text = none)
    (narrow : FloatNum → FloatNum) (stat : StatValue FloatNum Json) :
    loadsItem json (fieldValue narrow value) = stat ↔
      Decodes json value stat := by
  cases value with
  | int number => simp [fieldValue, loadsItem, Decodes, eq_comm]
  | float number => exact absurd plain id
  | other text =>
      rcases texts text rfl with ⟨dumped, rfl⟩ | notJson
      · have loaded := jsonLawful.loads_dumps dumped
        simp only [fieldValue, loadsItem, loaded, Decodes]
        constructor
        · rintro rfl
          exact Or.inl ⟨dumped, rfl, rfl⟩
        · rintro (⟨other, same, rfl⟩ | ⟨failed, _⟩)
          · have loadedOther := jsonLawful.loads_dumps other
            rw [← same, loaded] at loadedOther
            rw [Option.some.inj loadedOther]
          · cases failed
      · simp only [fieldValue, loadsItem, notJson, Decodes]
        constructor
        · rintro rfl
          exact Or.inr ⟨trivial, rfl⟩
        · rintro (⟨dumped, rfl, _⟩ | ⟨_, rfl⟩)
          · rw [jsonLawful.loads_dumps] at notJson
            cases notJson
          · rfl

theorem returnsStats (lawful : codec.Lawful) (jsonLawful : json.Lawful)
    (ready : Ready loop) (registered : cbfn.lookup "getstats" = some fn)
    {entries : List (String × PyValue FloatNum)}
    (returned : (fn ∅ loop.handlerState).1 = .returned "ok" (.dict entries))
    (plain : PlainEntries entries)
    (notWrapped : entries.map Prod.fst ≠ ["__r"])
    (texts : DumpedOrNoJson json entries) :
    ReturnsStats codec json cbfn loop entries := by
  have encoded := (doReqOnly_eq_some_iff lawful "getstats" ∅ _).mpr
    ⟨lawful.protobuf.accepts_ascii _ (by decide), by simp, rfl⟩
  obtain ⟨after, resp, answered, lookupEq⟩ := returnsDict lawful ready
    registered encoded returned plain notWrapped
  refine ⟨after, EntryLists.fill Sigma.fst
    (fun entry => loadsItem json entry.snd) resp.entries ∅, ?_, ?_⟩
  · rw [getStats, answered]
    rfl
  · intro name stat
    rw [EntryLists.lookup_fill_eq_some_iff resp.keys_nodup]
    constructor
    · rintro ⟨⟨key, value⟩, member, rfl, decoded⟩
      obtain ⟨entry, entryMem, nameEq, valueEq⟩ :=
        (lookupEq key value).mp (AList.mem_lookup_iff.mpr member)
      rw [← valueEq, decodes_iff jsonLawful (plain.values entry entryMem)
        (texts entry entryMem)] at decoded
      exact ⟨entry, entryMem, nameEq, decoded⟩
    · rintro ⟨entry, entryMem, nameEq, decodes⟩
      have found := (lookupEq name _).mpr ⟨entry, entryMem, nameEq, rfl⟩
      refine ⟨⟨name, _⟩, AList.mem_lookup_iff.mp found, rfl, ?_⟩
      exact (decodes_iff jsonLawful (plain.values entry entryMem)
        (texts entry entryMem) _ stat).mpr decodes

end Waiting

/-! ## Results after any earlier requests -/

/-- Whatever was requested and answered before, a plain result arrives as the
handler returned it: a dict as the dict, any other value as itself, and
statistics with the dumped values decoded. -/
theorem results_roundTrip {codec : CommandCodec FloatNum}
    (lawful : codec.Lawful) {json : JsonLib Json} (jsonLawful : json.Lawful)
    {cbfn : Dict (Handler FloatNum HandlerState)} {handlerState : HandlerState}
    {rawMessages : List Bytes}
    (answered : AnsweredEach codec.toProtobuf cbfn (start handlerState)
      rawMessages) :
    let loop := rawMessages.foldl (serve codec.toProtobuf cbfn)
      (start handlerState)
    (∀ cmd fn sent raw, cbfn.lookup cmd = some fn →
      doReqOnly codec cmd sent = some raw →
      (∀ entries, (fn (receivedArguments codec sent) loop.handlerState).1 =
          .returned "ok" (.dict entries) → PlainEntries entries →
        entries.map Prod.fst ≠ ["__r"] →
        ReturnsDict codec cbfn loop cmd sent entries) ∧
      ∀ value, (fn (receivedArguments codec sent) loop.handlerState).1 =
          .returned "ok" (.value value) → PlainValue value →
        ReturnsValue codec cbfn loop cmd sent value) ∧
    ∀ fn entries, cbfn.lookup "getstats" = some fn →
      (fn ∅ loop.handlerState).1 = .returned "ok" (.dict entries) →
      PlainEntries entries → entries.map Prod.fst ≠ ["__r"] →
      DumpedOrNoJson json entries →
      ReturnsStats codec json cbfn loop entries := by
  intro loop
  have ready : Ready loop := ready_of_answeredEach ⟨rfl, _, rfl⟩ answered
  constructor
  · intro cmd fn sent raw registered encoded
    constructor
    · intro entries returned plain notWrapped
      exact returnsDict lawful ready registered encoded returned plain
        notWrapped
    · intro value returned plain
      exact returnsValue lawful ready registered encoded returned plain
  · intro fn entries registered returned plain notWrapped texts
    exact returnsStats lawful jsonLawful ready registered returned plain
      notWrapped texts

/-- JSON texts of truth values. -/
def boolJson : JsonLib Bool where
  dumps value := if value then "true" else "false"
  loads text :=
    if text = "true" then some true
    else if text = "false" then some false
    else none
  loadsBytes content :=
    if content = [116, 114, 117, 101] then some true
    else if content = [102, 97, 108, 115, 101] then some false
    else none

theorem boolJson_lawful : boolJson.Lawful := by
  constructor
  intro value
  cases value <;> rfl

/-- The statistics of a publisher. -/
def publisherStats : List (String × PyValue HydraWire.Float32Bytes) :=
  [("msg_cnt", .int 5), ("done", .other "true"), ("host", .other "node-1")]

/-- A daemon that answers pings and reports the statistics. -/
def publisher : Dict (Handler HydraWire.Float32Bytes Unit) :=
  pingOnly.insert "getstats"
    fun _ handlerState => (.returned "ok" (.dict publisherStats), handlerState)

theorem publisherStats_plain : PlainEntries publisherStats := by
  constructor
  · decide
  · decide
  · intro entry member
    simp only [publisherStats, List.mem_cons, List.not_mem_nil, or_false]
      at member
    rcases member with rfl | rfl | rfl
    · trivial
    · exact (by decide : IsAscii "true")
    · exact (by decide : IsAscii "node-1")

theorem publisherStats_texts : DumpedOrNoJson boolJson publisherStats := by
  intro entry member text textEq
  simp only [publisherStats, List.mem_cons, List.not_mem_nil, or_false]
    at member
  rcases member with rfl | rfl | rfl
  · cases textEq
  · cases textEq
    exact Or.inl ⟨true, rfl⟩
  · cases textEq
    exact Or.inr rfl

theorem publisher_ping : publisher.lookup "ping" = some fun _ handlerState =>
    (.returned "ok" (.value (.other "pong")), handlerState) := by
  rw [publisher, AList.lookup_insert_ne (by decide), pingOnly,
    AList.lookup_insert]

theorem doReqOnly_bare {cmd : String} (plain : IsAscii cmd) :
    doReqOnly wireCodec cmd ∅ = some (bareCommand cmd) := by
  rw [doReqOnly_eq_some_iff wireCodec_lawful]
  exact ⟨wireCodec_lawful.protobuf.accepts_ascii cmd plain, by simp, rfl⟩

theorem pong_plain :
    PlainValue (.other "pong" : PyValue HydraWire.Float32Bytes) :=
  (by decide : IsAscii "pong")

/-- One ping was answered before. -/
theorem ping_answered :
    AnsweredEach wireCodec.toProtobuf publisher (start ())
      [bareCommand "ping"] := by
  have ready : Ready (@start HydraWire.Float32Bytes Unit ()) :=
    ⟨rfl, _, rfl⟩
  refine ⟨⟨_, _, _, parse_bareCommand "ping", rfl, rfl, publisher_ping⟩,
    ?_, trivial⟩
  have plain : PlainEntries
      (MsgHash.value (.other "pong" : PyValue HydraWire.Float32Bytes)).entries :=
    pong_plain.entries
  exact ⟨_, serve_of_plain wireCodec_lawful ready publisher_ping
    (doReqOnly_bare (by decide)) rfl plain⟩

/-- The daemon after that ping. -/
def pingedPublisher : RepLoop HydraWire.Float32Bytes Unit :=
  [bareCommand "ping"].foldl (serve wireCodec.toProtobuf publisher) (start ())

theorem publisher_results :
    ReturnsDict wireCodec publisher pingedPublisher "getstats" ∅
        publisherStats ∧
      ReturnsValue wireCodec publisher pingedPublisher "ping" ∅
        (.other "pong") ∧
      ReturnsStats wireCodec boolJson publisher pingedPublisher
        publisherStats := by
  have results := results_roundTrip wireCodec_lawful boolJson_lawful
    ping_answered
  refine ⟨?_, ?_, ?_⟩
  · exact (results.1 "getstats" _ ∅ _ (AList.lookup_insert _)
      (doReqOnly_bare (by decide))).1 publisherStats rfl
      publisherStats_plain (by decide)
  · exact (results.1 "ping" _ ∅ _ publisher_ping
      (doReqOnly_bare (by decide))).2 _ rfl pong_plain
  · exact results.2 _ publisherStats (AList.lookup_insert _) rfl
      publisherStats_plain (by decide) publisherStats_texts

end HAnalyser

end MScale
