import MScale.HydraMessages

/-!
# The analyser's reading of a response

`HAnalyser.do_resp_only` waits for a reply, parses it and collects the named
values into a dict, unwrapping a dict that only holds the entry `__r`.
-/

namespace MScale

namespace HAnalyser

variable {FloatNum : Type}

/-- A value read from a response. -/
inductive FieldValue (FloatNum : Type)
  | str (text : String)
  | int (number : Int64)
  | float (number : FloatNum)
  | byte (content : Bytes)
  | true
  deriving DecidableEq, Repr

/-- The second component of the returned pair. -/
inductive RespBody (FloatNum : Type)
  | single (value : FieldValue FloatNum)
  | dict (entries : Dict (FieldValue FloatNum))

/-- What `do_resp_only` returns: `(False, {})` after a timeout, or the status
with the body. -/
inductive RespResult (FloatNum : Type)
  | timedOut
  | reply (status : String) (body : RespBody FloatNum)

/-- The exceptions of `do_resp_only`. -/
inductive RespError
  | decode
  | keyError (key : String)
  deriving DecidableEq, Repr

/-- The value of an item, by the first field that is set. -/
def itemValue (item : Resp FloatNum) : FieldValue FloatNum :=
  match item.strValue, item.intValue, item.floatValue, item.byteValue with
  | some text, _, _, _ => .str text
  | none, some number, _, _ => .int number
  | none, none, some number, _ => .float number
  | none, none, none, some content => .byte content
  | none, none, none, none => .true

/-- `rdic` after the loop over the items of the response. -/
def collect (items : List (Resp FloatNum)) : Dict (FieldValue FloatNum) :=
  items.foldl (fun rdic item => rdic.insert item.name (itemValue item)) ∅

/-- The part of `do_resp_only` after a reply was received. -/
def readReply (protobuf : Protobuf FloatNum) (rep : Bytes) :
    Except RespError (RespResult FloatNum) :=
  match protobuf.parseResponse rep with
  | none => .error .decode
  | some message =>
      let rdic := collect message.resp
      if message.status = "exception" ∧ "__r" ∉ rdic then
        -- The remote exception is logged from the entry `__r`.
        .error (.keyError "__r")
      else
        match rdic.keys, rdic.lookup "__r" with
        | [_], some value => .ok (.reply message.status (.single value))
        | _, _ => .ok (.reply message.status (.dict rdic))

/-- `HAnalyser.do_resp_only`; no reply within the timeout is `none`. -/
def doRespOnly (protobuf : Protobuf FloatNum) (rep : Option Bytes) :
    Except RespError (RespResult FloatNum) :=
  match rep with
  | none => .ok .timedOut
  | some rep => readReply protobuf rep

theorem mem_foldl_insert (items : List (Resp FloatNum))
    (rdic : Dict (FieldValue FloatNum)) (key : String) :
    key ∈ items.foldl
        (fun rdic item => rdic.insert item.name (itemValue item)) rdic ↔
      key ∈ rdic ∨ key ∈ items.map NamedValue.name := by
  induction items generalizing rdic with
  | nil => simp
  | cons item items ih =>
      rw [List.foldl_cons, ih, AList.mem_insert, List.map_cons, List.mem_cons]
      tauto

@[simp]
theorem mem_collect (items : List (Resp FloatNum)) (key : String) :
    key ∈ collect items ↔ key ∈ items.map NamedValue.name := by
  rw [collect, mem_foldl_insert]
  simp

/-- The analyser returns on a serialized response exactly when a reported
exception carries its text. -/
theorem readReply_isOk_iff {protobuf : Protobuf FloatNum}
    (lawful : protobuf.Lawful) (message : ResponseMessage FloatNum) :
    (∃ result, readReply protobuf (protobuf.serializeResponse message) =
        .ok result) ↔
      (message.status = "exception" →
        "__r" ∈ message.resp.map NamedValue.name) := by
  have dichotomy : (message.status = "exception" →
      "__r" ∈ message.resp.map NamedValue.name) ↔
      ¬ (message.status = "exception" ∧ "__r" ∉ collect message.resp) := by
    rw [mem_collect]
    tauto
  rw [readReply, lawful.parse_serialize, dichotomy]
  by_cases missing :
      message.status = "exception" ∧ "__r" ∉ collect message.resp
  · simp [missing]
  · simp only [missing, if_false, not_false_eq_true, iff_true]
    split
    · exact ⟨_, rfl⟩
    · exact ⟨_, rfl⟩

end HAnalyser

end MScale
