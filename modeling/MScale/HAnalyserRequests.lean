import MScale.EntryLists
import MScale.HDaemonReplies
import Mathlib.Algebra.Order.Field.Rat
import Mathlib.Algebra.Order.Field.Basic

/-!
# Arguments of a command, sent and received

`HAnalyser.do_req_only` puts every keyword argument into one of four fields of
a message: numbers into their own, texts into `strValue` and other strings
into `byteValue`.  The daemon reads three of these fields, so a string that is
not a text reaches the handler as `True`.  This file embeds the encoder and
determines the arguments that reach the handler as they were sent.
-/

namespace MScale

/-! ## The text test -/

/-- `text_characters`: the printable ASCII characters and `\n\r\t\b`. -/
def textCharacters : Bytes :=
  (List.range' 32 95).map UInt8.ofNat ++ [10, 13, 9, 8]

/-- `istext` with its default threshold of zero. -/
def istext (s : Bytes) : Bool :=
  if 0 ∈ s then false
  else if s = [] then true
  else
    let t := s.filter (· ∉ textCharacters)
    decide ((t.length : ℚ) / (s.length : ℚ) ≤ 0)

theorem textCharacters_small {byte : UInt8} (member : byte ∈ textCharacters) :
    byte ≠ 0 ∧ byte.toNat < 128 := by
  have all : ∀ byte ∈ textCharacters, byte ≠ 0 ∧ byte.toNat < 128 := by
    decide +kernel
  exact all byte member

/-- A text has text characters only. -/
theorem istext_iff (s : Bytes) :
    istext s = true ↔ ∀ byte ∈ s, byte ∈ textCharacters := by
  unfold istext
  split
  · next zero =>
      apply iff_of_false Bool.false_ne_true
      intro all
      exact (textCharacters_small (all 0 zero)).1 rfl
  · split
    · next empty => simp [empty]
    · next nonempty =>
        have lengthPos : (0 : ℚ) < s.length := by
          exact_mod_cast List.length_pos_iff.mpr nonempty
        rw [decide_eq_true_iff, div_le_iff₀ lengthPos, zero_mul]
        have cast : ((s.filter (· ∉ textCharacters)).length : ℚ) ≤ 0 ↔
            (s.filter (· ∉ textCharacters)).length = 0 := by
          rw [← Nat.le_zero]
          exact_mod_cast Iff.rfl
        rw [cast, List.length_eq_zero_iff, List.filter_eq_nil_iff]
        simp

/-- The text of a string in a `string` field. -/
def asciiText (s : Bytes) : String :=
  String.ofList (s.map fun byte => Char.ofNat byte.toNat)

theorem toNat_ofNat_of_lt {number : Nat} (small : number < 128) :
    (Char.ofNat number).toNat = number := by
  have valid : number.isValidChar := Or.inl (by omega)
  rw [Char.ofNat, dif_pos valid]
  rfl

theorem isAscii_asciiText {s : Bytes} (text : istext s = true) :
    IsAscii (asciiText s) := by
  intro char member
  rw [asciiText, String.toList_ofList, List.mem_map] at member
  obtain ⟨byte, byteMem, rfl⟩ := member
  have small := (textCharacters_small ((istext_iff s).mp text byte byteMem)).2
  rw [toNat_ofNat_of_lt small]
  exact small

/-- The code points of a text sent as ASCII are the bytes of the string. -/
theorem toList_asciiText {s : Bytes} (text : istext s = true) :
    (asciiText s).toList.map Char.toNat = s.map UInt8.toNat := by
  rw [asciiText, String.toList_ofList, List.map_map]
  apply List.map_congr_left
  intro byte member
  have small := (textCharacters_small ((istext_iff s).mp text byte member)).2
  exact toNat_ofNat_of_lt small

/-! ## The encoder -/

/-- The serialization library with the part the analyser needs. -/
structure CommandCodec (FloatNum : Type) extends Protobuf FloatNum where
  serializeCommand : CommandMessage FloatNum → Bytes

structure CommandCodec.Lawful {FloatNum : Type} (codec : CommandCodec FloatNum) :
    Prop where
  protobuf : codec.toProtobuf.Lawful
  parse_serializeCommand : ∀ message,
    codec.parseCommand (codec.serializeCommand message) = some message

namespace HAnalyser

variable {FloatNum : Type}

/-- A keyword argument of a command: an `int`, a `float`, or anything else by
its string `str(value)`. -/
inductive ArgValue (FloatNum : Type)
  | int (number : Int64)
  | float (number : FloatNum)
  | other (s : Bytes)
  deriving DecidableEq, Repr

section Encoder

variable (codec : CommandCodec FloatNum)

/-- The argument added to the message for one keyword argument; `none` where
the assignment to a string field raises. -/
def commandArg (name : String) (value : ArgValue FloatNum) :
    Option (CommandArgs FloatNum) :=
  if !codec.acceptsText name then none
  else
    match value with
    | .int number => some { name, intValue := some number }
    | .float number =>
        some { name, floatValue := some (codec.narrow number) }
    | .other s =>
        if istext s then
          if codec.acceptsText (asciiText s) then
            some { name, strValue := some (asciiText s) }
          else none
        else some { name, byteValue := some s }

/-- `HAnalyser.do_req_only`: the message it sends, unless it raises. -/
def doReqOnly (cmd : String) (kwargs : Dict (ArgValue FloatNum)) :
    Option Bytes :=
  if !codec.acceptsText cmd then none
  else
    (kwargs.entries.mapM fun entry =>
      commandArg codec entry.fst entry.snd).map fun argument =>
        codec.serializeCommand ⟨.subcmd, some ⟨cmd, argument⟩⟩

/-- The argument of an accepted name. -/
def sentArg (name : String) : ArgValue FloatNum → CommandArgs FloatNum
  | .int number => { name, intValue := some number }
  | .float number => { name, floatValue := some (codec.narrow number) }
  | .other s =>
      if istext s then { name, strValue := some (asciiText s) }
      else { name, byteValue := some s }

@[simp]
theorem sentArg_name (name : String) (value : ArgValue FloatNum) :
    (sentArg codec name value).name = name := by
  cases value with
  | int number => rfl
  | float number => rfl
  | other s =>
      simp only [sentArg]
      split <;> rfl

variable {codec}

theorem commandArg_eq_some_iff (lawful : codec.Lawful) (name : String)
    (value : ArgValue FloatNum) (item : CommandArgs FloatNum) :
    commandArg codec name value = some item ↔
      codec.acceptsText name = true ∧ item = sentArg codec name value := by
  unfold commandArg
  cases accepted : codec.acceptsText name with
  | false => simp
  | true =>
      cases value with
      | int number => simp [sentArg, eq_comm]
      | float number => simp [sentArg, eq_comm]
      | other s =>
          cases text : istext s with
          | false => simp [sentArg, text, eq_comm]
          | true =>
              have textAccepted := lawful.protobuf.accepts_ascii _
                (isAscii_asciiText text)
              simp [sentArg, text, textAccepted, eq_comm]

/-- The arguments of a command are sent if the names are accepted. -/
theorem doReqOnly_eq_some_iff (lawful : codec.Lawful) (cmd : String)
    (kwargs : Dict (ArgValue FloatNum)) (raw : Bytes) :
    doReqOnly codec cmd kwargs = some raw ↔
      codec.acceptsText cmd = true ∧
        (∀ entry ∈ kwargs.entries, codec.acceptsText entry.fst = true) ∧
        codec.serializeCommand ⟨.subcmd, some ⟨cmd, kwargs.entries.map
          fun entry => sentArg codec entry.fst entry.snd⟩⟩ = raw := by
  have converted (items : List (CommandArgs FloatNum)) :
      (kwargs.entries.mapM fun entry =>
        commandArg codec entry.fst entry.snd) = some items ↔ _ :=
    EntryLists.mapM_eq_some_iff
      (fun entry => codec.acceptsText entry.fst = true)
      (fun entry => sentArg codec entry.fst entry.snd)
      fun entry _ item =>
        commandArg_eq_some_iff lawful entry.fst entry.snd item
  unfold doReqOnly
  cases accepted : codec.acceptsText cmd with
  | false => simp
  | true =>
      simp only [Bool.not_true, Bool.false_eq_true, if_false,
        Option.map_eq_some_iff, converted, true_and]
      constructor
      · rintro ⟨items, ⟨names, rfl⟩, sent⟩
        exact ⟨names, sent⟩
      · rintro ⟨names, sent⟩
        exact ⟨_, ⟨names, rfl⟩, sent⟩

end Encoder

/-! ## What the handler receives -/

/-- A received value is the one that was sent: an equal number, or the same
string.  Floating-point numbers have the precision of the wire. -/
def SameValue (narrow : FloatNum → FloatNum) :
    ArgValue FloatNum → HDaemonRepSrv.KwArg FloatNum → Prop
  | .int number, .int received => received = number
  | .float number, .float received => received = narrow number
  | .other s, .str text => text.toList.map Char.toNat = s.map UInt8.toNat
  | _, _ => False

/-- The received arguments have the names and the values of the sent ones. -/
def SameArguments (narrow : FloatNum → FloatNum)
    (sent : Dict (ArgValue FloatNum))
    (received : Dict (HDaemonRepSrv.KwArg FloatNum)) : Prop :=
  (∀ name, name ∈ received ↔ name ∈ sent) ∧
    ∀ name value got, sent.lookup name = some value →
      received.lookup name = some got → SameValue narrow value got

/-- The command is sent, and whichever function is registered for it is called
with the same arguments by a daemon that waits for a request. -/
def CalledWithSame (codec : CommandCodec FloatNum) (cmd : String)
    (sent : Dict (ArgValue FloatNum)) : Prop :=
  ∃ raw received, doReqOnly codec cmd sent = some raw ∧
    SameArguments codec.narrow sent received ∧
    ∀ (HandlerState : Type)
      (cbfn : Dict (HDaemonRepSrv.Handler FloatNum HandlerState))
      (fn : HDaemonRepSrv.Handler FloatNum HandlerState)
      (loop : HDaemonRepSrv.RepLoop FloatNum HandlerState),
      cbfn.lookup cmd = some fn → HDaemonRepSrv.Ready loop →
      (HDaemonRepSrv.serve codec.toProtobuf cbfn loop raw).handlerState =
        (fn received loop.handlerState).2

/-- The arguments that arrive as sent: accepted names, and only texts among
the strings. -/
def Sendable (codec : CommandCodec FloatNum) (cmd : String)
    (sent : Dict (ArgValue FloatNum)) : Prop :=
  codec.acceptsText cmd = true ∧
    ∀ name value, sent.lookup name = some value →
      codec.acceptsText name = true ∧
        ∀ s, value = .other s → istext s = true

variable {codec : CommandCodec FloatNum}

/-- A value arrives as sent unless it is a string that is not a text. -/
theorem sameValue_kwArg_iff (name : String) (value : ArgValue FloatNum) :
    SameValue codec.narrow value
        (HDaemonRepSrv.kwArg (sentArg codec name value)) ↔
      ∀ s, value = .other s → istext s = true := by
  cases value with
  | int number => simp [sentArg, HDaemonRepSrv.kwArg, SameValue]
  | float number => simp [sentArg, HDaemonRepSrv.kwArg, SameValue]
  | other s =>
      cases text : istext s with
      | false => simp [sentArg, HDaemonRepSrv.kwArg, SameValue, text]
      | true =>
          have sameText := toList_asciiText text
          simp [sentArg, HDaemonRepSrv.kwArg, SameValue, text, sameText]

/-- The arguments the daemon decodes from a sent command. -/
def receivedArguments (codec : CommandCodec FloatNum)
    (sent : Dict (ArgValue FloatNum)) : Dict (HDaemonRepSrv.KwArg FloatNum) :=
  HDaemonRepSrv.kwargs
    (sent.entries.map fun entry => sentArg codec entry.fst entry.snd)

theorem lookup_receivedArguments (sent : Dict (ArgValue FloatNum))
    (name : String) :
    (receivedArguments codec sent).lookup name =
      (sent.lookup name).map fun value =>
        HDaemonRepSrv.kwArg (sentArg codec name value) := by
  have distinct : ((sent.entries.map fun entry =>
      sentArg codec entry.fst entry.snd).map NamedValue.name).Nodup := by
    rw [List.map_map]
    have names : NamedValue.name ∘ (fun entry : Sigma fun _ : String =>
        ArgValue FloatNum => sentArg codec entry.fst entry.snd) =
          Sigma.fst := by
      funext entry
      exact sentArg_name codec entry.fst entry.snd
    rw [names]
    exact sent.keys_nodup
  apply Option.ext
  intro got
  rw [receivedArguments, HDaemonRepSrv.kwargs]
  have filled := @EntryLists.lookup_fill_eq_some_iff _ _ _ _ _
    HDaemonRepSrv.kwArg _ distinct name got
  rw [EntryLists.fill] at filled
  rw [filled, Option.map_eq_some_iff]
  constructor
  · rintro ⟨item, member, nameEq, gotEq⟩
    obtain ⟨⟨key, value⟩, entryMem, rfl⟩ := List.mem_map.mp member
    rw [sentArg_name] at nameEq
    dsimp only at nameEq gotEq
    subst nameEq
    exact ⟨value, AList.mem_lookup_iff.mpr entryMem, gotEq⟩
  · rintro ⟨value, found, gotEq⟩
    exact ⟨_, List.mem_map_of_mem (AList.mem_lookup_iff.mp found),
      sentArg_name codec name value, gotEq⟩

/-- The daemon does not read the field of a string that is not a text. -/
theorem received_of_not_text {sent : Dict (ArgValue FloatNum)} {name : String}
    {s : Bytes} (found : sent.lookup name = some (.other s))
    (notText : istext s = false) :
    (receivedArguments codec sent).lookup name = some .true := by
  rw [lookup_receivedArguments, found]
  simp [sentArg, notText, HDaemonRepSrv.kwArg]

theorem sameArguments_received_iff (sent : Dict (ArgValue FloatNum)) :
    SameArguments codec.narrow sent (receivedArguments codec sent) ↔
      ∀ name value, sent.lookup name = some value →
        ∀ s, value = .other s → istext s = true := by
  constructor
  · rintro ⟨_, same⟩ name value found
    rw [← sameValue_kwArg_iff name value]
    apply same name value _ found
    rw [lookup_receivedArguments, found]
    rfl
  · intro texts
    constructor
    · intro name
      rw [← AList.lookup_isSome, ← AList.lookup_isSome,
        lookup_receivedArguments, Option.isSome_map]
    · intro name value got found gotEq
      rw [lookup_receivedArguments, found] at gotEq
      cases gotEq
      exact (sameValue_kwArg_iff name value).mpr (texts name value found)

/-- A daemon that waits for a request calls the registered function with the
received arguments. -/
theorem serve_doReqOnly {HandlerState : Type} (lawful : codec.Lawful)
    {cmd : String} {sent : Dict (ArgValue FloatNum)} {raw : Bytes}
    (encoded : doReqOnly codec cmd sent = some raw)
    {cbfn : Dict (HDaemonRepSrv.Handler FloatNum HandlerState)}
    {fn : HDaemonRepSrv.Handler FloatNum HandlerState}
    {loop : HDaemonRepSrv.RepLoop FloatNum HandlerState}
    (registered : cbfn.lookup cmd = some fn)
    (ready : HDaemonRepSrv.Ready loop) :
    (HDaemonRepSrv.serve codec.toProtobuf cbfn loop raw).handlerState =
      (fn (receivedArguments codec sent) loop.handlerState).2 := by
  obtain ⟨_, _, rfl⟩ := (doReqOnly_eq_some_iff lawful cmd sent raw).mp encoded
  rw [HDaemonRepSrv.serve_of_registered ready
    (lawful.parse_serializeCommand _) rfl rfl registered,
    HDaemonRepSrv.callHandler_handlerState]
  rfl

/-- A function that reports its arguments. -/
def reportArguments :
    HDaemonRepSrv.Handler FloatNum (Dict (HDaemonRepSrv.KwArg FloatNum)) :=
  fun received _ => (.returned "ok" (.dict []), received)

/-- What arrives as it was sent was sendable. -/
theorem CalledWithSame.sendable (lawful : codec.Lawful) {cmd : String}
    {sent : Dict (ArgValue FloatNum)}
    (called : CalledWithSame codec cmd sent) : Sendable codec cmd sent := by
  obtain ⟨raw, received, encoded, same, calls⟩ := called
  have registered : ((∅ : Dict (HDaemonRepSrv.Handler FloatNum _)).insert cmd
      reportArguments).lookup cmd = some reportArguments :=
    AList.lookup_insert _
  have ready : HDaemonRepSrv.Ready (@HDaemonRepSrv.start FloatNum
      (Dict (HDaemonRepSrv.KwArg FloatNum)) ∅) := ⟨rfl, _, rfl⟩
  have reported := calls _ _ _ _ registered ready
  rw [serve_doReqOnly lawful encoded registered ready] at reported
  have receivedEq : receivedArguments codec sent = received := reported
  rw [← receivedEq, sameArguments_received_iff] at same
  obtain ⟨cmdAccepted, names, _⟩ :=
    (doReqOnly_eq_some_iff lawful cmd sent raw).mp encoded
  refine ⟨cmdAccepted, ?_⟩
  intro name value found
  exact ⟨names ⟨name, value⟩ (AList.mem_lookup_iff.mp found),
    same name value found⟩

/-- A command reaches the registered function with the arguments it was sent
with exactly if its names are accepted by a string field and all its strings
are texts. -/
theorem calledWithSame_iff (lawful : codec.Lawful) (cmd : String)
    (sent : Dict (ArgValue FloatNum)) :
    CalledWithSame codec cmd sent ↔ Sendable codec cmd sent := by
  constructor
  · exact fun called => called.sendable lawful
  · rintro ⟨cmdAccepted, entries⟩
    have names : ∀ entry ∈ sent.entries,
        codec.acceptsText entry.fst = true := by
      intro entry member
      exact (entries entry.fst entry.snd
        (AList.mem_lookup_iff.mpr member)).1
    have encoded := (doReqOnly_eq_some_iff lawful cmd sent _).mpr
      ⟨cmdAccepted, names, rfl⟩
    refine ⟨_, receivedArguments codec sent, encoded, ?_, ?_⟩
    · rw [sameArguments_received_iff]
      exact fun name value found => (entries name value found).2
    · intro HandlerState cbfn fn loop registered ready
      exact serve_doReqOnly lawful encoded registered ready

/-- The wire format with its command encoder. -/
def wireCodec : CommandCodec HydraWire.Float32Bytes where
  toProtobuf := HydraWire.protobuf
  serializeCommand := HydraWire.encodeCommand

theorem wireCodec_lawful : wireCodec.Lawful :=
  ⟨HydraWire.protobuf_lawful, HydraWire.decodeCommand_encode⟩

/-- A topic name with an accented letter, in UTF-8. -/
def accentedTopic : Dict (ArgValue HydraWire.Float32Bytes) :=
  (∅ : Dict (ArgValue HydraWire.Float32Bytes)).insert "topic"
    (.other [99, 97, 102, 195, 169])

theorem accented_not_text : istext [99, 97, 102, 195, 169] = false := by
  rw [Bool.eq_false_iff, Ne, istext_iff]
  decide +kernel

theorem accentedTopic_called_iff :
    CalledWithSame wireCodec "updateconfig" accentedTopic ↔
      Sendable wireCodec "updateconfig" accentedTopic :=
  calledWithSame_iff wireCodec_lawful "updateconfig" accentedTopic

/-- Every command with plain names reaches its handler with the arguments it
was sent with. -/
def ArgumentsArrive : Prop :=
  ∀ (FloatNum : Type) (codec : CommandCodec FloatNum), codec.Lawful →
    ∀ (cmd : String) (sent : Dict (ArgValue FloatNum)), IsAscii cmd →
      (∀ name ∈ sent, IsAscii name) → CalledWithSame codec cmd sent

/-- A name that is not ASCII arrives as `True`. -/
theorem accentedTopic_does_not_arrive :
    (receivedArguments wireCodec accentedTopic).lookup "topic" = some .true ∧
      ¬ ArgumentsArrive := by
  constructor
  · exact received_of_not_text (AList.lookup_insert _) accented_not_text
  · intro arrive
    have plainNames : ∀ name ∈ accentedTopic, IsAscii name := by
      intro name member
      have nameEq : name = "topic" := by
        rw [accentedTopic, AList.mem_insert] at member
        exact member.resolve_right (AList.notMem_empty name)
      rw [nameEq]
      decide
    have called := arrive _ wireCodec wireCodec_lawful "updateconfig"
      accentedTopic (by decide) plainNames
    have sendable := called.sendable wireCodec_lawful
    have text := (sendable.2 "topic" _ (AList.lookup_insert _)).2 _ rfl
    rw [accented_not_text] at text
    exact absurd text Bool.false_ne_true

end HAnalyser

end MScale
