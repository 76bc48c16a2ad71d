import MScale.HydraMessages

/-!
# The messages on the wire

The serialization library is a parameter of the development.  This file gives
one: the messages of `hdaemon.proto` in the tagged wire format, with texts in
UTF-8 and `float` fields as their four bytes.  It fulfils the laws the
programs rely on.
-/

namespace MScale

namespace HydraWire

open TaggedWire

/-- The four bytes of a single precision number, least significant first. -/
abbrev Float32Bytes := UInt8 × UInt8 × UInt8 × UInt8

def utf8 (text : String) : Bytes :=
  text.toUTF8.data.toList

def ofUtf8 (content : Bytes) : Option String :=
  String.fromUTF8? ⟨content.toArray⟩

@[simp]
theorem ofUtf8_utf8 (text : String) : ofUtf8 (utf8 text) = some text := by
  have valid : text.toByteArray.IsValidUTF8 := text.isValidUTF8
  simp only [ofUtf8, utf8, String.toUTF8_eq_toByteArray, Array.toArray_toList]
  rw [String.fromUTF8?, dif_pos valid]
  rfl

/-! ## Named values -/

def namedValueRecords (value : NamedValue Float32Bytes) : List Record :=
  [⟨1, .bytes (utf8 value.name)⟩] ++
    (value.strValue.map fun text => ⟨2, .bytes (utf8 text)⟩).toList ++
    (value.intValue.map fun number =>
      ⟨3, .varint number.toUInt64.toNat⟩).toList ++
    (value.floatValue.map fun number =>
      ⟨4, .fixed32 number.1 number.2.1 number.2.2.1 number.2.2.2⟩).toList ++
    (value.byteValue.map fun content => ⟨5, .bytes content⟩).toList

/-- An optional text field; the parser raises on invalid UTF-8. -/
def optionalText : Option Bytes → Option (Option String)
  | none => some none
  | some content => (ofUtf8 content).map some

def namedValueOfRecords (records : List Record) :
    Option (NamedValue Float32Bytes) :=
  (ofUtf8 ((lastBytes 1 records).getD [])).bind fun name =>
    (optionalText (lastBytes 2 records)).map fun strValue =>
      { name := name
        strValue := strValue
        intValue := (lastVarint 3 records).map fun number =>
          (UInt64.ofNat number).toInt64
        floatValue := lastFixed32 4 records
        byteValue := lastBytes 5 records }

@[simp]
theorem int64_ofNat_toUInt64 (number : Int64) :
    Int64.ofNat number.toUInt64.toNat = number := by
  rw [← UInt64.toInt64_ofNat', UInt64.ofNat_toNat, Int64.toInt64_toUInt64]

theorem namedValueOfRecords_records (value : NamedValue Float32Bytes) :
    namedValueOfRecords (namedValueRecords value) = some value := by
  obtain ⟨name, strValue, intValue, floatValue, byteValue⟩ := value
  cases strValue <;> cases intValue <;> cases floatValue <;>
    cases byteValue <;>
    simp [namedValueOfRecords, namedValueRecords, lastBytes, lastVarint,
      lastFixed32, optionalText]

def encodeNamedValue (value : NamedValue Float32Bytes) : Bytes :=
  encodeRecords (namedValueRecords value)

def decodeNamedValue (content : Bytes) : Option (NamedValue Float32Bytes) :=
  (decodeRecords content).bind namedValueOfRecords

@[simp]
theorem decodeNamedValue_encode (value : NamedValue Float32Bytes) :
    decodeNamedValue (encodeNamedValue value) = some value := by
  simp [decodeNamedValue, encodeNamedValue, decodeRecords_encodeRecords,
    namedValueOfRecords_records]

/-- A name followed by repeated named values, the shape of `Command` and of
`ResponseMessage`. -/
def headedRecords (head : String) (values : List (NamedValue Float32Bytes)) :
    List Record :=
  ⟨1, .bytes (utf8 head)⟩ ::
    values.map fun value => ⟨2, .bytes (encodeNamedValue value)⟩

def headedOfRecords (records : List Record) :
    Option (String × List (NamedValue Float32Bytes)) :=
  (ofUtf8 ((lastBytes 1 records).getD [])).bind fun head =>
    ((allBytes 2 records).mapM decodeNamedValue).map fun values =>
      (head, values)

theorem lastBytes_headedRecords (head : String)
    (values : List (NamedValue Float32Bytes)) :
    lastBytes 1 (headedRecords head values) = some (utf8 head) := by
  simp [lastBytes, headedRecords, List.filterMap_map]

theorem allBytes_headedRecords (head : String)
    (values : List (NamedValue Float32Bytes)) :
    allBytes 2 (headedRecords head values) = values.map encodeNamedValue := by
  simp [allBytes, headedRecords, List.filterMap_map]

theorem mapM_decodeNamedValue (values : List (NamedValue Float32Bytes)) :
    (values.map encodeNamedValue).mapM decodeNamedValue = some values := by
  induction values with
  | nil => rfl
  | cons value values ih => simp [List.mapM_cons, ih]

theorem headedOfRecords_records (head : String)
    (values : List (NamedValue Float32Bytes)) :
    headedOfRecords (headedRecords head values) = some (head, values) := by
  rw [headedOfRecords, lastBytes_headedRecords, allBytes_headedRecords,
    mapM_decodeNamedValue]
  simp

/-! ## Responses -/

def encodeResponse (message : ResponseMessage Float32Bytes) : Bytes :=
  encodeRecords (headedRecords message.status message.resp)

def decodeResponse (content : Bytes) :
    Option (ResponseMessage Float32Bytes) :=
  (decodeRecords content).bind fun records =>
    (headedOfRecords records).map fun headed => ⟨headed.1, headed.2⟩

theorem decodeResponse_encode (message : ResponseMessage Float32Bytes) :
    decodeResponse (encodeResponse message) = some message := by
  simp [decodeResponse, encodeResponse, decodeRecords_encodeRecords,
    headedOfRecords_records]

/-! ## Commands -/

def commandTypeNumber : CommandType → Nat
  | .subcmd => 0
  | .stop => 2

/-- A number outside the enumeration leaves the field at its default. -/
def commandTypeOfNumber : Option Nat → CommandType
  | some 2 => .stop
  | _ => .subcmd

def encodeCommand (message : CommandMessage Float32Bytes) : Bytes :=
  encodeRecords (⟨1, .varint (commandTypeNumber message.type)⟩ ::
    (message.cmd.map fun command =>
      ⟨2, .bytes (encodeRecords
        (headedRecords command.cmdName command.argument))⟩).toList)

def decodeCommand (content : Bytes) : Option (CommandMessage Float32Bytes) :=
  (decodeRecords content).bind fun records =>
    let type := commandTypeOfNumber (lastVarint 1 records)
    match lastBytes 2 records with
    | none => some ⟨type, none⟩
    | some command =>
        (decodeRecords command).bind fun inner =>
          (headedOfRecords inner).map fun headed =>
            ⟨type, some ⟨headed.1, headed.2⟩⟩

theorem decodeCommand_encode (message : CommandMessage Float32Bytes) :
    decodeCommand (encodeCommand message) = some message := by
  obtain ⟨type, cmd⟩ := message
  cases type <;> cases cmd <;>
    simp [decodeCommand, encodeCommand, decodeRecords_encodeRecords,
      headedOfRecords_records, lastVarint, lastBytes, commandTypeNumber,
      commandTypeOfNumber]

/-- The wire format as the serialization library: a string field accepts
ASCII. -/
def protobuf : Protobuf Float32Bytes where
  parseCommand := decodeCommand
  parseResponse := decodeResponse
  serializeResponse := encodeResponse
  acceptsText text := decide (IsAscii text)
  narrow := id

theorem protobuf_lawful : protobuf.Lawful where
  parse_serialize := decodeResponse_encode
  accepts_ascii _ ascii := decide_eq_true ascii

end HydraWire

end MScale
