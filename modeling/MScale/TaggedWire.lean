import Mathlib.Data.List.Basic
import Mathlib.Tactic.Common

/-!
# A tagged wire format

Messages travel as a concatenation of records.  A record carries a field
number, a wire type and a payload; numbers are written in base 128 with a
continuation bit, and byte strings are preceded by their length.  The file
defines the encoder and the decoder and proves that decoding undoes encoding.
-/

namespace MScale

abbrev Bytes := List UInt8

namespace TaggedWire

/-- Base-128 digits, least significant first; `fuel` bounds their number. -/
def encodeVarintWithin : Nat → Nat → Bytes
  | 0, number => [UInt8.ofNat number]
  | fuel + 1, number =>
      if number < 128 then
        [UInt8.ofNat number]
      else
        UInt8.ofNat (number % 128 + 128) ::
          encodeVarintWithin fuel (number / 128)

def encodeVarint (number : Nat) : Bytes :=
  encodeVarintWithin number number

def decodeVarint : Bytes → Option (Nat × Bytes)
  | [] => none
  | byte :: rest =>
      if byte.toNat < 128 then
        some (byte.toNat, rest)
      else
        (decodeVarint rest).map fun decoded =>
          (byte.toNat % 128 + 128 * decoded.1, decoded.2)

theorem decodeVarint_encodeVarintWithin {fuel number : Nat}
    (enough : number ≤ fuel) (rest : Bytes) :
    decodeVarint (encodeVarintWithin fuel number ++ rest) =
      some (number, rest) := by
  induction fuel generalizing number with
  | zero =>
      have zero : number = 0 := by omega
      simp [encodeVarintWithin, decodeVarint, zero]
  | succ fuel ih =>
      by_cases small : number < 128
      · have byteEq : (UInt8.ofNat number).toNat = number := by
          rw [UInt8.toNat_ofNat']
          omega
        simp [encodeVarintWithin, decodeVarint, small, byteEq]
      · have byteEq : (UInt8.ofNat (number % 128 + 128)).toNat =
            number % 128 + 128 := by
          rw [UInt8.toNat_ofNat']
          omega
        have tail : decodeVarint
            (encodeVarintWithin fuel (number / 128) ++ rest) =
              some (number / 128, rest) := ih (by omega)
        simp only [encodeVarintWithin, small, if_false, List.cons_append,
          decodeVarint, byteEq, tail, Option.map_some]
        rw [if_neg (by omega)]
        congr 2
        omega

theorem decodeVarint_encodeVarint (number : Nat) (rest : Bytes) :
    decodeVarint (encodeVarint number ++ rest) = some (number, rest) :=
  decodeVarint_encodeVarintWithin (Nat.le_refl number) rest

theorem encodeVarint_ne_nil (number : Nat) : encodeVarint number ≠ [] := by
  unfold encodeVarint
  cases number with
  | zero => simp [encodeVarintWithin]
  | succ number =>
      unfold encodeVarintWithin
      split <;> simp

/-- The payloads of the three wire types in use. -/
inductive Payload
  | varint (number : Nat)
  | bytes (content : Bytes)
  | fixed32 (first second third fourth : UInt8)
  deriving DecidableEq, Repr

structure Record where
  number : Nat
  payload : Payload
  deriving DecidableEq, Repr

def Payload.wireType : Payload → Nat
  | .varint _ => 0
  | .bytes _ => 2
  | .fixed32 .. => 5

def Payload.encode : Payload → Bytes
  | .varint number => encodeVarint number
  | .bytes content => encodeVarint content.length ++ content
  | .fixed32 first second third fourth => [first, second, third, fourth]

def decodePayload (wireType : Nat) (bytes : Bytes) :
    Option (Payload × Bytes) :=
  match wireType with
  | 0 => (decodeVarint bytes).map fun decoded => (.varint decoded.1, decoded.2)
  | 2 =>
      (decodeVarint bytes).bind fun decoded =>
        if decoded.1 ≤ decoded.2.length then
          some (.bytes (decoded.2.take decoded.1), decoded.2.drop decoded.1)
        else
          none
  | 5 =>
      match bytes with
      | first :: second :: third :: fourth :: rest =>
          some (.fixed32 first second third fourth, rest)
      | _ => none
  | _ => none

theorem decodePayload_encode (payload : Payload) (rest : Bytes) :
    decodePayload payload.wireType (payload.encode ++ rest) =
      some (payload, rest) := by
  cases payload with
  | varint number =>
      simp [Payload.wireType, Payload.encode, decodePayload,
        decodeVarint_encodeVarint]
  | bytes content =>
      simp [Payload.wireType, Payload.encode, decodePayload,
        decodeVarint_encodeVarint]
  | fixed32 first second third fourth => rfl

def Record.encode (record : Record) : Bytes :=
  encodeVarint (record.number * 8 + record.payload.wireType) ++
    record.payload.encode

def decodeRecord (bytes : Bytes) : Option (Record × Bytes) :=
  (decodeVarint bytes).bind fun tag =>
    (decodePayload (tag.1 % 8) tag.2).map fun decoded =>
      (⟨tag.1 / 8, decoded.1⟩, decoded.2)

theorem Payload.wireType_lt (payload : Payload) : payload.wireType < 8 := by
  cases payload <;> simp [Payload.wireType]

theorem decodeRecord_encode (record : Record) (rest : Bytes) :
    decodeRecord (record.encode ++ rest) = some (record, rest) := by
  have small := record.payload.wireType_lt
  have typeEq : (record.number * 8 + record.payload.wireType) % 8 =
      record.payload.wireType := by omega
  have numberEq : (record.number * 8 + record.payload.wireType) / 8 =
      record.number := by omega
  rw [decodeRecord, Record.encode, List.append_assoc,
    decodeVarint_encodeVarint]
  simp [typeEq, numberEq, decodePayload_encode]

def encodeRecords (records : List Record) : Bytes :=
  records.flatMap Record.encode

/-- Decode records until the input is used up; `fuel` bounds their number. -/
def decodeRecordsWithin : Nat → Bytes → Option (List Record)
  | _, [] => some []
  | 0, _ :: _ => none
  | fuel + 1, byte :: bytes =>
      (decodeRecord (byte :: bytes)).bind fun decoded =>
        (decodeRecordsWithin fuel decoded.2).map (decoded.1 :: ·)

def decodeRecords (bytes : Bytes) : Option (List Record) :=
  decodeRecordsWithin bytes.length bytes

theorem Record.encode_ne_nil (record : Record) : record.encode ≠ [] := by
  simp [Record.encode, encodeVarint_ne_nil]

theorem length_le_encodeRecords_length (records : List Record) :
    records.length ≤ (encodeRecords records).length := by
  induction records with
  | nil => simp
  | cons record records ih =>
      have positive := List.length_pos_of_ne_nil record.encode_ne_nil
      simp only [encodeRecords, List.flatMap_cons, List.length_append,
        List.length_cons] at ih ⊢
      omega

theorem decodeRecordsWithin_encodeRecords {fuel : Nat} (records : List Record)
    (enough : records.length ≤ fuel) :
    decodeRecordsWithin fuel (encodeRecords records) = some records := by
  induction records generalizing fuel with
  | nil => simp [encodeRecords, decodeRecordsWithin]
  | cons record records ih =>
      cases fuel with
      | zero => simp at enough
      | succ fuel =>
          have tail : decodeRecordsWithin fuel (encodeRecords records) =
              some records := ih (by simpa using enough)
          have head := decodeRecord_encode record (encodeRecords records)
          have split : encodeRecords (record :: records) =
              record.encode ++ encodeRecords records := by
            simp [encodeRecords]
          rw [split]
          cases bytesEq : record.encode ++ encodeRecords records with
          | nil => simp [record.encode_ne_nil] at bytesEq
          | cons byte bytes =>
              rw [bytesEq] at head
              simp [decodeRecordsWithin, head, tail]

/-- Decoding undoes encoding. -/
theorem decodeRecords_encodeRecords (records : List Record) :
    decodeRecords (encodeRecords records) = some records :=
  decodeRecordsWithin_encodeRecords records
    (length_le_encodeRecords_length records)

/-- The last byte string carried under a field number. -/
def lastBytes (number : Nat) (records : List Record) : Option Bytes :=
  (records.filterMap fun record =>
    match record.payload with
    | .bytes content => if record.number = number then some content else none
    | _ => none).getLast?

/-- The last number carried under a field number. -/
def lastVarint (number : Nat) (records : List Record) : Option Nat :=
  (records.filterMap fun record =>
    match record.payload with
    | .varint value => if record.number = number then some value else none
    | _ => none).getLast?

/-- The last four-byte payload carried under a field number. -/
def lastFixed32 (number : Nat) (records : List Record) :
    Option (UInt8 × UInt8 × UInt8 × UInt8) :=
  (records.filterMap fun record =>
    match record.payload with
    | .fixed32 first second third fourth =>
        if record.number = number then some (first, second, third, fourth)
        else none
    | _ => none).getLast?

/-- All byte strings carried under a field number, in order. -/
def allBytes (number : Nat) (records : List Record) : List Bytes :=
  records.filterMap fun record =>
    match record.payload with
    | .bytes content => if record.number = number then some content else none
    | _ => none

end TaggedWire

end MScale
