import MScale.TaggedWire
import Mathlib.Data.List.AList

/-!
# Command and response messages

The master controls the test instances by command messages and collects their
statistics from response messages.  This file embeds the two message types of
`hdaemon.proto` and states what the programs rely on from the serialization
library, which is a parameter of the development.
-/

namespace MScale

/-- `CommandMessage.CommandType`. -/
inductive CommandType
  | subcmd
  | stop
  deriving DecidableEq, Repr

/-- The common shape of `CommandArgs` and `Resp`: a name and at most one value
in one of four fields.  `FloatNum` stands for the numbers of a `float` field. -/
structure NamedValue (FloatNum : Type) where
  name : String
  strValue : Option String := none
  intValue : Option Int64 := none
  floatValue : Option FloatNum := none
  byteValue : Option Bytes := none
  deriving DecidableEq, Repr

abbrev CommandArgs := NamedValue

abbrev Resp := NamedValue

structure Command (FloatNum : Type) where
  cmdName : String
  argument : List (CommandArgs FloatNum)
  deriving DecidableEq, Repr

structure CommandMessage (FloatNum : Type) where
  type : CommandType
  cmd : Option (Command FloatNum)
  deriving DecidableEq, Repr

structure ResponseMessage (FloatNum : Type) where
  status : String
  resp : List (Resp FloatNum)
  deriving DecidableEq, Repr

/-- The serialization library.  Parsing answers `none` where it raises, a text
that is not accepted raises when it is assigned to a string field, and a
number is narrowed when it is assigned to a float field. -/
structure Protobuf (FloatNum : Type) where
  parseCommand : Bytes → Option (CommandMessage FloatNum)
  parseResponse : Bytes → Option (ResponseMessage FloatNum)
  serializeResponse : ResponseMessage FloatNum → Bytes
  acceptsText : String → Bool
  narrow : FloatNum → FloatNum

/-- Plain ASCII text. -/
def IsAscii (text : String) : Prop :=
  ∀ char ∈ text.toList, char.toNat < 128

instance (text : String) : Decidable (IsAscii text) :=
  List.decidableBAll (fun char : Char => char.toNat < 128) text.toList

/-- What the programs rely on: parsing undoes serialization, and a string
field accepts plain ASCII. -/
structure Protobuf.Lawful {FloatNum : Type} (protobuf : Protobuf FloatNum) :
    Prop where
  parse_serialize : ∀ message,
    protobuf.parseResponse (protobuf.serializeResponse message) = some message
  accepts_ascii : ∀ text, IsAscii text → protobuf.acceptsText text = true

/-- A Python dict with string keys. -/
abbrev Dict (Value : Type*) := AList (fun _ : String => Value)

/-- A Python value as far as the daemon and the analyser distinguish it: an
`int`, a `float`, or anything else by its text `str(value)`. -/
inductive PyValue (FloatNum : Type)
  | int (number : Int64)
  | float (number : FloatNum)
  | other (text : String)
  deriving DecidableEq, Repr

end MScale
