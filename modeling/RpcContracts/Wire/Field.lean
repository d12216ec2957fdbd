import RpcContracts.Text.Utf8
import RpcContracts.Wire.Varint

/-!
# Tagged fields

A message is a sequence of fields, each introduced by a key that joins a field number and a wire
type. Besides reading keys and the two field types the messages use, this file skips fields of
unknown number, whose groups may nest up to a limit.
-/

namespace RpcContracts
namespace Wire

/-- How the bytes of a field are delimited. -/
inductive WireType where
  | varint
  | sixtyFourBit
  | lengthDelimited
  | startGroup
  | endGroup
  | thirtyTwoBit
  deriving DecidableEq

namespace WireType

/-- The wire type with a given number. -/
def ofRaw? : Nat → Option WireType
  | 0 => some varint
  | 1 => some sixtyFourBit
  | 2 => some lengthDelimited
  | 3 => some startGroup
  | 4 => some endGroup
  | 5 => some thirtyTwoBit
  | _ => none

/-- The number of a wire type. -/
def raw : WireType → Nat
  | varint => 0
  | sixtyFourBit => 1
  | lengthDelimited => 2
  | startGroup => 3
  | endGroup => 4
  | thirtyTwoBit => 5

/-- Printed name of a wire type. -/
def name : WireType → String
  | varint => "Varint"
  | sixtyFourBit => "SixtyFourBit"
  | lengthDelimited => "LengthDelimited"
  | startGroup => "StartGroup"
  | endGroup => "EndGroup"
  | thirtyTwoBit => "ThirtyTwoBit"

end WireType

/-- Why bytes are not a message. -/
inductive DecodeError where
  | invalidVarint
  | invalidKey (key : Nat)
  | invalidWireType (raw : Nat)
  | invalidFieldNumber
  | unexpectedWireType (actual expected : WireType)
  | bufferUnderflow
  | invalidText
  | unexpectedEndGroup
  | nestingLimit
  /-- An error inside a field the message knows. -/
  | inField (field : String) (error : DecodeError)
  deriving DecidableEq

namespace DecodeError

/-- The message of an error. -/
def message : DecodeError → String
  | invalidVarint => "invalid varint"
  | invalidKey key => "invalid key value: " ++ toString key
  | invalidWireType raw => "invalid wire type value: " ++ toString raw
  | invalidFieldNumber => "invalid tag value: 0"
  | unexpectedWireType actual expected =>
      "invalid wire type: " ++ actual.name ++ " (expected " ++ expected.name ++ ")"
  | bufferUnderflow => "buffer underflow"
  | invalidText => "invalid string value: data is not UTF-8 encoded"
  | unexpectedEndGroup => "unexpected end group tag"
  | nestingLimit => "recursion limit reached"
  | inField field error => field ++ ": " ++ error.message

end DecodeError

/-- The bytes left of a longer byte list. -/
abbrev Shorter (bytes : List UInt8) := { rest : List UInt8 // rest.length < bytes.length }

/-- The bytes left of a byte list of which something may have been read. -/
abbrev Remaining (bytes : List UInt8) := { rest : List UInt8 // rest.length ≤ bytes.length }

/-- Read a number. -/
def takeVarint (bytes : List UInt8) : Except DecodeError (Nat × Shorter bytes) :=
  match read : readVarint bytes with
  | some (number, rest) => .ok (number, ⟨rest, length_of_readVarint read⟩)
  | none => .error .invalidVarint

/-- Skip a number of bytes. -/
def dropBytes (count : Nat) (bytes : List UInt8) : Except DecodeError (Remaining bytes) :=
  if bytes.length < count then .error .bufferUnderflow
  else .ok ⟨bytes.drop count, by simp⟩

/-- The key of a field number and a wire type. -/
def writeKey (number : Nat) (type : WireType) : List UInt8 :=
  writeVarint (8 * number + type.raw)

/-- Read a key: its field number, its wire type and the bytes after it. -/
def takeKey (bytes : List UInt8) : Except DecodeError (Nat × WireType × Shorter bytes) :=
  match takeVarint bytes with
  | .error error => .error error
  | .ok (key, rest) =>
      if UInt32.size ≤ key then .error (.invalidKey key)
      else
        match WireType.ofRaw? (key % 8) with
        | none => .error (.invalidWireType (key % 8))
        | some type => if key / 8 = 0 then .error .invalidFieldNumber else .ok (key / 8, type, rest)

/-- Skip the fields of a group up to its end, given how to skip one field inside it. -/
def skipGroup
    (skipInner : WireType → Nat → (bytes : List UInt8) → Except DecodeError (Remaining bytes))
    (number : Nat) (bytes : List UInt8) : Except DecodeError (Remaining bytes) :=
  match takeKey bytes with
  | .error error => .error error
  | .ok (innerNumber, .endGroup, rest) =>
      if innerNumber = number then .ok ⟨rest.val, Nat.le_of_lt rest.property⟩
      else .error .unexpectedEndGroup
  | .ok (innerNumber, type, rest) =>
      match skipInner type innerNumber rest.val with
      | .error error => .error error
      | .ok afterField =>
          have shorter : afterField.val.length < bytes.length :=
            Nat.lt_of_le_of_lt afterField.property rest.property
          match skipGroup skipInner number afterField.val with
          | .error error => .error error
          | .ok afterGroup =>
              .ok ⟨afterGroup.val, Nat.le_trans afterGroup.property (Nat.le_of_lt shorter)⟩
termination_by bytes.length

/-- Skip one field; `limit` bounds how deeply groups may nest. -/
def skipField :
    Nat → WireType → Nat → (bytes : List UInt8) → Except DecodeError (Remaining bytes)
  | 0, _, _, _ => .error .nestingLimit
  | limit + 1, type, number, bytes =>
      match type with
      | .varint =>
          match takeVarint bytes with
          | .error error => .error error
          | .ok (_, rest) => .ok ⟨rest.val, Nat.le_of_lt rest.property⟩
      | .sixtyFourBit => dropBytes 8 bytes
      | .thirtyTwoBit => dropBytes 4 bytes
      | .lengthDelimited =>
          match takeVarint bytes with
          | .error error => .error error
          | .ok (length, rest) =>
              match dropBytes length rest.val with
              | .error error => .error error
              | .ok afterField =>
                  .ok ⟨afterField.val,
                    Nat.le_trans afterField.property (Nat.le_of_lt rest.property)⟩
      | .startGroup => skipGroup (skipField limit) number bytes
      | .endGroup => .error .unexpectedEndGroup

/-- How deeply the groups of a message may nest. -/
def nestingLimit : Nat := 100

/-- Read the content of a number field. -/
def takeNumber (type : WireType) (bytes : List UInt8) :
    Except DecodeError (UInt64 × Remaining bytes) :=
  if type = .varint then
    match takeVarint bytes with
    | .error error => .error error
    | .ok (number, rest) => .ok (UInt64.ofNat number, ⟨rest.val, Nat.le_of_lt rest.property⟩)
  else .error (.unexpectedWireType type .varint)

/-- Read the content of a text field. -/
def takeText (type : WireType) (bytes : List UInt8) :
    Except DecodeError (String × Remaining bytes) :=
  if type = .lengthDelimited then
    match takeVarint bytes with
    | .error error => .error error
    | .ok (length, rest) =>
        match dropBytes length rest.val with
        | .error error => .error error
        | .ok afterField =>
            match Text.ofUtf8Bytes? (rest.val.take length) with
            | none => .error .invalidText
            | some text =>
                .ok (text, ⟨afterField.val,
                  Nat.le_trans afterField.property (Nat.le_of_lt rest.property)⟩)
  else .error (.unexpectedWireType type .lengthDelimited)

/-- Write a number field, omitted at its default. -/
def writeNumberField (number : Nat) (value : UInt64) : List UInt8 :=
  if value = 0 then [] else writeKey number .varint ++ writeVarint value.toNat

/-- Write a text field, omitted when empty. -/
def writeTextField (number : Nat) (text : String) : List UInt8 :=
  if text = "" then []
  else
    writeKey number .lengthDelimited ++ writeVarint (Text.utf8Bytes text).length ++
      Text.utf8Bytes text

end Wire
end RpcContracts
