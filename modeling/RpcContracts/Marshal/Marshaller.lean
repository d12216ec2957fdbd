import RpcContracts.Payload.Basic
import RpcContracts.Text.Decimal
import RpcContracts.Text.Utf8
import RpcContracts.Wire.Message

/-!
# Marshallers

A marshaller converts the payloads of one type to bytes and back. Every message type has one, and a
second format writes 32-bit integers as decimal text.
-/

namespace RpcContracts

/-- Conversion of one payload type to bytes and back. -/
structure Marshaller where
  /-- Name the marshaller is known by. -/
  typeName : String
  /-- The bytes of a payload. -/
  serialize : Payload → Except RpcError (List UInt8)
  /-- The payload of bytes. -/
  deserialize : List UInt8 → Except RpcError Payload

namespace Marshaller

/-- Write a payload that has to be a message of a given type. -/
def writeMessage (kind : MessageKind) : Payload → Except RpcError (List UInt8)
  | .message message =>
      if message.kind = kind then .ok message.encode else .error (.typeMismatch kind.name)
  | _ => .error (.typeMismatch kind.name)

/-- Read a message of a given type. -/
def readMessage (kind : MessageKind) (bytes : List UInt8) : Except RpcError Payload :=
  match Message.decode kind bytes with
  | .ok message => .ok (.message message)
  | .error error =>
      .error (.codec (kind.name ++ ": failed to decode Protobuf message: " ++ error.message))

/-- The marshaller of a message type. -/
def message (kind : MessageKind) : Marshaller where
  typeName := kind.name
  serialize := writeMessage kind
  deserialize := readMessage kind

/-- Write a 32-bit integer as decimal text. -/
def writeDecimal : Payload → Except RpcError (List UInt8)
  | .i32 value => .ok (Text.utf8Bytes (toString value.toInt))
  | _ => .error (.typeMismatch PlainType.i32.name)

/-- The 32-bit integer of a decimal text. -/
def decimal? (bytes : List UInt8) : Option Int32 :=
  match Text.ofUtf8Bytes? bytes with
  | none => none
  | some text =>
      match Text.integer? text.toList with
      | none => none
      | some value =>
          if Int32.minValue.toInt ≤ value ∧ value ≤ Int32.maxValue.toInt then
            some (Int32.ofInt value)
          else none

/-- Read a 32-bit integer from decimal text. -/
def readDecimal (bytes : List UInt8) : Except RpcError Payload :=
  match decimal? bytes with
  | some value => .ok (.i32 value)
  | none => .error (.codec "custom: bad integer")

/-- The marshaller that writes 32-bit integers as decimal text. -/
def decimal : Marshaller where
  typeName := "custom::Int32Text"
  serialize := writeDecimal
  deserialize := readDecimal

end Marshaller
end RpcContracts
