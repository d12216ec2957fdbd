import RpcContracts.Payload.Message
import RpcContracts.Wire.Field

/-!
# Messages on the wire

The binary form of the four messages. Default fields are not written; when reading, the last
occurrence of a field wins and fields of unknown number are skipped.
-/

namespace RpcContracts
namespace Message

open Wire

/-- A field of a message. -/
inductive Field where
  /-- The identifier of a ping or a pong. -/
  | id
  /-- The only text of a message. -/
  | text
  deriving DecidableEq

/-- The field with a given number. -/
def field? : MessageKind → Nat → Option Field
  | .ping, 1 => some .id
  | .ping, 2 => some .text
  | .pong, 1 => some .id
  | .pong, 2 => some .text
  | .helloRequest, 1 => some .text
  | .helloReply, 1 => some .text
  | _, _ => none

/-- The name of the text field. -/
def textName : MessageKind → String
  | .ping => "label"
  | .pong => "label"
  | .helloRequest => "name"
  | .helloReply => "message"

/-- The message with another identifier, where it has one. -/
def withId (value : UInt64) : Message → Message
  | ping _ label => ping value label
  | pong _ label => pong value label
  | message => message

/-- The message with another text. -/
def withText (value : String) : Message → Message
  | ping id _ => ping id value
  | pong id _ => pong id value
  | helloRequest _ => helloRequest value
  | helloReply _ => helloReply value

/-- Read the content of one field into a message. -/
def mergeField (message : Message) (number : Nat) (type : WireType) (bytes : List UInt8) :
    Except DecodeError (Message × Remaining bytes) :=
  let kind := message.kind
  match field? kind number with
  | some .id =>
      match takeNumber type bytes with
      | .error error => .error (.inField (kind.shortName ++ ".id") error)
      | .ok (value, rest) => .ok (message.withId value, rest)
  | some .text =>
      match takeText type bytes with
      | .error error => .error (.inField (kind.shortName ++ "." ++ textName kind) error)
      | .ok (value, rest) => .ok (message.withText value, rest)
  | none =>
      match skipField nestingLimit type number bytes with
      | .error error => .error error
      | .ok rest => .ok (message, rest)

/-- Read all fields into a message. -/
def merge (message : Message) (bytes : List UInt8) : Except DecodeError Message :=
  if bytes.isEmpty then .ok message
  else
    match takeKey bytes with
    | .error error => .error error
    | .ok (number, type, rest) =>
        match message.mergeField number type rest.val with
        | .error error => .error error
        | .ok (merged, afterField) =>
            have : afterField.val.length < bytes.length :=
              Nat.lt_of_le_of_lt afterField.property rest.property
            merge merged afterField.val
termination_by bytes.length

/-- The bytes of a message. -/
def encode : Message → List UInt8
  | ping id label => writeNumberField 1 id ++ writeTextField 2 label
  | pong id label => writeNumberField 1 id ++ writeTextField 2 label
  | helloRequest name => writeTextField 1 name
  | helloReply message => writeTextField 1 message

/-- The message of a given type that the bytes spell. -/
def decode (kind : MessageKind) (bytes : List UInt8) : Except DecodeError Message :=
  merge (default kind) bytes

end Message
end RpcContracts
