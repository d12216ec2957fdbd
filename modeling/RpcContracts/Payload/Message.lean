/-!
# Message payloads

The four messages of the sample contracts. A ping and a pong have the same fields, and a greeting
goes from a request with a name to a reply with a message.
-/

namespace RpcContracts

/-- The message types. -/
inductive MessageKind where
  | ping
  | pong
  | helloRequest
  | helloReply
  deriving DecidableEq

namespace MessageKind

/-- Every message type. -/
def all : List MessageKind := [ping, pong, helloRequest, helloReply]

/-- Unqualified name of a message type. -/
def shortName : MessageKind → String
  | ping => "Ping"
  | pong => "Pong"
  | helloRequest => "HelloRequest"
  | helloReply => "HelloReply"

/-- Qualified name of a message type. -/
def name (kind : MessageKind) : String :=
  "example_protocall_service_definition::messages::" ++ kind.shortName

end MessageKind

/-- One message. -/
inductive Message where
  | ping (id : UInt64) (label : String)
  | pong (id : UInt64) (label : String)
  | helloRequest (name : String)
  | helloReply (message : String)
  deriving DecidableEq

namespace Message

/-- The type of a message. -/
def kind : Message → MessageKind
  | ping .. => .ping
  | pong .. => .pong
  | helloRequest .. => .helloRequest
  | helloReply .. => .helloReply

/-- The message of a type whose fields all have their default values. -/
def default : MessageKind → Message
  | .ping => ping 0 ""
  | .pong => pong 0 ""
  | .helloRequest => helloRequest ""
  | .helloReply => helloReply ""

/-- The number of a ping or a pong; other messages have none. -/
def id : Message → UInt64
  | ping id _ => id
  | pong id _ => id
  | _ => 0

/-- The text of a message. -/
def text : Message → String
  | ping _ label => label
  | pong _ label => label
  | helloRequest name => name
  | helloReply message => message

end Message
end RpcContracts
