import RpcContracts.Contract.Signature

/-!
# Sample contracts

A greeter, and a contract with one method for each supported call shape and a few that a client
cannot express.
-/

namespace RpcContracts
namespace Sample

/-- A message type as declared. -/
def messageType (kind : MessageKind) : DeclaredType := .ofPlain (.message kind)

/-- A method without annotations. -/
def method (name : String) (params : List DeclaredType) (returns : DeclaredType) : Signature :=
  ⟨name, params, returns, 0, []⟩

/-- An interface tagged with a service name. -/
def interface (typeName service : String) (methods : List Signature) : Contract :=
  ⟨.interface, typeName, [.serviceContract (some service)], methods⟩

/-- Requests and replies of the sample contracts. -/
def ping : DeclaredType := messageType .ping
/-- The answer to a ping. -/
def pong : DeclaredType := messageType .pong
/-- The request of the greeter. -/
def helloRequest : DeclaredType := messageType .helloRequest
/-- The reply of the greeter. -/
def helloReply : DeclaredType := messageType .helloReply
/-- The context of either side. -/
def callContext : DeclaredType := .ofPlain .callContext
/-- The context of a handled call. -/
def serverCallContext : DeclaredType := .ofPlain .serverCallContext
/-- The options of a call. -/
def callOptions : DeclaredType := .ofPlain .callOptions

/-- The methods of the greeter. -/
def sayHello : Signature := method "say_hello" [helloRequest] (.wrapped .task helloReply)
/-- One reply per greeting that the server decides to send. -/
def sayHellos : Signature :=
  method "say_hellos" [helloRequest, callContext] (.wrapped .responseStream helloReply)

/-- The greeter. -/
def greeter : Contract :=
  interface "example_protocall_service_definition::greeter::Greeter" "Greet.Greeter"
    [sayHello, sayHellos]

/-- Answers at once. -/
def blockingUnary : Signature := method "blocking_unary" [ping] (.wrapped .fallible pong)
/-- Answers later, and takes options. -/
def taskUnary : Signature := method "task_unary" [ping, callOptions] (.wrapped .task pong)
/-- Answers with a value task, and takes a context. -/
def valueTaskUnary : Signature :=
  method "value_task_unary_async" [ping, callContext] (.wrapped .valueTask pong)
/-- Takes a stream of requests. -/
def clientStreaming : Signature :=
  method "client_streaming" [.wrapped .streamReader ping] (.wrapped .task pong)
/-- Returns a stream of responses. -/
def serverStreaming : Signature :=
  method "server_streaming" [ping] (.wrapped .responseStream pong)
/-- Streams both ways. -/
def duplex : Signature :=
  method "duplex" [.wrapped .streamReader ping, callContext] (.wrapped .responseStream pong)
/-- Has a wire name of its own. -/
def renamed : Signature :=
  { method "renamed" [ping] (.wrapped .task pong) with
    annotations := [.operationContract (some "Relabel")] }
/-- Writes a stream of responses, which only servers can. -/
def serverStreamingWriter : Signature :=
  method "server_streaming_writer" [ping, .wrapped .streamWriter pong, serverCallContext]
    (.wrapped .task (.ofPlain .unit))
/-- Streams both ways through a writer, which only servers can. -/
def duplexWriter : Signature :=
  method "duplex_writer" [.wrapped .streamReader ping, .wrapped .streamWriter pong]
    (.wrapped .task (.ofPlain .unit))
/-- Has a call shape, but its payloads have no marshaller. -/
def echoNumber : Signature := method "echo_number" [.ofPlain .i32] (.wrapped .task (.ofPlain .i32))
/-- Has no call shape. -/
def isValid : Signature :=
  method "is_valid" [.ofPlain .i32, .ofPlain .string] (.wrapped .fallible (.ofPlain .bool))

/-- The contract of all shapes. -/
def allShapes : Contract :=
  interface "example_protocall_service_definition::all_shapes::AllShapes" "Shapes.AllShapes"
    [blockingUnary, taskUnary, valueTaskUnary, clientStreaming, serverStreaming, duplex, renamed,
     serverStreamingWriter, duplexWriter, echoNumber, isValid]

end Sample
end RpcContracts
