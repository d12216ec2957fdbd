import RpcContracts.Sample.Services

/-!
# Scripted services

Services whose methods are described by data: the form of the signature, the payloads, the context
and what the method does. Methods wait for the release of one source, and read no other.
-/

namespace RpcContracts
namespace Sample

/-- The payloads of a scripted method. -/
inductive PayloadFamily where
  /-- From pings to pongs. -/
  | ping
  /-- From greetings to replies. -/
  | hello
  /-- Between numbers. -/
  | number
  /-- From pings to numbers. -/
  | mixed
  deriving DecidableEq

namespace PayloadFamily

/-- Every family. -/
def all : List PayloadFamily := [ping, hello, number, mixed]

/-- Name of a family. -/
def name : PayloadFamily → String
  | ping => "ping"
  | hello => "hello"
  | number => "i32"
  | mixed => "mixed"

/-- The type of a request. -/
def request : PayloadFamily → PlainType
  | ping => .message .ping
  | hello => .message .helloRequest
  | number => .i32
  | mixed => .message .ping

/-- The type of a response. -/
def response : PayloadFamily → PlainType
  | ping => .message .pong
  | hello => .message .helloReply
  | number => .i32
  | mixed => .i32

/-- A request of a family. -/
abbrev Request (family : PayloadFamily) := PayloadOf (.plain family.request)

/-- A response of a family. -/
abbrev Response (family : PayloadFamily) := PayloadOf (.plain family.response)

/-- A number as a response. -/
def numberOf (value : Int32) : PayloadOf (.plain .i32) := ⟨.i32 value, rfl⟩

/-- The response to a request, moved by an offset and marked by a tag. -/
def convert (family : PayloadFamily) (request : family.Request) (offset : Nat) (tag : String) :
    family.Response :=
  match family with
  | ping => pongOf (request.val.id + .ofNat offset) (request.val.text ++ tag)
  | hello => replyOf ("Hello " ++ request.val.text ++ "#" ++ toString offset ++ tag)
  | number => numberOf (request.val.int32 + .ofNat offset)
  | mixed => numberOf (request.val.id + .ofNat offset).toUInt32.toInt32

/-- The response before any request. -/
def initial : (family : PayloadFamily) → family.Response
  | ping => pongOf 0 ""
  | hello => replyOf ""
  | number => numberOf 0
  | mixed => numberOf 0

/-- The response to one more request. -/
def combine (family : PayloadFamily) (total : family.Response) (request : family.Request) :
    family.Response :=
  match family with
  | ping => pongOf (total.val.id + request.val.id) (total.val.text ++ request.val.text)
  | hello => replyOf (total.val.text ++ request.val.text)
  | number => numberOf (total.val.int32 + request.val.int32)
  | mixed => numberOf (total.val.int32 + request.val.id.toUInt32.toInt32)

/-- The request type as declared. -/
def requestType (family : PayloadFamily) : DeclaredType := .ofPlain family.request

/-- The response type as declared. -/
def responseType (family : PayloadFamily) : DeclaredType := .ofPlain family.response

end PayloadFamily

/-- The form of the signature of a scripted method, without its context. -/
inductive ScriptForm where
  | value
  | result
  | task
  | valueTask
  | readerTask
  | readerValueTask
  | stream
  | writer
  | readerStream
  | readerWriter
  | noRequest
  | twoRequests
  | threeRequests
  | readerValue
  | writerValueTask
  deriving DecidableEq

namespace ScriptForm

/-- Every form. -/
def all : List ScriptForm :=
  [value, result, task, valueTask, readerTask, readerValueTask, stream, writer, readerStream,
   readerWriter, noRequest, twoRequests, threeRequests, readerValue, writerValueTask]

/-- Name of a form. -/
def name : ScriptForm → String
  | value => "value"
  | result => "result"
  | task => "task"
  | valueTask => "value_task"
  | readerTask => "reader_task"
  | readerValueTask => "reader_value_task"
  | stream => "stream"
  | writer => "writer"
  | readerStream => "reader_stream"
  | readerWriter => "reader_writer"
  | noRequest => "no_request"
  | twoRequests => "two_requests"
  | threeRequests => "three_requests"
  | readerValue => "reader_value"
  | writerValueTask => "writer_value_task"

/-- Types of the parameters. -/
def params (family : PayloadFamily) : ScriptForm → List DeclaredType
  | value => [family.requestType]
  | result => [family.requestType]
  | task => [family.requestType]
  | valueTask => [family.requestType]
  | readerTask => [.wrapped .streamReader family.requestType]
  | readerValueTask => [.wrapped .streamReader family.requestType]
  | stream => [family.requestType]
  | writer => [family.requestType, .wrapped .streamWriter family.responseType]
  | readerStream => [.wrapped .streamReader family.requestType]
  | readerWriter =>
      [.wrapped .streamReader family.requestType, .wrapped .streamWriter family.responseType]
  | noRequest => []
  | twoRequests => [family.requestType, family.requestType]
  | threeRequests => [family.requestType, family.requestType, family.requestType]
  | readerValue => [.wrapped .streamReader family.requestType]
  | writerValueTask => [family.requestType, .wrapped .streamWriter family.responseType]

/-- Type of the return value. -/
def returns (family : PayloadFamily) : ScriptForm → DeclaredType
  | value => family.responseType
  | result => .wrapped .fallible family.responseType
  | task => .wrapped .task family.responseType
  | valueTask => .wrapped .valueTask family.responseType
  | readerTask => .wrapped .task family.responseType
  | readerValueTask => .wrapped .valueTask family.responseType
  | stream => .wrapped .responseStream family.responseType
  | writer => .wrapped .task (.ofPlain .unit)
  | readerStream => .wrapped .responseStream family.responseType
  | readerWriter => .wrapped .task (.ofPlain .unit)
  | noRequest => .wrapped .task family.responseType
  | twoRequests => .wrapped .task family.responseType
  | threeRequests => .wrapped .task family.responseType
  | readerValue => family.responseType
  | writerValueTask => .wrapped .valueTask (.ofPlain .unit)

end ScriptForm

/-- What a scripted method does. -/
structure Script where
  /-- The form of its signature. -/
  form : ScriptForm
  /-- Its payloads. -/
  family : PayloadFamily
  /-- The context it takes last. -/
  context : Option PlainType
  /-- How it ends if it fails. -/
  failure : Option RpcError
  /-- Whether it waits to be released. -/
  gated : Bool
  /-- How many responses it streams. -/
  count : Nat
  /-- Whether a returned stream stays open. -/
  hangs : Bool
  /-- Whether it goes on after failed requests. -/
  skipsErrors : Bool

namespace Script

/-- The source whose result releases the methods that wait. -/
def releaseSource : Nat := 1

/-- What a context adds to a response. -/
def tag : Payload → String
  | .callContext (.server context) => "@unified:" ++ context.method
  | .serverCallContext context => "@server:" ++ context.method
  | .callOptions _ => "@options"
  | _ => ""

/-- The types of the context parameter. -/
def contextParams (script : Script) : List DeclaredType :=
  script.context.toList.map DeclaredType.ofPlain

/-- The way a method ends that has nothing else to fail of. -/
def verdict {α : Type} (script : Script) (value : α) : Except RpcError α :=
  match script.failure with
  | some error => .error error
  | none => .ok value

/-- Run a task: after the release if the method waits for it, and with a failure at the end if the
method fails. -/
def settle {α : Type} (script : Script) (task : Task α) : Task α :=
  let started :=
    if script.gated then task.onceReleased fun history => (history.outcome? releaseSource).isSome
    else task
  started.map fun result => result >>= script.verdict

/-- The items that end a stream. -/
def tail {α : Type} (script : Script) : List (Except RpcError α) :=
  (script.failure.map Except.error).toList

/-- The streamed responses to one request. -/
def responses (script : Script) (request : script.family.Request) (tag : String) :
    List script.family.Response :=
  (List.range script.count).map fun offset => script.family.convert request offset tag

/-- The requests that a method takes notice of. -/
def heeded (script : Script) (requests : ItemStream script.family.Request) :
    ItemStream script.family.Request :=
  if script.skipsErrors then requests.dropErrors else requests

/-- The task of all requests. -/
def total (script : Script) (requests : ItemStream script.family.Request) :
    Task script.family.Response :=
  script.settle ((script.heeded requests).fold script.family.initial script.family.combine)

/-- The task of one request. -/
def single (script : Script) (request : script.family.Request) (tag : String) :
    Task script.family.Response :=
  script.settle (.ready (.ok (script.family.convert request 0 tag)))

/-- The responses to requests, one for each. -/
def converted (script : Script) (requests : ItemStream script.family.Request) (tag : String) :
    ItemStream script.family.Response :=
  requests.map (Except.map fun request => script.family.convert request 0 tag)

/-- Write the responses to one request. -/
def write (script : Script) (request : script.family.Request) (writer : Writer) (tag : String) :
    Task Unit :=
  writer.writeEach ((script.responses request tag).map Subtype.val) (script.verdict ())

/-- Write a response to each request. -/
def relay (script : Script) (requests : ItemStream script.family.Request) (writer : Writer)
    (tag : String) : Task Unit :=
  let responses := ItemStream.erase (script.converted (script.heeded requests) tag)
  ItemStream.pump (responses.followedBy script.tail false) .detached writer

/-- What the method returns. -/
def body (script : Script) (tag : String) :
    (form : ScriptForm) →
      Arguments ((form.params script.family).map DeclaredType.valueType) →
        (form.returns script.family).valueType.Carrier
  | .value, (request, _) => ⟨script.family.convert request.down 0 tag⟩
  | .result, (request, _) => ⟨script.verdict (script.family.convert request.down 0 tag)⟩
  | .task, (request, _) => script.single request.down tag
  | .valueTask, (request, _) => .backed (script.single request.down tag)
  | .readerTask, (requests, _) => script.total requests
  | .readerValueTask, (requests, _) => .backed (script.total requests)
  | .stream, (request, _) =>
      Stream.ofItems ((script.responses request.down tag).map Except.ok ++ script.tail)
        script.hangs
  | .writer, (request, writer, _) => unitTask (script.write request.down writer.down tag)
  | .readerStream, (requests, _) =>
      Stream.followedBy (script.converted requests tag) script.tail script.hangs
  | .readerWriter, (requests, writer, _) => unitTask (script.relay requests writer.down tag)
  | .noRequest, _ => Future.ready (.ok script.family.initial)
  | .twoRequests, (request, _) => script.single request.down tag
  | .threeRequests, (request, _) => script.single request.down tag
  | .readerValue, _ => ⟨script.family.initial⟩
  | .writerValueTask, (request, writer, _) =>
      .backed (unitTask (script.write request.down writer.down tag))

/-- The scripted method as a function. -/
def function (script : Script) : ServiceFunction where
  params := script.form.params script.family ++ script.contextParams
  returns := script.form.returns script.family
  run := fun arguments =>
    match Arguments.split DeclaredType.valueType (script.form.params script.family)
        script.contextParams arguments with
    | (payloads, context) =>
        let tags := (Arguments.toList _ context).map fun value => tag value.toPayload
        script.body (String.join tags) script.form payloads

end Script

/-- How a scripted method becomes part of a contract. -/
inductive ScriptRole where
  /-- Declared with its annotations. -/
  | annotated
  /-- Declared as an operation. -/
  | operation
  /-- Declared as an operation with a wire name. -/
  | named
  /-- Declared as a mere method. -/
  | method
  /-- Declared without a function. -/
  | declared
  /-- Attached without being declared. -/
  | attached
  deriving DecidableEq

namespace ScriptRole

/-- Every role. -/
def all : List ScriptRole := [annotated, operation, named, method, declared, attached]

/-- Name of a role. -/
def name : ScriptRole → String
  | annotated => "annotated"
  | operation => "operation"
  | named => "named"
  | method => "method"
  | declared => "signature"
  | attached => "invoker"

end ScriptRole

/-- A scripted method of a contract. -/
structure ScriptedMethod where
  /-- Name of the method. -/
  name : String
  /-- What it does. -/
  script : Script
  /-- How it becomes part of the contract. -/
  role : ScriptRole
  /-- Its annotations. -/
  annotations : List Annotation
  /-- Its wire name, if it is declared with one. -/
  wireName : String
  /-- Number of type parameters left open. -/
  genericParams : Nat

namespace ScriptedMethod

/-- The signature of a method. -/
def signature (method : ScriptedMethod) : Signature :=
  { method.script.function.signature method.name method.annotations with
    genericParams := method.genericParams }

/-- Add a method to an implementation. -/
def addTo (implementation : Implementation) (method : ScriptedMethod) : Implementation :=
  let function := method.script.function
  match method.role with
  | .annotated => implementation.declare method.name function method.annotations
  | .operation => implementation.operation method.name function
  | .named => implementation.namedOperation method.name method.wireName function
  | .method => implementation.method method.name function
  | .declared => implementation.addSignature method.signature
  | .attached => implementation.attach method.name function.invoker

end ScriptedMethod

/-- A contract implemented by scripted methods. -/
structure ScriptedContract where
  /-- The contract without its methods. -/
  head : Contract
  /-- The methods. -/
  methods : List ScriptedMethod

namespace ScriptedContract

/-- The implementation of a contract. -/
def implementation (scripted : ScriptedContract) : Implementation :=
  scripted.methods.foldl ScriptedMethod.addTo (.ofContract scripted.head)

end ScriptedContract

/-- The type name of scripted services. -/
def scriptedType : String := "protocall_oracle::server::DynService"

/-- The contract of a scripted service of which nothing is said. -/
def scriptedClass : Contract := ⟨.concrete, scriptedType, [], []⟩

/-- A service of a session. -/
inductive ServiceChoice where
  /-- A sample service, by name. -/
  | known (name : String)
  /-- A scripted service: its own contract and those it implements. -/
  | scripted (own : ScriptedContract) (implemented : List ScriptedContract)

namespace ServiceChoice

/-- The scripted service of which nothing is said. -/
def blank : ServiceChoice := scripted ⟨scriptedClass, []⟩ []

/-- The chosen service. -/
def service : ServiceChoice → HostedService
  | known name => (services.lookup name).getD bareService
  | scripted own implemented =>
      ⟨own.implementation, implemented.map ScriptedContract.implementation⟩

end ServiceChoice
end Sample
end RpcContracts
