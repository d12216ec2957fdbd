import RpcContracts.Async.Transform
import RpcContracts.Sample.Contracts
import RpcContracts.Server.Binder

/-!
# Sample services

A service for each sample contract, and one that declares nothing.
-/

namespace RpcContracts
namespace Sample

/-- A pong. -/
def pongOf (id : UInt64) (label : String) : PayloadOf (.message .pong) :=
  ⟨.message (.pong id label), rfl⟩

/-- The reply of a greeter. -/
def replyOf (message : String) : PayloadOf (.message .helloReply) :=
  ⟨.message (.helloReply message), rfl⟩

/-- No payload to speak of. -/
def unitPayload : PayloadOf (.plain .unit) := ⟨.unit, rfl⟩

/-- The answer to a ping that has the same number and label. -/
def answerTo (ping : PayloadOf (.message .ping)) : PayloadOf (.message .pong) :=
  pongOf ping.val.id ping.val.text

/-- The task of a method that yields nothing but its end. -/
def unitTask (work : Task Unit) : Task (PayloadOf (.plain .unit)) :=
  work.map fun result => result.map fun _ => unitPayload

/-- Implement a declared method of a contract. -/
def implement (signature : Signature)
    (run : Arguments (signature.params.map DeclaredType.valueType) →
      signature.returns.valueType.Carrier) (implementation : Implementation) : Implementation :=
  implementation.attach signature.name
    (ServiceFunction.mk signature.params signature.returns run).invoker

/-- A service of a type that implements one contract. -/
def implementing (typeName : String) (implementation : Implementation) : HostedService :=
  ⟨.ofClass typeName, [implementation]⟩

/-- Greets once. -/
def greetOnce : Implementation → Implementation :=
  implement sayHello fun (request, _) =>
    Future.ready (.ok (replyOf ("Hello " ++ request.down.val.text)))

/-- The words that a greeting begins with. -/
def greetings : List String := ["Hello", "Hi", "Hey"]

/-- Whether a payload is the context of a handled call. -/
def isServerContext : Payload → Bool
  | .callContext context => context.isServer
  | _ => false

/-- Greets in several ways on a server, and not at all elsewhere. -/
def greetOften : Implementation → Implementation :=
  implement sayHellos fun (request, context, _) =>
    let replies := greetings.map fun greeting =>
      replyOf (greeting ++ " " ++ request.down.val.text)
    Stream.ofItems
      (if isServerContext context.down.val then replies.map Except.ok else []) false

/-- The greeter service. -/
def greeterService : HostedService :=
  implementing "protocall_oracle::common::GreeterService"
    (greetOften (greetOnce (.ofContract greeter)))

/-- Pongs with consecutive numbers. -/
def pongsFrom (id : UInt64) (label : String) (count : Nat) : List (PayloadOf (.message .pong)) :=
  (List.range count).map fun offset => pongOf (id + .ofNat offset) label

/-- The methods with a single response. -/
def singleMethods (implementation : Implementation) : Implementation :=
  let implementation := implement blockingUnary
    (fun (request, _) => ⟨.ok (answerTo request.down)⟩) implementation
  let implementation := implement taskUnary
    (fun (request, _, _) => Future.ready (.ok (answerTo request.down))) implementation
  let implementation := implement valueTaskUnary
    (fun (request, context, _) =>
      let tag := if isServerContext context.down.val then "@server" else ""
      .inline (some (.ok (pongOf request.down.val.id (request.down.val.text ++ tag)))))
    implementation
  let implementation := implement clientStreaming
    (fun (requests, _) =>
      ItemStream.fold requests (pongOf 0 "") fun total ping =>
        pongOf (total.val.id + ping.val.id) (total.val.text ++ ping.val.text))
    implementation
  let implementation := implement renamed
    (fun (request, _) =>
      Future.ready (.ok (pongOf request.down.val.id ("relabeled:" ++ request.down.val.text))))
    implementation
  let implementation := implement echoNumber
    (fun (number, _) => Future.ready (.ok number.down)) implementation
  implement isValid
    (fun (count, label, _) =>
      ⟨.ok ⟨.bool (0 < count.down.val.int32 && !label.down.val.text.isEmpty), rfl⟩⟩)
    implementation

/-- The full name in the context of a handled call. -/
def calledMethod : Payload → String
  | .serverCallContext context => context.method
  | _ => ""

/-- The methods with a stream of responses. -/
def streamedMethods (implementation : Implementation) : Implementation :=
  let implementation := implement serverStreaming
    (fun (request, _) =>
      Stream.ofItems ((pongsFrom request.down.val.id request.down.val.text 3).map Except.ok) false)
    implementation
  let implementation := implement duplex
    (fun (requests, _, _) => Stream.map (Except.map answerTo) requests) implementation
  let implementation := implement serverStreamingWriter
    (fun (request, responses, context, _) =>
      let pongs := pongsFrom request.down.val.id (calledMethod context.down.val) 2
      unitTask (responses.down.writeEach (pongs.map Subtype.val) (.ok ())))
    implementation
  implement duplexWriter
    (fun (requests, responses, _) =>
      unitTask ((ItemStream.erase (Stream.map (Except.map answerTo) requests)).pump .detached
        responses.down))
    implementation

/-- The service of all shapes. -/
def shapesService : HostedService :=
  implementing "protocall_oracle::common::ShapesService"
    (streamedMethods (singleMethods (.ofContract allShapes)))

/-- A service that declares nothing. -/
def bareService : HostedService := ⟨.ofClass "protocall_oracle::server::BareService", []⟩

/-- The services that are known by name. -/
def services : List (String × HostedService) :=
  [("GreeterService", greeterService), ("ShapesService", shapesService),
   ("BareService", bareService)]

end Sample
end RpcContracts
