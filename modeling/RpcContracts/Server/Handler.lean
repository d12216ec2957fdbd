import RpcContracts.Async.Pump
import RpcContracts.Contract.Service
import RpcContracts.Value.Arguments

/-!
# Handlers

A handler adapts one implemented operation to the calls a hosting runtime makes. What depends on the
shape of the method is settled when the handler is built; a call then only assembles the arguments,
calls the function once and converts what it returns.
-/

namespace RpcContracts

/-- How the context of a call reaches a method. -/
inductive ContextArgument where
  /-- The method takes no context. -/
  | omitted
  /-- As the context of the handled call. -/
  | server
  /-- As a context usable on either side. -/
  | unified
  deriving DecidableEq

namespace ContextArgument

/-- How the context reaches the method of an operation; options exist on clients only. -/
def of (operation : Operation) : Except ContractError ContextArgument :=
  match operation.shape.contextKind with
  | .none => .ok omitted
  | .serverContext => .ok server
  | .unifiedContext => .ok unified
  | .plainOptions =>
      .error (.unsupportedShape operation.method.name
        "CallOptions parameters are only available to clients")

/-- The trailing arguments of a call. -/
def values (argument : ContextArgument) (context : ServerCallContext) : List Value :=
  match argument with
  | omitted => []
  | server => [.payload (.serverCallContext context)]
  | unified => [.payload (.callContext (.server context))]

end ContextArgument

/-- How what a method returns becomes the result of a call. -/
inductive Conclusion where
  /-- A bare value is the response. -/
  | value
  /-- A result that is there at once. -/
  | fallible (argument : ValueType)
  | task (argument : ValueType)
  | valueTask (argument : ValueType)
  /-- A stream of responses, which is no single result. -/
  | responses (argument : ValueType)
  deriving DecidableEq

/-- The error of a stream returned to a call with a single response. -/
def streamReturned : RpcError :=
  .invalidOperation "a response stream cannot complete a single-response call"

namespace Conclusion

/-- How what a method returns, going by its signature, becomes the result of a call. -/
def of (method : Signature) : Except ContractError Conclusion :=
  match method.returns with
  | .plain .. => .ok value
  | .wrapped .fallible argument => .ok (fallible argument.valueType)
  | .wrapped .task argument => .ok (task argument.valueType)
  | .wrapped .valueTask argument => .ok (valueTask argument.valueType)
  | .wrapped .responseStream argument => .ok (responses argument.valueType)
  | .wrapped .streamReader _ =>
      .error (.unsupportedShape method.name "stream readers and writers cannot be returned")
  | .wrapped .streamWriter _ =>
      .error (.unsupportedShape method.name "stream readers and writers cannot be returned")

/-- The work for the result, unless the returned value has another type than the declared one. A
bare value may have any type. -/
def work (conclusion : Conclusion) (returned : Value) : Except RpcError (Task Payload) :=
  match conclusion with
  | value => .ok (.ready (.ok returned.toPayload))
  | fallible argument =>
      (returned.downcast (.wrapped .fallible argument)).map fun result =>
        .ready (Outcome.ofTyped result.down)
  | task argument =>
      (returned.downcast (.wrapped .task argument)).map fun task =>
        Future.map Outcome.ofTyped task
  | valueTask argument =>
      (returned.downcast (.wrapped .valueTask argument)).map fun work =>
        (ValueTask.toTask work).map Outcome.ofTyped
  | responses _ => .error streamReturned

end Conclusion

/-- How a method that streams its responses delivers them. -/
inductive Responder where
  /-- Through a writer of responses of a type, while its result tells how the call ended. -/
  | writer (argument : ValueType) (conclusion : Conclusion)
  /-- By returning a stream of them, which is pumped to the runtime. -/
  | stream (argument : ValueType)
  deriving DecidableEq

namespace Responder

/-- The type of the responses that the second parameter, a writer, takes. -/
def writerArgument (method : Signature) : Except ContractError ValueType :=
  match (method.params[1]? : Option DeclaredType) with
  | some (.wrapped .streamWriter argument) => .ok argument.valueType
  | _ => .error (.unsupportedShape method.name "the second parameter is not a StreamWriter")

/-- How an operation delivers its responses. -/
def of (operation : Operation) : Except ContractError Responder :=
  match Conclusion.of operation.method with
  | .error error => .error error
  | .ok conclusion =>
      if operation.shape.responseWriter then
        (writerArgument operation.method).map fun argument => writer argument conclusion
      else
        match conclusion with
        | .responses argument => .ok (stream argument)
        | _ =>
            .error (.unsupportedShape operation.method.name
              "streaming responses need a StreamWriter parameter or a ResponseStream")

end Responder

/-- What of a handler depends on the kind of its calls. -/
inductive HandlerForm where
  | unary (conclusion : Conclusion)
  | clientStreaming (request : ValueType) (conclusion : Conclusion)
  | serverStreaming (responder : Responder)
  | duplexStreaming (request : ValueType) (responder : Responder)
  deriving DecidableEq

namespace HandlerForm

/-- The form of the handler of an operation. -/
def of (operation : Operation) : Except ContractError HandlerForm :=
  match operation.shape.callKind with
  | .unary => (Conclusion.of operation.method).map unary
  | .clientStreaming => do
      let conclusion ← Conclusion.of operation.method
      return clientStreaming (← operation.method.readerArgument) conclusion
  | .serverStreaming => (Responder.of operation).map serverStreaming
  | .duplexStreaming => do
      let responder ← Responder.of operation
      return duplexStreaming (← operation.method.readerArgument) responder

/-- The kind of the calls. -/
def callKind : HandlerForm → CallKind
  | unary _ => .unary
  | clientStreaming .. => .clientStreaming
  | serverStreaming _ => .serverStreaming
  | duplexStreaming .. => .duplexStreaming

end HandlerForm

/-- A call as a hosting runtime hands it over. A handler takes what calls of its kind come with. -/
structure IncomingCall : Type 1 where
  /-- The request of a call with a single one. It may have any type. -/
  request : Value
  /-- The requests of a call that streams them. -/
  requests : ItemStream Payload
  /-- Number of the channel that streamed responses go to. -/
  responses : Nat
  /-- What accompanies the call. -/
  context : ServerCallContext

namespace IncomingCall

/-- The requests as a reader of a type, which the token of the call interrupts. -/
def reader (call : IncomingCall) (request : ValueType) : Value :=
  .wrapped .streamReader request
    (ItemStream.downcast request (Stream.cancellable call.context.token call.requests))

/-- A writer of responses of a type. -/
def writer (call : IncomingCall) (response : ValueType) : Value :=
  .wrapped .streamWriter response ⟨.typed call.responses none⟩

end IncomingCall

/-- Work on a call that a server handles. -/
inductive ServedCall : Type 1 where
  /-- Work for a single response. -/
  | single (response : Task Payload)
  /-- Work that delivers responses to their channel as it goes on. -/
  | streaming (work : Task Unit)

/-- An implemented operation as a hosting runtime calls it. -/
structure ServerHandler : Type 1 where
  /-- How the context reaches the method. -/
  context : ContextArgument
  /-- What depends on the kind of calls. -/
  form : HandlerForm
  /-- The implementing function. -/
  invoker : Invoker

namespace ServerHandler

/-- The handler of an operation that a function implements. -/
def of (operation : Operation) (invoker : Invoker) : Except ContractError ServerHandler :=
  match ContextArgument.of operation with
  | .error error => .error error
  | .ok context => (HandlerForm.of operation).map fun form => ⟨context, form, invoker⟩

/-- The kind of the calls. -/
def callKind (handler : ServerHandler) : CallKind := handler.form.callKind

/-- The description of a handler. -/
def description (handler : ServerHandler) : String := "ServerHandler::" ++ handler.callKind.name

/-- The arguments before the context: the request side, and the writer if the method takes one. -/
def payloadArguments (handler : ServerHandler) (call : IncomingCall) : List Value :=
  match handler.form with
  | .unary _ => [call.request]
  | .clientStreaming request _ => [call.reader request]
  | .serverStreaming (.writer response _) => [call.request, call.writer response]
  | .serverStreaming (.stream _) => [call.request]
  | .duplexStreaming request (.writer response _) => [call.reader request, call.writer response]
  | .duplexStreaming request (.stream _) => [call.reader request]

/-- The arguments that the function is called with. -/
def arguments (handler : ServerHandler) (call : IncomingCall) : List Value :=
  handler.payloadArguments call ++ handler.context.values call.context

/-- The work for a single response. -/
def single (conclusion : Conclusion) (returned : Except RpcError Value) : Task Payload :=
  match returned >>= conclusion.work with
  | .ok work => work
  | .error error => .ready (.error error)

/-- The work that delivers responses. -/
def deliver (responder : Responder) (call : IncomingCall) (returned : Except RpcError Value) :
    Except RpcError (Task Unit) :=
  match responder with
  | .writer _ conclusion =>
      (returned >>= conclusion.work).map fun work => work.map fun result => result.map fun _ => ()
  | .stream argument =>
      (returned >>= Value.downcast (.wrapped .responseStream argument)).map fun responses =>
        ItemStream.pump (ItemStream.erase responses) call.context.token (.direct call.responses)

/-- The work that delivers responses and shuts their channel when it is over. If there is no such
work, the channel is shut at once. -/
def streaming (responder : Responder) (call : IncomingCall) (returned : Except RpcError Value)
    (memory : Memory) : Task Unit × Memory :=
  match deliver responder call returned with
  | .ok work => (work.whenOver fun memory => memory.closeChannel call.responses, memory)
  | .error error => (.ready (.error error), memory.closeChannel call.responses)

/-- What becomes of a call whose function has returned. -/
def conclude (handler : ServerHandler) (call : IncomingCall) (returned : Except RpcError Value)
    (memory : Memory) : ServedCall × Memory :=
  match handler.form with
  | .unary conclusion => (.single (single conclusion returned), memory)
  | .clientStreaming _ conclusion => (.single (single conclusion returned), memory)
  | .serverStreaming responder =>
      match streaming responder call returned memory with
      | (work, memory) => (.streaming work, memory)
  | .duplexStreaming _ responder =>
      match streaming responder call returned memory with
      | (work, memory) => (.streaming work, memory)

/-- Handle a call with a function whose runs have effects in a monad. -/
def serveWith {m : Type 1 → Type 1} [Monad m] (handler : ServerHandler)
    (invoke : List Value → m (Except RpcError Value)) (call : IncomingCall) (memory : Memory) :
    m (ServedCall × Memory) := do
  let returned ← invoke (handler.arguments call)
  return handler.conclude call returned memory

/-- Handle a call. -/
def serve (handler : ServerHandler) (call : IncomingCall) (memory : Memory) :
    ServedCall × Memory :=
  handler.serveWith (m := Id) handler.invoker call memory

end ServerHandler
end RpcContracts
