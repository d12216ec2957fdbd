import RpcContracts.Client.Registry
import RpcContracts.Sample.Services
import RpcContracts.Server.Loopback
import RpcContracts.Session.Handle

/-!
# Sessions through the loopback

Clients of both sample contracts call the sample services, one call after another. The arguments of
a call follow from the parameters of the called method. Calls share the tokens that their options
name, and a call whose options name none has a token of its own.
-/

namespace RpcContracts

/-- The context a call is made with. -/
inductive LoopbackContext where
  | client
  /-- A client context that captures response metadata. -/
  | capture
  /-- The context of a handled call. -/
  | server
  deriving DecidableEq

namespace LoopbackContext

/-- Every context. -/
def all : List LoopbackContext := [client, capture, server]

/-- Name of a context. -/
def name : LoopbackContext → String
  | client => "client"
  | capture => "capture"
  | server => "server"

end LoopbackContext

/-- A call to be made. -/
structure LoopbackCall where
  /-- Name of the method. -/
  method : String
  /-- A single request. -/
  request : Payload
  /-- Streamed requests. -/
  requests : List Outcome
  /-- A number among the arguments. -/
  number : Int32
  /-- A text among the arguments. -/
  label : String
  /-- Options. -/
  options : CallOptions
  /-- Which context is used. -/
  context : LoopbackContext
  /-- The context of a handled call, whose token gives way to that of the call. -/
  server : ServerCallContext
  /-- Whether the token is fired before the call. -/
  cancelled : Bool

/-- What a call gave. -/
structure LoopbackAnswer where
  /-- What its result gave when polled. -/
  polls : List Answer
  /-- The captured headers and status, if the call captures. -/
  captured : Option (Except RpcError Metadata × Except RpcError Status)

namespace LoopbackCall

/-- The token that a call shares with others. -/
def sharedToken? (call : LoopbackCall) : Option String :=
  match call.options.token with
  | .named name => some name
  | .detached => none

/-- The name of the token of a call. -/
def tokenName (call : LoopbackCall) : String := call.sharedToken?.getD ""

/-- The options of a call. -/
def callOptions (call : LoopbackCall) : CallOptions :=
  { call.options with token := .named call.tokenName }

/-- The context of a handled call. -/
def serverContext (call : LoopbackCall) : ServerCallContext :=
  { call.server with token := .named call.tokenName }

/-- The call context. -/
def callContext (call : LoopbackCall) : CallContext :=
  match call.context with
  | .client => .client call.callOptions none
  | .capture => .client call.callOptions (some 0)
  | .server => .server call.serverContext

/-- The argument for a parameter. -/
def argument (call : LoopbackCall) : DeclaredType → Value
  | .plain .callContext _ => .payload (.callContext call.callContext)
  | .plain .serverCallContext _ => .payload (.serverCallContext call.serverContext)
  | .plain .callOptions _ => .payload (.callOptions call.callOptions)
  | .plain .i32 _ => .payload (.i32 call.number)
  | .plain .string _ => .payload (.string call.label)
  | .plain .. => .payload call.request
  | .wrapped .streamReader argument =>
      .wrapped .streamReader argument.valueType
        (ItemStream.downcast argument.valueType (.ofItems call.requests false))
  | .wrapped .streamWriter argument => .wrapped .streamWriter argument.valueType ⟨.typed 1 none⟩
  | .wrapped .. => .payload .unit

/-- What has happened before the call, given what has happened to the shared tokens before. -/
def history (call : LoopbackCall) (shared : History) : History :=
  (if call.sharedToken?.isSome then shared else []) ++
    if call.cancelled then [.fired call.tokenName] else []

/-- What has happened to the shared tokens after the call. -/
def sharedAfter (call : LoopbackCall) (shared : History) : History :=
  if call.sharedToken?.isSome then call.history shared else shared

/-- Poll what a client method has returned. -/
def polls {argument : ValueType} (returned : Returned argument) (history : History)
    (memory : Memory) : List Answer × Memory :=
  match returned with
  | .result outcome => ([.ready (Outcome.ofTyped outcome)], memory)
  | returned =>
      match returned.handle.drain history memory with
      | (answers, _, memory) => (answers, memory)

/-- Make the call of a method through its dispatch table. -/
def run (call : LoopbackCall) (history : History) (methods : List BoundMethod)
    (table : DispatchTable) (signature : Signature) : LoopbackAnswer :=
  let loopback : Loopback := ⟨methods, 0, 4⟩
  let form := (signature.returns.wrapper?.bind ReturnForm.ofWrapper?).getD .result
  let response := (signature.returns.argument?.getD signature.returns).valueType
  match (table.entry signature.name).call (loopback.transport history)
      (signature.params.map call.argument) history .fresh with
  | (outcome, memory) =>
      match outcome.returned form response history memory with
      | (returned, memory) =>
          match polls returned history memory with
          | (answers, memory) =>
              let capture := memory.captures 0
              ⟨answers,
                if call.context = .capture then some (capture.readHeaders, capture.readStatus)
                else none⟩

end LoopbackCall

/-- Both sides of the loopback. -/
structure LoopbackSession : Type 1 where
  /-- The bound methods of both services. -/
  methods : List BoundMethod
  /-- The contracts with their dispatch tables. -/
  clients : List (Contract × DispatchTable)
  /-- Marshallers resolved on both sides. -/
  marshallers : MarshallerCache

namespace LoopbackSession

/-- Bind services one after another. -/
def bindAll (binder : Binder) :
    List (String × HostedService) → Logged (List BoundMethod × Binder)
  | [] => .quiet ([], binder)
  | (key, service) :: rest =>
      (binder.bind key service).bind fun (found, binder) =>
        (bindAll binder rest).map fun (methods, binder) =>
          ((found.toOption.map fun built => built.value.methods).getD [] ++ methods, binder)

/-- Build the dispatch tables of contracts one after another. -/
def connectAll (registry : ClientRegistry) :
    List (String × Contract) → Logged (List (Contract × DispatchTable) × ClientRegistry)
  | [] => .quiet ([], registry)
  | (key, contract) :: rest =>
      (registry.factory key contract).bind fun (found, registry) =>
        (connectAll registry rest).map fun (clients, registry) =>
          ((found.toOption.map fun built => (contract, built.value)).toList ++ clients, registry)

/-- Both sides, with shared marshallers. -/
def start : Logged LoopbackSession :=
  (bindAll .empty
    [("GreeterService", Sample.greeterService), ("ShapesService", Sample.shapesService)]).bind
      fun (methods, binder) =>
        (connectAll (.withMarshallers binder.marshallers)
          [("Greeter", Sample.greeter), ("AllShapes", Sample.allShapes)]).map
            fun (clients, registry) => ⟨methods, clients, registry.marshallers⟩

/-- Make a call, if its method is known. -/
def call (session : LoopbackSession) (history : History) (call : LoopbackCall) :
    Option LoopbackAnswer :=
  session.clients.findSome? fun (contract, table) =>
    (contract.method? call.method).map (call.run history session.methods table)

/-- Make calls one after another, given what has happened to the shared tokens before. -/
def callAll (session : LoopbackSession) (shared : History) :
    List LoopbackCall → List LoopbackAnswer
  | [] => []
  | first :: rest =>
      (session.call (first.history shared) first).toList ++
        session.callAll (first.sharedAfter shared) rest

end LoopbackSession
end RpcContracts
