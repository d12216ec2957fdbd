import RpcContracts.Client.Outcome
import RpcContracts.Contract.Service
import RpcContracts.Value.Arguments

/-!
# Client methods

A dispatch table has one entry for every method of an interface contract. A bound method takes its
arguments, issues one call and adapts the answer; a method that this side cannot express, or that
has no call shape, answers every call with an error.
-/

namespace RpcContracts

/-- How a method issues its calls: on which entry, and from a reader of which type where requests
are streamed. -/
inductive ClientForm where
  | unary
  | clientStreaming (request : ValueType)
  | serverStreaming
  | duplexStreaming (request : ValueType)
  deriving DecidableEq

namespace ClientForm

/-- How the calls of an operation are issued. -/
def of (operation : Operation) : Except ContractError ClientForm :=
  match operation.shape.callKind with
  | .unary => .ok unary
  | .clientStreaming => operation.method.readerArgument.map clientStreaming
  | .serverStreaming => .ok serverStreaming
  | .duplexStreaming => operation.method.readerArgument.map duplexStreaming

/-- The kind of the calls. -/
def callKind : ClientForm → CallKind
  | unary => .unary
  | clientStreaming _ => .clientStreaming
  | serverStreaming => .serverStreaming
  | duplexStreaming _ => .duplexStreaming

end ClientForm

/-- A method that a client can call. -/
structure ClientMethod where
  /-- Identity on the wire, with marshallers. -/
  wire : WireMethod
  /-- The context parameter. -/
  contextKind : ContextKind
  /-- How the response is handed back. -/
  responseShape : ResponseShape
  /-- How the calls are issued. -/
  form : ClientForm

/-- What a call is issued with, besides its method. -/
structure CallInput (α : Type u) where
  /-- What is requested. -/
  request : α
  /-- What accompanies the call. -/
  options : CallOptions
  /-- The capture buffer that the context of the call asks for. -/
  capture : Option Nat

namespace ClientMethod

/-- Bind an operation of a named service. Writers and server contexts exist on servers only, and
both payload types need a marshaller. -/
def bind (service : String) (operation : Operation) (cache : MarshallerCache) :
    Except ContractError ClientMethod × MarshallerCache :=
  if operation.shape.responseWriter then
    (.error (.unsupportedShape operation.method.name
      "response writer parameters are only available to servers"), cache)
  else if operation.shape.contextKind = .serverContext then
    (.error (.unsupportedShape operation.method.name
      "ServerCallContext parameters are only available to servers"), cache)
  else
    match WireMethod.resolve (operation.reference service) operation.shape.requestType
        operation.shape.responseType cache with
    | (.error error, cache) => (.error error, cache)
    | (.ok wire, cache) =>
        ((ClientForm.of operation).map fun form =>
          ⟨wire, operation.shape.contextKind, operation.shape.responseShape, form⟩, cache)

/-- Take the options of the call, and the capture buffer its context asks for, from the arguments.
-/
def takeOptions (contextKind : ContextKind) (arguments : List Value) :
    Except RpcError (CallOptions × Option Nat) :=
  match contextKind with
  | .none => .ok (.default, none)
  | .plainOptions =>
      match (takeAny arguments).1 with
      | .error error => .error error
      | .ok (.payload (.callOptions options)) => .ok (options, none)
      | .ok _ => .error (.typeMismatch PlainType.callOptions.name)
  | .unifiedContext =>
      match (takeAny arguments).1 with
      | .error error => .error error
      | .ok (.payload (.callContext context)) => .ok (context.clientOptions, context.capture?)
      | .ok _ => .error (.typeMismatch PlainType.callContext.name)
  | .serverContext => .error (.unsupported "ServerCallContext cannot be used for outgoing calls")

/-- Take a single request and then the options from the arguments. -/
def takeSingle (method : ClientMethod) (arguments : List Value) :
    Except RpcError (CallInput Payload) :=
  match takeAny arguments with
  | (.error error, _) => .error error
  | (.ok value, rest) =>
      (takeOptions method.contextKind rest).map fun (options, capture) =>
        ⟨value.toPayload, options, capture⟩

/-- Take a reader of requests and then the options from the arguments. -/
def takeStream (method : ClientMethod) (request : ValueType) (arguments : List Value) :
    Except RpcError (CallInput (ItemStream Payload)) :=
  match takeTyped (.wrapped .streamReader request) arguments with
  | (.error error, _) => .error error
  | (.ok reader, rest) =>
      (takeOptions method.contextKind rest).map fun (options, capture) =>
        ⟨ItemStream.erase reader, options, capture⟩

/-- Issue a call with a single response on an entry, unless its arguments could not be taken. The
capture buffer is cleared just before; without a call there is no effect. -/
def issueSingle {m : Type 1 → Type 1} [Monad m] {α : Type u} (method : ClientMethod)
    (issue : CallHead → α → Memory → m (SingleCall × Memory))
    (input : Except RpcError (CallInput α)) (history : History) (memory : Memory) :
    m (CallOutcome × Memory) :=
  match input with
  | .error error => pure (.failed error, memory)
  | .ok ⟨request, options, capture⟩ => do
      let (call, memory) ← issue ⟨method.wire, none, options⟩ request (memory.resetCapture capture)
      return call.outcome method.responseShape capture options.token history memory

/-- Issue a call with a stream of responses on an entry, unless its arguments could not be taken. -/
def issueStreaming {m : Type 1 → Type 1} [Monad m] {α : Type u} (method : ClientMethod)
    (issue : CallHead → α → Memory → m (StreamingCall × Memory))
    (input : Except RpcError (CallInput α)) (memory : Memory) : m (CallOutcome × Memory) :=
  match input with
  | .error error => pure (.failed error, memory)
  | .ok ⟨request, options, capture⟩ => do
      let (call, memory) ← issue ⟨method.wire, none, options⟩ request (memory.resetCapture capture)
      return (.streaming (call.results capture options.token), memory)

/-- Call a method through a transport. -/
def call {m : Type 1 → Type 1} [Monad m] (method : ClientMethod) (transport : Transport m)
    (arguments : List Value) (history : History) (memory : Memory) : m (CallOutcome × Memory) :=
  match method.form with
  | .unary => method.issueSingle transport.unary (method.takeSingle arguments) history memory
  | .clientStreaming request =>
      method.issueSingle transport.clientStreaming (method.takeStream request arguments) history
        memory
  | .serverStreaming =>
      method.issueStreaming transport.serverStreaming (method.takeSingle arguments) memory
  | .duplexStreaming request =>
      method.issueStreaming transport.duplexStreaming (method.takeStream request arguments) memory

end ClientMethod

/-- An entry of a dispatch table. -/
inductive ClientEntry where
  | bound (method : ClientMethod)
  /-- Every call fails with this reason. -/
  | unsupported (reason : String)

/-- Call through a transport. -/
def ClientEntry.call {m : Type 1 → Type 1} [Monad m] (entry : ClientEntry) (transport : Transport m)
    (arguments : List Value) (history : History) (memory : Memory) : m (CallOutcome × Memory) :=
  match entry with
  | bound method => method.call transport arguments history memory
  | unsupported reason => pure (.failed (.unsupported reason), memory)

/-- The entries of one contract, by method name. -/
structure DispatchTable where
  /-- Name of the service. -/
  service : String
  /-- One entry per method name. -/
  entries : List (String × ClientEntry)

namespace DispatchTable

/-- The entry of a method. -/
def get? (table : DispatchTable) (method : String) : Option ClientEntry :=
  table.entries.lookup method

/-- Set the entry of a method, in the place of an earlier one. -/
def insert (table : DispatchTable) (method : String) (entry : ClientEntry) : DispatchTable where
  service := table.service
  entries :=
    if (table.get? method).isSome then
      table.entries.map fun existing => if existing.1 = method then (method, entry) else existing
    else table.entries ++ [(method, entry)]

/-- The names of the methods. -/
def methods (table : DispatchTable) : List String := table.entries.map Prod.fst

/-- The structural text of a table. -/
def structuralText (table : DispatchTable) : String :=
  Text.record "DispatchTable"
    [("service_name", Text.quoted table.service),
     ("methods", Text.listing (table.methods.map Text.quoted))]

/-- The entry that a method name reaches; an unknown name fails every call. -/
def entry (table : DispatchTable) (method : String) : ClientEntry :=
  match table.get? method with
  | some entry => entry
  | none => .unsupported (table.service ++ "::" ++ method)

/-- Add the entries of operations, bound one after another. -/
def addOperations (table : DispatchTable) (cache : MarshallerCache) :
    List Operation → Logged (DispatchTable × MarshallerCache)
  | [] => .quiet (table, cache)
  | operation :: rest =>
      let name := operation.method.name
      match ClientMethod.bind table.service operation cache with
      | (.ok method, cache) =>
          (addOperations (table.insert name (.bound method)) cache rest).after
            (.clientMethodBound name (operation.reference table.service).fullName
              operation.shape.callKind.name)
      | (.error error, cache) =>
          (addOperations (table.insert name (.unsupported (name ++ ": " ++ error.message))) cache
            rest).after (.clientMethodUnbound name error.message)

/-- Add the entries of methods without a call shape. -/
def addUnmatched (table : DispatchTable) (methods : List String) : DispatchTable :=
  methods.foldl
    (fun table name =>
      table.insert name (.unsupported (name ++ ": signature matches no call shape")))
    table

/-- The table of an interface contract, and the marshallers resolved so far. -/
def build (contract : Contract) (cache : MarshallerCache) :
    Logged (Except ContractError DispatchTable × MarshallerCache) :=
  if contract.isInterface then
    contract.inspect.bind fun
      | .error error => .quiet (.error error, cache)
      | .ok service =>
          (addOperations ⟨service.name, []⟩ cache service.operations).map fun (table, cache) =>
            (.ok (table.addUnmatched service.unmatched), cache)
  else .quiet (.error (.notAnInterface contract.typeName), cache)

end DispatchTable
end RpcContracts
