import RpcContracts.Contract.Signature

/-!
# Call shapes

A call shape says which side of a call streams, how the response is handed back and which payloads
travel. A signature has a shape when, after its trailing context parameter is removed, one rule of a
fixed table matches its parameters and its return type.
-/

namespace RpcContracts

/-- Which sides of a call stream. -/
inductive CallKind where
  | unary
  | clientStreaming
  | serverStreaming
  | duplexStreaming
  deriving DecidableEq

namespace CallKind

/-- Every call kind. -/
def all : List CallKind := [unary, clientStreaming, serverStreaming, duplexStreaming]

/-- Printed name of a call kind. -/
def name : CallKind → String
  | unary => "Unary"
  | clientStreaming => "ClientStreaming"
  | serverStreaming => "ServerStreaming"
  | duplexStreaming => "DuplexStreaming"

/-- Name of the entry for calls of a kind, on transports and on hosts. -/
def entryName : CallKind → String
  | unary => "unary"
  | clientStreaming => "client_streaming"
  | serverStreaming => "server_streaming"
  | duplexStreaming => "duplex_streaming"

/-- Whether the request is a stream. -/
def streamsRequests : CallKind → Bool
  | unary => false
  | clientStreaming => true
  | serverStreaming => false
  | duplexStreaming => true

/-- Whether the response is a stream. -/
def streamsResponses : CallKind → Bool
  | unary => false
  | clientStreaming => false
  | serverStreaming => true
  | duplexStreaming => true

end CallKind

/-- The context parameter that trails the payload parameters. -/
inductive ContextKind where
  | none
  /-- Options of a call, on the client side. -/
  | plainOptions
  /-- A context usable on either side. -/
  | unifiedContext
  /-- The context of a call that a server handles. -/
  | serverContext
  deriving DecidableEq

namespace ContextKind

/-- Every context kind. -/
def all : List ContextKind := [none, plainOptions, unifiedContext, serverContext]

/-- Printed name of a context kind. -/
def name : ContextKind → String
  | none => "None"
  | plainOptions => "PlainOptions"
  | unifiedContext => "UnifiedContext"
  | serverContext => "ServerContext"

end ContextKind

/-- How a method hands back its response. -/
inductive ResponseShape where
  /-- At once, as a value or a result. -/
  | sync
  /-- As a task. -/
  | deferred
  /-- As a value task. -/
  | lightDeferred
  /-- As a stream of responses. -/
  | streamed
  deriving DecidableEq

namespace ResponseShape

/-- Every response shape. -/
def all : List ResponseShape := [sync, deferred, lightDeferred, streamed]

/-- Printed name of a response shape. -/
def name : ResponseShape → String
  | sync => "Sync"
  | deferred => "Deferred"
  | lightDeferred => "LightDeferred"
  | streamed => "Streamed"

end ResponseShape

/-- The shape of the calls of one method. -/
structure CallShape where
  /-- Which sides stream. -/
  callKind : CallKind
  /-- The trailing context parameter. -/
  contextKind : ContextKind
  /-- How the response is handed back. -/
  responseShape : ResponseShape
  /-- Whether the responses are written through a parameter. -/
  responseWriter : Bool
  /-- Type of one request. -/
  requestType : DeclaredType
  /-- Type of one response. -/
  responseType : DeclaredType

/-- The kind of context that a type is, if it is one. -/
def DeclaredType.contextKind? (type : DeclaredType) : Option ContextKind :=
  match type.plain? with
  | some .callContext => some .unifiedContext
  | some .serverCallContext => some .serverContext
  | some .callOptions => some .plainOptions
  | _ => none

/-- What a rule asks of one parameter or of the return type. -/
inductive Template where
  /-- A plain type that is no context; it is recorded. -/
  | payload
  /-- Exactly one type. -/
  | exactly (type : ValueType)
  /-- A wrapper around any type, which is recorded. -/
  | wrapping (wrapper : Wrapper)
  deriving DecidableEq

namespace Template

/-- The recorded types, if the template accepts the type. -/
def captures? (template : Template) (type : DeclaredType) : Option (List DeclaredType) :=
  match template with
  | payload =>
      match type with
      | .plain .. => if type.contextKind?.isNone then some [type] else none
      | .wrapped .. => none
  | exactly expected => if type.valueType = expected then some [] else none
  | wrapping wrapper =>
      match type with
      | .plain .. => none
      | .wrapped actual argument => if actual = wrapper then some [argument] else none

/-- The recorded types of a list of types accepted one by one. -/
def capturesAll? : List Template → List DeclaredType → Option (List DeclaredType)
  | [], [] => some []
  | template :: templates, type :: types =>
      match template.captures? type with
      | none => none
      | some first => (capturesAll? templates types).map (first ++ ·)
  | _, _ => none

end Template

/-- One rule of the table. -/
structure ShapeRule where
  /-- Asked of the parameters, without the context. -/
  params : List Template
  /-- Asked of the return type. -/
  returns : Template
  /-- Call kind of the shape. -/
  callKind : CallKind
  /-- Response shape of the shape. -/
  responseShape : ResponseShape
  /-- Whether the responses are written through a parameter. -/
  responseWriter : Bool
  deriving DecidableEq

namespace ShapeRule

/-- The shape of parameters and a return type that the rule matches. The request type is recorded
first and the response type second. -/
def shapeOf? (rule : ShapeRule) (contextKind : ContextKind) (params : List DeclaredType)
    (returns : DeclaredType) : Option CallShape :=
  match Template.capturesAll? (rule.params ++ [rule.returns]) (params ++ [returns]) with
  | some (request :: response :: _) =>
      some ⟨rule.callKind, contextKind, rule.responseShape, rule.responseWriter, request, response⟩
  | _ => none

end ShapeRule

/-- The type of a task without a value. -/
def unitTask : ValueType := .wrapped .task (.plain .unit)

/-- The table of shapes. -/
def shapeRules : List ShapeRule :=
  [⟨[.wrapping .streamReader], .wrapping .task, .clientStreaming, .deferred, false⟩,
   ⟨[.wrapping .streamReader], .wrapping .valueTask, .clientStreaming, .lightDeferred, false⟩,
   ⟨[.payload], .payload, .unary, .sync, false⟩,
   ⟨[.payload], .wrapping .fallible, .unary, .sync, false⟩,
   ⟨[.payload], .wrapping .task, .unary, .deferred, false⟩,
   ⟨[.payload], .wrapping .valueTask, .unary, .lightDeferred, false⟩,
   ⟨[.wrapping .streamReader, .wrapping .streamWriter], .exactly unitTask, .duplexStreaming,
     .deferred, true⟩,
   ⟨[.wrapping .streamReader], .wrapping .responseStream, .duplexStreaming, .streamed, false⟩,
   ⟨[.payload, .wrapping .streamWriter], .exactly unitTask, .serverStreaming, .deferred, true⟩,
   ⟨[.payload], .wrapping .responseStream, .serverStreaming, .streamed, false⟩]

/-- The parameters without a trailing context, and the kind of that context. -/
def splitContext (params : List DeclaredType) : List DeclaredType × ContextKind :=
  match params.getLast? with
  | none => (params, .none)
  | some last =>
      match last.contextKind? with
      | some kind => (params.dropLast, kind)
      | none => (params, .none)

/-- The shape of a signature: that of the first matching rule, unless the method is generic. -/
def Signature.shape? (signature : Signature) : Option CallShape :=
  if signature.isGeneric then none
  else
    let (params, contextKind) := splitContext signature.params
    shapeRules.findSome? fun rule => rule.shapeOf? contextKind params signature.returns

end RpcContracts
