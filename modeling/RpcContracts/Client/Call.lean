import RpcContracts.Async.Cancellation
import RpcContracts.Marshal.Cache

/-!
# Issued calls

What a client hands to a transport, and the two kinds of handles a transport gives back: for a
single response and for a stream of responses.
-/

namespace RpcContracts

/-- What every call has, whatever is requested. -/
structure CallHead where
  /-- The called method. -/
  method : WireMethod
  /-- Authority to call instead of the usual one. -/
  host : Option String
  /-- What accompanies the call. -/
  options : CallOptions

/-- The request side of a call. -/
inductive Requests : Type 1 where
  | single (payload : Payload)
  | stream (items : ItemStream Payload)

/-- A call as a transport receives it, by the entry it comes in on. -/
inductive IssuedCall : Type 1 where
  | unary (head : CallHead) (request : Payload)
  | clientStreaming (head : CallHead) (requests : ItemStream Payload)
  | serverStreaming (head : CallHead) (request : Payload)
  | duplexStreaming (head : CallHead) (requests : ItemStream Payload)

namespace IssuedCall

/-- The kind of calls whose entry is used. -/
def entry : IssuedCall → CallKind
  | unary .. => .unary
  | clientStreaming .. => .clientStreaming
  | serverStreaming .. => .serverStreaming
  | duplexStreaming .. => .duplexStreaming

/-- What the call has besides its requests. -/
def head : IssuedCall → CallHead
  | unary head _ => head
  | clientStreaming head _ => head
  | serverStreaming head _ => head
  | duplexStreaming head _ => head

/-- What is requested. -/
def requests : IssuedCall → Requests
  | unary _ request => .single request
  | clientStreaming _ requests => .stream requests
  | serverStreaming _ request => .single request
  | duplexStreaming _ requests => .stream requests

end IssuedCall

/-- A call in flight with a single response. -/
structure SingleCall : Type 1 where
  /-- The response. -/
  response : Task Payload
  /-- The response headers. -/
  headers : Task Metadata
  /-- Status and trailers. -/
  completion : Future Completion

namespace SingleCall

/-- The status that reflects an outcome. -/
def statusOf : Outcome → Status
  | .ok _ => .ok
  | .error (.status status) => status
  | .error .cancelled => .cancelled ""
  | .error error => ⟨.unknown, error.message⟩

/-- A call that is over, without headers and trailers. -/
def ready (outcome : Outcome) : SingleCall :=
  ⟨.ready outcome, .ready (.ok .empty), .ready ⟨statusOf outcome, .empty⟩⟩

end SingleCall

/-- A call in flight with a stream of responses. -/
structure StreamingCall : Type 1 where
  /-- The responses. -/
  responses : ItemStream Payload
  /-- The response headers. -/
  headers : Task Metadata
  /-- Status and trailers. -/
  completion : Future Completion

namespace StreamingCall

/-- A call with given responses, without headers, which succeeds. -/
def ofStream (responses : ItemStream Payload) : StreamingCall :=
  ⟨responses, .ready (.ok .empty), .ready .ok⟩

end StreamingCall

/-- A client transport, with an entry for each kind of calls. Issuing a call may have effects in a
monad besides those on the memory. -/
structure Transport (m : Type 1 → Type 1) : Type 1 where
  unary : CallHead → Payload → Memory → m (SingleCall × Memory)
  clientStreaming : CallHead → ItemStream Payload → Memory → m (SingleCall × Memory)
  serverStreaming : CallHead → Payload → Memory → m (StreamingCall × Memory)
  duplexStreaming : CallHead → ItemStream Payload → Memory → m (StreamingCall × Memory)

namespace Transport

/-- A transport by what it does with calls that have a single response and with those that have a
stream of them. -/
def ofIssued {m : Type 1 → Type 1} (single : IssuedCall → Memory → m (SingleCall × Memory))
    (streaming : IssuedCall → Memory → m (StreamingCall × Memory)) : Transport m where
  unary := fun head request => single (.unary head request)
  clientStreaming := fun head requests => single (.clientStreaming head requests)
  serverStreaming := fun head request => streaming (.serverStreaming head request)
  duplexStreaming := fun head requests => streaming (.duplexStreaming head requests)

/-- Keep an issued call, and then go on. -/
def keep {α : Type 1} (issued : IssuedCall) (answer : α) : StateM (List IssuedCall) α := do
  modify (· ++ [issued])
  return answer

/-- A transport that keeps the calls it receives, the latest last. -/
def recorded (transport : Transport Id) : Transport (StateM (List IssuedCall)) where
  unary := fun head request memory =>
    keep (.unary head request) (transport.unary head request memory)
  clientStreaming := fun head requests memory =>
    keep (.clientStreaming head requests) (transport.clientStreaming head requests memory)
  serverStreaming := fun head request memory =>
    keep (.serverStreaming head request) (transport.serverStreaming head request memory)
  duplexStreaming := fun head requests memory =>
    keep (.duplexStreaming head requests) (transport.duplexStreaming head requests memory)

end Transport
end RpcContracts
