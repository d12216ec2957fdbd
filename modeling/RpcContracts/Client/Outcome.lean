import RpcContracts.Call.Description
import RpcContracts.Client.Response
import RpcContracts.Contract.Shape
import RpcContracts.Value.Basic

/-!
# Outcomes of a client call

A call ends for the proxy as a finished result, as work for a single result, or as a stream. The
outcome is then adapted to the type that the client method returns, and every payload is recovered
at the argument of that type.
-/

namespace RpcContracts

/-- What a call hands back before it is adapted to a return type. -/
inductive CallOutcome : Type 1 where
  /-- The call is over. -/
  | completed (result : Outcome)
  /-- The call will be over later. -/
  | pending (task : Task Payload)
  /-- The call yields responses. -/
  | streaming (responses : ItemStream Payload)
  /-- The caller waits without end, because it blocks on something outside. -/
  | blocked

namespace CallOutcome

/-- A call that failed. -/
def failed (error : RpcError) : CallOutcome := completed (.error error)

/-- The structural text of an outcome. -/
def structuralText : CallOutcome → String
  | completed (.ok _) => "Completed(Ok(..))"
  | completed (.error error) => Text.tuple "Completed" [Text.tuple "Err" [error.structuralText]]
  | pending _ => "Pending(..)"
  | streaming _ => "Streaming(..)"
  | blocked => "Blocked"

end CallOutcome

/-- The error of a stream where a single response is due. -/
def streamingMismatch : RpcError :=
  .invalidOperation "a streaming call cannot produce a single response"

/-- The error of a single response where a stream is due. -/
def singleMismatch : RpcError :=
  .invalidOperation "a single-response call cannot produce a response stream"

namespace SingleCall

/-- Adapt a call with a single response to a response shape. A method that answers at once blocks
until the result is there. -/
def outcome (call : SingleCall) (shape : ResponseShape) (capture : Option Nat) (token : Token)
    (history : History) (memory : Memory) : CallOutcome × Memory :=
  match shape with
  | .sync =>
      match (call.result capture token).block history memory with
      | (some result, memory) => (.completed result, memory)
      | (none, memory) => (.blocked, memory)
  | .deferred => (.pending (call.result capture token), memory)
  | .lightDeferred => (.pending (call.result capture token), memory)
  | .streamed => (.failed singleMismatch, memory)

end SingleCall

/-- The types that client methods may return. -/
inductive ReturnForm where
  | result
  | task
  | valueTask
  | responseStream
  deriving DecidableEq

namespace ReturnForm

/-- The wrapper of a return type. -/
def wrapper : ReturnForm → Wrapper
  | result => .fallible
  | task => .task
  | valueTask => .valueTask
  | responseStream => .responseStream

/-- The return type that a wrapper is, if it is one. -/
def ofWrapper? : Wrapper → Option ReturnForm
  | .fallible => some result
  | .task => some task
  | .valueTask => some valueTask
  | .responseStream => some responseStream
  | .streamReader => none
  | .streamWriter => none

/-- The return type that hands back a response shape. -/
def ofShape : ResponseShape → ReturnForm
  | .sync => result
  | .deferred => task
  | .lightDeferred => valueTask
  | .streamed => responseStream

end ReturnForm

namespace CallOutcome

variable (argument : ValueType)

/-- Return a result, blocking until it is there. -/
def toResult (outcome : CallOutcome) (history : History) (memory : Memory) :
    Option (OutcomeOf argument) × Memory :=
  match outcome with
  | completed result => (some (Outcome.downcast argument result), memory)
  | pending task =>
      match task.block history memory with
      | (result, memory) => (result.map (Outcome.downcast argument), memory)
  | streaming _ => (some (.error streamingMismatch), memory)
  | blocked => (none, memory)

/-- Return a task. -/
def toTask : CallOutcome → Task (PayloadOf argument)
  | completed result => .ready (Outcome.downcast argument result)
  | pending task => task.map (Outcome.downcast argument)
  | streaming _ => .ready (.error streamingMismatch)
  | blocked => .awaiting fun _ => none

/-- Return a value task. -/
def toValueTask : CallOutcome → ValueTask (PayloadOf argument)
  | completed result => .inline (some (Outcome.downcast argument result))
  | pending task => .backed (task.map (Outcome.downcast argument))
  | streaming _ => .inline (some (.error streamingMismatch))
  | blocked => .backed (.awaiting fun _ => none)

/-- Return a stream of responses. -/
def toResponses : CallOutcome → ItemStream (PayloadOf argument)
  | completed (.error error) => .ofItems [.error error] false
  | completed (.ok _) => .ofItems [.error singleMismatch] false
  | pending _ => .ofItems [.error singleMismatch] false
  | streaming responses => responses.downcast argument
  | blocked => .ofItems [] true

end CallOutcome

/-- What a client method has returned. -/
inductive Returned (argument : ValueType) : Type 1 where
  | result (result : OutcomeOf argument)
  | task (task : Task (PayloadOf argument))
  | valueTask (valueTask : ValueTask (PayloadOf argument))
  | responses (responses : ItemStream (PayloadOf argument))
  /-- The method does not return, because it blocks on something outside. -/
  | blocked

namespace CallOutcome

/-- Adapt an outcome to a return type. -/
def returned (form : ReturnForm) (argument : ValueType) (outcome : CallOutcome)
    (history : History) (memory : Memory) : Returned argument × Memory :=
  match form, outcome with
  | _, blocked => (.blocked, memory)
  | .result, outcome =>
      match outcome.toResult argument history memory with
      | (some result, memory) => (.result result, memory)
      | (none, memory) => (.blocked, memory)
  | .task, outcome => (.task (outcome.toTask argument), memory)
  | .valueTask, outcome => (.valueTask (outcome.toValueTask argument), memory)
  | .responseStream, outcome => (.responses (outcome.toResponses argument), memory)

end CallOutcome
end RpcContracts
