import RpcContracts.Async.Poll
import RpcContracts.Contract.Reference
import RpcContracts.Payload.Basic

/-!
# Sessions

A session drives one object step by step, from outside, and answers every step.
-/

namespace RpcContracts

/-- What a transport was asked for. -/
structure IssuedReport where
  /-- Name of the entry that was used. -/
  entry : String
  /-- The called method. -/
  method : MethodReference
  /-- Authority to call instead of the usual one. -/
  host : Option String
  /-- What accompanied the call. -/
  options : CallOptions
  /-- Whether the token of the call had fired. -/
  cancelled : Bool
  /-- The request and its bytes, where there is a single request. -/
  request : Option (Payload × Except RpcError (List UInt8))

/-- What a step of a session answers. -/
inductive Answer where
  /-- A fixed remark. -/
  | remark (text : String)
  /-- A truth value. -/
  | flag (value : Bool)
  /-- Bounds on a number of items. -/
  | bounds (low high : Nat)
  /-- A value. -/
  | value (payload : Payload)
  /-- An error. -/
  | failure (error : RpcError)
  /-- A single result. -/
  | ready (outcome : Outcome)
  /-- An item of a stream. -/
  | item (outcome : Outcome)
  /-- The answers of several polls. -/
  | drained (polls : List Answer)
  /-- There is nothing to show. -/
  | absent
  /-- Several texts. -/
  | texts (texts : List String)
  /-- Call options, and whether their token has fired. -/
  | options (options : CallOptions) (cancelled : Bool)
  /-- A call context, and whether its token has fired. -/
  | context (context : CallContext) (cancelled : Bool)
  /-- Captured response metadata. -/
  | captured (headers trailers : Except RpcError Metadata) (status : Except RpcError Status)
  /-- A client method returned a result. -/
  | returnedResult (outcome : Outcome)
  /-- A client method returned a value task, which may be completed. -/
  | returnedValueTask (completed : Bool)
  /-- An answer during which a transport was called. -/
  | issued (answer : Answer) (report : IssuedReport)

namespace Answer

/-- The step did what it was asked to. -/
def done : Answer := remark "ok"

/-- What was polled is pending. -/
def pending : Answer := remark "pending"

/-- The stream is at its end. -/
def ended : Answer := remark "end"

/-- What should be polled is over. -/
def finished : Answer := remark "finished"

/-- What should be used cannot be used now. -/
def unavailable : Answer := remark "unavailable"

/-- There is nothing to poll. -/
def nothing : Answer := remark "nothing"

/-- What a capture buffer holds. -/
def ofCapture (capture : Capture) : Answer :=
  captured capture.readHeaders capture.readTrailers capture.readStatus

/-- A poll for an item. -/
def ofItemPoll : Poll (Option Outcome) → Answer
  | .pending => pending
  | .ready none => ended
  | .ready (some outcome) => item outcome

/-- A poll of work that yields nothing. -/
def ofUnitPoll : Poll (Except RpcError Unit) → Answer
  | .pending => pending
  | .ready (.ok ()) => done
  | .ready (.error error) => failure error

end Answer

/-- The answers of steps taken one after another. -/
def runSteps {State : Type u} {Step Reply : Type} (step : State → Step → Reply × State) :
    State → List Step → List Reply
  | _, [] => []
  | state, first :: rest =>
      match step state first with
      | (reply, state) => reply :: runSteps step state rest

end RpcContracts
