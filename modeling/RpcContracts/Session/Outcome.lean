import RpcContracts.Session.Handle

/-!
# Sessions on one call

A call whose answer is known beforehand is adapted and polled until it is over.
-/

namespace RpcContracts

/-- An outcome of a client call whose results are known. -/
inductive KnownOutcome where
  | completed (outcome : Outcome)
  | pending (outcome : Outcome)
  | streaming (items : List Outcome)

namespace KnownOutcome

/-- The outcome itself. -/
def outcome : KnownOutcome → CallOutcome
  | completed result => .completed result
  | pending result => .pending (.ready result)
  | streaming items => .streaming (.ofItems items false)

/-- The structural text of an outcome, what a method returns for it, and what polling that yields.
-/
def answers (known : KnownOutcome) (form : ReturnForm) (argument : ValueType) :
    String × Answer × List Answer :=
  match known.outcome.returned form argument [] .fresh with
  | (returned, memory) =>
      (known.outcome.structuralText, returned.answer, (returned.handle.drain [] memory).1)

end KnownOutcome

/-- A call that is over before it is observed. -/
inductive KnownCall where
  | single (outcome : Outcome)
  | streaming (items : List Outcome)

namespace KnownCall

/-- The headers, the completion and the polls of a call. -/
def parts (known : KnownCall) :
    Option (Except RpcError Metadata) × Option Completion × List Answer :=
  match known with
  | single outcome =>
      let call := SingleCall.ready outcome
      ((call.headers.block [] .fresh).1, (call.completion.block [] .fresh).1,
        ((Handle.single call.response).drain [] .fresh).1)
  | streaming items =>
      let call := StreamingCall.ofStream (.ofItems items false)
      ((call.headers.block [] .fresh).1, (call.completion.block [] .fresh).1,
        ((Handle.stream call.responses).drain [] .fresh).1)

/-- The structural text of an adapted call, what polling it yields, and what was captured. The token
of the call may have fired before. -/
def reshaped (known : KnownCall) (shape : ResponseShape) (capture cancelled : Bool) :
    String × List Answer × Answer :=
  let token : Token := .named "token"
  let history : History := if cancelled then [.fired "token"] else []
  let number := if capture then some 0 else none
  let adapted :=
    match known with
    | single outcome => (SingleCall.ready outcome).outcome shape number token history .fresh
    | streaming items =>
        (.streaming ((StreamingCall.ofStream (.ofItems items false)).results number token), .fresh)
  match adapted with
  | (outcome, memory) =>
      match outcome.handle.drain history memory with
      | (answers, _, memory) =>
          (outcome.structuralText, answers,
            if capture then .ofCapture (memory.captures 0) else .absent)

end KnownCall
end RpcContracts
