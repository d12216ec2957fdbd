import RpcContracts.Client.Call
import RpcContracts.Server.Binding

/-!
# Loopback

A transport that hands every call to the bound method with the same routing key. Payloads are
encoded with the marshallers of the sender and decoded with those of the receiver, also those of
streams.
-/

namespace RpcContracts

/-- A transport to bound methods. -/
structure Loopback : Type 1 where
  /-- The methods that are reached. -/
  methods : List BoundMethod
  /-- Number of the channel of responses. -/
  channel : Nat
  /-- How many streamed responses the transport carries beyond one for each request. -/
  surplus : Nat

namespace Loopback

/-- The headers of every response. -/
def headers : Metadata := Metadata.empty.add "x-served-by" "loopback"

/-- Encode a payload on one side and decode it on the other. -/
def transfer (sender receiver : Marshaller) (payload : Payload) : Outcome :=
  sender.serialize payload >>= receiver.deserialize

/-- Transfer every item of a stream. -/
def transferItems (sender receiver : Marshaller) (items : ItemStream Payload) :
    ItemStream Payload :=
  items.map fun item => item >>= transfer sender receiver

/-- The bound method with the routing key of a called one. -/
def route (loopback : Loopback) (method : WireMethod) : Except RpcError BoundMethod :=
  match loopback.methods.find? fun bound =>
      bound.wire.reference.methodId == method.reference.methodId with
  | some bound => .ok bound
  | none => .error (.status ⟨.unimplemented, method.reference.fullName⟩)

/-- The context of a call on the side of the server. -/
def context (issued : IssuedCall) : ServerCallContext where
  method := issued.head.method.reference.fullName
  peer := "loopback"
  headers := issued.head.options.headers
  deadline := none
  token := issued.head.options.token
  writeOptions := none

/-- An issued call as it reaches the handler of a bound method. -/
def incoming (loopback : Loopback) (issued : IssuedCall) (bound : BoundMethod) :
    Except RpcError IncomingCall :=
  let sender := issued.head.method.requestMarshaller
  let receiver := bound.wire.requestMarshaller
  match issued.requests with
  | .single payload =>
      (transfer sender receiver payload).map fun request =>
        ⟨.payload request, .ofItems [] false, loopback.channel, context issued⟩
  | .stream items =>
      .ok ⟨.payload .unit, transferItems sender receiver items, loopback.channel, context issued⟩

/-- Start the handler of a call. -/
def start (loopback : Loopback) (issued : IssuedCall) (memory : Memory) :
    Except RpcError (BoundMethod × ServedCall × Memory) := do
  let bound ← loopback.route issued.head.method
  let call ← loopback.incoming issued bound
  return (bound, bound.handler.serve call
    (memory.setChannel loopback.channel (.create Channel.defaultBuffer)))

/-- The error of a handler for calls of another kind. -/
def kindMismatch : RpcError := .invalidOperation "call kind mismatch"

/-- How far the work that delivers responses has come. -/
inductive DeliveryStage (work : Task Unit) where
  | working (state : work.State)
  /-- The work has failed, which is yet to be reported. -/
  | failed (error : RpcError)
  | finished

/-- Go on with the work that delivers responses. -/
def advance (work : Task Unit) (stage : DeliveryStage work) (history : History)
    (memory : Memory) : DeliveryStage work × Memory :=
  match stage with
  | .working state =>
      match work.poll state history memory with
      | (.pending, state, memory) => (.working state, memory)
      | (.ready (.ok ()), _, memory) => (.finished, memory)
      | (.ready (.error error), _, memory) => (.failed error, memory)
  | stage => (stage, memory)

/-- The next response: what the channel has, and then the failure of the work. -/
def nextResponse (work : Task Unit) (channel : Nat) (stage : DeliveryStage work)
    (history : History) (memory : Memory) :
    Poll (Option Outcome) × DeliveryStage work × Memory :=
  match advance work stage history memory with
  | (stage, memory) =>
      match memory.receive channel with
      | (.pending, memory) => (.pending, stage, memory)
      | (.ready (some payload), memory) => (.ready (some (.ok payload)), stage, memory)
      | (.ready none, memory) =>
          match stage with
          | .failed error => (.ready (some (.error error)), .finished, memory)
          | stage => (.ready none, stage, memory)

/-- The responses that work delivers to a channel, up to a number of them. Every poll goes on with
the work first. -/
def responses (work : Task Unit) (channel limit : Nat) : ItemStream Payload where
  State := DeliveryStage work × Nat
  state := (.working work.state, limit)
  next := fun (stage, left) history memory =>
    match left with
    | 0 => (.ready none, (stage, 0), memory)
    | fewer + 1 =>
        match nextResponse work channel stage history memory with
        | (.ready (some outcome), stage, memory) =>
            (.ready (some outcome), (stage, fewer), memory)
        | (poll, stage, memory) => (poll, (stage, fewer + 1), memory)
  budget := fun (_, left) _ => left
  budget_lt := by
    rintro ⟨stage, left⟩ history memory item ⟨stageAfter, leftAfter⟩ memoryAfter polled
    cases left with
    | zero => simp at polled
    | succ fewer =>
        simp only at polled
        split at polled
        · simp only [Prod.mk.injEq] at polled
          obtain ⟨-, ⟨-, rfl⟩, -⟩ := polled
          exact Nat.lt_succ_self _
        · next other _ =>
            simp only [Prod.mk.injEq] at polled
            obtain ⟨rfl, -, -⟩ := polled
            exact absurd rfl (other item)

/-- How many responses the transport carries for an issued call. -/
def limit (loopback : Loopback) (issued : IssuedCall) (history : History) : Nat :=
  match issued.requests with
  | .single _ => loopback.surplus
  | .stream items => items.budget items.state history + loopback.surplus

/-- Issue a call with a single response. -/
def single (loopback : Loopback) (issued : IssuedCall) (memory : Memory) : SingleCall × Memory :=
  match loopback.start issued memory with
  | .error error => (.ready (.error error), memory)
  | .ok (_, .streaming _, memory) => (.ready (.error kindMismatch), memory)
  | .ok (bound, .single response, memory) =>
      let transferred := response.map fun outcome =>
        outcome >>= transfer bound.wire.responseMarshaller issued.head.method.responseMarshaller
      (⟨transferred, .ready (.ok headers), .ready .ok⟩, memory)

/-- A streaming call that could not be started. -/
def refused (error : RpcError) : StreamingCall := .ofStream (.ofItems [.error error] false)

/-- Issue a call with a stream of responses. -/
def streaming (loopback : Loopback) (history : History) (issued : IssuedCall) (memory : Memory) :
    StreamingCall × Memory :=
  match loopback.start issued memory with
  | .error error => (refused error, memory)
  | .ok (_, .single _, memory) => (refused kindMismatch, memory)
  | .ok (bound, .streaming work, memory) =>
      let delivered := responses work loopback.channel (loopback.limit issued history)
      (⟨transferItems bound.wire.responseMarshaller issued.head.method.responseMarshaller delivered,
        .ready (.ok headers), .ready .ok⟩, memory)

/-- The transport. -/
def transport (loopback : Loopback) (history : History) : Transport Id :=
  .ofIssued loopback.single (loopback.streaming history)

end Loopback
end RpcContracts
