import RpcContracts.Sample.Scripted
import RpcContracts.Session.Handle

/-!
# Sessions on a handled call

A handler is given one call and polled, while requests arrive, responses are received and the token
of the call may fire.
-/

namespace RpcContracts

/-- A step on a handled call. -/
inductive ServeStep where
  /-- Poll the work of the handler. -/
  | poll
  /-- Receive a response. -/
  | receive
  /-- Send a request, if requests are open. -/
  | request (item : Outcome)
  /-- Send no more requests. -/
  | endRequests
  /-- Release a method that waits. -/
  | release
  /-- Fire the token of the call. -/
  | cancel
  /-- Give up the receiver of responses. -/
  | dropReceiver

/-- The steps without parameters, by name. -/
def ServeStep.named : List (String × ServeStep) :=
  [("poll", .poll), ("recv", .receive), ("end_requests", .endRequests), ("release", .release),
   ("cancel", .cancel), ("drop_receiver", .dropReceiver)]

/-- A call for a handler. -/
structure ServeInput where
  /-- What accompanies the call. -/
  context : ServerCallContext
  /-- Whether the token has fired before the call. -/
  cancelled : Bool
  /-- The single request. -/
  request : Payload
  /-- The streamed requests. -/
  requests : List Outcome
  /-- Whether more requests may come. -/
  isOpen : Bool
  /-- The buffer of the channel of responses. -/
  buffer : Nat

namespace ServeInput

/-- The source of the requests. -/
def requestSource : Nat := 0

/-- The channel of the responses. -/
def responseChannel : Nat := 0

/-- The name of the token of the call, which has one of its own if none is given. -/
def tokenName (input : ServeInput) : String :=
  match input.context.token with
  | .named name => name
  | .detached => ""

/-- What has happened before the call. -/
def history (input : ServeInput) : History :=
  (if input.cancelled then [.fired input.tokenName] else []) ++
    input.requests.map (.delivered requestSource) ++
      if input.isOpen then [] else [.ended requestSource]

/-- The memory before the call. -/
def memory (input : ServeInput) : Memory :=
  Memory.fresh.setChannel responseChannel (.create input.buffer)

/-- The call as the handler gets it. -/
def incoming (input : ServeInput) : IncomingCall where
  request := .payload input.request
  requests :=
    .delivered (fun history => history.items requestSource) fun history =>
      history.hasEnded requestSource
  responses := responseChannel
  context := { input.context with token := .named input.tokenName }

end ServeInput

/-- The work of a handler, as it is polled. -/
def ServedCall.handle : ServedCall → Handle
  | single response => .single response
  | streaming work => .single (work.map fun result => result.map fun _ => Payload.unit)

/-- A handled call. -/
structure ServeSession : Type 1 where
  /-- The work of the handler. -/
  work : Handle
  /-- Name of the token of the call. -/
  token : String
  /-- Whether responses are received. -/
  hasReceiver : Bool
  /-- What happened outside. -/
  history : History
  /-- The channel of the responses. -/
  memory : Memory

namespace ServeSession

/-- A call that a handler has been given. -/
def ofCall (input : ServeInput) (call : ServedCall) (memory : Memory) : ServeSession :=
  ⟨call.handle, input.tokenName, true, input.history, memory⟩

/-- Hand a call to a handler. -/
def start (handler : ServerHandler) (input : ServeInput) : ServeSession :=
  match handler.serve input.incoming input.memory with
  | (call, memory) => ofCall input call memory

/-- Something happens outside. -/
def happen (session : ServeSession) (event : Event) : ServeSession :=
  { session with history := session.history ++ [event] }

/-- Take a step. -/
def answer (session : ServeSession) : ServeStep → Answer × ServeSession
  | .poll =>
      match session.work.poll session.history session.memory with
      | (answer, work, memory) => (answer, { session with work := work, memory := memory })
  | .receive =>
      if session.hasReceiver then
        match session.memory.receive ServeInput.responseChannel with
        | (poll, memory) =>
            (.ofItemPoll (poll.map (Option.map Except.ok)), { session with memory := memory })
      else (.remark "no receiver", session)
  | .request item =>
      if session.history.hasEnded ServeInput.requestSource then (.flag false, session)
      else (.flag true, session.happen (.delivered ServeInput.requestSource item))
  | .endRequests => (.done, session.happen (.ended ServeInput.requestSource))
  | .release => (.done, session.happen (.resolved Sample.Script.releaseSource (.ok .unit)))
  | .cancel => (.done, session.happen (.fired session.token))
  | .dropReceiver =>
      let channel := session.memory.channels ServeInput.responseChannel
      (.done,
        { session with
          hasReceiver := false
          memory := session.memory.setChannel ServeInput.responseChannel channel.dropReceiver })

/-- The answers of steps on a bound method; there are none if the method is not bound. -/
def run (binding : Binding) (method : String) (input : ServeInput) (steps : List ServeStep) :
    Option (List Answer) :=
  (binding.method? method).map fun bound => runSteps answer (start bound.handler input) steps

end ServeSession
end RpcContracts
