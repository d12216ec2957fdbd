import RpcContracts.Client.Table
import RpcContracts.Session.Handle
import RpcContracts.Text.Quoted

/-!
# Sessions on a client

Call contexts are created under names, and calls are made through the dispatch table of a contract.
The transport records what it is asked for; what it answers is known at once or comes through gates
that are opened one by one.
-/

namespace RpcContracts

/-- What the transport will answer to a call. -/
inductive TransportPlan where
  /-- A call that is over. -/
  | ready (outcome : Outcome)
  /-- A stream of known responses. -/
  | stream (items : List Outcome)
  /-- Whatever comes through the gates, after some have been opened. -/
  | gated (opened : List (Nat → Event))

namespace TransportPlan

/-- The transport that answers by plan; the gates are those of a numbered call. -/
def transport (plan : TransportPlan) (number : Nat) : Transport Id :=
  .ofIssued
    (fun _ memory =>
      (match plan with
        | ready outcome => .ready outcome
        | stream _ => .ready (.error (.unsupported "no plan"))
        | gated _ =>
            ⟨.awaiting fun history => history.outcome? number,
              .awaiting fun history => history.headers? number,
              .awaiting fun history => history.completion? number⟩,
        memory))
    fun _ memory =>
      (match plan with
        | ready _ => .ofStream (.ofItems [] false)
        | stream items => .ofStream (.ofItems items false)
        | gated _ =>
            ⟨.delivered (fun history => history.items number) fun history =>
                history.hasEnded number,
              .awaiting fun history => history.headers? number,
              .awaiting fun history => history.completion? number⟩,
        memory)

end TransportPlan

/-- An argument of a call as a session is given it. -/
inductive CallArgument where
  | payload (payload : Payload)
  /-- A reader of known items, possibly open after them. -/
  | reader (argument : ValueType) (items : List Outcome) (staysOpen : Bool)
  /-- A writer nobody reads from. -/
  | writer (argument : ValueType)
  /-- The context of a name. -/
  | context (name : String)

/-- A step on a client. -/
inductive ClientStep where
  /-- Fire a token. -/
  | cancel (token : String)
  | show (context : String)
  | clientOptions (context : String)
  /-- Show the metadata captured by a context. -/
  | captured (context : String)
  /-- Show the capture buffer of a context. -/
  | captureBuffer (context : String)
  | prepare (context : String)
  | clone (context newName : String)
  | setHeaders (context : String) (headers : Metadata)
  | setCompletion (context : String) (completion : Completion)
  | reset (context : String)
  /-- Call a method, whose return type has an argument type. -/
  | call (method : String) (arguments : List CallArgument) (form : ReturnForm)
      (argument : ValueType) (plan : TransportPlan)
  /-- Open a gate of the latest call. -/
  | release (event : Nat → Event)
  | poll
  | drain
  | drop
  /-- Poll the requests that the transport received. -/
  | nextRequest
  /-- Show the proxy. -/
  | display

/-- The steps without parameters, by name. -/
def ClientStep.named : List (String × ClientStep) :=
  [("poll", .poll), ("drain", .drain), ("drop", .drop), ("next_request", .nextRequest),
   ("display", .display)]

/-- A client in use. -/
structure ClientSession : Type 1 where
  /-- The dispatch table behind the proxy, if there is one. -/
  table : Option DispatchTable
  /-- Contexts by name. -/
  contexts : List (String × CallContext)
  /-- What happened outside. -/
  history : History
  /-- The capture buffers. -/
  memory : Memory
  /-- Number of calls made. -/
  calls : Nat
  /-- What the latest call returned. -/
  result : Handle
  /-- The requests that the transport received. -/
  requests : Option (ItemStream Payload)

namespace ClientSession

/-- A session before its first step. -/
def start (table : Option DispatchTable) (contexts : List (String × CallContext)) :
    ClientSession where
  table := table
  contexts := contexts
  history := []
  memory := .fresh
  calls := 0
  result := .empty
  requests := none

/-- The context of a name; an unknown name has the default context. -/
def context (session : ClientSession) (name : String) : CallContext :=
  (session.contexts.lookup name).getD (.client .default none)

/-- Change the capture buffer of a context. -/
def changeCapture (session : ClientSession) (name : String) (change : Memory → Nat → Memory) :
    Answer × ClientSession :=
  match (session.context name).capture? with
  | some number => (.done, { session with memory := change session.memory number })
  | none => (.remark "no capture", session)

/-- The value of an argument. -/
def argumentValue (session : ClientSession) : CallArgument → Value
  | .payload payload => .payload payload
  | .reader argument items staysOpen =>
      .wrapped .streamReader argument (ItemStream.downcast argument (.ofItems items staysOpen))
  | .writer argument => .wrapped .streamWriter argument ⟨.typed 0 none⟩
  | .context name => .payload (.callContext (session.context name))

/-- What is reported of an issued call. -/
def report (history : History) (issued : IssuedCall) : IssuedReport where
  entry := issued.entry.entryName
  method := issued.head.method.reference
  host := issued.head.host
  options := issued.head.options
  cancelled := history.hasFired issued.head.options.token
  request :=
    match issued.requests with
    | .single payload => some (payload, issued.head.method.requestMarshaller.serialize payload)
    | .stream _ => none

/-- Call a method. -/
def call (session : ClientSession) (table : DispatchTable) (method : String)
    (arguments : List CallArgument) (form : ReturnForm) (argument : ValueType)
    (plan : TransportPlan) : Answer × ClientSession :=
  let number := session.calls + 1
  let values := arguments.map session.argumentValue
  let history :=
    match plan with
    | .gated opened => session.history ++ opened.map fun event => event number
    | _ => session.history
  let entry := table.entry method
  match (entry.call (plan.transport number).recorded values history session.memory).run [] with
  | ((outcome, memory), calls) =>
      match outcome.returned form argument history memory with
      | (returned, memory) =>
          let after : ClientSession :=
            { session with
              history := history, memory := memory, calls := number, result := returned.handle }
          match calls with
          | [] => (returned.answer, after)
          | issued :: _ =>
              (.issued returned.answer (report history issued),
                match issued.requests with
                | .single _ => after
                | .stream items => { after with requests := some items })

/-- Take a step. -/
def answer (session : ClientSession) : ClientStep → Answer × ClientSession
  | .cancel token => (.done, { session with history := session.history ++ [.fired token] })
  | .show name =>
      let context := session.context name
      (.context context (session.history.hasFired context.clientOptions.token), session)
  | .clientOptions name =>
      let options := (session.context name).clientOptions
      (.options options (session.history.hasFired options.token), session)
  | .captured name =>
      let context := session.context name
      (.captured (session.memory.responseHeaders context)
        (session.memory.responseTrailers context) (session.memory.responseStatus context), session)
  | .captureBuffer name =>
      match (session.context name).capture? with
      | some number => (.ofCapture (session.memory.captures number), session)
      | none => (.absent, session)
  | .prepare name =>
      let capture := (session.context name).capture?
      (.flag capture.isSome, { session with memory := session.memory.resetCapture capture })
  | .clone name newName =>
      (.done, { session with contexts := (newName, session.context name) :: session.contexts })
  | .setHeaders name headers =>
      session.changeCapture name fun memory number => memory.captureHeaders number headers
  | .setCompletion name completion =>
      session.changeCapture name fun memory number => memory.captureCompletion number completion
  | .reset name =>
      session.changeCapture name fun memory number => memory.resetCapture (some number)
  | .call method arguments form argument plan =>
      match session.table with
      | some table => session.call table method arguments form argument plan
      | none => (.unavailable, session)
  | .release event =>
      let opened := event session.calls
      match opened with
      | .delivered source _ =>
          (.done, if session.history.hasEnded source then session
            else { session with history := session.history ++ [opened] })
      | _ => (.done, { session with history := session.history ++ [opened] })
  | .poll =>
      match session.result.poll session.history session.memory with
      | (answer, result, memory) => (answer, { session with result := result, memory := memory })
  | .drain =>
      match session.result.drain session.history session.memory with
      | (answers, result, memory) =>
          (.drained answers, { session with result := result, memory := memory })
  | .drop => (.done, { session with result := .empty })
  | .nextRequest =>
      match session.requests with
      | none => (.remark "no requests", session)
      | some requests =>
          match requests.step session.history session.memory with
          | (poll, requests, memory) =>
              (.ofItemPoll poll, { session with requests := some requests, memory := memory })
  | .display =>
      match session.table with
      | some table =>
          (.texts [table.service, table.service,
            "ClientProxy \x7b service_name: " ++ Text.quoted table.service ++ ", .. \x7d"], session)
      | none => (.unavailable, session)

/-- The answers of steps on a client. -/
def run (table : Option DispatchTable) (contexts : List (String × CallContext))
    (steps : List ClientStep) : List Answer :=
  runSteps answer (start table contexts) steps

end ClientSession
end RpcContracts
