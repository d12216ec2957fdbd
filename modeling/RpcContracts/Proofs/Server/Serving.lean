import RpcContracts.Proofs.Async.Findings
import RpcContracts.Proofs.Server.Adapters

/-!
# Runs of a served call

The work that a handler returns delivers responses to a channel from which a runtime receives, each
at its own pace. Once the work is over, only the receives are left, and they take what the channel
holds.
-/

namespace RpcContracts

/-! ## Receives -/

theorem Channel.receive_queue {α : Type} (channel : Channel α) :
    channel.receive.2.queue = channel.queue.tail := by
  obtain ⟨buffer, queue, parked, isOpen⟩ := channel
  cases queue with
  | nil => cases isOpen <;> rfl
  | cons => rfl

theorem Channel.receive_isOpen {α : Type} (channel : Channel α) :
    channel.receive.2.isOpen = channel.isOpen := by
  obtain ⟨buffer, queue, parked, isOpen⟩ := channel
  cases queue with
  | nil => cases isOpen <;> rfl
  | cons => rfl

theorem Channel.receive_shut {α : Type} {channel : Channel α} (empty : channel.queue = [])
    (shut : channel.isOpen = false) : channel.receive.1 = .ready none := by
  simp [receive, empty, shut]

/-- What a receive takes out of a channel is what it finds. -/
theorem Channel.receive_conserves {α : Type} (channel : Channel α) :
    channel.receive.1.item?.toList ++ channel.queue.tail = channel.queue := by
  obtain ⟨buffer, queue, parked, isOpen⟩ := channel
  cases queue with
  | nil => cases isOpen <;> rfl
  | cons => rfl

/-! ## Runs -/

/-- What happens in one turn of a run in which a runtime receives responses. -/
inductive ServedTurn where
  | work (turn : Turn)
  | receive

/-- The number of receives among some turns. -/
def ServedTurn.receives : List ServedTurn → Nat
  | [] => 0
  | .receive :: turns => receives turns + 1
  | .work _ :: turns => receives turns

/-- Work that delivers responses, with those that were received. -/
structure Served (work : Task Unit) where
  moment : work.Moment
  received : List Payload

namespace Served

variable {work : Task Unit}

/-- The first moment of a run. -/
def start (work : Task Unit) (memory : Memory) : Served work := ⟨work.start memory, []⟩

/-- A channel as the work has left it. -/
def channel (served : Served work) (number : Nat) : Channel Payload :=
  served.moment.memory.channels number

/-- What a receive from a channel finds. -/
def poll (served : Served work) (number : Nat) : Poll (Option Payload) :=
  (served.moment.memory.receive number).1

/-- The moment after one turn. -/
def turn (number : Nat) (served : Served work) : ServedTurn → Served work
  | .work turn => { served with moment := served.moment.turn turn }
  | .receive =>
      { moment := { served.moment with memory := (served.moment.memory.receive number).2 }
        received := served.received ++ (served.poll number).item?.toList }

/-- The moment after some turns. -/
def run (number : Nat) (served : Served work) (turns : List ServedTurn) : Served work :=
  turns.foldl (turn number) served

theorem run_cons (number : Nat) (served : Served work) (turn : ServedTurn)
    (turns : List ServedTurn) :
    served.run number (turn :: turns) = (served.turn number turn).run number turns := rfl

/-- What a turn comes to. Work that is over takes no part in it. -/
inductive Turned (number : Nat) (served : Served work) : ServedTurn → Served work → Prop where
  | receive : Turned number served .receive (served.turn number .receive)
  | ended {result : Except RpcError Unit} {turn : Turn} : served.moment.result = some result →
      Turned number served (.work turn) served
  | outside {event : Event} : served.moment.result = none →
      Turned number served (.work (.outside event))
        { served with moment := { served.moment with history := served.moment.history ++ [event] } }
  | polled : served.moment.result = none →
      Turned number served (.work .poll) { served with moment := served.moment.polled }

theorem turned (number : Nat) (served : Served work) (turn : ServedTurn) :
    served.Turned number turn (served.turn number turn) := by
  cases turn with
  | receive => exact .receive
  | work turn =>
      cases going : served.moment.result with
      | some result =>
          rw [Served.turn, Future.Moment.turn_of_result going]
          exact .ended going
      | none =>
          cases turn with
          | outside event =>
              rw [Served.turn, Future.Moment.turn_outside going]
              exact .outside going
          | poll =>
              rw [Served.turn, Future.Moment.turn_poll going]
              exact .polled going

theorem turn_over (number : Nat) {served : Served work} {result : Except RpcError Unit}
    (ended : served.moment.result = some result) (turn : Turn) :
    served.turn number (.work turn) = served := by
  rw [Served.turn, Future.Moment.turn_of_result ended]

theorem channel_receive (number : Nat) (served : Served work) :
    (served.turn number .receive).channel number = (served.channel number).receive.2 :=
  Memory.channels_setChannel_same ..

theorem history_turn (number : Nat) (served : Served work) (turn : ServedTurn) :
    ∃ later, (served.turn number turn).moment.history = served.moment.history ++ later := by
  cases turn with
  | receive => exact ⟨[], (List.append_nil _).symm⟩
  | work turn => exact served.moment.history_turn turn

theorem history_run (number : Nat) (served : Served work) (turns : List ServedTurn) :
    ∃ later, (served.run number turns).moment.history = served.moment.history ++ later := by
  induction turns generalizing served with
  | nil => exact ⟨[], (List.append_nil _).symm⟩
  | cons turn turns ih =>
      obtain ⟨last, turn_eq⟩ := served.history_turn number turn
      obtain ⟨later, run_eq⟩ := ih (served.turn number turn)
      exact ⟨last ++ later, by rw [run_cons, run_eq, turn_eq, List.append_assoc]⟩

/-- A token that a run does not fire is not fired after its first turn. -/
theorem unfired_turn {number : Nat} {served : Served work} {turn : ServedTurn}
    {turns : List ServedTurn} {token : Token}
    (unfired : (served.run number (turn :: turns)).moment.history.hasFired token = false) :
    (served.turn number turn).moment.history.hasFired token = false := by
  obtain ⟨later, history_eq⟩ := (served.turn number turn).history_run number turns
  rw [run_cons, history_eq] at unfired
  exact History.not_hasFired_of_append unfired

/-- Once the work is over, the channel changes by receives only. -/
theorem run_over (number : Nat) (served : Served work) {result : Except RpcError Unit}
    (ended : served.moment.result = some result) (turns : List ServedTurn) :
    (served.channel number).isOpen = ((served.run number turns).channel number).isOpen ∧
      ((served.run number turns).channel number).queue =
        (served.channel number).queue.drop (ServedTurn.receives turns) ∧
      (served.run number turns).received ++ ((served.run number turns).channel number).queue =
        served.received ++ (served.channel number).queue := by
  induction turns generalizing served with
  | nil => exact ⟨rfl, rfl, rfl⟩
  | cons turn turns ih =>
      cases turn with
      | work turn =>
          rw [run_cons, turn_over number ended]
          exact ih served ended
      | receive =>
          obtain ⟨isOpen_eq, queue_eq, parts_eq⟩ := ih (served.turn number .receive) ended
          rw [channel_receive] at isOpen_eq queue_eq parts_eq
          refine ⟨?_, ?_, ?_⟩
          · exact (Channel.receive_isOpen _).symm.trans isOpen_eq
          · rw [Channel.receive_queue, List.drop_tail] at queue_eq
            exact queue_eq
          · refine parts_eq.trans ?_
            rw [Channel.receive_queue, turn, List.append_assoc]
            exact congrArg _ (Channel.receive_conserves _)

end Served

/-! ## Returned streams and written responses -/

/-- The work that pumps responses and shuts their channel when it is over. -/
def IncomingCall.pumping (call : IncomingCall) (responses : ItemStream Payload) : Task Unit :=
  (ItemStream.pump responses call.context.token (.direct call.responses)).whenOver fun memory =>
    memory.closeChannel call.responses

/-- The work of a call whose method writes its responses: the channel is shut when the task of the
method is over. -/
def IncomingCall.delivering (call : IncomingCall) (task : Task (PayloadOf (.plain .unit))) :
    Task Unit :=
  (task.map (Except.map fun _ => ())).whenOver fun memory => memory.closeChannel call.responses

namespace ServerHandler

theorem form_of_ok {operation : Operation} {invoker : Invoker} {handler : ServerHandler}
    (handler_eq : ServerHandler.of operation invoker = .ok handler) :
    HandlerForm.of operation = .ok handler.form ∧ handler.invoker = invoker := by
  unfold ServerHandler.of at handler_eq
  cases context_eq : ContextArgument.of operation with
  | error error => simp [context_eq] at handler_eq
  | ok context =>
      cases form_eq : HandlerForm.of operation with
      | error error => simp [context_eq, form_eq, Except.map] at handler_eq
      | ok form =>
          simp only [context_eq, form_eq, Except.map, Except.ok.injEq] at handler_eq
          subst handler_eq
          exact ⟨rfl, rfl⟩

/-- The handler of an operation that streams responses has the form of the call kind. -/
theorem form_of_responder {operation : Operation}
    (described : operation.shape.Describes operation.method)
    (streams : operation.shape.callKind.streamsResponses = true) {responder : Responder}
    (responder_eq : Responder.of operation = .ok responder) {form : HandlerForm}
    (form_eq : HandlerForm.of operation = .ok form) :
    form = .serverStreaming responder ∨ ∃ request, form = .duplexStreaming request responder := by
  unfold HandlerForm.of at form_eq
  rw [responder_eq] at form_eq
  cases kind : operation.shape.callKind with
  | unary => simp [kind, CallKind.streamsResponses] at streams
  | clientStreaming => simp [kind, CallKind.streamsResponses] at streams
  | serverStreaming =>
      rw [kind] at form_eq
      cases form_eq
      exact .inl rfl
  | duplexStreaming =>
      have streamsRequests : operation.shape.callKind.streamsRequests = true := by rw [kind]; rfl
      have reader_eq := described.readerArgument_eq streamsRequests
      rw [kind, reader_eq] at form_eq
      cases form_eq
      exact .inr ⟨_, rfl⟩

/-- The handler of a method that returns a stream delivers that stream. -/
theorem form_of_stream {operation : Operation}
    (classified : operation.method.shape? = some operation.shape) {response : DeclaredType}
    (returns_eq : operation.method.returns = .wrapped .responseStream response)
    {form : HandlerForm} (form_eq : HandlerForm.of operation = .ok form) :
    form = .serverStreaming (.stream response.valueType) ∨
      ∃ request, form = .duplexStreaming request (.stream response.valueType) := by
  have described := describes_of_shape? classified
  obtain ⟨streams, noWriter⟩ := described.returns.returns_stream_iff.mp (by rw [returns_eq]; rfl)
  have responder_eq : Responder.of operation = .ok (.stream response.valueType) := by
    simp [Responder.of, Conclusion.of, returns_eq, noWriter]
  exact form_of_responder described streams responder_eq form_eq

/-- What is delivered for a call is served, and the channel is shut when that is over. -/
theorem serve_of_deliver {handler : ServerHandler} {responder : Responder}
    (form_eq : handler.form = .serverStreaming responder ∨
      ∃ request, handler.form = .duplexStreaming request responder)
    {call : IncomingCall} {work : Task Unit}
    (delivered : deliver responder call (handler.invoker (handler.arguments call)) = .ok work)
    (memory : Memory) :
    handler.serve call memory =
      (.streaming (work.whenOver fun memory => memory.closeChannel call.responses), memory) := by
  rw [serve_eq, conclude]
  obtain form_eq | ⟨request, form_eq⟩ := form_eq <;> simp only [form_eq, streaming, delivered]

/-- Responses that a handled method returned are pumped to the runtime. -/
theorem serve_stream {handler : ServerHandler} {type : ValueType}
    (streams : handler.form = .serverStreaming (.stream type) ∨
      ∃ request, handler.form = .duplexStreaming request (.stream type))
    {call : IncomingCall} {responses : ItemStream (PayloadOf type)}
    (returned : handler.invoker (handler.arguments call) =
      .ok (.wrapped .responseStream type responses)) (memory : Memory) :
    handler.serve call memory = (.streaming (call.pumping responses.erase), memory) := by
  have recovered : Value.downcast (.wrapped .responseStream type)
      (.wrapped .responseStream type responses) = .ok responses :=
    Value.downcast_ofCarrier (.wrapped .responseStream type) responses
  have delivered : deliver (.stream type) call (handler.invoker (handler.arguments call)) =
      .ok (ItemStream.pump responses.erase call.context.token (.direct call.responses)) := by
    rw [returned]
    simp only [deliver, bind, Except.bind, recovered]
    rfl
  exact serve_of_deliver streams delivered memory

/-- The handler of a method that writes its responses hands it a writer and takes its task for the
result. -/
theorem form_of_writer {operation : Operation}
    (classified : operation.method.shape? = some operation.shape)
    (writes : operation.shape.responseWriter = true) {form : HandlerForm}
    (form_eq : HandlerForm.of operation = .ok form) :
    form = .serverStreaming
        (.writer operation.shape.responseType.valueType (.task (.plain .unit))) ∨
      ∃ request, form = .duplexStreaming request
        (.writer operation.shape.responseType.valueType (.task (.plain .unit))) := by
  have described := describes_of_shape? classified
  have returnsFor := described.returns
  rw [writes] at returnsFor
  obtain ⟨streams, argument, returns_eq, argument_eq⟩ := returnsFor.of_writer
  have responder_eq : Responder.of operation =
      .ok (.writer operation.shape.responseType.valueType (.task (.plain .unit))) := by
    simp [Responder.of, Conclusion.of, returns_eq, argument_eq, writes,
      described.writerArgument_eq writes, Except.map]
  exact form_of_responder described streams responder_eq form_eq

/-- The writer is the second argument. -/
theorem writer_argument {handler : ServerHandler} {type : ValueType} {conclusion : Conclusion}
    (writes : handler.form = .serverStreaming (.writer type conclusion) ∨
      ∃ request, handler.form = .duplexStreaming request (.writer type conclusion))
    (call : IncomingCall) : (handler.arguments call)[1]? = some (call.writer type) := by
  rw [arguments, payloadArguments]
  obtain form_eq | ⟨request, form_eq⟩ := writes <;> rw [form_eq] <;> rfl

/-- A method that writes its responses serves a call with its task. -/
theorem serve_writer {handler : ServerHandler} {type : ValueType}
    (writes : handler.form = .serverStreaming (.writer type (.task (.plain .unit))) ∨
      ∃ request, handler.form = .duplexStreaming request (.writer type (.task (.plain .unit))))
    {call : IncomingCall} {task : Task (PayloadOf (.plain .unit))}
    (returned : handler.invoker (handler.arguments call) =
      .ok (.wrapped .task (.plain .unit) task)) (memory : Memory) :
    handler.serve call memory = (.streaming (call.delivering task), memory) := by
  have recovered : Value.downcast (.wrapped .task (.plain .unit))
      (.wrapped .task (.plain .unit) task) = .ok task :=
    Value.downcast_ofCarrier (.wrapped .task (.plain .unit)) task
  have forgets : (Except.map fun _ => ()) ∘ Outcome.ofTyped =
      (Except.map fun _ => () : OutcomeOf (.plain .unit) → Except RpcError Unit) := by
    funext outcome
    cases outcome <;> rfl
  have delivered : deliver (.writer type (.task (.plain .unit))) call
      (handler.invoker (handler.arguments call)) = .ok (task.map (Except.map fun _ => ())) := by
    rw [returned, ← forgets, ← Future.map_map]
    simp only [deliver, bind, Except.bind, Conclusion.work, recovered]
    rfl
  exact serve_of_deliver writes delivered memory

end ServerHandler

end RpcContracts
