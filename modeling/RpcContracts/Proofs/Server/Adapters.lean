import RpcContracts.Proofs.Contract.Classification
import RpcContracts.Proofs.Value.Assembly
import RpcContracts.Sample.Services
import RpcContracts.Server.Handler
import RpcContracts.Server.Implementation

/-!
# Adapters are sound

A handler is built from what the shape of an operation and its signature say separately. Whenever
the shape describes the signature, the two readings agree: each call hands the function one argument
per declared parameter, of the declared type, and what the function returns is accepted.
-/

namespace RpcContracts

namespace IncomingCall

/-- What a parameter of a declared type receives from a call. -/
def argument (call : IncomingCall) : DeclaredType → Value
  | .plain .callContext _ => .payload (.callContext (.server call.context))
  | .plain .serverCallContext _ => .payload (.serverCallContext call.context)
  | .wrapped .streamReader request => call.reader request.valueType
  | .wrapped .streamWriter response => call.writer response.valueType
  | _ => call.request

/-- A call with a single request has one of the request type. -/
def Fits (call : IncomingCall) (shape : CallShape) : Prop :=
  shape.callKind.streamsRequests = false → call.request.type = shape.requestType.valueType

end IncomingCall

namespace CallShape

variable {shape : CallShape} {signature : Signature}

theorem argument_requestParam (described : shape.Describes signature) (call : IncomingCall) :
    call.argument shape.requestParam =
      if shape.callKind.streamsRequests then call.reader shape.requestType.valueType
      else call.request := by
  unfold requestParam
  cases streams : shape.callKind.streamsRequests with
  | true => rfl
  | false =>
      obtain ⟨noWrapper, noContext⟩ := described.request streams
      generalize shape.requestType = type at noWrapper noContext
      cases type with
      | plain plain marshaller =>
          cases plain
          case callContext => cases noContext
          case serverCallContext => cases noContext
          all_goals rfl
      | wrapped wrapper argument => cases noWrapper

theorem map_argument_writerParams (call : IncomingCall) :
    shape.writerParams.map call.argument =
      if shape.responseWriter then [call.writer shape.responseType.valueType] else [] := by
  unfold writerParams
  cases shape.responseWriter <;> rfl

theorem Describes.writerArgument_eq (described : shape.Describes signature)
    (writes : shape.responseWriter = true) :
    Responder.writerArgument signature = .ok shape.responseType.valueType := by
  obtain ⟨context, -, params_eq⟩ := described.params
  simp [Responder.writerArgument, params_eq, writerParams, writes]

end CallShape

/-! ## Contexts -/

/-- The context is what the trailing parameters receive, and only options are refused. -/
theorem ContextArgument.of_contextParams {operation : Operation} {params : List DeclaredType}
    (contextParams : ContextParams operation.shape.contextKind params) :
    (operation.shape.contextKind = .plainOptions ∧
      ∃ error, ContextArgument.of operation = .error error) ∨
    operation.shape.contextKind ≠ .plainOptions ∧
      ∃ argument, ContextArgument.of operation = .ok argument ∧
        ∀ call : IncomingCall, argument.values call.context = params.map call.argument := by
  unfold ContextArgument.of
  generalize operation.shape.contextKind = kind at contextParams
  cases contextParams with
  | none => exact .inr ⟨nofun, .omitted, rfl, fun _ => rfl⟩
  | options marshaller => exact .inl ⟨rfl, _, rfl⟩
  | unified marshaller => exact .inr ⟨nofun, .unified, rfl, fun _ => rfl⟩
  | server marshaller => exact .inr ⟨nofun, .server, rfl, fun _ => rfl⟩

/-! ## Returned values -/

theorem exists_map_ok {ε : Type u} {α : Type v} {β : Type w} {result : Except ε α}
    (succeeds : ∃ value, result = .ok value) (function : α → β) :
    ∃ value, result.map function = .ok value := by
  obtain ⟨value, rfl⟩ := succeeds
  exact ⟨function value, rfl⟩

/-- What a method returns, other than a stream, becomes work for the result of the call. -/
theorem Conclusion.work_of {method : Signature} {conclusion : Conclusion}
    (conclusion_eq : Conclusion.of method = .ok conclusion)
    (noStream : method.returns.wrapper? ≠ some .responseStream)
    (content : method.returns.valueType.Carrier) :
    ∃ work, conclusion.work (.ofCarrier method.returns.valueType content) = .ok work := by
  unfold Conclusion.of at conclusion_eq
  generalize method.returns = returns at conclusion_eq noStream content
  cases returns with
  | plain plain marshaller =>
      cases conclusion_eq
      exact ⟨_, rfl⟩
  | wrapped wrapper argument =>
      cases wrapper with
      | responseStream => exact absurd rfl noStream
      | streamReader => cases conclusion_eq
      | streamWriter => cases conclusion_eq
      | _ =>
          cases conclusion_eq
          exact exists_map_ok ⟨content, Value.downcast_ofCarrier _ content⟩ _

theorem Conclusion.exists_of_returnsFor {method : Signature} {response : DeclaredType}
    {kind : CallKind} {shape : ResponseShape} {writer : Bool}
    (returnsFor : ReturnsFor response kind shape writer method.returns) :
    ∃ conclusion, Conclusion.of method = .ok conclusion := by
  unfold Conclusion.of
  generalize method.returns = returns at returnsFor
  cases returnsFor with
  | value noWrapper =>
      cases response with
      | plain plain marshaller => exact ⟨_, rfl⟩
      | wrapped wrapper argument => cases noWrapper
  | fallible => exact ⟨_, rfl⟩
  | task => exact ⟨_, rfl⟩
  | valueTask => exact ⟨_, rfl⟩
  | stream => exact ⟨_, rfl⟩
  | writer _ isTask =>
      obtain ⟨argument, rfl, -⟩ := DeclaredType.eq_task isTask
      exact ⟨_, rfl⟩

/-- What a function returned becomes work for the result of a call. -/
def ServerHandler.Accepts (handler : ServerHandler) (returned : Value) : Prop :=
  match handler.form with
  | .unary conclusion => ∃ work, conclusion.work returned = .ok work
  | .clientStreaming _ conclusion => ∃ work, conclusion.work returned = .ok work
  | .serverStreaming responder => ∀ call, ∃ work, deliver responder call (.ok returned) = .ok work
  | .duplexStreaming _ responder => ∀ call, ∃ work, deliver responder call (.ok returned) = .ok work

section

variable {operation : Operation} (described : operation.shape.Describes operation.method)

include described

/-- A method that returns no stream has a conclusion that accepts what it returns. -/
theorem Conclusion.of_described
    (noStream : ¬(operation.shape.callKind.streamsResponses = true ∧
      operation.shape.responseWriter = false)) :
    ∃ conclusion, Conclusion.of operation.method = .ok conclusion ∧
      ∀ content, ∃ work,
        conclusion.work (.ofCarrier operation.method.returns.valueType content) = .ok work := by
  obtain ⟨conclusion, conclusion_eq⟩ := Conclusion.exists_of_returnsFor described.returns
  refine ⟨conclusion, conclusion_eq, Conclusion.work_of conclusion_eq ?_⟩
  rwa [ne_eq, described.returns.returns_stream_iff]

/-- A streaming operation delivers its responses through its writer or from the returned stream,
whichever its shape has. -/
theorem Responder.of_described
    (streams : operation.shape.callKind.streamsResponses = true) :
    ∃ responder, Responder.of operation = .ok responder ∧
      (∀ call : IncomingCall,
        operation.shape.writerParams.map call.argument =
          match responder with
          | .writer response _ => [call.writer response]
          | .stream _ => []) ∧
      ∀ call content, ∃ work, ServerHandler.deliver responder call
        (.ok (.ofCarrier operation.method.returns.valueType content)) = .ok work := by
  cases writes : operation.shape.responseWriter with
  | true =>
      obtain ⟨conclusion, conclusion_eq, accepts⟩ :=
        Conclusion.of_described described (by simp [writes])
      refine ⟨.writer operation.shape.responseType.valueType conclusion, ?_, ?_, ?_⟩
      · unfold Responder.of
        rw [conclusion_eq, described.writerArgument_eq writes]
        simp [writes, Except.map]
      · intro call
        simp [CallShape.map_argument_writerParams, writes]
      · intro call content
        exact exists_map_ok (accepts content) _
  | false =>
      have returns_eq := described.returns.returns_stream streams writes
      refine ⟨.stream operation.shape.responseType.valueType, ?_, ?_, ?_⟩
      · simp [Responder.of, Conclusion.of, returns_eq, writes]
      · intro call
        simp [CallShape.map_argument_writerParams, writes]
      · intro call content
        apply exists_map_ok
        generalize operation.method.returns = returns at returns_eq content
        subst returns_eq
        exact ⟨content, Value.downcast_ofCarrier _ content⟩

/-- The form of a handler is that of the shape, whatever the context. -/
theorem HandlerForm.of_described :
    ∃ form, HandlerForm.of operation = .ok form ∧
      form.callKind = operation.shape.callKind ∧
      (∀ context invoker call, ServerHandler.payloadArguments ⟨context, form, invoker⟩ call =
        (operation.shape.requestParam :: operation.shape.writerParams).map call.argument) ∧
      ∀ context invoker content, ServerHandler.Accepts ⟨context, form, invoker⟩
        (.ofCarrier operation.method.returns.valueType content) := by
  unfold HandlerForm.of
  cases kind : operation.shape.callKind with
  | unary =>
      have single : operation.shape.callKind.streamsResponses = false := by rw [kind]; rfl
      obtain ⟨conclusion, conclusion_eq, accepts⟩ :=
        Conclusion.of_described described (by simp [single])
      refine ⟨.unary conclusion, by rw [conclusion_eq]; rfl, rfl, ?_, fun _ _ => accepts⟩
      intro context invoker call
      have writes := described.returns.not_writer single
      simp [ServerHandler.payloadArguments, CallShape.argument_requestParam described,
        CallShape.map_argument_writerParams, writes, kind, CallKind.streamsRequests]
  | clientStreaming =>
      have single : operation.shape.callKind.streamsResponses = false := by rw [kind]; rfl
      have streams : operation.shape.callKind.streamsRequests = true := by rw [kind]; rfl
      obtain ⟨conclusion, conclusion_eq, accepts⟩ :=
        Conclusion.of_described described (by simp [single])
      have reader_eq := described.readerArgument_eq streams
      refine ⟨.clientStreaming operation.shape.requestType.valueType conclusion, ?_, rfl, ?_,
        fun _ _ => accepts⟩
      · rw [conclusion_eq, reader_eq]
        rfl
      · intro context invoker call
        have writes := described.returns.not_writer single
        simp [ServerHandler.payloadArguments, CallShape.argument_requestParam described,
          CallShape.map_argument_writerParams, writes, streams]
  | serverStreaming =>
      have streams : operation.shape.callKind.streamsResponses = true := by rw [kind]; rfl
      obtain ⟨responder, responder_eq, writer_eq, delivers⟩ :=
        Responder.of_described described streams
      refine ⟨.serverStreaming responder, by rw [responder_eq]; rfl, rfl, ?_,
        fun _ _ content call => delivers call content⟩
      intro context invoker call
      rw [List.map_cons, writer_eq, CallShape.argument_requestParam described, kind]
      cases responder <;> rfl
  | duplexStreaming =>
      have streams : operation.shape.callKind.streamsResponses = true := by rw [kind]; rfl
      have streamsRequests : operation.shape.callKind.streamsRequests = true := by rw [kind]; rfl
      obtain ⟨responder, responder_eq, writer_eq, delivers⟩ :=
        Responder.of_described described streams
      have reader_eq := described.readerArgument_eq streamsRequests
      refine ⟨.duplexStreaming operation.shape.requestType.valueType responder, ?_, rfl, ?_,
        fun _ _ content call => delivers call content⟩
      · rw [responder_eq, reader_eq]
        rfl
      · intro context invoker call
        rw [List.map_cons, writer_eq, CallShape.argument_requestParam described, streamsRequests]
        cases responder <;> rfl

/-- A call that fits its operation hands over values of the declared types. -/
theorem IncomingCall.argument_types {call : IncomingCall} (fits : call.Fits operation.shape)
    (served : operation.shape.contextKind ≠ .plainOptions) :
    (operation.method.params.map call.argument).map Value.type =
      operation.method.params.map DeclaredType.valueType := by
  obtain ⟨context, contextParams, params_eq⟩ := described.params
  have request_type :
      (call.argument operation.shape.requestParam).type =
        operation.shape.requestParam.valueType := by
    rw [CallShape.argument_requestParam described]
    unfold CallShape.requestParam
    cases streams : operation.shape.callKind.streamsRequests with
    | true => rfl
    | false => exact fits streams
  have writer_types :
      (operation.shape.writerParams.map call.argument).map Value.type =
        operation.shape.writerParams.map DeclaredType.valueType := by
    unfold CallShape.writerParams
    cases operation.shape.responseWriter <;> rfl
  have context_types :
      (context.map call.argument).map Value.type = context.map DeclaredType.valueType := by
    generalize operation.shape.contextKind = kind at contextParams served
    cases contextParams with
    | options => exact absurd rfl served
    | _ => rfl
  rw [params_eq]
  simp only [List.map_cons, List.map_append, request_type, writer_types, context_types]

/-- A request of another type is refused with the expected one before anything else is looked at. -/
theorem IncomingCall.take_of_misfits {call : IncomingCall} (misfits : ¬call.Fits operation.shape) :
    Arguments.take (operation.method.params.map DeclaredType.valueType)
        (operation.method.params.map call.argument) =
      .error (.typeMismatch operation.shape.requestType.valueType.qualifiedName) := by
  obtain ⟨single, request_type⟩ : operation.shape.callKind.streamsRequests = false ∧
      call.request.type ≠ operation.shape.requestType.valueType := by
    simpa [IncomingCall.Fits] using misfits
  obtain ⟨context, -, params_eq⟩ := described.params
  have request_eq : operation.shape.requestParam = operation.shape.requestType := by
    simp [CallShape.requestParam, single]
  have argument_eq : call.argument operation.shape.requestType = call.request := by
    rw [← request_eq, CallShape.argument_requestParam described, single]
    rfl
  rw [params_eq, request_eq, List.map_cons, List.map_cons, argument_eq]
  exact Arguments.take_of_type_ne request_type _ _

end

/-! ## Handlers -/

namespace ServerHandler

/-- A handler serves the calls of an operation with a function: its kind is that of the operation,
the function gets what the parameters receive, and what it returns is accepted. -/
structure Adapts (handler : ServerHandler) (operation : Operation) (invoker : Invoker) : Prop where
  callKind_eq : handler.callKind = operation.shape.callKind
  invoker_eq : handler.invoker = invoker
  arguments_eq : ∀ call, handler.arguments call = operation.method.params.map call.argument
  accepts : ∀ content,
    handler.Accepts (.ofCarrier operation.method.returns.valueType content)

/-- There is a handler unless the method takes options, and it serves the calls of the operation. -/
theorem of_described {operation : Operation}
    (described : operation.shape.Describes operation.method) (invoker : Invoker) :
    (operation.shape.contextKind = .plainOptions ∧
      ∃ error, ServerHandler.of operation invoker = .error error) ∨
    operation.shape.contextKind ≠ .plainOptions ∧
      ∃ handler, ServerHandler.of operation invoker = .ok handler ∧
        handler.Adapts operation invoker := by
  obtain ⟨context, contextParams, params_eq⟩ := described.params
  obtain ⟨refused, error, error_eq⟩ | ⟨served, argument, argument_eq, context_eq⟩ :=
    ContextArgument.of_contextParams contextParams
  · refine .inl ⟨refused, error, ?_⟩
    simp [ServerHandler.of, error_eq]
  · obtain ⟨form, form_eq, kind_eq, payload_eq, accepts⟩ := HandlerForm.of_described described
    refine .inr ⟨served, ⟨argument, form, invoker⟩, ?_, kind_eq, rfl, ?_, accepts argument invoker⟩
    · simp [ServerHandler.of, argument_eq, form_eq, Except.map]
    · intro call
      rw [arguments, payload_eq, context_eq, params_eq, List.map_cons, List.map_cons,
        List.map_append, List.cons_append]

/-- The result of a call that fails before there is any response. -/
def failure (handler : ServerHandler) (call : IncomingCall) (error : RpcError) (memory : Memory) :
    ServedCall × Memory :=
  if handler.callKind.streamsResponses then
    (.streaming (.ready (.error error)), memory.closeChannel call.responses)
  else (.single (.ready (.error error)), memory)

theorem conclude_error (handler : ServerHandler) (call : IncomingCall) (error : RpcError)
    (memory : Memory) :
    handler.conclude call (.error error) memory = handler.failure call error memory := by
  obtain ⟨context, form, invoker⟩ := handler
  cases form with
  | unary conclusion => rfl
  | clientStreaming request conclusion => rfl
  | serverStreaming responder => cases responder <;> rfl
  | duplexStreaming request responder => cases responder <;> rfl

/-- Every call of a handler is one call of the function, with one value per declared parameter; the
values have the declared types unless the request itself has not. -/
structure CallsOnce (handler : ServerHandler) (operation : Operation) (invoker : Invoker) :
    Prop where
  one_call : ∀ call memory calls,
    (handler.serveWith invoker.recorded call memory).run calls =
      (handler.serve call memory, calls ++ [operation.method.params.map call.argument])
  argument_types : ∀ call : IncomingCall, call.Fits operation.shape →
    (operation.method.params.map call.argument).map Value.type =
      operation.method.params.map DeclaredType.valueType

theorem run_serveWith {σ : Type 1} (handler : ServerHandler)
    (invoke : List Value → StateM σ (Except RpcError Value)) (call : IncomingCall)
    (memory : Memory) (state : σ) :
    (handler.serveWith invoke call memory).run state =
      (handler.conclude call ((invoke (handler.arguments call)).run state).1 memory,
        ((invoke (handler.arguments call)).run state).2) := rfl

theorem serve_eq (handler : ServerHandler) (call : IncomingCall) (memory : Memory) :
    handler.serve call memory =
      handler.conclude call (handler.invoker (handler.arguments call)) memory := rfl

theorem Adapts.callsOnce {handler : ServerHandler} {operation : Operation} {invoker : Invoker}
    (adapts : handler.Adapts operation invoker)
    (described : operation.shape.Describes operation.method)
    (served : operation.shape.contextKind ≠ .plainOptions) :
    handler.CallsOnce operation invoker where
  one_call := by
    intro call memory calls
    rw [run_serveWith, serve_eq, adapts.arguments_eq, adapts.invoker_eq]
    rfl
  argument_types := fun _ fits => IncomingCall.argument_types described fits served

end ServerHandler

/-! ## Functions -/

namespace ServiceFunction

/-- The types of the arguments of a function. -/
abbrev types (function : ServiceFunction) : List ValueType :=
  function.params.map DeclaredType.valueType

/-- The invoker of a function that keeps the arguments of its runs, the latest last. -/
def recorded (function : ServiceFunction) (values : List Value) :
    StateM (List (Arguments function.types)) (Except RpcError Value) :=
  Invoker.ofFunctionIn function.types function.returns.valueType
    (fun arguments => do
      modify (· ++ [arguments])
      return function.run arguments)
    values

variable {function : ServiceFunction} {values : List Value}

theorem run_recorded_of_take {arguments : Arguments function.types}
    (taken : Arguments.take function.types values = .ok arguments)
    (runs : List (Arguments function.types)) :
    (function.recorded values).run runs =
      (.ok (.ofCarrier function.returns.valueType (function.run arguments)),
        runs ++ [arguments]) := by
  simp only [recorded, Invoker.ofFunctionIn, taken]
  rfl

theorem run_recorded_of_error {error : RpcError}
    (failed : Arguments.take function.types values = .error error)
    (runs : List (Arguments function.types)) :
    (function.recorded values).run runs = (.error error, runs) := by
  simp only [recorded, Invoker.ofFunctionIn, failed]
  rfl

theorem run_recorded_fst (runs : List (Arguments function.types)) :
    ((function.recorded values).run runs).1 = function.invoker values := by
  cases taken : Arguments.take function.types values with
  | ok arguments =>
      rw [run_recorded_of_take taken]
      simp only [invoker, Invoker.ofFunction, Invoker.ofFunctionIn, taken]
      rfl
  | error error =>
      rw [run_recorded_of_error taken]
      simp only [invoker, Invoker.ofFunction, Invoker.ofFunctionIn, taken]
      rfl

end ServiceFunction

namespace ServerHandler

/-- A call with a request of the declared type is one run of the function, whose arguments are
assembled without loss and whose result is accepted. Any other request fails the call with its type,
and the function does not run. -/
structure RunsOnce (handler : ServerHandler) (shape : CallShape) (function : ServiceFunction) :
    Prop where
  one_run : ∀ call : IncomingCall, call.Fits shape → ∃ arguments,
    Arguments.take function.types (function.params.map call.argument) = .ok arguments ∧
      Arguments.toList function.types arguments = function.params.map call.argument ∧
      handler.Accepts (.ofCarrier function.returns.valueType (function.run arguments)) ∧
      ∀ memory runs, (handler.serveWith function.recorded call memory).run runs =
        (handler.serve call memory, runs ++ [arguments])
  no_run : ∀ call : IncomingCall, ¬call.Fits shape → ∀ memory runs,
    (handler.serveWith function.recorded call memory).run runs =
        (handler.serve call memory, runs) ∧
      handler.serve call memory =
        handler.failure call (.typeMismatch shape.requestType.valueType.qualifiedName) memory

theorem Adapts.runsOnce {handler : ServerHandler} {operation : Operation}
    {run : Arguments (operation.method.params.map DeclaredType.valueType) →
      operation.method.returns.valueType.Carrier}
    (adapts : handler.Adapts operation
      (ServiceFunction.invoker ⟨operation.method.params, operation.method.returns, run⟩))
    (described : operation.shape.Describes operation.method)
    (served : operation.shape.contextKind ≠ .plainOptions) :
    handler.RunsOnce operation.shape ⟨operation.method.params, operation.method.returns, run⟩ where
  one_run := by
    intro call fits
    obtain ⟨arguments, taken, values⟩ :=
      Arguments.take_of_types (IncomingCall.argument_types described fits served)
    refine ⟨arguments, taken, values, adapts.accepts _, ?_⟩
    intro memory runs
    rw [run_serveWith, serve_eq, adapts.arguments_eq, adapts.invoker_eq,
      ← ServiceFunction.run_recorded_fst runs]
    rw [ServiceFunction.run_recorded_of_take taken]
  no_run := by
    intro call misfits memory runs
    let function : ServiceFunction := ⟨operation.method.params, operation.method.returns, run⟩
    have failed : (function.recorded (operation.method.params.map call.argument)).run runs =
        (.error (.typeMismatch operation.shape.requestType.valueType.qualifiedName), runs) :=
      ServiceFunction.run_recorded_of_error (IncomingCall.take_of_misfits described misfits) runs
    constructor
    · rw [run_serveWith, serve_eq, adapts.arguments_eq, adapts.invoker_eq,
        ← ServiceFunction.run_recorded_fst runs, failed]
    · rw [serve_eq, adapts.arguments_eq, adapts.invoker_eq,
        ← ServiceFunction.run_recorded_fst runs, failed]
      exact handler.conclude_error call _ memory

/-- An operation whose shape is that of its method has a handler unless the method takes options.
The handler has the call kind of the operation and turns every call into one call of the function,
with values of the declared types; a typed function then runs once per call. -/
theorem of_classified {operation : Operation}
    (classified : operation.method.shape? = some operation.shape) :
    (∀ invoker, (∃ handler, ServerHandler.of operation invoker = .ok handler) ↔
      operation.shape.contextKind ≠ .plainOptions) ∧
    (∀ invoker handler, ServerHandler.of operation invoker = .ok handler →
      handler.callKind = operation.shape.callKind ∧ handler.CallsOnce operation invoker) ∧
    ∀ run handler,
      let function : ServiceFunction := ⟨operation.method.params, operation.method.returns, run⟩
      ServerHandler.of operation function.invoker = .ok handler →
        handler.RunsOnce operation.shape function := by
  have described := describes_of_shape? classified
  have adapted : ∀ {invoker : Invoker} {handler : ServerHandler},
      ServerHandler.of operation invoker = .ok handler →
        operation.shape.contextKind ≠ .plainOptions ∧ handler.Adapts operation invoker := by
    intro invoker handler handler_eq
    obtain ⟨-, error, error_eq⟩ | ⟨served, built, built_eq, adapts⟩ :=
      of_described described invoker
    · cases error_eq.symm.trans handler_eq
    · cases built_eq.symm.trans handler_eq
      exact ⟨served, adapts⟩
  refine ⟨fun invoker => ⟨?_, ?_⟩, ?_, ?_⟩
  · rintro ⟨handler, handler_eq⟩
    exact (adapted handler_eq).1
  · intro served
    obtain ⟨refused, -⟩ | ⟨-, handler, handler_eq, -⟩ := of_described described invoker
    · exact absurd refused served
    · exact ⟨handler, handler_eq⟩
  · intro invoker handler handler_eq
    obtain ⟨served, adapts⟩ := adapted handler_eq
    exact ⟨adapts.callKind_eq, adapts.callsOnce described served⟩
  · intro run handler function handler_eq
    obtain ⟨served, adapts⟩ := adapted handler_eq
    exact adapts.runsOnce described served

end ServerHandler

/-- The operation of the sample method that writes its pongs. -/
def Sample.writtenPongs : Operation where
  name := "ServerStreamingWriter"
  shape := ⟨.serverStreaming, .serverContext, .deferred, true, ping, pong⟩
  method := serverStreamingWriter

/-- A function of the sample method that writes nothing. -/
def Sample.silence : ServiceFunction where
  params := serverStreamingWriter.params
  returns := serverStreamingWriter.returns
  run := fun _ => Future.ready (.ok unitPayload)

theorem Sample.writtenPongs_runsOnce :
    writtenPongs.method.shape? = some writtenPongs.shape ∧
      ∃ handler, ServerHandler.of writtenPongs silence.invoker = .ok handler ∧
        handler.callKind = .serverStreaming ∧
        handler.CallsOnce writtenPongs silence.invoker ∧
        handler.RunsOnce writtenPongs.shape silence := by
  have classified : writtenPongs.method.shape? = some writtenPongs.shape := rfl
  obtain ⟨exists_iff, calls, runs⟩ := ServerHandler.of_classified classified
  obtain ⟨handler, handler_eq⟩ := (exists_iff silence.invoker).mpr nofun
  obtain ⟨callKind_eq, callsOnce⟩ := calls silence.invoker handler handler_eq
  exact ⟨classified, handler, handler_eq, callKind_eq, callsOnce,
    runs silence.run handler handler_eq⟩

end RpcContracts
