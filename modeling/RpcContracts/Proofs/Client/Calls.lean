import RpcContracts.Client.Table
import RpcContracts.Proofs.Client.Responding
import RpcContracts.Proofs.Contract.Classification
import RpcContracts.Proofs.Value.Assembly

/-!
# Calls of a bound method

A bound method that is called with values of its declared types issues one call, and what comes back
is what the declared return type is made from. Both are read off the values and the signature here;
the method itself decides by its form, its context kind and its response shape. Where the return type
is a result, the caller waits for it: it gets whatever the call comes to while nothing happens
outside.
-/

namespace RpcContracts

/-! ## Reading the arguments -/

namespace Value

/-- What an argument requests: the items of a reader, or else the value itself. -/
def requests : Value → Requests
  | wrapped .streamReader _ items => .stream (ItemStream.erase items)
  | value => .single value.toPayload

theorem eq_callOptions {value : Value} (value_type : value.type = .plain .callOptions) :
    ∃ options, value = .payload (.callOptions options) := by
  cases value with
  | payload data =>
      cases data with
      | callOptions options => exact ⟨options, rfl⟩
      | foreign plain hidden =>
          cases value_type
          cases hidden
      | _ => cases value_type
  | wrapped wrapper argument content => cases value_type

theorem eq_callContext {value : Value} (value_type : value.type = .plain .callContext) :
    ∃ context, value = .payload (.callContext context) := by
  cases value with
  | payload data =>
      cases data with
      | callContext context => exact ⟨context, rfl⟩
      | foreign plain hidden =>
          cases value_type
          cases hidden
      | _ => cases value_type
  | wrapped wrapper argument content => cases value_type

theorem eq_wrapped {value : Value} {wrapper : Wrapper} {argument : ValueType}
    (value_type : value.type = .wrapped wrapper argument) :
    ∃ content, value = .wrapped wrapper argument content := by
  cases value with
  | payload data =>
      obtain ⟨plain, data_type⟩ := data.type_eq_plain
      cases data_type.symm.trans value_type
  | wrapped actual inner content =>
      cases value_type
      exact ⟨content, rfl⟩

theorem requests_of_plain {value : Value} {plain : PlainType}
    (value_type : value.type = .plain plain) : value.requests = .single value.toPayload := by
  cases value with
  | payload data => rfl
  | wrapped wrapper argument content => cases value_type

end Value

/-- The options and the capture buffer that the arguments after the first give. -/
def contextInput : List Value → CallOptions × Option Nat
  | [.payload (.callOptions options)] => (options, none)
  | [.payload (.callContext context)] => (context.clientOptions, context.capture?)
  | _ => (.default, none)

/-- Arguments of the declared types give the options of the call. -/
theorem ClientMethod.takeOptions_eq {kind : ContextKind} {params : List DeclaredType}
    {values : List Value} (contextParams : ContextParams kind params)
    (callable : kind ≠ .serverContext)
    (values_types : values.map Value.type = params.map DeclaredType.valueType) :
    takeOptions kind values = .ok (contextInput values) := by
  cases contextParams with
  | none =>
      obtain rfl := List.map_eq_nil_iff.mp values_types
      rfl
  | options marshaller =>
      obtain ⟨value, rfl, value_type⟩ := List.map_eq_singleton_iff.mp values_types
      obtain ⟨options, rfl⟩ := Value.eq_callOptions value_type
      rfl
  | unified marshaller =>
      obtain ⟨value, rfl, value_type⟩ := List.map_eq_singleton_iff.mp values_types
      obtain ⟨context, rfl⟩ := Value.eq_callContext value_type
      rfl
  | server marshaller => exact absurd rfl callable

/-! ## Delivering the outcome -/

/-- A return type hands back responses in a form; the bare response type stands for a result. -/
def DeclaredType.IsReturned (returns : DeclaredType) (form : ReturnForm) (response : DeclaredType) :
    Prop :=
  returns = .wrapped form.wrapper response ∨ form = .result ∧ returns = response

theorem ReturnsFor.isReturned {response returns : DeclaredType} {kind : CallKind}
    {shape : ResponseShape} {writer : Bool}
    (returnsFor : ReturnsFor response kind shape writer returns) (noWriter : writer = false) :
    returns.IsReturned (ReturnForm.ofShape shape) response := by
  cases returnsFor with
  | value => exact .inr ⟨rfl, rfl⟩
  | writer => cases noWriter
  | _ => exact .inl rfl

/-- A call in flight, for a single response or for a stream of them. -/
inductive CallInFlight : Type 1 where
  | single (call : SingleCall)
  | streaming (call : StreamingCall)

/-- Ask a transport for a call, on the entry of its kind. -/
def Transport.issue (transport : Transport Id) (issued : IssuedCall) (memory : Memory) :
    CallInFlight × Memory :=
  match issued with
  | .unary head request => Prod.map .single id (transport.unary head request memory)
  | .clientStreaming head requests =>
      Prod.map .single id (transport.clientStreaming head requests memory)
  | .serverStreaming head request =>
      Prod.map .streaming id (transport.serverStreaming head request memory)
  | .duplexStreaming head requests =>
      Prod.map .streaming id (transport.duplexStreaming head requests memory)

namespace CallInFlight

variable (capture : Option Nat) (token : Token) (history : History) (memory : Memory)

/-- What a call in flight comes to in a return form, and what is returned of it. A method that
returns a result waits for it, and returns whenever the call comes to a result by itself. -/
inductive Delivers (argument : ValueType) :
    CallInFlight → ReturnForm → CallOutcome → Returned argument → Prop where
  | completed {call : SingleCall} {result : Outcome} :
      (call.result capture token).ComesTo history memory result →
      Delivers argument (.single call) .result (.completed result)
        (.result (Outcome.downcast argument result))
  | blocked {call : SingleCall} :
      (∀ result, ¬(call.result capture token).ComesTo history memory result) →
      Delivers argument (.single call) .result .blocked .blocked
  | task (call : SingleCall) :
      Delivers argument (.single call) .task (.pending (call.result capture token))
        (.task ((call.result capture token).map (Outcome.downcast argument)))
  | valueTask (call : SingleCall) :
      Delivers argument (.single call) .valueTask (.pending (call.result capture token))
        (.valueTask (.backed ((call.result capture token).map (Outcome.downcast argument))))
  | responses (call : StreamingCall) :
      Delivers argument (.streaming call) .responseStream (.streaming (call.results capture token))
        (.responses ((call.results capture token).downcast argument))

/-- An outcome is what a call in flight comes to in a return form: adapting it to the form only
recovers its content at the argument type. -/
def Suits (call : CallInFlight) (form : ReturnForm) (argument : ValueType)
    (outcome : CallOutcome) : Prop :=
  ∃ returned, call.Delivers capture token history memory argument form outcome returned ∧
    ∀ history memory, outcome.returned form argument history memory = (returned, memory)

variable {capture token history memory} {argument : ValueType}

/-- The adapted outcome is the delivered one, so no mismatch of outcome and return type is seen. -/
theorem Delivers.suits {call : CallInFlight} {form : ReturnForm} {outcome : CallOutcome}
    {returned : Returned argument}
    (delivers : call.Delivers capture token history memory argument form outcome returned) :
    call.Suits capture token history memory form argument outcome := by
  refine ⟨returned, delivers, ?_⟩
  intro history memory
  cases delivers <;> rfl

end CallInFlight

/-- A method that returns a result completes: with the response in normal form if all parts of the
call come by themselves, or cancelled if its token has fired. -/
structure SingleCall.Completes (call : SingleCall) (token : Token) (history : History)
    (outcome : CallOutcome) : Prop where
  responded : ∀ {delays metadata response completion},
    call.Responds delays metadata response completion → history.hasFired token = false →
      outcome = .completed (raceResult (some response))
  cancelled : history.hasFired token = true → outcome = .completed (.error .cancelled)

theorem CallInFlight.Suits.completes {call : CallInFlight} {capture : Option Nat} {token : Token}
    {history : History} {memory : Memory} {argument : ValueType} {outcome : CallOutcome}
    (suits : call.Suits capture token history memory .result argument outcome) :
    ∃ single, call = .single single ∧ single.Completes token history outcome := by
  obtain ⟨returned, delivers, -⟩ := suits
  cases delivers with
  | @completed call result found =>
      refine ⟨call, rfl, fun responds unfired => ?_, fun fired => ?_⟩
      · rw [found.unique (responds.comesTo_response capture unfired memory)]
      · rw [found.unique (call.comesTo_cancelled capture fired memory)]
  | @blocked call waits =>
      refine ⟨call, rfl, fun responds unfired => ?_, fun fired => ?_⟩
      · exact absurd (responds.comesTo_response capture unfired memory) (waits _)
      · exact absurd (call.comesTo_cancelled capture fired memory) (waits _)

/-- A call with a single response ends as every return type but a stream needs it. -/
theorem SingleCall.outcome_suits (call : SingleCall) {shape : ResponseShape}
    (single : shape ≠ .streamed) (capture : Option Nat) (token : Token) (history : History)
    (memory : Memory) (argument : ValueType) :
    (CallInFlight.single call).Suits capture token history memory (ReturnForm.ofShape shape)
      argument (call.outcome shape capture token history memory).1 := by
  cases shape with
  | sync =>
      by_cases comes : ∃ result, (call.result capture token).ComesTo history memory result
      · obtain ⟨result, comes⟩ := comes
        rw [outcome_of_comesTo comes]
        exact (CallInFlight.Delivers.completed comes).suits
      · have waits := not_exists.mp comes
        rw [outcome_of_waits waits]
        exact (CallInFlight.Delivers.blocked waits).suits
  | deferred => exact (CallInFlight.Delivers.task call).suits
  | lightDeferred => exact (CallInFlight.Delivers.valueTask call).suits
  | streamed => exact absurd rfl single

/-! ## Issuing a call -/

namespace ClientForm

/-- A request that a method with a form takes. -/
def Takes (form : ClientForm) (request : Value) : Prop :=
  match form with
  | .clientStreaming type => ∃ items, request = .wrapped .streamReader type items
  | .duplexStreaming type => ∃ items, request = .wrapped .streamReader type items
  | _ => True

/-- What a method with a form asks for with a request. -/
def requests (form : ClientForm) (request : Value) : Requests :=
  if form.callKind.streamsRequests then request.requests else .single request.toPayload

end ClientForm

namespace Transport

/-- Ask for a call on its entry, and go on with what comes back. -/
def ask {m : Type 1 → Type 1} [Monad m] {α : Type 1} (transport : Transport m)
    (issued : IssuedCall) (memory : Memory) (single : SingleCall × Memory → α)
    (streaming : StreamingCall × Memory → α) : m α :=
  match issued with
  | .unary head request => do return single (← transport.unary head request memory)
  | .clientStreaming head requests => do
      return single (← transport.clientStreaming head requests memory)
  | .serverStreaming head request => do
      return streaming (← transport.serverStreaming head request memory)
  | .duplexStreaming head requests => do
      return streaming (← transport.duplexStreaming head requests memory)

/-- A transport that keeps the calls is asked once. -/
theorem recorded_ask {α : Type 1} (transport : Transport Id) (issued : IssuedCall)
    (memory : Memory) (single : SingleCall × Memory → α) (streaming : StreamingCall × Memory → α)
    (calls : List IssuedCall) :
    (transport.recorded.ask issued memory single streaming).run calls =
      (transport.ask (m := Id) issued memory single streaming, calls ++ [issued]) := by
  cases issued <;> rfl

end Transport

namespace ClientMethod

/-- The form of the calls of a shape. -/
def formOf (shape : CallShape) : ClientForm :=
  match shape.callKind with
  | .unary => .unary
  | .clientStreaming => .clientStreaming shape.requestType.valueType
  | .serverStreaming => .serverStreaming
  | .duplexStreaming => .duplexStreaming shape.requestType.valueType

theorem callKind_formOf (shape : CallShape) : (formOf shape).callKind = shape.callKind := by
  unfold formOf
  cases shape.callKind <;> rfl

theorem takes_formOf {shape : CallShape} {request : Value}
    (reader : shape.callKind.streamsRequests = true →
      ∃ items, request = .wrapped .streamReader shape.requestType.valueType items) :
    (formOf shape).Takes request := by
  unfold formOf
  cases kind : shape.callKind with
  | unary => trivial
  | serverStreaming => trivial
  | clientStreaming => exact reader (by rw [kind]; rfl)
  | duplexStreaming => exact reader (by rw [kind]; rfl)

theorem form_of_described {operation : Operation}
    (described : operation.shape.Describes operation.method) :
    ClientForm.of operation = .ok (formOf operation.shape) := by
  unfold ClientForm.of formOf
  cases kind : operation.shape.callKind with
  | unary => rfl
  | serverStreaming => rfl
  | clientStreaming =>
      simp only
      rw [described.readerArgument_eq (by rw [kind]; rfl)]
      rfl
  | duplexStreaming =>
      simp only
      rw [described.readerArgument_eq (by rw [kind]; rfl)]
      rfl

/-- The bound method of a shape. -/
def ofShape (wire : WireMethod) (shape : CallShape) : ClientMethod :=
  ⟨wire, shape.contextKind, shape.responseShape, formOf shape⟩

/-- The call that arguments lead to, and the capture buffer that is cleared for it. -/
def prepared (method : ClientMethod) (values : List Value) :
    Except RpcError (IssuedCall × Option Nat) :=
  match method.form with
  | .unary => (method.takeSingle values).map fun input =>
      (.unary ⟨method.wire, none, input.options⟩ input.request, input.capture)
  | .clientStreaming type => (method.takeStream type values).map fun input =>
      (.clientStreaming ⟨method.wire, none, input.options⟩ input.request, input.capture)
  | .serverStreaming => (method.takeSingle values).map fun input =>
      (.serverStreaming ⟨method.wire, none, input.options⟩ input.request, input.capture)
  | .duplexStreaming type => (method.takeStream type values).map fun input =>
      (.duplexStreaming ⟨method.wire, none, input.options⟩ input.request, input.capture)

variable (method : ClientMethod)

/-- A call of a method comes down to asking for the call that its arguments lead to. -/
theorem call_eq {m : Type 1 → Type 1} [Monad m] (transport : Transport m) (values : List Value)
    (history : History) (memory : Memory) :
    method.call transport values history memory =
      match method.prepared values with
      | .error error => pure (.failed error, memory)
      | .ok (issued, capture) =>
          transport.ask issued (memory.resetCapture capture)
            (fun answer => answer.1.outcome method.responseShape capture issued.head.options.token
              history answer.2)
            (fun answer =>
              (.streaming (answer.1.results capture issued.head.options.token), answer.2)) := by
  unfold call prepared
  cases method.form with
  | unary =>
      dsimp only
      cases method.takeSingle values <;> rfl
  | clientStreaming type =>
      dsimp only
      cases method.takeStream type values <;> rfl
  | serverStreaming =>
      dsimp only
      cases method.takeSingle values <;> rfl
  | duplexStreaming type =>
      dsimp only
      cases method.takeStream type values <;> rfl

theorem takeSingle_eq (first : Value) (rest : List Value) :
    method.takeSingle (first :: rest) =
      (takeOptions method.contextKind rest).map fun input =>
        ⟨first.toPayload, input.1, input.2⟩ := rfl

theorem takeStream_eq {type : ValueType} (items : Wrapper.Carrier type .streamReader)
    (rest : List Value) :
    method.takeStream type (.wrapped .streamReader type items :: rest) =
      (takeOptions method.contextKind rest).map fun input =>
        ⟨ItemStream.erase items, input.1, input.2⟩ := by
  have reader : Value.downcast (.wrapped .streamReader type) (.wrapped .streamReader type items) =
      .ok items := Value.downcast_ofCarrier (.wrapped .streamReader type) items
  simp only [takeStream, takeTyped, takeAny, reader]

/-- A request that is taken settles the call but for its options, which are left to be taken. -/
theorem prepared_of_takes {method : ClientMethod} {request : Value}
    (takes : method.form.Takes request) :
    ∃ issue : CallOptions → IssuedCall,
      (∀ options, (issue options).entry = method.form.callKind ∧
        (issue options).head = ⟨method.wire, none, options⟩ ∧
        (issue options).requests = method.form.requests request) ∧
      ∀ rest, method.prepared (request :: rest) =
        (takeOptions method.contextKind rest).map fun input => (issue input.1, input.2) := by
  unfold prepared
  cases form_eq : method.form with
  | unary =>
      refine ⟨fun options => .unary ⟨method.wire, none, options⟩ request.toPayload,
        fun options => ⟨rfl, rfl, rfl⟩, fun rest => ?_⟩
      simp only [takeSingle_eq]
      cases takeOptions method.contextKind rest <;> rfl
  | serverStreaming =>
      refine ⟨fun options => .serverStreaming ⟨method.wire, none, options⟩ request.toPayload,
        fun options => ⟨rfl, rfl, rfl⟩, fun rest => ?_⟩
      simp only [takeSingle_eq]
      cases takeOptions method.contextKind rest <;> rfl
  | clientStreaming type =>
      rw [form_eq] at takes
      obtain ⟨items, rfl⟩ := takes
      refine ⟨fun options => .clientStreaming ⟨method.wire, none, options⟩ (ItemStream.erase items),
        fun options => ⟨rfl, rfl, rfl⟩, fun rest => ?_⟩
      simp only [takeStream_eq]
      cases takeOptions method.contextKind rest <;> rfl
  | duplexStreaming type =>
      rw [form_eq] at takes
      obtain ⟨items, rfl⟩ := takes
      refine ⟨fun options => .duplexStreaming ⟨method.wire, none, options⟩ (ItemStream.erase items),
        fun options => ⟨rfl, rfl, rfl⟩, fun rest => ?_⟩
      simp only [takeStream_eq]
      cases takeOptions method.contextKind rest <;> rfl

/-- A call through a transport issues the given call and nothing else, and its outcome is what the
call that the transport hands back comes to in the return form of the shape. -/
structure Issues (shape : CallShape) (transport : Transport Id) (values : List Value)
    (history : History) (memory : Memory) (issued : IssuedCall) : Prop where
  one_call : ∀ calls, (method.call transport.recorded values history memory).run calls =
    (method.call transport values history memory, calls ++ [issued])
  entry_eq : issued.entry = shape.callKind
  head_eq : issued.head = ⟨method.wire, none, (contextInput values.tail).1⟩
  requests_eq : values.head?.map Value.requests = some issued.requests
  suits :
    let answer := transport.issue issued (memory.resetCapture (contextInput values.tail).2)
    answer.1.Suits (contextInput values.tail).2 issued.head.options.token history answer.2
      (ReturnForm.ofShape shape.responseShape) shape.responseType.valueType
      (method.call transport values history memory).1
  completes : shape.responseShape = .sync → ∃ call,
    (transport.issue issued (memory.resetCapture (contextInput values.tail).2)).1 = .single call ∧
      call.Completes issued.head.options.token history
        (method.call transport values history memory).1

end ClientMethod

/-- Requests that are streamed come as a reader of their type. -/
theorem CallShape.reader_of_streamed {shape : CallShape}
    (streams : shape.callKind.streamsRequests = true) {first : Value}
    (first_type : first.type = shape.requestParam.valueType) :
    ∃ items, first = .wrapped .streamReader shape.requestType.valueType items := by
  apply Value.eq_wrapped
  rw [first_type, CallShape.requestParam, if_pos streams]
  rfl

/-- Requests of the declared type are taken. -/
theorem ClientForm.takes_formOf {shape : CallShape} {request : Value}
    (request_type : request.type = shape.requestParam.valueType) :
    (ClientMethod.formOf shape).Takes request :=
  ClientMethod.takes_formOf fun streams => CallShape.reader_of_streamed streams request_type

namespace CallShape.Describes

variable {shape : CallShape} {signature : Signature} (described : shape.Describes signature)

include described

/-- Arguments of a method without a writer are the request and then the context. -/
theorem values_eq (noWriter : shape.responseWriter = false) {values : List Value}
    (values_types : values.map Value.type = signature.params.map DeclaredType.valueType) :
    ∃ first rest context, values = first :: rest ∧
      first.type = shape.requestParam.valueType ∧
      ContextParams shape.contextKind context ∧
      rest.map Value.type = context.map DeclaredType.valueType := by
  obtain ⟨context, contextParams, params_eq⟩ := described.params
  have noWriters : shape.writerParams = [] := by simp [writerParams, noWriter]
  rw [params_eq, noWriters, List.nil_append, List.map_cons] at values_types
  obtain ⟨first, rest, rfl, first_type, rest_types⟩ := List.map_eq_cons_iff.mp values_types
  exact ⟨first, rest, context, rfl, first_type, contextParams, rest_types⟩

/-- A request that is not streamed is a payload. -/
theorem requests_of_single (single : shape.callKind.streamsRequests = false) {first : Value}
    (first_type : first.type = shape.requestParam.valueType) :
    first.requests = .single first.toPayload := by
  obtain ⟨noWrapper, -⟩ := described.request single
  have request_eq : shape.requestParam = shape.requestType := by simp [requestParam, single]
  rw [request_eq] at first_type
  generalize shape.requestType = request at noWrapper first_type
  cases request with
  | plain plain marshaller => exact Value.requests_of_plain first_type
  | wrapped wrapper argument => cases noWrapper

/-- Whatever comes back from the entry of the call kind ends as the return type needs it. -/
theorem suits_ask (noWriter : shape.responseWriter = false) {issued : IssuedCall}
    (entry_kind : issued.entry = shape.callKind) (transport : Transport Id)
    (capture : Option Nat) (token : Token) (history : History) (memory : Memory) :
    (transport.issue issued memory).1.Suits capture token history
      (transport.issue issued memory).2 (ReturnForm.ofShape shape.responseShape)
      shape.responseType.valueType
      (transport.ask (m := Id) issued memory
        (fun answer => answer.1.outcome shape.responseShape capture token history answer.2)
        (fun answer => (.streaming (answer.1.results capture token), answer.2))).1 := by
  cases issued with
  | unary head request =>
      have single := described.returns.ne_streamed (by rw [← entry_kind]; rfl)
      exact SingleCall.outcome_suits _ single ..
  | clientStreaming head requests =>
      have single := described.returns.ne_streamed (by rw [← entry_kind]; rfl)
      exact SingleCall.outcome_suits _ single ..
  | serverStreaming head request =>
      rw [described.returns.eq_streamed (by rw [← entry_kind]; rfl) noWriter]
      exact (CallInFlight.Delivers.responses _).suits
  | duplexStreaming head requests =>
      rw [described.returns.eq_streamed (by rw [← entry_kind]; rfl) noWriter]
      exact (CallInFlight.Delivers.responses _).suits

end CallShape.Describes

namespace ClientMethod

section

variable {shape : CallShape} {signature : Signature} (described : shape.Describes signature)
  (noWriter : shape.responseWriter = false) (callable : shape.contextKind ≠ .serverContext)
  (wire : WireMethod) (transport : Transport Id) {values : List Value}
  (values_types : values.map Value.type = signature.params.map DeclaredType.valueType)
  (history : History) (memory : Memory)

include described noWriter callable values_types

/-- A call with arguments of the declared types is issued once, on the entry of its call kind. -/
theorem exists_issues :
    ∃ issued, (ofShape wire shape).Issues shape transport values history memory issued := by
  obtain ⟨first, rest, context, rfl, first_type, contextParams, rest_types⟩ :=
    described.values_eq noWriter values_types
  have taken : takeOptions (ofShape wire shape).contextKind rest = .ok (contextInput rest) :=
    takeOptions_eq contextParams callable rest_types
  have takes : (ofShape wire shape).form.Takes first := ClientForm.takes_formOf first_type
  obtain ⟨issue, made, prepared_eq⟩ := prepared_of_takes takes
  obtain ⟨entry_eq, head_eq, requests_eq⟩ := made (contextInput rest).1
  let issued := issue (contextInput rest).1
  have form_kind : (ofShape wire shape).form.callKind = shape.callKind := callKind_formOf shape
  have entry_kind : issued.entry = shape.callKind := entry_eq.trans form_kind
  have outcome_eq {m : Type 1 → Type 1} [Monad m] (transport : Transport m) :=
    (ofShape wire shape).call_eq transport (first :: rest) history memory
  simp only [prepared_eq, taken, Except.map] at outcome_eq
  have suits : let answer := transport.issue issued (memory.resetCapture (contextInput rest).2)
      answer.1.Suits (contextInput rest).2 issued.head.options.token history answer.2
        (ReturnForm.ofShape shape.responseShape) shape.responseType.valueType
        ((ofShape wire shape).call transport (first :: rest) history memory).1 := by
    rw [outcome_eq]
    exact described.suits_ask noWriter entry_kind ..
  refine ⟨issued, ?_, entry_kind, head_eq, ?_, suits, ?_⟩
  · intro calls
    rw [outcome_eq, outcome_eq]
    exact Transport.recorded_ask ..
  · have requests_first : first.requests = issued.requests := by
      rw [requests_eq, ClientForm.requests, form_kind]
      cases streams : shape.callKind.streamsRequests with
      | true => rfl
      | false => exact described.requests_of_single streams first_type
    exact congrArg some requests_first
  · intro sync
    rw [sync] at suits
    exact suits.completes

end

end ClientMethod

end RpcContracts
