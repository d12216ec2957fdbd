import RpcContracts.Proofs.Client.Forwarding

/-!
# Calls that cannot be issued

A bound method takes its arguments one by one and gives up at the first that is missing or has
another type than the declared one. It has asked the transport for nothing by then, and it has not
touched a capture buffer. Otherwise it makes one call, and the buffer of the context that it makes
the call with is cleared just before, and no other.
-/

namespace RpcContracts

/-! ## Arguments that do not fit -/

/-- Whether an argument has to have the declared type. A single request is passed on whatever its
type is. -/
def DeclaredType.isChecked (declared : DeclaredType) : Bool :=
  decide (declared.wrapper? = some .streamReader) || declared.contextKind?.isSome

/-- The error of the first parameter that has no argument, or one of another type where types are
checked. Further arguments are ignored. -/
def misfit? : List DeclaredType → List Value → Option RpcError
  | [], _ => none
  | _ :: _, [] => some missingArgument
  | declared :: params, value :: values =>
      if declared.isChecked = true ∧ value.type ≠ declared.valueType then
        some (.typeMismatch declared.valueType.qualifiedName)
      else misfit? params values

/-- A context is the argument for a parameter that is declared as one. -/
def UsesContext (params : List DeclaredType) (values : List Value) (context : CallContext) : Prop :=
  ∃ declared, (declared, .payload (.callContext context)) ∈ params.zip values ∧
    declared.valueType = .plain .callContext

/-- A capture buffer that the arguments of a call ask for. -/
def AsksFor (params : List DeclaredType) (values : List Value) (number : Nat) : Prop :=
  ∃ context, UsesContext params values context ∧ context.capture? = some number

section

variable {declared : DeclaredType} {params : List DeclaredType} {value : Value}
  {values : List Value}

theorem misfit?_of_type_ne (checked : declared.isChecked = true)
    (other : value.type ≠ declared.valueType) :
    misfit? (declared :: params) (value :: values) =
      some (.typeMismatch declared.valueType.qualifiedName) := if_pos ⟨checked, other⟩

theorem misfit?_cons (fits : declared.isChecked = true → value.type = declared.valueType) :
    misfit? (declared :: params) (value :: values) = misfit? params values :=
  if_neg fun ⟨checked, other⟩ => other (fits checked)

theorem asksFor_cons (noContext : declared.valueType ≠ .plain .callContext) {number : Nat} :
    AsksFor (declared :: params) (value :: values) number ↔ AsksFor params values number := by
  constructor
  · rintro ⟨context, ⟨found, member, isContext⟩, asked⟩
    rw [List.zip_cons_cons, List.mem_cons] at member
    obtain here | later := member
    · cases here
      exact absurd isContext noContext
    · exact ⟨context, ⟨found, later, isContext⟩, asked⟩
  · rintro ⟨context, ⟨found, member, isContext⟩, asked⟩
    exact ⟨context, ⟨found, List.mem_cons_of_mem _ member, isContext⟩, asked⟩

end

namespace ClientMethod

/-! ## Taking the arguments -/

theorem takeOptions_of_not_options {value : Value} (other : value.type ≠ .plain .callOptions)
    (rest : List Value) :
    takeOptions .plainOptions (value :: rest) =
      .error (.typeMismatch PlainType.callOptions.name) := by
  cases value with
  | wrapped wrapper argument content => rfl
  | payload data =>
      cases data with
      | callOptions options => exact absurd rfl other
      | _ => rfl

theorem takeOptions_of_not_context {value : Value} (other : value.type ≠ .plain .callContext)
    (rest : List Value) :
    takeOptions .unifiedContext (value :: rest) =
      .error (.typeMismatch PlainType.callContext.name) := by
  cases value with
  | wrapped wrapper argument content => rfl
  | payload data =>
      cases data with
      | callContext context => exact absurd rfl other
      | _ => rfl

/-- The options of a call are taken exactly if the arguments for the context parameters fit. -/
theorem takeOptions_cases {kind : ContextKind} {params : List DeclaredType}
    (contextParams : ContextParams kind params) (callable : kind ≠ .serverContext)
    (values : List Value) :
    (∃ error, misfit? params values = some error ∧ takeOptions kind values = .error error) ∨
    (∃ input, misfit? params values = none ∧ takeOptions kind values = .ok input ∧
      ∀ number, input.2 = some number ↔ AsksFor params values number) := by
  cases contextParams with
  | none =>
      refine .inr ⟨(_, none), rfl, rfl, fun number => iff_of_false (by simp) ?_⟩
      rintro ⟨context, ⟨declared, member, -⟩, -⟩
      cases member
  | options marshaller =>
      cases values with
      | nil => exact .inl ⟨_, rfl, rfl⟩
      | cons value rest =>
          by_cases value_type : value.type = .plain .callOptions
          · obtain ⟨options, rfl⟩ := Value.eq_callOptions value_type
            refine .inr ⟨(_, none), misfit?_cons fun _ => value_type, rfl, fun number => ?_⟩
            rw [asksFor_cons (by simp [DeclaredType.valueType])]
            refine iff_of_false (by simp) ?_
            rintro ⟨context, ⟨declared, member, -⟩, -⟩
            cases member
          · exact .inl ⟨_, misfit?_of_type_ne rfl value_type,
              takeOptions_of_not_options value_type rest⟩
  | unified marshaller =>
      cases values with
      | nil => exact .inl ⟨_, rfl, rfl⟩
      | cons value rest =>
          by_cases value_type : value.type = .plain .callContext
          · obtain ⟨context, rfl⟩ := Value.eq_callContext value_type
            refine .inr ⟨_, misfit?_cons fun _ => value_type, rfl, fun number => ?_⟩
            constructor
            · intro asked
              exact ⟨context, ⟨_, List.mem_cons_self, rfl⟩, asked⟩
            · rintro ⟨used, ⟨declared, member, -⟩, asked⟩
              obtain ⟨-, used_eq⟩ := Prod.mk.inj (List.mem_singleton.mp member)
              cases used_eq
              exact asked
          · exact .inl ⟨_, misfit?_of_type_ne rfl value_type,
              takeOptions_of_not_context value_type rest⟩
  | server marshaller => exact absurd rfl callable

theorem takeStream_of_type_ne (method : ClientMethod) {type : ValueType} {value : Value}
    (other : value.type ≠ .wrapped .streamReader type) (rest : List Value) :
    method.takeStream type (value :: rest) =
      .error (.typeMismatch (ValueType.wrapped .streamReader type).qualifiedName) := by
  simp only [takeStream, takeTyped, takeAny, Value.downcast_of_type_ne other]

end ClientMethod

/-! ## The request -/

section

variable {shape : CallShape} {signature : Signature} (described : shape.Describes signature)

include described

/-- Requests that are streamed are checked, and no others. -/
theorem CallShape.Describes.requestParam_isChecked :
    shape.requestParam.isChecked = shape.callKind.streamsRequests := by
  unfold CallShape.requestParam
  cases streams : shape.callKind.streamsRequests with
  | true => rfl
  | false =>
      obtain ⟨noWrapper, noContext⟩ := described.request streams
      simp [DeclaredType.isChecked, noWrapper, noContext]

theorem CallShape.Describes.requestParam_noContext :
    shape.requestParam.valueType ≠ .plain .callContext := by
  intro isContext
  have noContext := described.requestParam_plain.2
  cases param : shape.requestParam with
  | wrapped wrapper argument =>
      rw [param] at isContext
      cases isContext
  | plain type marshaller =>
      rw [param] at isContext noContext
      cases isContext
      cases noContext

namespace ClientMethod

theorem prepared_of_type_ne (wire : WireMethod) {first : Value}
    (checked : shape.requestParam.isChecked = true)
    (other : first.type ≠ shape.requestParam.valueType) (rest : List Value) :
    (ofShape wire shape).prepared (first :: rest) =
      .error (.typeMismatch shape.requestParam.valueType.qualifiedName) := by
  rw [described.requestParam_isChecked] at checked
  have param_eq : shape.requestParam.valueType =
      .wrapped .streamReader shape.requestType.valueType := by
    rw [CallShape.requestParam, if_pos checked]
    rfl
  rw [param_eq] at other ⊢
  simp only [prepared, ofShape, formOf]
  cases kind : shape.callKind with
  | unary => rw [kind] at checked; cases checked
  | serverStreaming => rw [kind] at checked; cases checked
  | clientStreaming => simp only [takeStream_of_type_ne _ other, Except.map]
  | duplexStreaming => simp only [takeStream_of_type_ne _ other, Except.map]

/-- Arguments lead to a call exactly if they fit the declared parameters. -/
theorem prepared_cases (noWriter : shape.responseWriter = false)
    (callable : shape.contextKind ≠ .serverContext) (wire : WireMethod) (values : List Value) :
    (∃ error, misfit? signature.params values = some error ∧
      (ofShape wire shape).prepared values = .error error) ∨
    (∃ issued capture, misfit? signature.params values = none ∧
      (ofShape wire shape).prepared values = .ok (issued, capture) ∧
      ∀ number, capture = some number ↔ AsksFor signature.params values number) := by
  obtain ⟨context, contextParams, params_eq⟩ := described.params
  have noWriters : shape.writerParams = [] := by simp [CallShape.writerParams, noWriter]
  rw [params_eq, noWriters, List.nil_append]
  cases values with
  | nil =>
      refine .inl ⟨missingArgument, rfl, ?_⟩
      simp only [prepared, ofShape, formOf]
      cases shape.callKind <;> rfl
  | cons first rest =>
      by_cases fits : shape.requestParam.isChecked = true →
          first.type = shape.requestParam.valueType
      · have takes : (ofShape wire shape).form.Takes first := takes_formOf fun streams =>
          CallShape.reader_of_streamed streams
            (fits (described.requestParam_isChecked.trans streams))
        obtain ⟨made, -, prepared_eq⟩ := prepared_of_takes takes
        have prepared_options : (ofShape wire shape).prepared (first :: rest) =
            (takeOptions shape.contextKind rest).map fun input => (made input.1, input.2) :=
          prepared_eq rest
        obtain ⟨error, misfit, taken⟩ | ⟨input, fit, taken, asked⟩ :=
          takeOptions_cases contextParams callable rest
        · rw [taken] at prepared_options
          exact .inl ⟨error, (misfit?_cons fits).trans misfit, prepared_options⟩
        · rw [taken] at prepared_options
          refine .inr ⟨made input.1, input.2, (misfit?_cons fits).trans fit, prepared_options, ?_⟩
          intro number
          rw [asksFor_cons described.requestParam_noContext]
          exact asked number
      · obtain ⟨checked, other⟩ := Classical.not_imp.mp fits
        exact .inl ⟨_, misfit?_of_type_ne checked other,
          prepared_of_type_ne described wire checked other rest⟩

end ClientMethod

end

/-! ## Calls seen by the transport -/

/-- Keep an issued call with the memory it is issued in, and then go on. -/
def Transport.note {α : Type 1} (issued : IssuedCall) (memory : Memory) (answer : α) :
    StateM (List (IssuedCall × Memory)) α := do
  modify (· ++ [(issued, memory)])
  return answer

/-- A transport that keeps the calls it receives with the memory it finds, the latest last. -/
def Transport.observed (transport : Transport Id) :
    Transport (StateM (List (IssuedCall × Memory))) where
  unary := fun head request memory =>
    note (.unary head request) memory (transport.unary head request memory)
  clientStreaming := fun head requests memory =>
    note (.clientStreaming head requests) memory (transport.clientStreaming head requests memory)
  serverStreaming := fun head request memory =>
    note (.serverStreaming head request) memory (transport.serverStreaming head request memory)
  duplexStreaming := fun head requests memory =>
    note (.duplexStreaming head requests) memory (transport.duplexStreaming head requests memory)

/-- A transport does not touch capture buffers: neither when it is asked for a call nor when
anything is polled of a single response. Responses in a stream are polled later. -/
structure Transport.Unaware (transport : Transport Id) (issued : IssuedCall) (memory : Memory) :
    Prop where
  issuing : (transport.issue issued memory).2.captures = memory.captures
  polling : ∀ call, (transport.issue issued memory).1 = .single call →
    call.headers.poll.KeepsCaptures ∧ call.response.poll.KeepsCaptures ∧
      call.completion.poll.KeepsCaptures

/-- The two memories differ in one capture buffer at most. -/
def Memory.AgreeBesides (capture : Option Nat) (before after : Memory) : Prop :=
  ∀ number, capture ≠ some number → after.captures number = before.captures number

theorem Memory.agreeBesides_setCapture (memory : Memory) (number : Nat) (capture : Capture) :
    memory.AgreeBesides (some number) (memory.setCapture number capture) := by
  intro other different
  have other_ne : other ≠ number := fun same => different (congrArg some same.symm)
  exact if_neg other_ne

theorem Memory.agreeBesides_resetCapture (memory : Memory) (capture : Option Nat) :
    memory.AgreeBesides capture (memory.resetCapture capture) := by
  cases capture with
  | none => exact fun _ _ => rfl
  | some number => exact memory.agreeBesides_setCapture number .empty

theorem PollStep.KeepsCaptures.agreeBesides {State : Type} {α : Type u} {poll : PollStep State α}
    (keeps : poll.KeepsCaptures) (capture : Option Nat) :
    poll.Relates (Memory.AgreeBesides capture) := by
  intro state history memory number _
  exact congrFun (keepsCaptures_iff.mp keeps state history memory) number

/-- Only the buffer of the call itself is written to. -/
theorem SingleCall.agreeBesides {call : SingleCall} (headers : call.headers.poll.KeepsCaptures)
    (response : call.response.poll.KeepsCaptures) (completion : call.completion.poll.KeepsCaptures)
    (capture : Option Nat) : call.Relates capture (Memory.AgreeBesides capture) where
  refl _ _ _ := rfl
  trans earlier later number different :=
    (later number different).trans (earlier number different)
  headers _ _ := headers.agreeBesides capture
  response := response.agreeBesides capture
  completion _ _ := completion.agreeBesides capture
  headers_kept := by
    rintro number rfl state after history memory memoryAfter value -
    exact Memory.agreeBesides_setCapture memoryAfter number _
  completion_kept := by
    rintro number rfl state after history memory memoryAfter value -
    exact Memory.agreeBesides_setCapture memoryAfter number _

/-! ## One call or none -/

theorem Transport.observed_ask {α : Type 1} (transport : Transport Id) (issued : IssuedCall)
    (memory : Memory) (single : SingleCall × Memory → α) (streaming : StreamingCall × Memory → α)
    (earlier : List (IssuedCall × Memory)) :
    (transport.observed.ask issued memory single streaming).run earlier =
      (transport.ask (m := Id) issued memory single streaming, earlier ++ [(issued, memory)]) := by
  cases issued <;> rfl

/-- Whoever is asked, only the capture buffer of the call is written to. -/
theorem Transport.Unaware.agreeBesides {transport : Transport Id} {issued : IssuedCall}
    {memory : Memory} (unaware : transport.Unaware issued memory) (shape : ResponseShape)
    (capture : Option Nat) (token : Token) (history : History) :
    memory.AgreeBesides capture (transport.ask (m := Id) issued memory
      (fun answer => answer.1.outcome shape capture token history answer.2)
      (fun answer => (.streaming (answer.1.results capture token), answer.2))).2 := by
  intro number different
  have issuing := congrFun unaware.issuing number
  cases issued with
  | unary head request =>
      obtain ⟨headers, response, completion⟩ := unaware.polling _ rfl
      exact ((SingleCall.agreeBesides headers response completion capture).outcome shape token
        history _ number different).trans issuing
  | clientStreaming head requests =>
      obtain ⟨headers, response, completion⟩ := unaware.polling _ rfl
      exact ((SingleCall.agreeBesides headers response completion capture).outcome shape token
        history _ number different).trans issuing
  | serverStreaming head request => exact issuing
  | duplexStreaming head requests => exact issuing

/-- What a method of a return form hands back of an error. -/
def Returned.failed {argument : ValueType} (error : RpcError) : ReturnForm → Returned argument
  | .result => .result (.error error)
  | .task => .task (.ready (.error error))
  | .valueTask => .valueTask (.inline (some (.error error)))
  | .responseStream => .responses (.ofItems [.error error] false)

theorem Returned.quiet_failed {argument : ValueType} (error : RpcError) (form : ReturnForm) :
    (Returned.failed error form : Returned argument).handle.Obeys .quiet := by
  cases form with
  | result => trivial
  | task => exact fun _ _ _ => rfl
  | valueTask => exact fun _ _ _ => rfl
  | responseStream =>
      intro left history memory
      cases left <;> exact rfl

namespace ClientMethod

/-- A method gives up with an error: the transport is asked for nothing, the memory stays as it is,
and the caller is handed the error. -/
structure Refuses (method : ClientMethod) (transport : Transport Id) (values : List Value)
    (history : History) (memory : Memory) (error : RpcError) : Prop where
  no_call : ∀ earlier, (method.call transport.observed values history memory).run earlier =
    ((.failed error, memory), earlier)
  returned_eq : ∀ form argument,
    let answer := method.call (m := Id) transport values history memory
    answer.1.returned form argument history answer.2 = (.failed error form, memory)
  /-- Nor is a capture buffer touched by whoever polls what is handed back. -/
  captures_eq : ∀ form argument (turns : List Turn),
    (Handle.Moment.run ⟨(Returned.failed error form : Returned argument).handle, history, memory⟩
      turns).memory.captures = memory.captures

/-- A method makes one call: when the transport is asked for it, the capture buffers that the
arguments ask for have been cleared, and no others. -/
structure Makes (method : ClientMethod) (params : List DeclaredType) (transport : Transport Id)
    (values : List Value) (history : History) (memory : Memory) (issued : IssuedCall)
    (handed : Memory) : Prop where
  one_call : ∀ earlier, (method.call transport.observed values history memory).run earlier =
    (method.call (m := Id) transport values history memory, earlier ++ [(issued, handed)])
  cleared : ∀ number, AsksFor params values number → handed.captures number = .empty
  kept : ∀ number, ¬AsksFor params values number →
    handed.captures number = memory.captures number
  /-- Nor are the others touched before the method returns, unless the transport does so. -/
  others : transport.Unaware issued handed → ∀ number, ¬AsksFor params values number →
    (method.call (m := Id) transport values history memory).2.captures number =
      memory.captures number

variable {method : ClientMethod} {values : List Value} (transport : Transport Id)
  (history : History) (memory : Memory)

theorem refuses_of_prepared {error : RpcError} (refused : method.prepared values = .error error) :
    method.Refuses transport values history memory error where
  no_call earlier := by
    rw [method.call_eq, refused]
    rfl
  returned_eq form argument := by
    rw [method.call_eq, refused]
    cases form <;> rfl
  captures_eq form argument turns :=
    Handle.Moment.captures_run (Returned.quiet_failed error form) turns

theorem makes_of_prepared {params : List DeclaredType} {issued : IssuedCall} {capture : Option Nat}
    (prepared_eq : method.prepared values = .ok (issued, capture))
    (asked : ∀ number, capture = some number ↔ AsksFor params values number) :
    method.Makes params transport values history memory issued (memory.resetCapture capture) where
  one_call earlier := by
    simp only [method.call_eq, prepared_eq]
    exact Transport.observed_ask ..
  cleared number asks := by
    rw [(asked number).mpr asks]
    exact Memory.captures_setCapture_same ..
  kept number other := memory.agreeBesides_resetCapture capture number fun same =>
    other ((asked number).mp same)
  others unaware number other := by
    have different : capture ≠ some number := fun same => other ((asked number).mp same)
    simp only [method.call_eq, prepared_eq]
    exact (unaware.agreeBesides _ capture _ history number different).trans
      (memory.agreeBesides_resetCapture capture number different)

/-- Whatever a method is called with, it makes one call or none: none with the error of the first
argument that does not fit, and otherwise one, for which the capture buffer of its context alone is
cleared. -/
theorem one_call_or_none {operation : Operation}
    (classified : operation.method.shape? = some operation.shape) {service : String}
    {cache : MarshallerCache} (bound : (bind service operation cache).1 = .ok method)
    (values : List Value) (transport : Transport Id) (history : History) (memory : Memory) :
    (∀ error, misfit? operation.method.params values = some error →
      method.Refuses transport values history memory error) ∧
    (misfit? operation.method.params values = none → ∃ issued handed,
      method.Makes operation.method.params transport values history memory issued handed) := by
  have described := describes_of_shape? classified
  obtain ⟨payloads, expressible, -, bind_eq⟩ | ⟨error, -, -, bind_eq⟩ :=
    bind_cases classified service cache
  · rw [bind_eq] at bound
    obtain rfl := Except.ok.inj bound
    obtain ⟨noWriter, noContext⟩ := Bool.or_eq_false_iff.mp expressible
    obtain ⟨error, misfit, refused⟩ | ⟨issued, capture, fit, prepared_eq, asked⟩ :=
      prepared_cases described noWriter (of_decide_eq_false noContext)
        ⟨operation.reference service, payloads.1, payloads.2⟩ values
    · rw [misfit]
      refine ⟨?_, nofun⟩
      rintro _ ⟨⟩
      exact refuses_of_prepared transport history memory refused
    · rw [fit]
      refine ⟨nofun, fun _ => ⟨issued, memory.resetCapture capture, ?_⟩⟩
      exact makes_of_prepared transport history memory prepared_eq asked
  · rw [bind_eq] at bound
    cases bound

end ClientMethod

namespace Sample

/-- A memory in which two capture buffers hold what earlier calls reported. -/
def capturedMemory : Memory :=
  (Memory.fresh.captureCompletion 0 .ok).captureCompletion 1 .ok

/-- A context that asks for the first of these buffers. -/
def capturingContext : Value := .payload (.callContext (.client .default (some 0)))

theorem duplexMethod_one_call_or_none :
    duplexOperation.method.shape? = some duplexOperation.shape ∧
      (ClientMethod.bind "Shapes.AllShapes" duplexOperation .empty).1 = .ok duplexMethod ∧
      duplexMethod.Refuses silentTransport [openPings] [] capturedMemory missingArgument ∧
      duplexMethod.Refuses silentTransport [capturingContext, capturingContext] [] capturedMemory
        (.typeMismatch (ValueType.wrapped .streamReader ping.valueType).qualifiedName) ∧
      duplexMethod.Refuses silentTransport [openPings, openPings] [] capturedMemory
        (.typeMismatch PlainType.callContext.name) ∧
      ∃ issued handed, duplexMethod.Makes duplexOperation.method.params silentTransport
          [openPings, capturingContext] [] capturedMemory issued handed ∧
        handed.captures 0 = .empty ∧ handed.captures 1 = ⟨none, some .empty, some .ok⟩ := by
  have classified : duplexOperation.method.shape? = some duplexOperation.shape := rfl
  have bound : (ClientMethod.bind "Shapes.AllShapes" duplexOperation .empty).1 =
      .ok duplexMethod := rfl
  have attempt (values : List Value) := ClientMethod.one_call_or_none classified bound values
    silentTransport [] capturedMemory
  refine ⟨classified, bound, (attempt _).1 _ rfl, (attempt _).1 _ rfl, (attempt _).1 _ rfl, ?_⟩
  obtain ⟨issued, handed, makes⟩ := (attempt [openPings, capturingContext]).2 rfl
  refine ⟨issued, handed, makes, makes.cleared 0 ?_, (makes.kept 1 ?_).trans rfl⟩
  · exact ⟨_, ⟨_, List.mem_cons_of_mem _ List.mem_cons_self, rfl⟩, rfl⟩
  · rintro ⟨context, ⟨declared, member, -⟩, asked⟩
    rcases List.mem_cons.mp member with first | second
    · cases first
    · cases List.mem_singleton.mp second
      cases asked

end Sample
end RpcContracts
