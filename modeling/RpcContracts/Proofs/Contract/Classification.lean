import RpcContracts.Contract.Service

/-!
# What a shape says of a signature

The table of rules reads every signature in the same way: the request or a reader of requests comes
first, then a writer if the responses are written, then the context. This file states that reading
without the table and proves that it is what the table decides.
-/

namespace RpcContracts

/-! ## Templates -/

namespace Template

variable {type : DeclaredType} {captured : List DeclaredType}

theorem captures?_payload :
    payload.captures? type = some captured ↔
      ∃ plain marshaller, type = .plain plain marshaller ∧ type.contextKind? = none ∧
        captured = [type] := by
  cases type with
  | plain plain marshaller =>
      cases kind : (DeclaredType.plain plain marshaller).contextKind? with
      | none => simp [captures?, kind, eq_comm]
      | some _ => simp [captures?, kind]
  | wrapped wrapper argument => simp [captures?]

theorem captures?_exactly {expected : ValueType} :
    (exactly expected).captures? type = some captured ↔
      type.valueType = expected ∧ captured = [] := by
  by_cases same : type.valueType = expected <;> simp [captures?, same, eq_comm]

theorem captures?_wrapping {wrapper : Wrapper} :
    (wrapping wrapper).captures? type = some captured ↔
      ∃ argument, type = .wrapped wrapper argument ∧ captured = [argument] := by
  cases type with
  | plain plain marshaller => simp [captures?]
  | wrapped actual argument =>
      by_cases same : actual = wrapper
      · subst same
        simp [captures?, eq_comm]
      · simp [captures?, same]

theorem capturesAll?_nil {types : List DeclaredType} :
    capturesAll? [] types = some captured ↔ types = [] ∧ captured = [] := by
  cases types <;> simp [capturesAll?, eq_comm]

theorem capturesAll?_cons {template : Template} {templates : List Template}
    {types : List DeclaredType} :
    capturesAll? (template :: templates) types = some captured ↔
      ∃ type rest first others, types = type :: rest ∧ template.captures? type = some first ∧
        capturesAll? templates rest = some others ∧ captured = first ++ others := by
  cases types with
  | nil => simp [capturesAll?]
  | cons type rest =>
      constructor
      · intro all
        rw [capturesAll?] at all
        split at all
        · cases all
        · next first first_eq =>
            obtain ⟨others, others_eq, rfl⟩ := Option.map_eq_some_iff.mp all
            exact ⟨type, rest, first, others, rfl, first_eq, others_eq, rfl⟩
      · rintro ⟨_, _, first, others, split, first_eq, others_eq, rfl⟩
        obtain ⟨rfl, rfl⟩ := List.cons.inj split
        simp [capturesAll?, first_eq, others_eq]

/-- The last type is accepted by the last template, and the others by the others. -/
theorem capturesAll?_concat {templates : List Template} {template : Template}
    {types : List DeclaredType} :
    capturesAll? (templates ++ [template]) (types ++ [type]) = some captured ↔
      ∃ first last, capturesAll? templates types = some first ∧
        template.captures? type = some last ∧ captured = first ++ last := by
  induction templates generalizing types captured with
  | nil =>
      rw [List.nil_append, capturesAll?_cons]
      cases types with
      | cons head rest => simp [capturesAll?_nil]
      | nil =>
          constructor
          · rintro ⟨_, _, last, _, split, last_eq, rest_eq, rfl⟩
            obtain ⟨rfl, rfl⟩ := List.cons.inj split
            obtain ⟨-, rfl⟩ := capturesAll?_nil.mp rest_eq
            exact ⟨[], last, rfl, last_eq, List.append_nil last⟩
          · rintro ⟨_, last, first_eq, last_eq, rfl⟩
            obtain ⟨-, rfl⟩ := capturesAll?_nil.mp first_eq
            exact ⟨type, [], last, [], rfl, last_eq, rfl, (List.append_nil last).symm⟩
  | cons head templates ih =>
      rw [List.cons_append, capturesAll?_cons]
      cases types with
      | nil =>
          have stuck : ∀ others, capturesAll? (templates ++ [template]) [] ≠ some others := by
            cases templates <;> simp [capturesAll?]
          simp [capturesAll?_cons, stuck]
      | cons first types =>
          constructor
          · rintro ⟨_, _, front, others, split, front_eq, others_eq, rfl⟩
            obtain ⟨rfl, rfl⟩ := List.cons.inj split
            obtain ⟨middle, last, middle_eq, last_eq, rfl⟩ := ih.mp others_eq
            refine ⟨front ++ middle, last, ?_, last_eq, (List.append_assoc ..).symm⟩
            exact capturesAll?_cons.mpr ⟨_, _, front, middle, rfl, front_eq, middle_eq, rfl⟩
          · rintro ⟨_, last, all, last_eq, rfl⟩
            obtain ⟨_, _, front, middle, split, front_eq, middle_eq, rfl⟩ :=
              capturesAll?_cons.mp all
            obtain ⟨rfl, rfl⟩ := List.cons.inj split
            exact ⟨first, types ++ [type], front, middle ++ last, rfl, front_eq,
              ih.mpr ⟨middle, last, middle_eq, last_eq, rfl⟩, List.append_assoc ..⟩

end Template

/-! ## The reading of a signature -/

/-- The parameters that a context of a kind adds at the end. -/
inductive ContextParams : ContextKind → List DeclaredType → Prop where
  | none : ContextParams .none []
  | options (marshaller : Option Marshaller) :
      ContextParams .plainOptions [.plain .callOptions marshaller]
  | unified (marshaller : Option Marshaller) :
      ContextParams .unifiedContext [.plain .callContext marshaller]
  | server (marshaller : Option Marshaller) :
      ContextParams .serverContext [.plain .serverCallContext marshaller]

/-- The return types that belong to a call kind, a response shape and a way of writing responses of
a type. -/
inductive ReturnsFor (response : DeclaredType) :
    CallKind → ResponseShape → Bool → DeclaredType → Prop where
  | value : response.wrapper? = none → response.contextKind? = none →
      ReturnsFor response .unary .sync false response
  | fallible : ReturnsFor response .unary .sync false (.wrapped .fallible response)
  | task {kind : CallKind} : kind.streamsResponses = false →
      ReturnsFor response kind .deferred false (.wrapped .task response)
  | valueTask {kind : CallKind} : kind.streamsResponses = false →
      ReturnsFor response kind .lightDeferred false (.wrapped .valueTask response)
  | stream {kind : CallKind} : kind.streamsResponses = true →
      ReturnsFor response kind .streamed false (.wrapped .responseStream response)
  | writer {kind : CallKind} {returns : DeclaredType} : kind.streamsResponses = true →
      returns.valueType = unitTask → ReturnsFor response kind .deferred true returns

theorem DeclaredType.eq_task {type : DeclaredType} (isTask : type.valueType = unitTask) :
    ∃ argument, type = .wrapped .task argument ∧ argument.valueType = .plain .unit := by
  cases type with
  | plain plain marshaller => cases isTask
  | wrapped wrapper argument =>
      obtain ⟨rfl, argument_eq⟩ := ValueType.wrapped.inj isTask
      exact ⟨argument, rfl, argument_eq⟩

namespace ReturnsFor

variable {response returns : DeclaredType} {kind : CallKind} {shape : ResponseShape} {writer : Bool}

/-- Only streamed responses are written. -/
theorem not_writer (returnsFor : ReturnsFor response kind shape writer returns)
    (single : kind.streamsResponses = false) : writer = false := by
  cases returnsFor with
  | writer streams => cases streams.symm.trans single
  | _ => rfl

theorem ne_streamed (returnsFor : ReturnsFor response kind shape writer returns)
    (single : kind.streamsResponses = false) : shape ≠ .streamed := by
  cases returnsFor with
  | stream streams => cases streams.symm.trans single
  | _ => nofun

theorem eq_streamed (returnsFor : ReturnsFor response kind shape writer returns)
    (streams : kind.streamsResponses = true) (returned : writer = false) : shape = .streamed := by
  cases returnsFor with
  | stream => rfl
  | value => cases streams
  | fallible => cases streams
  | task single => cases streams.symm.trans single
  | valueTask single => cases streams.symm.trans single
  | writer => cases returned

/-- A stream of responses is returned by exactly the streamed calls without a writer. -/
theorem returns_stream_iff (returnsFor : ReturnsFor response kind shape writer returns) :
    returns.wrapper? = some .responseStream ↔
      kind.streamsResponses = true ∧ writer = false := by
  cases returnsFor with
  | value noWrapper => simp [noWrapper, CallKind.streamsResponses]
  | fallible => simp [DeclaredType.wrapper?, CallKind.streamsResponses]
  | task single => simp [DeclaredType.wrapper?, single]
  | valueTask single => simp [DeclaredType.wrapper?, single]
  | stream streams => simp [DeclaredType.wrapper?, streams]
  | writer streams isTask =>
      obtain ⟨argument, rfl, -⟩ := DeclaredType.eq_task isTask
      simp [DeclaredType.wrapper?]

/-- Methods that write their responses return a task. -/
theorem of_writer (returnsFor : ReturnsFor response kind shape true returns) :
    kind.streamsResponses = true ∧
      ∃ argument, returns = .wrapped .task argument ∧ argument.valueType = .plain .unit := by
  cases returnsFor with
  | writer streams isTask => exact ⟨streams, DeclaredType.eq_task isTask⟩

/-- Streamed calls without a writer return a stream of their responses. -/
theorem returns_stream (returnsFor : ReturnsFor response kind shape writer returns)
    (streams : kind.streamsResponses = true) (returned : writer = false) :
    returns = .wrapped .responseStream response := by
  cases returnsFor with
  | value => cases streams
  | fallible => cases streams
  | task single => cases streams.symm.trans single
  | valueTask single => cases streams.symm.trans single
  | stream => rfl
  | writer => cases returned

end ReturnsFor

namespace CallShape

/-- The first parameter: the request, or a reader of requests. -/
def requestParam (shape : CallShape) : DeclaredType :=
  if shape.callKind.streamsRequests then .wrapped .streamReader shape.requestType
  else shape.requestType

/-- The writer of responses, if there is one. -/
def writerParams (shape : CallShape) : List DeclaredType :=
  if shape.responseWriter then [.wrapped .streamWriter shape.responseType] else []

/-- The shape says of a signature where its payloads are, which context ends its parameters and what
it returns. -/
structure Describes (shape : CallShape) (signature : Signature) : Prop where
  not_generic : signature.isGeneric = false
  params : ∃ context, ContextParams shape.contextKind context ∧
    signature.params = shape.requestParam :: (shape.writerParams ++ context)
  request : shape.callKind.streamsRequests = false →
    shape.requestType.wrapper? = none ∧ shape.requestType.contextKind? = none
  returns : ReturnsFor shape.responseType shape.callKind shape.responseShape shape.responseWriter
    signature.returns

end CallShape

theorem contextParams_of_contextKind? {type : DeclaredType} {kind : ContextKind}
    (isContext : type.contextKind? = some kind) : ContextParams kind [type] := by
  cases type with
  | plain plain marshaller =>
      cases plain <;> cases isContext
      · exact .unified marshaller
      · exact .server marshaller
      · exact .options marshaller
  | wrapped wrapper argument => cases isContext

theorem contextParams_splitContext (params : List DeclaredType) :
    ∃ context, ContextParams (splitContext params).2 context ∧
      params = (splitContext params).1 ++ context := by
  unfold splitContext
  split
  · exact ⟨[], .none, (List.append_nil params).symm⟩
  · next last last_eq =>
      split
      · next kind isContext =>
          obtain ⟨front, rfl⟩ := List.getLast?_eq_some_iff.mp last_eq
          refine ⟨[last], contextParams_of_contextKind? isContext, ?_⟩
          rw [List.dropLast_concat]
      · exact ⟨[], .none, (List.append_nil params).symm⟩

/-! ## The rules -/

namespace ShapeRule

/-- What a rule for a call kind asks of the first parameter. -/
def requestTemplate (kind : CallKind) : Template :=
  if kind.streamsRequests then .wrapping .streamReader else .payload

/-- What a rule asks of the second parameter, if it asks for one. -/
def writerTemplates (responseWriter : Bool) : List Template :=
  if responseWriter then [.wrapping .streamWriter] else []

/-- Every rule of the table asks for the request first and for a writer second. -/
theorem params_of_mem {rule : ShapeRule} (listed : rule ∈ shapeRules) :
    rule.params = requestTemplate rule.callKind :: writerTemplates rule.responseWriter := by
  have table : ∀ rule ∈ shapeRules,
      rule.params = requestTemplate rule.callKind :: writerTemplates rule.responseWriter := by
    decide
  exact table rule listed

theorem shapeOf?_eq_some {rule : ShapeRule} {kind : ContextKind} {params : List DeclaredType}
    {returns : DeclaredType} {shape : CallShape}
    (matched : rule.shapeOf? kind params returns = some shape) :
    ∃ first last rest, Template.capturesAll? rule.params params = some first ∧
      rule.returns.captures? returns = some last ∧
      first ++ last = shape.requestType :: shape.responseType :: rest ∧
      shape = ⟨rule.callKind, kind, rule.responseShape, rule.responseWriter, shape.requestType,
        shape.responseType⟩ := by
  unfold shapeOf? at matched
  split at matched
  · next request response rest all =>
      obtain ⟨first, last, first_eq, last_eq, captured⟩ := Template.capturesAll?_concat.mp all
      cases matched
      exact ⟨first, last, rest, first_eq, last_eq, captured.symm, rfl⟩
  · cases matched

variable {kind : CallKind} {writer : Bool} {params captured : List DeclaredType}

theorem captures?_requestTemplate {type : DeclaredType} :
    (requestTemplate kind).captures? type = some captured →
      ∃ request, captured = [request] ∧
        type = (if kind.streamsRequests then .wrapped .streamReader request else request) ∧
        (kind.streamsRequests = false →
          request.wrapper? = none ∧ request.contextKind? = none) := by
  unfold requestTemplate
  cases kind.streamsRequests with
  | true =>
      intro accepted
      obtain ⟨request, rfl, rfl⟩ := Template.captures?_wrapping.mp accepted
      exact ⟨request, rfl, rfl, nofun⟩
  | false =>
      intro accepted
      obtain ⟨plain, marshaller, rfl, noContext, rfl⟩ := Template.captures?_payload.mp accepted
      exact ⟨_, rfl, rfl, fun _ => ⟨rfl, noContext⟩⟩

theorem capturesAll?_writerTemplates
    (accepted : Template.capturesAll? (writerTemplates writer) params = some captured) :
    (writer = false ∧ params = [] ∧ captured = []) ∨
      ∃ response, writer = true ∧ params = [.wrapped .streamWriter response] ∧
        captured = [response] := by
  cases writer with
  | false => exact .inl ⟨rfl, Template.capturesAll?_nil.mp accepted⟩
  | true =>
      obtain ⟨type, rest, first, others, rfl, first_eq, rest_eq, rfl⟩ :=
        Template.capturesAll?_cons.mp accepted
      obtain ⟨response, rfl, rfl⟩ := Template.captures?_wrapping.mp first_eq
      obtain ⟨rfl, rfl⟩ := Template.capturesAll?_nil.mp rest_eq
      exact .inr ⟨response, rfl, rfl, rfl⟩

/-- What a rule of the table accepts as a return type. A rule with a writer records nothing of
it. -/
theorem returnsFor_of_mem {rule : ShapeRule} (listed : rule ∈ shapeRules)
    {returns response : DeclaredType} {last : List DeclaredType}
    (accepted : rule.returns.captures? returns = some last)
    (recorded : rule.responseWriter = false → last.head? = some response) :
    ReturnsFor response rule.callKind rule.responseShape rule.responseWriter returns := by
  simp only [shapeRules, List.mem_cons, List.not_mem_nil, or_false] at listed
  rcases listed with rfl | rfl | rfl | rfl | rfl | rfl | rfl | rfl | rfl | rfl
  case inr.inr.inl =>
      obtain ⟨plain, marshaller, rfl, noContext, rfl⟩ := Template.captures?_payload.mp accepted
      obtain rfl := Option.some.inj (recorded rfl)
      exact .value rfl noContext
  case inr.inr.inr.inr.inr.inr.inl =>
      exact .writer rfl (Template.captures?_exactly.mp accepted).1
  case inr.inr.inr.inr.inr.inr.inr.inr.inl =>
      exact .writer rfl (Template.captures?_exactly.mp accepted).1
  all_goals
    obtain ⟨argument, rfl, rfl⟩ := Template.captures?_wrapping.mp accepted
    obtain rfl := Option.some.inj (recorded rfl)
    constructor
  all_goals rfl

end ShapeRule

/-- What one rule of the table reads off the parameters without their context. -/
theorem reading_of_rule {rule : ShapeRule} (listed : rule ∈ shapeRules) {kind : ContextKind}
    {params : List DeclaredType} {returns : DeclaredType} {shape : CallShape}
    (matched : rule.shapeOf? kind params returns = some shape) :
    shape.contextKind = kind ∧ params = shape.requestParam :: shape.writerParams ∧
      (shape.callKind.streamsRequests = false →
        shape.requestType.wrapper? = none ∧ shape.requestType.contextKind? = none) ∧
      ReturnsFor shape.responseType shape.callKind shape.responseShape shape.responseWriter
        returns := by
  obtain ⟨first, last, rest, first_eq, last_eq, captured, shape_eq⟩ :=
    ShapeRule.shapeOf?_eq_some matched
  obtain ⟨callKind, contextKind, responseShape, responseWriter, request, response⟩ := shape
  cases shape_eq
  rw [ShapeRule.params_of_mem listed] at first_eq
  obtain ⟨type, others, front, back, rfl, front_eq, back_eq, rfl⟩ :=
    Template.capturesAll?_cons.mp first_eq
  obtain ⟨recordedRequest, rfl, rfl, plainRequest⟩ := ShapeRule.captures?_requestTemplate front_eq
  obtain ⟨rfl, recorded⟩ := List.cons.inj captured
  obtain ⟨noWriter, rfl, rfl⟩ | ⟨recordedResponse, hasWriter, rfl, rfl⟩ :=
    ShapeRule.capturesAll?_writerTemplates back_eq
  · refine ⟨rfl, ?_, plainRequest, ShapeRule.returnsFor_of_mem listed last_eq fun _ => ?_⟩
    · simp [CallShape.requestParam, CallShape.writerParams, noWriter]
    · exact congrArg List.head? recorded
  · obtain ⟨rfl, rfl⟩ := List.cons.inj recorded
    refine ⟨rfl, ?_, plainRequest, ShapeRule.returnsFor_of_mem listed last_eq ?_⟩
    · simp [CallShape.requestParam, CallShape.writerParams, hasWriter]
    · rw [hasWriter]
      exact nofun

/-- A shape in the table describes its signature. -/
theorem describes_of_shape? {signature : Signature} {shape : CallShape}
    (shape_eq : signature.shape? = some shape) : shape.Describes signature := by
  unfold Signature.shape? at shape_eq
  split at shape_eq
  · cases shape_eq
  · next notGeneric =>
      change shapeRules.findSome? (fun rule => rule.shapeOf? (splitContext signature.params).2
        (splitContext signature.params).1 signature.returns) = some shape at shape_eq
      obtain ⟨rule, listed, matched⟩ := List.exists_of_findSome?_eq_some shape_eq
      obtain ⟨context_eq, params_eq, request, returns⟩ := reading_of_rule listed matched
      obtain ⟨context, contextParams, split_eq⟩ := contextParams_splitContext signature.params
      refine ⟨Bool.eq_false_iff.mpr notGeneric, ⟨context, ?_, ?_⟩, request, returns⟩
      · rw [context_eq]
        exact contextParams
      · rw [split_eq, params_eq, List.cons_append]

namespace CallShape.Describes

variable {shape : CallShape} {signature : Signature} (described : shape.Describes signature)

include described

theorem readerArgument_eq (streams : shape.callKind.streamsRequests = true) :
    signature.readerArgument = .ok shape.requestType.valueType := by
  obtain ⟨context, -, params_eq⟩ := described.params
  simp [Signature.readerArgument, params_eq, requestParam, streams]

/-- The first parameter is neither a writer nor a context. -/
theorem requestParam_plain :
    shape.requestParam.wrapper? ≠ some .streamWriter ∧ shape.requestParam.contextKind? = none := by
  unfold requestParam
  cases streams : shape.callKind.streamsRequests with
  | true => exact ⟨nofun, rfl⟩
  | false =>
      obtain ⟨noWrapper, noContext⟩ := described.request streams
      refine ⟨?_, noContext⟩
      intro isWriter
      cases noWrapper.symm.trans isWriter

/-- The shape has a writer exactly when a parameter is one. -/
theorem responseWriter_iff :
    shape.responseWriter = true ↔
      ∃ param ∈ signature.params, param.wrapper? = some .streamWriter := by
  obtain ⟨context, contextParams, params_eq⟩ := described.params
  constructor
  · intro writes
    refine ⟨.wrapped .streamWriter shape.responseType, ?_, rfl⟩
    simp [params_eq, writerParams, writes]
  · rintro ⟨param, param_mem, isWriter⟩
    rw [params_eq, List.mem_cons, List.mem_append] at param_mem
    obtain rfl | param_mem | param_mem := param_mem
    · exact absurd isWriter described.requestParam_plain.1
    · unfold writerParams at param_mem
      split at param_mem
      · assumption
      · cases param_mem
    · generalize shape.contextKind = kind at contextParams
      cases contextParams with
      | none => cases param_mem
      | _ =>
          obtain rfl := List.mem_singleton.mp param_mem
          cases isWriter

/-- The context is that of a server exactly when a parameter is one. -/
theorem serverContext_iff :
    shape.contextKind = .serverContext ↔
      ∃ param ∈ signature.params, param.plain? = some .serverCallContext := by
  obtain ⟨context, contextParams, params_eq⟩ := described.params
  have isContext_of_plain {param : DeclaredType} (plain : param.plain? = some .serverCallContext) :
      param.contextKind? = some .serverContext := by
    simp [DeclaredType.contextKind?, plain]
  constructor
  · intro kind_eq
    rw [kind_eq] at contextParams
    cases contextParams with
    | server marshaller =>
        refine ⟨.plain .serverCallContext marshaller, ?_, rfl⟩
        simp [params_eq]
  · rintro ⟨param, param_mem, plain⟩
    have isContext := isContext_of_plain plain
    rw [params_eq, List.mem_cons, List.mem_append] at param_mem
    obtain rfl | param_mem | param_mem := param_mem
    · cases described.requestParam_plain.2.symm.trans isContext
    · unfold writerParams at param_mem
      split at param_mem
      · obtain rfl := List.mem_singleton.mp param_mem
        cases plain
      · cases param_mem
    · generalize shape.contextKind = kind at contextParams
      cases contextParams with
      | none => cases param_mem
      | server => rfl
      | _ =>
          obtain rfl := List.mem_singleton.mp param_mem
          cases plain

end CallShape.Describes

end RpcContracts
