import Mathlib.Data.List.Nodup
import RpcContracts.Proofs.Contract.Classification
import RpcContracts.Sample.Contracts

/-!
# The forms of a method

The documentation lists the forms in which a method may be declared. This file states the list
without the table of rules and proves that a signature has a shape exactly when it is declared in
one of the forms. No signature is accepted by two rules, so their order does not matter, and the
shape tells the signature apart from all others but for one choice that it does not record.
-/

namespace RpcContracts

/-! ## Forms -/

/-- A type that may stand bare as a request or as a response. -/
def DeclaredType.IsPayload (type : DeclaredType) : Prop :=
  ∃ plain marshaller, type = .plain plain marshaller ∧
    plain ∉ [PlainType.callContext, .serverCallContext, .callOptions]

theorem DeclaredType.isPayload_iff {type : DeclaredType} :
    type.IsPayload ↔ type.wrapper? = none ∧ type.contextKind? = none := by
  cases type with
  | wrapped wrapper argument => simp [IsPayload, wrapper?]
  | plain plain marshaller => cases plain <;> simp [IsPayload, wrapper?, contextKind?, plain?]

/-- The parameters before a context, and its kind: of several contexts only the last parameter
counts, and parameters that end otherwise are all kept. -/
inductive Trimmed : List DeclaredType → List DeclaredType → ContextKind → Prop where
  | context {front : List DeclaredType} {last : DeclaredType} {kind : ContextKind} :
      ContextParams kind [last] → Trimmed (front ++ [last]) front kind
  | whole {params : List DeclaredType} :
      (∀ last kind, params.getLast? = some last → ¬ContextParams kind [last]) →
      Trimmed params params .none

theorem contextKind?_of_contextParams {type : DeclaredType} {kind : ContextKind}
    (context : ContextParams kind [type]) : type.contextKind? = some kind := by
  cases context <;> rfl

theorem trimmed_iff {params front : List DeclaredType} {kind : ContextKind} :
    Trimmed params front kind ↔ splitContext params = (front, kind) := by
  constructor
  · intro trimmed
    cases trimmed with
    | context context => simp [splitContext, contextKind?_of_contextParams context]
    | whole noContext =>
        unfold splitContext
        split
        · rfl
        · next last last_eq =>
            split
            · next kind isContext =>
                exact absurd (contextParams_of_contextKind? isContext) (noContext last kind last_eq)
            · rfl
  · intro split_eq
    unfold splitContext at split_eq
    split at split_eq
    · next none_last =>
        cases split_eq
        exact .whole fun last kind last_eq => nomatch none_last.symm.trans last_eq
    · next last last_eq =>
        split at split_eq
        · next isContext =>
            cases split_eq
            obtain ⟨front, rfl⟩ := List.getLast?_eq_some_iff.mp last_eq
            rw [List.dropLast_concat]
            exact .context (contextParams_of_contextKind? isContext)
        · next noContext =>
            cases split_eq
            refine .whole fun other kind other_eq context => ?_
            obtain rfl := Option.some.inj (last_eq.symm.trans other_eq)
            cases noContext.symm.trans (contextKind?_of_contextParams context)

/-- The documented forms of payload parameters and a return type, with their shapes. -/
inductive Documented : CallShape → List DeclaredType → DeclaredType → Prop where
  | readerTask {context : ContextKind} {request response : DeclaredType} :
      Documented ⟨.clientStreaming, context, .deferred, false, request, response⟩
        [.wrapped .streamReader request] (.wrapped .task response)
  | readerValueTask {context : ContextKind} {request response : DeclaredType} :
      Documented ⟨.clientStreaming, context, .lightDeferred, false, request, response⟩
        [.wrapped .streamReader request] (.wrapped .valueTask response)
  | readerStream {context : ContextKind} {request response : DeclaredType} :
      Documented ⟨.duplexStreaming, context, .streamed, false, request, response⟩
        [.wrapped .streamReader request] (.wrapped .responseStream response)
  | value {context : ContextKind} {request response : DeclaredType} :
      request.IsPayload → response.IsPayload →
      Documented ⟨.unary, context, .sync, false, request, response⟩ [request] response
  | fallible {context : ContextKind} {request response : DeclaredType} : request.IsPayload →
      Documented ⟨.unary, context, .sync, false, request, response⟩
        [request] (.wrapped .fallible response)
  | task {context : ContextKind} {request response : DeclaredType} : request.IsPayload →
      Documented ⟨.unary, context, .deferred, false, request, response⟩
        [request] (.wrapped .task response)
  | valueTask {context : ContextKind} {request response : DeclaredType} : request.IsPayload →
      Documented ⟨.unary, context, .lightDeferred, false, request, response⟩
        [request] (.wrapped .valueTask response)
  | stream {context : ContextKind} {request response : DeclaredType} : request.IsPayload →
      Documented ⟨.serverStreaming, context, .streamed, false, request, response⟩
        [request] (.wrapped .responseStream response)
  | readerWriter {context : ContextKind} {request response returns : DeclaredType} :
      returns.valueType = unitTask →
      Documented ⟨.duplexStreaming, context, .deferred, true, request, response⟩
        [.wrapped .streamReader request, .wrapped .streamWriter response] returns
  | writer {context : ContextKind} {request response returns : DeclaredType} :
      request.IsPayload → returns.valueType = unitTask →
      Documented ⟨.serverStreaming, context, .deferred, true, request, response⟩
        [request, .wrapped .streamWriter response] returns

/-- Every rule of the table reads off a documented form. -/
theorem documented_of_rule {rule : ShapeRule} (listed : rule ∈ shapeRules) {kind : ContextKind}
    {params : List DeclaredType} {returns : DeclaredType} {shape : CallShape}
    (matched : rule.shapeOf? kind params returns = some shape) :
    shape.contextKind = kind ∧ Documented shape params returns := by
  obtain ⟨context_eq, rfl, plain, returnsFor⟩ := reading_of_rule listed matched
  refine ⟨context_eq, ?_⟩
  obtain ⟨callKind, context, responseShape, writer, request, response⟩ := shape
  have payload : callKind.streamsRequests = false → request.IsPayload :=
    fun single => DeclaredType.isPayload_iff.mpr (plain single)
  cases returnsFor with
  | value noWrapper noContext =>
      exact .value (payload rfl) (DeclaredType.isPayload_iff.mpr ⟨noWrapper, noContext⟩)
  | fallible => exact .fallible (payload rfl)
  | task single =>
      cases callKind with
      | unary => exact .task (payload rfl)
      | clientStreaming => exact .readerTask
      | _ => cases single
  | valueTask single =>
      cases callKind with
      | unary => exact .valueTask (payload rfl)
      | clientStreaming => exact .readerValueTask
      | _ => cases single
  | stream streams =>
      cases callKind with
      | serverStreaming => exact .stream (payload rfl)
      | duplexStreaming => exact .readerStream
      | _ => cases streams
  | writer streams isUnit =>
      cases callKind with
      | serverStreaming => exact .writer (payload rfl) isUnit
      | duplexStreaming => exact .readerWriter isUnit
      | _ => cases streams

namespace Template

theorem captures?_of_payload {type : DeclaredType} (isPayload : type.IsPayload) :
    payload.captures? type = some [type] := by
  obtain ⟨-, noContext⟩ := DeclaredType.isPayload_iff.mp isPayload
  obtain ⟨plain, marshaller, rfl, -⟩ := isPayload
  exact captures?_payload.mpr ⟨plain, marshaller, rfl, noContext, rfl⟩

@[simp]
theorem captures?_wrapped (wrapper : Wrapper) (argument : DeclaredType) :
    (wrapping wrapper).captures? (.wrapped wrapper argument) = some [argument] :=
  captures?_wrapping.mpr ⟨argument, rfl, rfl⟩

theorem captures?_unitTask {type : DeclaredType} (isUnit : type.valueType = unitTask) :
    (exactly unitTask).captures? type = some [] :=
  captures?_exactly.mpr ⟨isUnit, rfl⟩

/-- The wrapper of every type that a template accepts, if they have one. -/
def wrapper? : Template → Option Wrapper
  | payload => none
  | exactly (.plain _) => none
  | exactly (.wrapped wrapper _) => some wrapper
  | wrapping wrapper => some wrapper

theorem wrapper?_of_captures? {template : Template} {type : DeclaredType}
    {captured : List DeclaredType} (accepted : template.captures? type = some captured) :
    type.wrapper? = template.wrapper? := by
  cases template with
  | payload =>
      obtain ⟨plain, marshaller, rfl, -⟩ := captures?_payload.mp accepted
      rfl
  | wrapping wrapper =>
      obtain ⟨argument, rfl, -⟩ := captures?_wrapping.mp accepted
      rfl
  | exactly expected =>
      obtain ⟨rfl, -⟩ := captures?_exactly.mp accepted
      cases type <;> rfl

theorem wrappers_of_capturesAll? {templates : List Template} {types captured : List DeclaredType}
    (accepted : capturesAll? templates types = some captured) :
    types.map DeclaredType.wrapper? = templates.map wrapper? := by
  induction templates generalizing types captured with
  | nil =>
      obtain ⟨rfl, -⟩ := capturesAll?_nil.mp accepted
      rfl
  | cons template templates ih =>
      obtain ⟨type, rest, first, others, rfl, first_eq, others_eq, -⟩ :=
        capturesAll?_cons.mp accepted
      rw [List.map_cons, List.map_cons, wrapper?_of_captures? first_eq, ih others_eq]

end Template

/-! ## The table -/

namespace ShapeRule

/-- The wrappers that a rule asks for, those of the parameters first. -/
def wrappers (rule : ShapeRule) : List (Option Wrapper) :=
  (rule.params ++ [rule.returns]).map Template.wrapper?

/-- The wrappers of a signature tell which rule can accept it. -/
theorem wrappers_of_shapeOf? {rule : ShapeRule} {kind : ContextKind} {params : List DeclaredType}
    {returns : DeclaredType} {shape : CallShape}
    (matched : rule.shapeOf? kind params returns = some shape) :
    (params ++ [returns]).map DeclaredType.wrapper? = rule.wrappers := by
  unfold shapeOf? at matched
  split at matched
  · next all => exact Template.wrappers_of_capturesAll? all
  · cases matched

theorem nodup_wrappers : (shapeRules.map wrappers).Nodup := by decide

variable {rules : List ShapeRule} (distinct : (rules.map wrappers).Nodup) (kind : ContextKind)
  (params : List DeclaredType) (returns : DeclaredType)

include distinct

/-- Of rules that ask for different wrappers at most one accepts a signature. -/
theorem length_accepting_le_one :
    (rules.filter fun rule => (rule.shapeOf? kind params returns).isSome).length ≤ 1 := by
  let accepting := rules.filter fun rule => (rule.shapeOf? kind params returns).isSome
  have same : ∀ asked ∈ accepting.map wrappers,
      asked = (params ++ [returns]).map DeclaredType.wrapper? := by
    intro asked asked_mem
    obtain ⟨rule, rule_mem, rfl⟩ := List.mem_map.mp asked_mem
    obtain ⟨shape, matched⟩ := Option.isSome_iff_exists.mp (List.mem_filter.mp rule_mem).2
    exact (wrappers_of_shapeOf? matched).symm
  have once : (accepting.map wrappers).Nodup :=
    distinct.sublist (List.filter_sublist.map wrappers)
  rw [List.eq_replicate_of_mem same, List.nodup_replicate, List.length_map] at once
  exact once

/-- The shape is then that of the accepting rule, wherever it stands. -/
theorem findSome?_shapeOf?_iff {shape : CallShape} :
    rules.findSome? (fun rule => rule.shapeOf? kind params returns) = some shape ↔
      ∃ rule ∈ rules, rule.shapeOf? kind params returns = some shape := by
  constructor
  · intro found
    exact List.exists_of_findSome?_eq_some found
  · rintro ⟨rule, rule_mem, matched⟩
    cases found : rules.findSome? fun rule => rule.shapeOf? kind params returns with
    | none => cases (List.findSome?_eq_none_iff.mp found rule rule_mem).symm.trans matched
    | some first =>
        obtain ⟨other, other_mem, other_matched⟩ := List.exists_of_findSome?_eq_some found
        have asked_eq : other.wrappers = rule.wrappers :=
          (wrappers_of_shapeOf? other_matched).symm.trans (wrappers_of_shapeOf? matched)
        obtain rfl := List.inj_on_of_nodup_map distinct other_mem rule_mem asked_eq
        exact other_matched.symm.trans matched

theorem findSome?_shapeOf?_perm {others : List ShapeRule} (reordered : others.Perm rules) :
    others.findSome? (fun rule => rule.shapeOf? kind params returns) =
      rules.findSome? fun rule => rule.shapeOf? kind params returns := by
  have others_distinct : (others.map wrappers).Nodup :=
    (reordered.map wrappers).nodup_iff.mpr distinct
  ext shape
  rw [findSome?_shapeOf?_iff others_distinct, findSome?_shapeOf?_iff distinct]
  simp only [reordered.mem_iff]

end ShapeRule

/-- Every documented form is read off by a rule of the table. -/
theorem Documented.exists_rule {shape : CallShape} {params : List DeclaredType}
    {returns : DeclaredType} (documented : Documented shape params returns) :
    ∃ rule ∈ shapeRules, rule.shapeOf? shape.contextKind params returns = some shape := by
  cases documented with
  | readerTask =>
      exact ⟨⟨[.wrapping .streamReader], .wrapping .task, .clientStreaming, .deferred, false⟩,
        by decide, rfl⟩
  | readerValueTask =>
      exact ⟨⟨[.wrapping .streamReader], .wrapping .valueTask, .clientStreaming, .lightDeferred,
        false⟩, by decide, rfl⟩
  | readerStream =>
      exact ⟨⟨[.wrapping .streamReader], .wrapping .responseStream, .duplexStreaming, .streamed,
        false⟩, by decide, rfl⟩
  | value request response =>
      refine ⟨⟨[.payload], .payload, .unary, .sync, false⟩, by decide, ?_⟩
      simp [ShapeRule.shapeOf?, Template.capturesAll?, Template.captures?_of_payload request,
        Template.captures?_of_payload response]
  | fallible request =>
      refine ⟨⟨[.payload], .wrapping .fallible, .unary, .sync, false⟩, by decide, ?_⟩
      simp [ShapeRule.shapeOf?, Template.capturesAll?, Template.captures?_of_payload request]
  | task request =>
      refine ⟨⟨[.payload], .wrapping .task, .unary, .deferred, false⟩, by decide, ?_⟩
      simp [ShapeRule.shapeOf?, Template.capturesAll?, Template.captures?_of_payload request]
  | valueTask request =>
      refine ⟨⟨[.payload], .wrapping .valueTask, .unary, .lightDeferred, false⟩, by decide, ?_⟩
      simp [ShapeRule.shapeOf?, Template.capturesAll?, Template.captures?_of_payload request]
  | stream request =>
      refine ⟨⟨[.payload], .wrapping .responseStream, .serverStreaming, .streamed, false⟩,
        by decide, ?_⟩
      simp [ShapeRule.shapeOf?, Template.capturesAll?, Template.captures?_of_payload request]
  | readerWriter isUnit =>
      refine ⟨⟨[.wrapping .streamReader, .wrapping .streamWriter], .exactly unitTask,
        .duplexStreaming, .deferred, true⟩, by decide, ?_⟩
      simp [ShapeRule.shapeOf?, Template.capturesAll?, Template.captures?_unitTask isUnit]
  | writer request isUnit =>
      refine ⟨⟨[.payload, .wrapping .streamWriter], .exactly unitTask, .serverStreaming, .deferred,
        true⟩, by decide, ?_⟩
      simp [ShapeRule.shapeOf?, Template.capturesAll?, Template.captures?_of_payload request,
        Template.captures?_unitTask isUnit]

/-! ## Shapes tell signatures apart -/

/-- Shapes that are equal up to marshallers, which have no part in the identity of a type. -/
structure CallShape.SameAs (shape other : CallShape) : Prop where
  callKind_eq : shape.callKind = other.callKind
  contextKind_eq : shape.contextKind = other.contextKind
  responseShape_eq : shape.responseShape = other.responseShape
  responseWriter_eq : shape.responseWriter = other.responseWriter
  request_same : shape.requestType.valueType = other.requestType.valueType
  response_same : shape.responseType.valueType = other.responseType.valueType

/-- Return types that a shape does not tell apart: equal ones, and a response returned at once,
which may be a value or a result. -/
inductive ReturnsAlike (shape : ResponseShape) (response : ValueType) :
    ValueType → ValueType → Prop where
  | equal {returns : ValueType} : ReturnsAlike shape response returns returns
  | valueOrResult : shape = .sync →
      ReturnsAlike shape response response (.wrapped .fallible response)
  | resultOrValue : shape = .sync →
      ReturnsAlike shape response (.wrapped .fallible response) response

theorem ContextParams.valueTypes_eq {kind : ContextKind} {context other : List DeclaredType}
    (first : ContextParams kind context) (second : ContextParams kind other) :
    context.map DeclaredType.valueType = other.map DeclaredType.valueType := by
  cases first <;> cases second <;> rfl

namespace CallShape.SameAs

variable {shape other : CallShape} (same : shape.SameAs other)

include same

theorem requestParam_same :
    shape.requestParam.valueType = other.requestParam.valueType := by
  unfold requestParam
  rw [same.callKind_eq]
  split <;> simp [DeclaredType.valueType, same.request_same]

theorem writerParams_same :
    shape.writerParams.map DeclaredType.valueType =
      other.writerParams.map DeclaredType.valueType := by
  unfold writerParams
  rw [same.responseWriter_eq]
  split <;> simp [DeclaredType.valueType, same.response_same]

theorem params_same {first second : Signature} (described : shape.Describes first)
    (also_described : other.Describes second) :
    first.params.map DeclaredType.valueType = second.params.map DeclaredType.valueType := by
  obtain ⟨context, contextParams, params_eq⟩ := described.params
  obtain ⟨otherContext, otherContextParams, otherParams_eq⟩ := also_described.params
  rw [← same.contextKind_eq] at otherContextParams
  rw [params_eq, otherParams_eq]
  simp only [List.map_cons, List.map_append, same.requestParam_same, same.writerParams_same,
    contextParams.valueTypes_eq otherContextParams]

end CallShape.SameAs

theorem ReturnsFor.alike {response other returns otherReturns : DeclaredType} {kind : CallKind}
    {shape : ResponseShape} {writer : Bool} (same : response.valueType = other.valueType)
    (first : ReturnsFor response kind shape writer returns)
    (second : ReturnsFor other kind shape writer otherReturns) :
    ReturnsAlike shape response.valueType returns.valueType otherReturns.valueType := by
  cases first with
  | value =>
      cases second with
      | value => exact same ▸ .equal
      | fallible =>
          rw [DeclaredType.valueType, ← same]
          exact .valueOrResult rfl
  | fallible =>
      cases second with
      | value => exact same ▸ .resultOrValue rfl
      | fallible =>
          rw [DeclaredType.valueType, DeclaredType.valueType, same]
          exact .equal
  | writer _ isUnit =>
      cases second with
      | writer _ otherIsUnit => exact isUnit ▸ otherIsUnit ▸ .equal
  | _ =>
      cases second
      rw [DeclaredType.valueType, DeclaredType.valueType, same]
      exact .equal

/-! ## Main result -/

/-- The shape that a table of rules gives a signature. -/
def Signature.shapeBy? (signature : Signature) (rules : List ShapeRule) : Option CallShape :=
  if signature.isGeneric then none
  else
    rules.findSome? fun rule =>
      rule.shapeOf? (splitContext signature.params).2 (splitContext signature.params).1
        signature.returns

theorem Signature.shape?_eq_some_iff {signature : Signature} {shape : CallShape} :
    signature.shape? = some shape ↔
      signature.isGeneric = false ∧ ∃ params, Trimmed signature.params params shape.contextKind ∧
        Documented shape params signature.returns := by
  change signature.shapeBy? shapeRules = some shape ↔ _
  unfold shapeBy?
  cases signature.isGeneric with
  | true => simp
  | false =>
      rw [if_neg Bool.false_ne_true, ShapeRule.findSome?_shapeOf?_iff ShapeRule.nodup_wrappers]
      constructor
      · rintro ⟨rule, listed, matched⟩
        obtain ⟨context_eq, documented⟩ := documented_of_rule listed matched
        exact ⟨rfl, _, trimmed_iff.mpr (by rw [context_eq]), documented⟩
      · rintro ⟨-, params, trimmed, documented⟩
        obtain ⟨rule, listed, matched⟩ := documented.exists_rule
        rw [trimmed_iff.mp trimmed]
        exact ⟨rule, listed, matched⟩

/-- At most one rule of the table accepts the parameters and the return type of a signature, and the
table may be reordered. A signature has a shape exactly if it is declared in a documented form and
leaves no type parameter open, and the request and response types of the shape are those of the
form. Signatures with the same shape have the same parameters and return types that are alike. -/
theorem Signature.shape?_documented (signature : Signature) :
    (shapeRules.filter fun rule =>
        (rule.shapeOf? (splitContext signature.params).2 (splitContext signature.params).1
          signature.returns).isSome).length ≤ 1 ∧
      (∀ rules : List ShapeRule, rules.Perm shapeRules →
        signature.shapeBy? rules = signature.shape?) ∧
      (∀ shape, signature.shape? = some shape ↔
        signature.isGeneric = false ∧ ∃ params, Trimmed signature.params params shape.contextKind ∧
          Documented shape params signature.returns) ∧
      ∀ (other : Signature) (shape otherShape : CallShape), signature.shape? = some shape →
        other.shape? = some otherShape →
        shape.SameAs otherShape →
          signature.params.map DeclaredType.valueType = other.params.map DeclaredType.valueType ∧
            ReturnsAlike shape.responseShape shape.responseType.valueType
              signature.returns.valueType other.returns.valueType := by
  refine ⟨ShapeRule.length_accepting_le_one ShapeRule.nodup_wrappers _ _ _, ?_,
    fun shape => shape?_eq_some_iff, ?_⟩
  · intro rules reordered
    change signature.shapeBy? rules = signature.shapeBy? shapeRules
    unfold shapeBy?
    rw [ShapeRule.findSome?_shapeOf?_perm ShapeRule.nodup_wrappers _ _ _ reordered]
  · intro other shape otherShape shape_eq otherShape_eq same
    have described := describes_of_shape? shape_eq
    have also_described := describes_of_shape? otherShape_eq
    refine ⟨same.params_same described also_described, ?_⟩
    have returnsFor := also_described.returns
    rw [← same.callKind_eq, ← same.responseShape_eq, ← same.responseWriter_eq] at returnsFor
    exact described.returns.alike same.response_same returnsFor

namespace Sample

/-- Answers at once. -/
def pongAtOnce : Signature := method "pong_at_once" [ping, callContext] pong

/-- Answers at once, or fails. -/
def pongOrError : Signature := method "pong_or_error" [ping, callContext] (.wrapped .fallible pong)

/-- The shape of both. -/
def atOnceShape : CallShape := ⟨.unary, .unifiedContext, .sync, false, ping, pong⟩

/-- The shape says the context and both payload types, and not whether the method may fail. -/
theorem pongAtOnce_documented :
    shapeRules.reverse.Perm shapeRules ∧
      pongAtOnce.shapeBy? shapeRules.reverse = pongAtOnce.shape? ∧
      (∃ params, Trimmed [ping, callContext] params .unifiedContext ∧
        Documented atOnceShape params pong) ∧
      pongAtOnce.shape? = some atOnceShape ∧ pongOrError.shape? = some atOnceShape ∧
      ReturnsAlike .sync pong.valueType pong.valueType (.wrapped .fallible pong.valueType) := by
  obtain ⟨-, reordered, documented, alike⟩ := Signature.shape?_documented pongAtOnce
  have same : atOnceShape.SameAs atOnceShape := ⟨rfl, rfl, rfl, rfl, rfl, rfl⟩
  exact ⟨List.reverse_perm shapeRules, reordered _ (List.reverse_perm shapeRules),
    ((documented atOnceShape).mp rfl).2, rfl, rfl, (alike pongOrError _ _ rfl rfl same).2⟩

/-- A context counts in the last place only, and two of them leave one among the payloads. -/
example :
    (method "two_contexts" [ping, callContext, callOptions] (.wrapped .task pong)).shape? = none :=
  rfl

end Sample

end RpcContracts
