import RpcContracts.Marshal.Cache

/-!
# Resolution of payload types

Resolving the payload types of a call shape answers with a pair of marshallers or with none, and in
either case leaves a cache behind. Where all occurrences of a plain type carry the same marshaller,
the cache no longer matters: every type resolves to what it carries itself.
-/

namespace RpcContracts

namespace MarshallerCache

variable {cache : MarshallerCache} {type : PlainType} {marshaller : Marshaller}

theorem resolve_of_known (known : cache.get? type = some marshaller)
    (carried : Option Marshaller) :
    cache.resolve (.plain type carried) = (some marshaller, cache) := by
  simp [resolve, known]

theorem resolve_of_unknown (unknown : cache.get? type = none) :
    cache.resolve (.plain type (some marshaller)) =
      (some marshaller, ⟨cache.entries ++ [(type, marshaller)]⟩) := by
  simp [resolve, unknown]

theorem resolve_of_none (unknown : cache.get? type = none) :
    cache.resolve (.plain type none) = (none, cache) := by
  simp [resolve, unknown]

/-- The marshallers of the payload types of a shape, if both have one. -/
def payloads? (cache : MarshallerCache) (shape : CallShape) : Option (Marshaller × Marshaller) :=
  match cache.resolve shape.requestType with
  | (none, _) => none
  | (some request, cache) =>
      match cache.resolve shape.responseType with
      | (none, _) => none
      | (some response, _) => some (request, response)

/-- The cache after the payload types of a shape were resolved; the response type is tried only if
the request type has a marshaller. -/
def afterPayloads (cache : MarshallerCache) (shape : CallShape) : MarshallerCache :=
  match cache.resolve shape.requestType with
  | (none, cache) => cache
  | (some _, cache) => (cache.resolve shape.responseType).2

/-- The first payload type of a shape that has no marshaller. -/
inductive Lacks (cache : MarshallerCache) (shape : CallShape) : DeclaredType → Prop where
  | request : (cache.resolve shape.requestType).1 = none → Lacks cache shape shape.requestType
  | response {marshaller : Marshaller} {between : MarshallerCache} :
      cache.resolve shape.requestType = (some marshaller, between) →
      (between.resolve shape.responseType).1 = none → Lacks cache shape shape.responseType

/-- The cache after the payload types of shapes were resolved one after another. -/
def afterShapes (cache : MarshallerCache) (shapes : List CallShape) : MarshallerCache :=
  shapes.foldl afterPayloads cache

end MarshallerCache

namespace WireMethod

variable {cache : MarshallerCache} {shape : CallShape}

theorem resolve_of_payloads {request response : Marshaller}
    (resolved : cache.payloads? shape = some (request, response)) (reference : MethodReference) :
    resolve reference shape.requestType shape.responseType cache =
      (.ok ⟨reference, request, response⟩, cache.afterPayloads shape) := by
  unfold MarshallerCache.payloads? at resolved
  unfold resolve MarshallerCache.afterPayloads
  generalize cache.resolve shape.requestType = first at resolved ⊢
  obtain ⟨_ | requested, between⟩ := first
  · cases resolved
  · dsimp only at resolved ⊢
    generalize between.resolve shape.responseType = second at resolved ⊢
    obtain ⟨_ | responded, after⟩ := second
    · cases resolved
    · cases resolved
      rfl

theorem resolve_of_no_payloads (unresolved : cache.payloads? shape = none)
    (reference : MethodReference) :
    ∃ type, cache.Lacks shape type ∧
      resolve reference shape.requestType shape.responseType cache =
        (.error (.missingMarshaller type.name), cache.afterPayloads shape) := by
  unfold MarshallerCache.payloads? at unresolved
  unfold resolve MarshallerCache.afterPayloads
  cases request_eq : cache.resolve shape.requestType with
  | mk requested between =>
      cases requested with
      | none => exact ⟨shape.requestType, .request (by rw [request_eq]), rfl⟩
      | some request =>
          simp only [request_eq] at unresolved
          cases response_eq : between.resolve shape.responseType with
          | mk responded after =>
              cases responded with
              | none =>
                  refine ⟨shape.responseType, .response request_eq (by rw [response_eq]), ?_⟩
                  simp only [response_eq]
              | some response =>
                  rw [response_eq] at unresolved
                  cases unresolved

end WireMethod

/-! ## Uniform marshallers -/

/-- Every plain type inside a declared type carries the marshaller assigned to it. -/
def DeclaredType.Carries (assigned : PlainType → Option Marshaller) : DeclaredType → Prop
  | .plain type marshaller => marshaller = assigned type
  | .wrapped _ argument => argument.Carries assigned

namespace MarshallerCache

variable {assigned : PlainType → Option Marshaller} {cache : MarshallerCache}

/-- A cache remembers assigned marshallers only. -/
def Remembers (assigned : PlainType → Option Marshaller) (cache : MarshallerCache) : Prop :=
  ∀ type marshaller, cache.get? type = some marshaller → assigned type = some marshaller

theorem remembers_empty : empty.Remembers assigned := by
  intro type marshaller known
  cases known

theorem resolve_fst (remembers : cache.Remembers assigned) {type : DeclaredType}
    (carries : type.Carries assigned) : (cache.resolve type).1 = type.marshaller? := by
  cases type with
  | wrapped wrapper argument => rfl
  | plain type carried =>
      cases known : cache.get? type with
      | some marshaller =>
          rw [resolve_of_known known]
          exact ((carries : carried = _).trans (remembers type marshaller known)).symm
      | none =>
          cases carried with
          | some marshaller => rw [resolve_of_unknown known]; rfl
          | none => rw [resolve_of_none known]; rfl

theorem remembers_resolve (remembers : cache.Remembers assigned) {type : DeclaredType}
    (carries : type.Carries assigned) : (cache.resolve type).2.Remembers assigned := by
  cases type with
  | wrapped wrapper argument => exact remembers
  | plain type carried =>
      cases known : cache.get? type with
      | some marshaller => rwa [resolve_of_known known]
      | none =>
          cases carried with
          | none => rwa [resolve_of_none known]
          | some own =>
              rw [resolve_of_unknown known]
              intro sought marshaller found
              rw [get?, List.lookup_append, Option.or_eq_some_iff] at found
              obtain found | ⟨-, found⟩ := found
              · exact remembers sought marshaller found
              · by_cases same : sought = type
                · subst same
                  obtain rfl : own = marshaller := by simpa using found
                  exact (carries : some own = _).symm
                · simp [List.lookup_cons, beq_false_of_ne same] at found

variable {shape : CallShape}

/-- With uniform marshallers the payload types resolve to what they carry. -/
theorem payloads?_eq_some_iff (remembers : cache.Remembers assigned)
    (request_carries : shape.requestType.Carries assigned)
    (response_carries : shape.responseType.Carries assigned) {request response : Marshaller} :
    cache.payloads? shape = some (request, response) ↔
      shape.requestType.marshaller? = some request ∧
        shape.responseType.marshaller? = some response := by
  rw [← resolve_fst remembers request_carries,
    ← resolve_fst (remembers_resolve remembers request_carries) response_carries]
  unfold payloads?
  split
  · next after request_eq => simp [request_eq]
  · next between request_eq =>
      split
      · next after response_eq => simp [request_eq, response_eq]
      · next after response_eq => simp [request_eq, response_eq]

theorem remembers_afterPayloads (remembers : cache.Remembers assigned)
    (request_carries : shape.requestType.Carries assigned)
    (response_carries : shape.responseType.Carries assigned) :
    (cache.afterPayloads shape).Remembers assigned := by
  have between := remembers_resolve remembers request_carries
  unfold afterPayloads
  split
  · next after request_eq => rwa [request_eq] at between
  · next after request_eq =>
      rw [request_eq] at between
      exact remembers_resolve between response_carries

theorem remembers_afterShapes {shapes : List CallShape} (remembers : cache.Remembers assigned)
    (carry : ∀ shape ∈ shapes,
      shape.requestType.Carries assigned ∧ shape.responseType.Carries assigned) :
    (cache.afterShapes shapes).Remembers assigned := by
  induction shapes generalizing cache with
  | nil => exact remembers
  | cons shape rest ih =>
      obtain ⟨request_carries, response_carries⟩ := carry shape List.mem_cons_self
      apply ih (remembers_afterPayloads remembers request_carries response_carries)
      intro later later_mem
      exact carry later (List.mem_cons_of_mem shape later_mem)

end MarshallerCache
end RpcContracts
