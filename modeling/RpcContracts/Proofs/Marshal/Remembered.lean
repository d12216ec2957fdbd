import Mathlib.Data.List.Nodup
import RpcContracts.Proofs.Marshal.Histories

/-!
# What a cache of marshallers remembers

The answer of a cache depends on everything that was resolved before, and on nothing else. This file
reads the answers, the number of entries and the lookups of a wire method off the history: the types
that were resolved one after another on a cache that was empty.
-/

namespace RpcContracts

namespace MarshallerCache

/-- What a type resolves to after others. -/
def answerAfter (types : List DeclaredType) (type : DeclaredType) : Option Marshaller :=
  ((empty.resolveAll types).resolve type).1

/-- Some description of the plain type was answered with a marshaller when its turn came. -/
def HasResolved (types : List DeclaredType) (type : PlainType) : Prop :=
  ∃ earlier carried later, types = earlier ++ .plain type carried :: later ∧
    (answerAfter earlier (.plain type carried)).isSome

/-- The first of two types that resolves to no marshaller, where the second is tried only if the
first has one. -/
inductive FirstLacking (types : List DeclaredType) (request response : DeclaredType) :
    DeclaredType → Prop where
  | request : answerAfter types request = none → FirstLacking types request response request
  | response : (answerAfter types request).isSome →
      answerAfter (types ++ [request]) response = none →
      FirstLacking types request response response

/-- The types that are resolved for a wire method. -/
def triedAfter (types : List DeclaredType) (request response : DeclaredType) : List DeclaredType :=
  if (answerAfter types request).isSome then [request, response] else [request]

theorem resolveAll_append (cache : MarshallerCache) (earlier later : List DeclaredType) :
    cache.resolveAll (earlier ++ later) = (cache.resolveAll earlier).resolveAll later :=
  List.foldl_append

theorem answerAfter_plain (types : List DeclaredType) (type : PlainType)
    (carried : Option Marshaller) :
    answerAfter types (.plain type carried) =
      (types ++ [DeclaredType.plain type carried]).findSome? (carriedFor type) := by
  rw [answerAfter, resolve_after, List.findSome?_append, List.findSome?_singleton]
  simp [carriedFor]

/-- A type that resolves to nothing leaves no trace. -/
theorem resolve_of_failed {cache : MarshallerCache} {type : DeclaredType}
    (failed : (cache.resolve type).1 = none) : cache.resolve type = (none, cache) := by
  cases type with
  | wrapped wrapper argument => rfl
  | plain type carried =>
      rw [resolve_plain, Option.or_eq_none_iff] at failed
      obtain ⟨unknown, rfl⟩ := failed
      exact resolve_of_none unknown

/-- Once a type has a marshaller, descriptions of the type no longer matter. -/
theorem answerAfter_of_earlier {earlier : List DeclaredType} {type : PlainType}
    {carried : Option Marshaller} {marshaller : Marshaller}
    (answered : answerAfter earlier (.plain type carried) = some marshaller)
    (later : List DeclaredType) (next : Option Marshaller) :
    answerAfter (earlier ++ .plain type carried :: later) (.plain type next) =
      some marshaller := by
  rw [answerAfter_plain] at answered ⊢
  rw [List.append_assoc, List.cons_append, List.append_cons, List.findSome?_append, answered,
    Option.some_or]

/-! ## Entries -/

/-- The plain types a cache has an entry for. -/
def known (cache : MarshallerCache) : List PlainType := cache.entries.map Prod.fst

variable {cache : MarshallerCache} {type : PlainType}

theorem mem_known : type ∈ cache.known ↔ (cache.get? type).isSome := by
  simp [known, get?, List.lookup_isSome_iff]

theorem nodup_known_empty : empty.known.Nodup := List.nodup_nil

theorem nodup_known_resolve (nodup : cache.known.Nodup) (declared : DeclaredType) :
    (cache.resolve declared).2.known.Nodup := by
  cases declared with
  | wrapped wrapper argument => exact nodup
  | plain type carried =>
      cases found : cache.get? type with
      | some marshaller => rwa [resolve_of_known found]
      | none =>
          cases carried with
          | none => rwa [resolve_of_none found]
          | some marshaller =>
              have fresh : type ∉ cache.known := by simp [mem_known, found]
              rw [resolve_of_unknown found]
              simpa [known] using nodup.concat fresh

/-- No type gets a second entry. -/
theorem nodup_known_resolveAll (nodup : cache.known.Nodup) (types : List DeclaredType) :
    (cache.resolveAll types).known.Nodup := by
  induction types generalizing cache with
  | nil => exact nodup
  | cons first rest ih => exact ih (nodup_known_resolve nodup first)

/-- A type has an entry exactly if it has resolved to a marshaller before. -/
theorem mem_known_resolveAll {types : List DeclaredType} :
    type ∈ (empty.resolveAll types).known ↔ HasResolved types type := by
  rw [mem_known, get?_resolveAll]
  change (types.findSome? (carriedFor type)).isSome ↔ _
  constructor
  · intro found
    obtain ⟨marshaller, found⟩ := Option.isSome_iff_exists.mp found
    obtain ⟨earlier, declared, later, rfl, carries, -⟩ := List.findSome?_eq_some_iff.mp found
    obtain rfl := eq_plain_of_carriedFor carries
    refine ⟨earlier, some marshaller, later, rfl, ?_⟩
    rw [answerAfter, resolve_after]
    cases earlier.findSome? (carriedFor type) <;> rfl
  · rintro ⟨earlier, carried, later, rfl, answered⟩
    rw [answerAfter_plain] at answered
    rw [List.append_cons, List.findSome?_append, Option.isSome_or, answered, Bool.true_or]

end MarshallerCache

/-! ## Wire methods -/

namespace WireMethod

open MarshallerCache

variable (types : List DeclaredType) (reference : MethodReference)
  (request response : DeclaredType)

/-- The three ways the two lookups of a wire method can go. -/
theorem resolve_cases :
    (answerAfter types request = none ∧
      resolve reference request response (empty.resolveAll types) =
        (.error (.missingMarshaller request.name),
          empty.resolveAll (types ++ [request]))) ∨
    (∃ requested, answerAfter types request = some requested ∧
      answerAfter (types ++ [request]) response = none ∧
      resolve reference request response (empty.resolveAll types) =
        (.error (.missingMarshaller response.name),
          empty.resolveAll (types ++ [request, response]))) ∨
    (∃ requested responded, answerAfter types request = some requested ∧
      answerAfter (types ++ [request]) response = some responded ∧
      resolve reference request response (empty.resolveAll types) =
        (.ok ⟨reference, requested, responded⟩,
          empty.resolveAll (types ++ [request, response]))) := by
  have after_request : empty.resolveAll (types ++ [request]) =
      ((empty.resolveAll types).resolve request).2 := resolveAll_append ..
  have after_both : empty.resolveAll (types ++ [request, response]) =
      ((empty.resolveAll (types ++ [request])).resolve response).2 := by
    rw [after_request]
    exact resolveAll_append ..
  simp only [answerAfter, resolve, after_both, after_request]
  obtain ⟨requested, between⟩ := (empty.resolveAll types).resolve request
  cases requested with
  | none => exact .inl ⟨rfl, rfl⟩
  | some requested =>
      right
      dsimp only
      obtain ⟨responded, after⟩ := between.resolve response
      cases responded with
      | none => exact .inl ⟨requested, rfl, rfl, rfl⟩
      | some responded => exact .inr ⟨requested, responded, rfl, rfl, rfl⟩

variable {types reference request response}

/-- A wire method cannot be resolved exactly if one of its types is lacking, and the first such type
is named. -/
theorem resolve_eq_error_iff {error : ContractError} :
    (resolve reference request response (empty.resolveAll types)).1 = .error error ↔
      ∃ lacking, FirstLacking types request response lacking ∧
        error = .missingMarshaller lacking.name := by
  obtain ⟨lacks, resolve_eq⟩ | ⟨requested, has, lacks, resolve_eq⟩ |
    ⟨requested, responded, has, answered, resolve_eq⟩ :=
      resolve_cases types reference request response
  · rw [resolve_eq]
    constructor
    · rintro ⟨⟩
      exact ⟨request, .request lacks, rfl⟩
    · rintro ⟨lacking, first | ⟨has, -⟩, rfl⟩
      · rfl
      · simp [lacks] at has
  · rw [resolve_eq]
    constructor
    · rintro ⟨⟩
      exact ⟨response, .response (by simp [has]) lacks, rfl⟩
    · rintro ⟨lacking, first | ⟨-, -⟩, rfl⟩
      · simp [has] at first
      · rfl
  · rw [resolve_eq]
    constructor
    · rintro ⟨⟩
    · rintro ⟨lacking, first | ⟨-, second⟩, -⟩
      · simp [has] at first
      · simp [answered] at second

/-- A resolved wire method has what its two types resolve to. -/
theorem resolve_eq_ok_iff {method : WireMethod} :
    (resolve reference request response (empty.resolveAll types)).1 = .ok method ↔
      method.reference = reference ∧
        answerAfter types request = some method.requestMarshaller ∧
        answerAfter (types ++ [request]) response = some method.responseMarshaller := by
  obtain ⟨lacks, resolve_eq⟩ | ⟨requested, -, lacks, resolve_eq⟩ |
    ⟨requested, responded, has, answered, resolve_eq⟩ :=
      resolve_cases types reference request response
  · simp [resolve_eq, lacks]
  · simp [resolve_eq, lacks]
  · rw [resolve_eq, has, answered]
    cases method
    simp [eq_comm]

/-- Also a wire method leaves behind what resolving its types one by one leaves behind. -/
theorem resolve_snd :
    (resolve reference request response (empty.resolveAll types)).2 =
      empty.resolveAll (types ++ triedAfter types request response) := by
  obtain ⟨lacks, resolve_eq⟩ | ⟨requested, has, -, resolve_eq⟩ |
    ⟨requested, responded, has, -, resolve_eq⟩ := resolve_cases types reference request response
  · simp [resolve_eq, triedAfter, lacks]
  · simp [resolve_eq, triedAfter, has]
  · simp [resolve_eq, triedAfter, has]

end WireMethod

/-! ## The whole history -/

namespace MarshallerCache

/-- What is seen of a cache on which types were resolved one after another. -/
structure GoesByHistory (types : List DeclaredType) : Prop where
  /-- Wrappers resolve to nothing and leave no trace. -/
  wrapped : ∀ wrapper argument,
    (empty.resolveAll types).resolve (.wrapped wrapper argument) = (none, empty.resolveAll types)
  /-- A plain type resolves to what the first description of it that carries a marshaller carries,
  this one included. -/
  plain : ∀ type carried,
    answerAfter types (.plain type carried) =
      (types ++ [DeclaredType.plain type carried]).findSome? (carriedFor type)
  /-- Nothing is remembered of a type that resolves to nothing. -/
  failed : ∀ type, answerAfter types type = none →
    ((empty.resolveAll types).resolve type).2 = empty.resolveAll types
  /-- A plain type keeps its first marshaller, whatever is resolved later. -/
  kept : ∀ type carried marshaller, answerAfter types (.plain type carried) = some marshaller →
    ∀ later next, answerAfter (types ++ .plain type carried :: later) (.plain type next) =
      some marshaller
  /-- Each plain type that has resolved to a marshaller is counted once. -/
  counted : ∃ resolved : List PlainType, resolved.Nodup ∧
    (∀ type, type ∈ resolved ↔ HasResolved types type) ∧
    (empty.resolveAll types).size = resolved.length
  /-- A wire method is refused exactly for the first of its types that is lacking. -/
  refused : ∀ reference request response error,
    (WireMethod.resolve reference request response (empty.resolveAll types)).1 = .error error ↔
      ∃ lacking, FirstLacking types request response lacking ∧
        error = .missingMarshaller lacking.name
  /-- Otherwise it gets the marshallers that its types resolve to one after the other. -/
  accepted : ∀ reference request response method,
    (WireMethod.resolve reference request response (empty.resolveAll types)).1 = .ok method ↔
      method.reference = reference ∧
        answerAfter types request = some method.requestMarshaller ∧
        answerAfter (types ++ [request]) response = some method.responseMarshaller
  /-- Either way the types that were tried join the history. -/
  continued : ∀ reference request response,
    (WireMethod.resolve reference request response (empty.resolveAll types)).2 =
      empty.resolveAll (types ++ triedAfter types request response)

/-- Whatever was resolved on a cache, its answers, its size and the wire methods it resolves are
given by the descriptions resolved so far. -/
theorem goes_by_history (types : List DeclaredType) : GoesByHistory types where
  wrapped _ _ := rfl
  plain type carried := answerAfter_plain types type carried
  failed _ lacks := congrArg Prod.snd (resolve_of_failed lacks)
  kept _ _ _ answered later next := answerAfter_of_earlier answered later next
  counted :=
    ⟨(empty.resolveAll types).known, nodup_known_resolveAll nodup_known_empty types,
      fun _ => mem_known_resolveAll, (List.length_map Prod.fst).symm⟩
  refused _ _ _ _ := WireMethod.resolve_eq_error_iff
  accepted _ _ _ _ := WireMethod.resolve_eq_ok_iff
  continued _ _ _ := WireMethod.resolve_snd

end MarshallerCache
end RpcContracts
