import RpcContracts.Contract.Reference

/-!
# Marshaller caches

A cache remembers the first marshaller that was resolved for each plain type. A wire method is a
method reference with the marshallers of both of its payload types.
-/

namespace RpcContracts

/-- Marshallers resolved so far, oldest first. -/
structure MarshallerCache where
  /-- One entry per plain type. -/
  entries : List (PlainType × Marshaller)

namespace MarshallerCache

/-- Nothing resolved yet. -/
def empty : MarshallerCache := ⟨[]⟩

/-- Number of types that have a marshaller. -/
def size (cache : MarshallerCache) : Nat := cache.entries.length

/-- The remembered marshaller of a plain type. -/
def get? (cache : MarshallerCache) (type : PlainType) : Option Marshaller :=
  cache.entries.lookup type

/-- Resolve a declared type: to the remembered marshaller of its plain type, or else to its own,
which is remembered. Wrappers have no marshaller. -/
def resolve (cache : MarshallerCache) : DeclaredType → Option Marshaller × MarshallerCache
  | .wrapped .. => (none, cache)
  | .plain type carried =>
      match cache.get? type with
      | some marshaller => (some marshaller, cache)
      | none =>
          match carried with
          | some marshaller => (some marshaller, ⟨cache.entries ++ [(type, marshaller)]⟩)
          | none => (none, cache)

end MarshallerCache

/-- A method reference with the marshallers of its payloads. -/
structure WireMethod where
  /-- Identity on the wire. -/
  reference : MethodReference
  /-- Marshaller of the request type. -/
  requestMarshaller : Marshaller
  /-- Marshaller of the response type. -/
  responseMarshaller : Marshaller

namespace WireMethod

/-- Resolve the marshallers of a method, the request type first. The first type without one is
reported. -/
def resolve (reference : MethodReference) (request response : DeclaredType)
    (cache : MarshallerCache) : Except ContractError WireMethod × MarshallerCache :=
  match cache.resolve request with
  | (none, cache) => (.error (.missingMarshaller request.name), cache)
  | (some requestMarshaller, cache) =>
      match cache.resolve response with
      | (none, cache) => (.error (.missingMarshaller response.name), cache)
      | (some responseMarshaller, cache) =>
          (.ok ⟨reference, requestMarshaller, responseMarshaller⟩, cache)

end WireMethod
end RpcContracts
