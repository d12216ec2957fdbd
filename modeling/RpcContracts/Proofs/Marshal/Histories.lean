import RpcContracts.Proofs.Marshal.Resolution

/-!
# Resolution after a history

A cache of marshallers goes by the plain type alone, whereas the marshaller it remembers comes from
a description of the type. This file says what a description resolves to after any others, and that
the others do not matter exactly as long as no two descriptions of one type disagree.
-/

namespace RpcContracts

namespace MarshallerCache

/-- The cache after types were resolved one after another. -/
def resolveAll (cache : MarshallerCache) (types : List DeclaredType) : MarshallerCache :=
  types.foldl (fun cache type => (cache.resolve type).2) cache

/-- The marshaller that a description carries for a plain type. -/
def carriedFor (type : PlainType) : DeclaredType → Option Marshaller
  | .plain described carried => if described = type then carried else none
  | .wrapped .. => none

theorem get?_resolve (cache : MarshallerCache) (declared : DeclaredType) (type : PlainType) :
    (cache.resolve declared).2.get? type = (cache.get? type).or (carriedFor type declared) := by
  cases declared with
  | wrapped wrapper argument => simp [resolve, carriedFor]
  | plain described carried =>
      cases known : cache.get? described with
      | some marshaller =>
          rw [resolve_of_known known, carriedFor]
          split
          · next same => rw [← same, known, Option.some_or]
          · next => rw [Option.or_none]
      | none =>
          cases carried with
          | none => simp [resolve_of_none known, carriedFor]
          | some marshaller =>
              rw [resolve_of_unknown known, get?, List.lookup_append, carriedFor]
              by_cases same : described = type
              · simp [same, get?]
              · simp [same, List.lookup_cons, beq_false_of_ne (Ne.symm same), get?]

/-- A type keeps the first marshaller that was resolved for it. -/
theorem get?_resolveAll (cache : MarshallerCache) (types : List DeclaredType) (type : PlainType) :
    (cache.resolveAll types).get? type =
      (cache.get? type).or (types.findSome? (carriedFor type)) := by
  induction types generalizing cache with
  | nil => simp [resolveAll]
  | cons first rest ih =>
      rw [resolveAll, List.foldl_cons]
      refine (ih (cache.resolve first).2).trans ?_
      rw [get?_resolve, Option.or_assoc, List.findSome?_cons]
      cases carriedFor type first <;> rfl

theorem resolve_plain (cache : MarshallerCache) (type : PlainType) (carried : Option Marshaller) :
    (cache.resolve (.plain type carried)).1 = (cache.get? type).or carried := by
  cases known : cache.get? type with
  | some marshaller => rw [resolve_of_known known, Option.some_or]
  | none =>
      rw [Option.none_or]
      cases carried with
      | none => rw [resolve_of_none known]
      | some marshaller => rw [resolve_of_unknown known]

/-- What a type resolves to after others: a plain type to the first marshaller carried for it. -/
theorem resolve_after (types : List DeclaredType) (type : PlainType)
    (carried : Option Marshaller) :
    ((empty.resolveAll types).resolve (.plain type carried)).1 =
      (types.findSome? (carriedFor type)).or carried := by
  rw [resolve_plain, get?_resolveAll]
  rfl

theorem eq_plain_of_carriedFor {type : PlainType} {declared : DeclaredType}
    {marshaller : Marshaller} (carries : carriedFor type declared = some marshaller) :
    declared = .plain type (some marshaller) := by
  cases declared with
  | wrapped wrapper argument => cases carries
  | plain described carried =>
      obtain ⟨rfl, rfl⟩ := Option.ite_none_right_eq_some.mp carries
      rfl

end MarshallerCache

/-- No two descriptions of one type among those allowed carry different marshallers. -/
def Consistent (allowed : DeclaredType → Prop) : Prop :=
  ∀ type first second, allowed (.plain type first) → allowed (.plain type second) → first = second

/-- Whatever is allowed, resolution does not depend on the types resolved before exactly if no two
allowed descriptions of one type disagree. -/
theorem MarshallerCache.history_irrelevant_iff (allowed : DeclaredType → Prop) :
    (∀ types : List DeclaredType, (∀ type ∈ types, allowed type) → ∀ type, allowed type →
        ((empty.resolveAll types).resolve type).1 = type.marshaller?) ↔
      Consistent allowed := by
  constructor
  · intro irrelevant type first second first_allowed second_allowed
    have after_other : ∀ {earlier later : Option Marshaller}, allowed (.plain type earlier) →
        allowed (.plain type later) → earlier.or later = later := by
      intro earlier later earlier_allowed later_allowed
      have same := irrelevant [.plain type earlier] (by simpa using earlier_allowed)
        (.plain type later) later_allowed
      rw [resolve_after] at same
      simpa [carriedFor, DeclaredType.marshaller?] using same
    cases first with
    | some marshaller => exact after_other first_allowed second_allowed
    | none =>
        have none_later := after_other second_allowed first_allowed
        rw [Option.or_none] at none_later
        exact none_later.symm
  · intro consistent types types_allowed type type_allowed
    cases type with
    | wrapped wrapper argument => rfl
    | plain type carried =>
        rw [resolve_after]
        cases found : types.findSome? (carriedFor type) with
        | none => rfl
        | some marshaller =>
            obtain ⟨earlier, earlier_mem, carries⟩ := List.exists_of_findSome?_eq_some found
            obtain rfl := eq_plain_of_carriedFor carries
            exact consistent type (some marshaller) carried (types_allowed _ earlier_mem)
              type_allowed

/-- A described plain type carries the marshaller assigned to it. -/
def DeclaredType.Agrees (assigned : PlainType → Option Marshaller) : DeclaredType → Prop
  | .plain type carried => carried = assigned type
  | .wrapped .. => True

/-- Descriptions that do not disagree carry the marshallers of one assignment. -/
theorem Consistent.exists_assigned {allowed : DeclaredType → Prop}
    (consistent : Consistent allowed) :
    ∃ assigned, ∀ type, allowed type → type.Agrees assigned := by
  classical
  refine ⟨fun type => if described : ∃ carried, allowed (.plain type carried) then
    described.choose else none, ?_⟩
  intro type type_allowed
  cases type with
  | wrapped wrapper argument => trivial
  | plain type carried =>
      have described : ∃ carried, allowed (.plain type carried) := ⟨carried, type_allowed⟩
      have chosen := consistent type carried described.choose type_allowed described.choose_spec
      simpa only [DeclaredType.Agrees, dif_pos described] using chosen

end RpcContracts
