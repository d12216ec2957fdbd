import RpcContracts.Contract.Service

/-!
# What inspection exposes

Inspection goes through the eligible methods once and ends at the first operation name that is
taken. This file says what it answers without that pass: either the operation names are distinct and
all operations are exposed, or two of the operations collide and the error names the first
operation whose name is taken and the one that took it.
-/

namespace RpcContracts

/-! ## Collisions -/

/-- Two entries of a list have the same key, the first before the second. -/
structure Collide {α : Type u} {β : Type v} (key : α → β) (entries : List α) (first second : α) :
    Prop where
  sublist : [first, second].Sublist entries
  same_key : key first = key second

namespace Collide

variable {α : Type u} {β : Type v} {key : α → β} {entries larger : List α} {first second : α}

theorem mono (collide : Collide key entries first second) (included : entries.Sublist larger) :
    Collide key larger first second :=
  ⟨collide.sublist.trans included, collide.same_key⟩

theorem not_nodup (collide : Collide key entries first second) : ¬(entries.map key).Nodup := by
  intro distinct
  have pair_distinct : [key first, key second].Nodup :=
    distinct.sublist (collide.sublist.map key)
  rw [collide.same_key] at pair_distinct
  simp at pair_distinct

/-- An entry that meets one with its own key later on collides with it. -/
theorem of_mem {earlier later : List α} (first_mem : first ∈ earlier)
    (same_key : key first = key second) :
    Collide key (earlier ++ second :: later) first second := by
  refine ⟨?_, same_key⟩
  have front : [first].Sublist earlier := List.singleton_sublist.mpr first_mem
  have back : [second].Sublist (second :: later) :=
    List.singleton_sublist.mpr List.mem_cons_self
  exact front.append back

end Collide

/-- The first entry of a list whose key is taken, after the entry that took it. -/
structure FirstCollision {α : Type u} {β : Type v} (key : α → β) (entries : List α)
    (first second : α) : Prop where
  /-- No two entries before the second one have the same key. -/
  split : ∃ front rest, entries = front ++ second :: rest ∧ (front.map key).Nodup ∧ first ∈ front
  same_key : key first = key second

namespace FirstCollision

variable {α : Type u} {β : Type v} {key : α → β} {entries : List α} {first second : α}

theorem collide (collision : FirstCollision key entries first second) :
    Collide key entries first second := by
  obtain ⟨front, rest, rfl, -, first_mem⟩ := collision.split
  exact .of_mem first_mem collision.same_key

end FirstCollision

theorem nodup_concat {α : Type u} {front : List α} {last : α} (distinct : front.Nodup)
    (fresh : last ∉ front) : (front ++ [last]).Nodup := by
  rw [List.nodup_append]
  refine ⟨distinct, by simp, ?_⟩
  intro entry entry_mem other other_mem same
  obtain rfl := List.mem_singleton.mp other_mem
  exact fresh (same ▸ entry_mem)

theorem notMem_of_nodup {α : Type u} {front rest : List α} {first : α}
    (distinct : (front ++ first :: rest).Nodup) : first ∉ front := by
  have disjoint := (List.nodup_append.mp distinct).2.2
  intro first_mem
  exact disjoint first first_mem first List.mem_cons_self rfl

/-- In a list whose entries have distinct keys, a search by key finds the entry itself. -/
theorem find?_of_keys {α : Type u} {β : Type v} [DecidableEq β] (key : α → β) {entries : List α}
    {entry : α} (entry_mem : entry ∈ entries)
    (alone : ∀ other ∈ entries, key other = key entry → other = entry) {sought : β}
    (sought_eq : sought = key entry) :
    (entries.find? fun other => key other == sought) = some entry := by
  subst sought_eq
  cases found : entries.find? fun other => key other == key entry with
  | none =>
      have missed := List.find?_eq_none.mp found entry entry_mem
      simp at missed
  | some other =>
      have same_key : key other = key entry := by simpa using List.find?_some found
      rw [alone other (List.mem_of_find?_eq_some found) same_key]

/-! ## Operations of a contract -/

/-- The operation that a method is, if it has a call shape. -/
def Signature.operation? (method : Signature) : Option Operation :=
  method.shape?.map fun shape => ⟨method.operationName, shape, method⟩

/-- The names of the methods without a call shape. -/
def unmatchedNames (methods : List Signature) : List String :=
  (methods.filter fun method => method.shape?.isNone).map Signature.name

/-- The operations of the eligible methods, whether or not their names are distinct. -/
def Contract.operations (contract : Contract) : List Operation :=
  contract.eligible.filterMap Signature.operation?

theorem Signature.operation?_eq_some {method : Signature} {operation : Operation} :
    method.operation? = some operation ↔
      ∃ shape, method.shape? = some shape ∧ operation = ⟨method.operationName, shape, method⟩ := by
  rw [operation?, Option.map_eq_some_iff]
  constructor
  · rintro ⟨shape, shape_eq, rfl⟩
    exact ⟨shape, shape_eq, rfl⟩
  · rintro ⟨shape, shape_eq, rfl⟩
    exact ⟨shape, shape_eq, rfl⟩

theorem Signature.operation?_eq_none {method : Signature} :
    method.operation? = none ↔ method.shape? = none :=
  Option.map_eq_none_iff

theorem Signature.operation?_of_classified {method : Signature} {shape : CallShape}
    (classified : method.shape? = some shape) :
    method.operation? = some ⟨method.operationName, shape, method⟩ :=
  operation?_eq_some.mpr ⟨shape, classified, rfl⟩

namespace Contract

theorem mem_operations {contract : Contract} {operation : Operation} :
    operation ∈ contract.operations ↔
      ∃ shape, operation.method ∈ contract.eligible ∧ operation.method.shape? = some shape ∧
        operation = ⟨operation.method.operationName, shape, operation.method⟩ := by
  rw [operations, List.mem_filterMap]
  constructor
  · rintro ⟨method, method_mem, operation_eq⟩
    obtain ⟨shape, shape_eq, rfl⟩ := Signature.operation?_eq_some.mp operation_eq
    exact ⟨shape, method_mem, shape_eq, rfl⟩
  · rintro ⟨shape, method_mem, shape_eq, operation_eq⟩
    exact ⟨_, method_mem, Signature.operation?_eq_some.mpr ⟨shape, shape_eq, operation_eq⟩⟩

theorem shape?_of_mem {contract : Contract} {operation : Operation}
    (operation_mem : operation ∈ contract.operations) :
    operation.method.shape? = some operation.shape := by
  obtain ⟨shape, -, shape_eq, operation_eq⟩ := mem_operations.mp operation_mem
  rw [shape_eq, operation_eq]

/-- The service of a contract when nothing collides. -/
def exposedAs (contract : Contract) (name : String) : Service :=
  ⟨name, contract.typeName, contract.operations, unmatchedNames contract.eligible⟩

end Contract

/-! ## Inspection -/

namespace Service

/-- The service with the operations and the unmatched names of further methods. -/
def plus (service : Service) (methods : List Signature) : Service where
  name := service.name
  contractType := service.contractType
  operations := service.operations ++ methods.filterMap Signature.operation?
  unmatched := service.unmatched ++ unmatchedNames methods

theorem plus_nil (service : Service) : service.plus [] = service := by
  simp [plus, unmatchedNames]

theorem plus_cons_of_none (service : Service) {method : Signature} {rest : List Signature}
    (shape_eq : method.shape? = none) :
    service.plus (method :: rest) =
      { service with unmatched := service.unmatched ++ [method.name] }.plus rest := by
  simp [plus, unmatchedNames, Signature.operation?, shape_eq]

theorem plus_cons_of_some (service : Service) {method : Signature} {rest : List Signature}
    {operation : Operation} (operation_eq : method.operation? = some operation) :
    service.plus (method :: rest) =
      { service with operations := service.operations ++ [operation] }.plus rest := by
  obtain ⟨shape, shape_eq, rfl⟩ := Signature.operation?_eq_some.mp operation_eq
  simp [plus, unmatchedNames, operation_eq, shape_eq]

/-- Extending a service with distinct operation names either exposes all further methods under
distinct names or reports the first operation whose name is taken. -/
theorem extend_cases (methods : List Signature) (service : Service)
    (distinct : (service.operations.map Operation.name).Nodup) :
    ((service.extend methods).value = .ok (service.plus methods) ∧
      ((service.plus methods).operations.map Operation.name).Nodup) ∨
    ∃ first second, FirstCollision Operation.name (service.plus methods).operations first second ∧
      (service.extend methods).value = .error (.duplicateOperation service.name second.name
        first.method.name second.method.name) := by
  induction methods generalizing service with
  | nil =>
      left
      rw [plus_nil]
      exact ⟨rfl, distinct⟩
  | cons method rest ih =>
      rw [extend]
      split
      · next shape_eq =>
          rw [plus_cons_of_none service shape_eq, Logged.value_after]
          exact ih { service with unmatched := service.unmatched ++ [method.name] } distinct
      · next shape shape_eq =>
          let operation : Operation := ⟨method.operationName, shape, method⟩
          have operation_eq : method.operation? = some operation :=
            Signature.operation?_of_classified shape_eq
          rw [plus_cons_of_some service operation_eq]
          split
          · next first found =>
              right
              have first_mem : first ∈ service.operations := List.mem_of_find?_eq_some found
              have same_name : first.name = operation.name := by
                simpa using List.find?_some found
              refine ⟨first, operation, ⟨?_, same_name⟩, rfl⟩
              exact ⟨service.operations, rest.filterMap Signature.operation?, by simp [plus],
                distinct, first_mem⟩
          · next fresh =>
              apply ih
              rw [List.map_append]
              apply nodup_concat distinct
              simpa [Service.operation?] using fresh

end Service

/-- Inspection answers by the service name and by the operation names alone. -/
theorem Contract.inspect_cases (contract : Contract) :
    (contract.serviceName? = none ∧
      contract.inspect.value = .error (.missingServiceName contract.typeName)) ∨
    ∃ name, contract.serviceName? = some name ∧
      ((contract.inspect.value = .ok (contract.exposedAs name) ∧
        (contract.operations.map Operation.name).Nodup) ∨
      ∃ first second, FirstCollision Operation.name contract.operations first second ∧
        contract.inspect.value = .error (.duplicateOperation name second.name first.method.name
          second.method.name)) := by
  unfold inspect
  split
  · next nameless => exact .inl ⟨nameless, rfl⟩
  · next name named =>
      right
      have exposed_eq : Service.plus ⟨name, contract.typeName, [], []⟩ contract.eligible =
          contract.exposedAs name := by
        simp [Service.plus, exposedAs, operations]
      have extended := Service.extend_cases contract.eligible ⟨name, contract.typeName, [], []⟩
        List.nodup_nil
      rw [exposed_eq] at extended
      exact ⟨name, named, extended⟩

/-- A successful inspection exposes every operation, under distinct names. -/
theorem Contract.inspect_ok {contract : Contract} {service : Service}
    (inspected : contract.inspect.value = .ok service) :
    contract.serviceName? = some service.name ∧ service = contract.exposedAs service.name ∧
      (contract.operations.map Operation.name).Nodup := by
  obtain ⟨-, failed⟩ | ⟨name, named, ⟨exposed, distinct⟩ | ⟨first, second, -, failed⟩⟩ :=
    contract.inspect_cases
  · rw [failed] at inspected
    cases inspected
  · rw [exposed] at inspected
    cases inspected
    exact ⟨named, rfl, distinct⟩
  · rw [failed] at inspected
    cases inspected

end RpcContracts
