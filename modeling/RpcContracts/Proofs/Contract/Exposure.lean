import Mathlib.Data.List.Nodup
import RpcContracts.Proofs.Contract.Inspection
import RpcContracts.Sample.Contracts

/-!
# The parts of a contract

Inspection parts the eligible methods of a contract: those with a call shape become operations, the
others are noted. It fails for two reasons only. Either the contract has no service name, or an
operation name is taken, and then the error names the first method that finds its name taken.
-/

namespace RpcContracts

theorem FirstCollision.map {α : Type u} {γ : Type w} {β : Type v} {key : α → β} {other : γ → β}
    {entries : List α} {first second : α} (image : α → γ)
    (same : ∀ entry ∈ entries, other (image entry) = key entry)
    (collision : FirstCollision key entries first second) :
    FirstCollision other (entries.map image) (image first) (image second) := by
  obtain ⟨⟨front, rest, rfl, distinct, first_mem⟩, same_key⟩ := collision
  have front_keys : (front.map image).map other = front.map key := by
    rw [List.map_map]
    exact List.map_congr_left fun entry entry_mem => same entry (by simp [entry_mem])
  refine ⟨⟨front.map image, rest.map image, by simp, ?_, List.mem_map_of_mem first_mem⟩, ?_⟩
  · rwa [front_keys]
  · rw [same first (by simp [first_mem]), same second (by simp), same_key]

namespace Contract

/-- Every method of an interface may become an operation; a method of a class has to be opted in. -/
def mayExpose (contract : Contract) (method : Signature) : Bool :=
  contract.isInterface || method.isOptedIn

/-- The methods that become operations unless their names collide, in declaration order. -/
def classified (contract : Contract) : List Signature :=
  contract.methods.filter fun method => contract.mayExpose method && method.shape?.isSome

/-- A service has what a contract exposes: one operation for each eligible method with a call shape,
and the names of the eligible methods without one. -/
structure Exposes (contract : Contract) (service : Service) : Prop where
  contractType_eq : service.contractType = contract.typeName
  methods_eq : service.operations.map Operation.method = contract.classified
  unmatched_eq : service.unmatched =
    (contract.methods.filter fun method =>
      contract.mayExpose method && method.shape?.isNone).map Signature.name
  carries : ∀ operation ∈ service.operations,
    operation.name = operation.method.operationName ∧
      operation.method.shape? = some operation.shape
  distinct : (service.operations.map Operation.name).Nodup
  found : ∀ operation ∈ service.operations, service.operation? operation.name = some operation

variable (contract : Contract)

theorem eligible_eq : contract.eligible = contract.methods.filter contract.mayExpose := by
  obtain ⟨kind, typeName, annotations, methods⟩ := contract
  cases kind with
  | interface => exact (List.filter_eq_self.mpr fun _ _ => rfl).symm
  | concrete => rfl

theorem method_operations : contract.operations.map Operation.method = contract.classified := by
  rw [operations, eligible_eq, classified]
  induction contract.methods with
  | nil => rfl
  | cons method rest ih =>
      cases eligible : contract.mayExpose method with
      | false => simpa [eligible] using ih
      | true =>
          cases shape_eq : method.shape? with
          | none => simpa [eligible, Signature.operation?, shape_eq] using ih
          | some shape => simpa [eligible, Signature.operation?, shape_eq] using ih

theorem carries_operations {operation : Operation}
    (operation_mem : operation ∈ contract.operations) :
    operation.method.operationName = operation.name ∧
      operation.method.shape? = some operation.shape := by
  obtain ⟨shape, -, shape_eq, operation_eq⟩ := mem_operations.mp operation_mem
  rw [operation_eq]
  exact ⟨rfl, shape_eq⟩

theorem operationName_classified :
    contract.classified.map Signature.operationName = contract.operations.map Operation.name := by
  rw [← method_operations, List.map_map]
  exact List.map_congr_left fun operation operation_mem =>
    (contract.carries_operations operation_mem).1

variable {contract}

theorem exposes_exposedAs (distinct : (contract.operations.map Operation.name).Nodup)
    (name : String) : contract.Exposes (contract.exposedAs name) where
  contractType_eq := rfl
  methods_eq := contract.method_operations
  unmatched_eq := by
    rw [exposedAs, unmatchedNames, eligible_eq, List.filter_filter]
    simp only [Bool.and_comm]
  carries := fun operation operation_mem =>
    ⟨(contract.carries_operations operation_mem).1.symm,
      (contract.carries_operations operation_mem).2⟩
  distinct := distinct
  found := fun operation operation_mem =>
    find?_of_keys Operation.name operation_mem
      (fun _ other_mem same => List.inj_on_of_nodup_map distinct other_mem operation_mem same) rfl

/-- Inspection fails for lack of a service name exactly if none can be resolved. Otherwise it fails
exactly if two eligible methods with call shapes have one operation name, and reports the first
method whose name is taken with the one that took it; without such methods it exposes the contract.
-/
theorem inspect_exposes (contract : Contract) :
    (contract.inspect.value = .error (.missingServiceName contract.typeName) ↔
      contract.serviceName? = none) ∧
    ∀ name, contract.serviceName? = some name →
      ((∃ error, contract.inspect.value = .error error) ↔
        ∃ first second, Collide Signature.operationName contract.classified first second) ∧
      (∀ error, contract.inspect.value = .error error →
        ∃ first second,
          FirstCollision Signature.operationName contract.classified first second ∧
            error = .duplicateOperation name second.operationName first.name second.name) ∧
      ∀ service, contract.inspect.value = .ok service →
        service.name = name ∧ contract.Exposes service := by
  obtain ⟨nameless, inspected⟩ |
      ⟨name, named, ⟨inspected, distinct⟩ | ⟨first, second, collision, inspected⟩⟩ :=
    contract.inspect_cases
  · rw [nameless]
    refine ⟨by simp [inspected], ?_⟩
    rintro name ⟨⟩
  · rw [named, inspected]
    refine ⟨by simp, ?_⟩
    rintro _ ⟨⟩
    refine ⟨?_, by simp, ?_⟩
    · have noCollision (first second : Signature) :
          ¬Collide Signature.operationName contract.classified first second := fun collide =>
        collide.not_nodup (contract.operationName_classified ▸ distinct)
      simp [noCollision]
    · rintro _ ⟨⟩
      exact ⟨rfl, exposes_exposedAs distinct name⟩
  · have methods_collide :
        FirstCollision Signature.operationName contract.classified first.method second.method := by
      rw [← method_operations]
      exact collision.map Operation.method fun operation operation_mem =>
        (contract.carries_operations operation_mem).1
    have second_name : second.method.operationName = second.name := by
      obtain ⟨front, rest, split, -, -⟩ := collision.split
      exact (contract.carries_operations (by simp [split])).1
    rw [named, inspected]
    refine ⟨by simp, ?_⟩
    rintro _ ⟨⟩
    refine ⟨⟨fun _ => ⟨_, _, methods_collide.collide⟩, fun _ => ⟨_, rfl⟩⟩, ?_, by simp⟩
    rintro _ ⟨⟩
    exact ⟨first.method, second.method, methods_collide, by rw [second_name]⟩

end Contract
namespace Sample

/-- A method that is opted in. -/
def optedIn (method : Signature) : Signature :=
  { method with annotations := [.operationContract none] }

/-- Two methods of a store that come to one operation name. -/
def get : Signature := optedIn (method "get" [ping] (.wrapped .task pong))
def getAsync : Signature := optedIn (method "get_async" [ping] (.wrapped .valueTask pong))

/-- A class with a method that is not opted in and one that has no call shape. -/
def store (more : List Signature) : Contract :=
  ⟨.concrete, "app::Store", [], [blockingUnary, get, optedIn isValid] ++ more⟩

/-- The store exposes its method; with the second one it is not exposed, and that one is blamed. -/
theorem store_parted :
    (∀ more, (store more).serviceName? = some "app.Store") ∧
      (∃ service, (store []).inspect.value = .ok service ∧ (store []).Exposes service ∧
        service.operations.map Operation.name = ["Get"] ∧ service.unmatched = ["is_valid"]) ∧
      FirstCollision Signature.operationName (store [getAsync]).classified get getAsync ∧
      ∃ error, (store [getAsync]).inspect.value = .error error ∧
        ∃ first second,
          FirstCollision Signature.operationName (store [getAsync]).classified first second ∧
            error =
              .duplicateOperation "app.Store" second.operationName first.name second.name := by
  have derived : derivedServiceName? "app::Store" = some "app.Store" := by decide
  have named (more : List Signature) : (store more).serviceName? = some "app.Store" := derived
  have inspected : (store []).inspect.value = .ok ((store []).exposedAs "app.Store") := rfl
  have collision :
      FirstCollision Signature.operationName (store [getAsync]).classified get getAsync :=
    ⟨⟨[get], [], rfl, by decide, List.mem_singleton_self get⟩, rfl⟩
  obtain ⟨-, -, exposes⟩ := (Contract.inspect_exposes (store [])).2 _ (named [])
  obtain ⟨fails_iff, blames, -⟩ :=
    (Contract.inspect_exposes (store [getAsync])).2 _ (named [getAsync])
  obtain ⟨error, failed⟩ := fails_iff.mpr ⟨get, getAsync, collision.collide⟩
  exact ⟨named, ⟨_, inspected, (exposes _ inspected).2, rfl, rfl⟩, collision, error, failed,
    blames error failed⟩

end Sample
end RpcContracts
