import Mathlib.Data.List.Nodup
import RpcContracts.Proofs.Client.Dispatch
import RpcContracts.Proofs.Server.Bindings

/-!
# Clients and servers agree on the wire

A client and a server are built from one interface contract by different passes with caches of their
own. With uniform marshallers both resolve every payload type to what it carries itself, and what
each of them binds can be read off the shape of a method; where both bind a method, they mean the
same calls.
-/

namespace RpcContracts

/-! ## Uniform contracts -/

/-- All types in the signature carry the marshallers assigned to them. -/
def Signature.Carries (assigned : PlainType → Option Marshaller) (method : Signature) : Prop :=
  (∀ param ∈ method.params, param.Carries assigned) ∧ method.returns.Carries assigned

/-- Every occurrence of a plain type in the contract carries the same marshaller, or none. -/
def Contract.Carries (assigned : PlainType → Option Marshaller) (contract : Contract) : Prop :=
  ∀ method ∈ contract.methods, method.Carries assigned

/-- Both payload types carry a marshaller. -/
def CallShape.HasMarshallers (shape : CallShape) : Prop :=
  shape.requestType.marshaller?.isSome = true ∧ shape.responseType.marshaller?.isSome = true

/-- The response type occurs in what is returned or in a writer. -/
theorem ReturnsFor.response_carries {response returns : DeclaredType} {kind : CallKind}
    {shape : ResponseShape} {writer : Bool} {assigned : PlainType → Option Marshaller}
    (returnsFor : ReturnsFor response kind shape writer returns)
    (returned : returns.Carries assigned)
    (written : writer = true → (DeclaredType.wrapped .streamWriter response).Carries assigned) :
    response.Carries assigned := by
  cases returnsFor with
  | writer => exact written rfl
  | _ => exact returned

namespace CallShape

variable {assigned : PlainType → Option Marshaller} {shape : CallShape} {signature : Signature}

theorem Describes.payloads_carry (described : shape.Describes signature)
    (carries : signature.Carries assigned) :
    shape.requestType.Carries assigned ∧ shape.responseType.Carries assigned := by
  obtain ⟨params_carry, returns_carries⟩ := carries
  obtain ⟨context, -, params_eq⟩ := described.params
  constructor
  · have request_carries := params_carry shape.requestParam (by simp [params_eq])
    unfold requestParam at request_carries
    split at request_carries
    · exact request_carries
    · exact request_carries
  · have writer_carries : ∀ param ∈ shape.writerParams, param.Carries assigned := by
      intro param param_mem
      apply params_carry
      rw [params_eq]
      exact List.mem_cons_of_mem _ (List.mem_append_left _ param_mem)
    exact described.returns.response_carries returns_carries fun writes =>
      writer_carries (.wrapped .streamWriter shape.responseType) (by simp [writerParams, writes])

theorem payloads?_isSome_iff {cache : MarshallerCache} (remembers : cache.Remembers assigned)
    (carry : shape.requestType.Carries assigned ∧ shape.responseType.Carries assigned) :
    (cache.payloads? shape).isSome = true ↔ shape.HasMarshallers := by
  unfold HasMarshallers
  rw [Option.isSome_iff_exists, Option.isSome_iff_exists, Option.isSome_iff_exists]
  constructor
  · rintro ⟨⟨request, response⟩, resolved⟩
    obtain ⟨request_eq, response_eq⟩ :=
      (MarshallerCache.payloads?_eq_some_iff remembers carry.1 carry.2).mp resolved
    exact ⟨⟨request, request_eq⟩, ⟨response, response_eq⟩⟩
  · rintro ⟨⟨request, request_eq⟩, ⟨response, response_eq⟩⟩
    exact ⟨(request, response),
      (MarshallerCache.payloads?_eq_some_iff remembers carry.1 carry.2).mpr
        ⟨request_eq, response_eq⟩⟩

end CallShape

/-! ## The client -/

namespace Contract

variable {assigned : PlainType → Option Marshaller} {contract : Contract}

theorem Carries.remembers_clientCache (carries : contract.Carries assigned)
    {earlier : List Signature} (declared : ∀ method ∈ earlier, method ∈ contract.methods) :
    (clientCache .empty earlier).Remembers assigned := by
  apply MarshallerCache.remembers_afterShapes MarshallerCache.remembers_empty
  intro shape shape_mem
  obtain ⟨method, method_mem, shape_eq⟩ := List.mem_filterMap.mp shape_mem
  obtain ⟨classified, -⟩ := Option.filter_eq_some_iff.mp shape_eq
  exact (describes_of_shape? classified).payloads_carry
    (carries method (declared method method_mem))

end Contract

/-- The table holds a bound method under the name of a declared one. -/
def DispatchTable.Binds (table : DispatchTable) (method : Signature) : Prop :=
  ∃ client, table.get? method.name = some (.bound client)

/-- A client can bind a method that classifies, whose payload types carry marshallers, and that
takes neither a writer nor the context of a server. -/
structure CallShape.ForClients (shape : CallShape) (method : Signature) : Prop where
  classified : method.shape? = some shape
  marshallers : shape.HasMarshallers
  noWriter : shape.responseWriter = false
  noServerContext : shape.contextKind ≠ .serverContext

theorem CallShape.forClients_iff {assigned : PlainType → Option Marshaller}
    {cache : MarshallerCache} {method : Signature} {shape : CallShape}
    (remembers : cache.Remembers assigned) (carries : method.Carries assigned) :
    shape.ForClients method ↔ method.Callable cache shape := by
  constructor
  · rintro ⟨classified, marshallers, noWriter, noServerContext⟩
    have carry := (describes_of_shape? classified).payloads_carry carries
    refine (Signature.callable_iff classified).mpr ⟨?_, ?_⟩
    · simp [isServerOnly, noWriter, noServerContext]
    · exact (payloads?_isSome_iff remembers carry).mpr marshallers
  · intro callable
    have classified := callable.classified
    have carry := (describes_of_shape? classified).payloads_carry carries
    obtain ⟨expressible, resolved⟩ := (Signature.callable_iff classified).mp callable
    obtain ⟨noWriter, noServerContext⟩ := Bool.or_eq_false_iff.mp expressible
    exact ⟨classified, (payloads?_isSome_iff remembers carry).mp resolved, noWriter,
      of_decide_eq_false noServerContext⟩

/-! ## The server -/

namespace DeclaredOperation

variable {assigned : PlainType → Option Marshaller}

/-- The payload types of an operation carry the marshallers assigned to them. -/
def PayloadsCarry (assigned : PlainType → Option Marshaller) (declared : DeclaredOperation) :
    Prop :=
  declared.operation.shape.requestType.Carries assigned ∧
    declared.operation.shape.responseType.Carries assigned

theorem remembers_cacheAfter {declared : DeclaredOperation} {cache : MarshallerCache}
    (remembers : cache.Remembers assigned) (carry : declared.PayloadsCarry assigned) :
    (declared.cacheAfter cache).Remembers assigned := by
  unfold cacheAfter
  split
  · exact MarshallerCache.remembers_afterPayloads remembers carry.1 carry.2
  · exact remembers

/-- Every operation meets a cache that remembers assigned marshallers only. -/
theorem remembers_of_mem_withCaches {operations : List DeclaredOperation} {cache : MarshallerCache}
    (remembers : cache.Remembers assigned)
    (carry : ∀ declared ∈ operations, declared.PayloadsCarry assigned)
    {entry : DeclaredOperation × MarshallerCache}
    (entry_mem : entry ∈ withCaches cache operations) :
    entry.1 ∈ operations ∧ entry.2.Remembers assigned := by
  induction operations generalizing cache with
  | nil => cases entry_mem
  | cons declared rest ih =>
      obtain rfl | later := List.mem_cons.mp entry_mem
      · exact ⟨List.mem_cons_self, remembers⟩
      · obtain ⟨entry_declared, entry_remembers⟩ :=
          ih (remembers_cacheAfter remembers (carry declared List.mem_cons_self))
            (fun operation operation_mem => carry operation (List.mem_cons_of_mem _ operation_mem))
            later
        exact ⟨List.mem_cons_of_mem _ entry_declared, entry_remembers⟩

theorem exists_withCaches {operations : List DeclaredOperation} {declared : DeclaredOperation}
    (declared_mem : declared ∈ operations) (cache : MarshallerCache) :
    ∃ met, (declared, met) ∈ withCaches cache operations := by
  induction operations generalizing cache with
  | nil => cases declared_mem
  | cons first rest ih =>
      obtain rfl | later := List.mem_cons.mp declared_mem
      · exact ⟨cache, List.mem_cons_self⟩
      · obtain ⟨met, met_mem⟩ := ih later (first.cacheAfter cache)
        exact ⟨met, List.mem_cons_of_mem _ met_mem⟩

theorem mem_bindable {operations : List DeclaredOperation} {cache : MarshallerCache}
    {declared : DeclaredOperation} {met : MarshallerCache} :
    (declared, met) ∈ bindable cache operations ↔
      (declared, met) ∈ withCaches cache operations ∧ declared.Bindable met := by
  simp [bindable, List.mem_filter]

end DeclaredOperation

/-- The binding holds a method that is declared under the name of the given one. -/
def Binding.Binds (binding : Binding) (method : Signature) : Prop :=
  ∃ bound ∈ binding.methods, bound.wire.reference.method = method.name

/-- A server can bind a method that classifies, whose payload types carry marshallers, and that
takes no options. -/
structure CallShape.ForServers (shape : CallShape) (method : Signature) : Prop where
  classified : method.shape? = some shape
  marshallers : shape.HasMarshallers
  noOptions : shape.contextKind ≠ .plainOptions

/-! ## One contract on both sides -/

/-- A service type declares nothing of its own and implements one tagged interface, whose methods
have distinct names and a function each, and whose types carry the marshallers assigned to them. -/
structure SoleContract (own implementation : Implementation) (service : Service)
    (assigned : PlainType → Option Marshaller) : Prop where
  own_methods : own.contract.methods = []
  own_binds : own.contract.annotations.any Annotation.isBindServiceMethod = false
  isInterface : implementation.contract.isInterface = true
  isTagged : implementation.contract.isTagged = true
  names_nodup : (implementation.contract.methods.map Signature.name).Nodup
  attached : ∀ method ∈ implementation.contract.methods,
    (implementation.invoker? method.name).isSome = true
  inspected : implementation.contract.inspect.value = .ok service
  carries : implementation.contract.Carries assigned

namespace SoleContract

variable {own implementation : Implementation} {service : Service}
  {assigned : PlainType → Option Marshaller}
  (sole : SoleContract own implementation service assigned)

include sole

theorem mem_operations {operation : Operation} :
    operation ∈ implementation.contract.operations ↔
      operation.method ∈ implementation.contract.methods ∧
        operation.method.shape? = some operation.shape ∧
        operation.name = operation.method.operationName := by
  have isInterface := of_decide_eq_true sole.isInterface
  have eligible_eq : implementation.contract.eligible = implementation.contract.methods := by
    simp [Contract.eligible, isInterface]
  rw [← eligible_eq]
  constructor
  · intro operation_mem
    obtain ⟨shape, method_mem, -, operation_eq⟩ := Contract.mem_operations.mp operation_mem
    exact ⟨method_mem, Contract.shape?_of_mem operation_mem,
      congrArg Operation.name operation_eq⟩
  · rintro ⟨method_mem, shape_eq, name_eq⟩
    refine Contract.mem_operations.mpr ⟨operation.shape, method_mem, shape_eq, ?_⟩
    rw [← name_eq]

theorem method_eq {first second : Signature} (first_mem : first ∈ implementation.contract.methods)
    (second_mem : second ∈ implementation.contract.methods) (same : first.name = second.name) :
    first = second :=
  List.inj_on_of_nodup_map sole.names_nodup first_mem second_mem same

/-- The service type declares the operations of the interface and nothing else. -/
theorem declared_eq : HostedService.declared ⟨own, [implementation]⟩ =
    implementation.contract.operations.map fun operation =>
      ⟨implementation, service.name, operation⟩ := by
  have own_nothing : HostedService.declaredBy own = [] := by
    have noOperations : own.contract.operations = [] := by
      unfold Contract.operations Contract.eligible
      cases own.contract.kind <;> simp [sole.own_methods]
    unfold HostedService.declaredBy
    split
    · rfl
    · rw [noOperations, List.map_nil]
  obtain ⟨named, -, -⟩ := Contract.inspect_ok sole.inspected
  rw [HostedService.declared, HostedService.counted, List.flatMap_cons, own_nothing,
    List.nil_append]
  simp [sole.isTagged, HostedService.declaredBy_of_named named]

/-- The build succeeds and has gone through all operations. -/
theorem exists_binding :
    ∃ binding after, (Binding.build ⟨own, [implementation]⟩ .empty).value =
        (.ok binding, after) ∧
      List.Forall₂ (fun turn bound =>
          BoundMethod.Binds bound own.contract.annotations turn.1 turn.2)
        (DeclaredOperation.bindable .empty (HostedService.declared ⟨own, [implementation]⟩))
        binding.methods := by
  have notDefault : HostedService.isDefaultHandler ⟨own, [implementation]⟩ = false :=
    sole.own_binds
  obtain ⟨after, build_eq, reached⟩ | ⟨first, second, after, collide, -⟩ :=
    Binding.build_cases .empty notDefault
  · exact ⟨_, _, build_eq, reached.methods_bind⟩
  · rw [sole.declared_eq] at collide
    obtain ⟨-, -, names_nodup⟩ := Contract.inspect_ok sole.inspected
    refine absurd ?_ collide.not_nodup
    rw [List.map_map]
    have keys_eq : (DeclaredOperation.key ∘ fun operation =>
        (⟨implementation, service.name, operation⟩ : DeclaredOperation)) =
          Prod.mk service.name ∘ Operation.name := rfl
    rw [keys_eq, ← List.map_map]
    exact names_nodup.map fun _ _ same => (Prod.mk.inj same).2

theorem payloads_carry {operation : Operation}
    (operation_mem : operation ∈ implementation.contract.operations) :
    operation.shape.requestType.Carries assigned ∧
      operation.shape.responseType.Carries assigned := by
  obtain ⟨method_mem, shape_eq, -⟩ := sole.mem_operations.mp operation_mem
  exact (describes_of_shape? shape_eq).payloads_carry (sole.carries operation.method method_mem)

/-- Whatever had its turn before an operation, it meets assigned marshallers only. -/
theorem of_mem_withCaches {declared : DeclaredOperation} {met : MarshallerCache}
    (met_mem : (declared, met) ∈ DeclaredOperation.withCaches .empty
      (HostedService.declared ⟨own, [implementation]⟩)) :
    ∃ operation ∈ implementation.contract.operations,
      declared = ⟨implementation, service.name, operation⟩ ∧ met.Remembers assigned := by
  rw [sole.declared_eq] at met_mem
  have carry : ∀ declared ∈ implementation.contract.operations.map fun operation =>
      (⟨implementation, service.name, operation⟩ : DeclaredOperation),
      declared.PayloadsCarry assigned := by
    intro declared declared_mem
    obtain ⟨operation, operation_mem, rfl⟩ := List.mem_map.mp declared_mem
    exact sole.payloads_carry operation_mem
  obtain ⟨declared_mem, remembers⟩ := DeclaredOperation.remembers_of_mem_withCaches
    MarshallerCache.remembers_empty carry met_mem
  obtain ⟨operation, operation_mem, rfl⟩ := List.mem_map.mp declared_mem
  exact ⟨operation, operation_mem, rfl, remembers⟩

section

variable {binding : Binding}
  (methods_bind : List.Forall₂ (fun turn bound =>
      BoundMethod.Binds bound own.contract.annotations turn.1 turn.2)
    (DeclaredOperation.bindable .empty (HostedService.declared ⟨own, [implementation]⟩))
    binding.methods)

include methods_bind

/-- A bound method is what an operation of the interface became. -/
theorem operation_of_bound {bound : BoundMethod} (bound_mem : bound ∈ binding.methods) :
    ∃ operation ∈ implementation.contract.operations, ∃ met : MarshallerCache,
      met.Remembers assigned ∧
        DeclaredOperation.Bindable ⟨implementation, service.name, operation⟩ met ∧
        bound.Binds own.contract.annotations ⟨implementation, service.name, operation⟩ met := by
  obtain ⟨⟨declared, met⟩, bindable_mem, binds⟩ :=
    (forall₂_exists_of_mem methods_bind).2 bound bound_mem
  obtain ⟨met_mem, bindable⟩ := DeclaredOperation.mem_bindable.mp bindable_mem
  obtain ⟨operation, operation_mem, rfl, remembers⟩ := sole.of_mem_withCaches met_mem
  exact ⟨operation, operation_mem, met, remembers, bindable, binds⟩

/-- A server binds exactly the methods that are for servers. -/
theorem server_binds_iff {method : Signature}
    (method_mem : method ∈ implementation.contract.methods) :
    binding.Binds method ↔ ∃ shape : CallShape, shape.ForServers method := by
  constructor
  · rintro ⟨bound, bound_mem, same_name⟩
    obtain ⟨operation, operation_mem, met, remembers, bindable, binds⟩ :=
      sole.operation_of_bound methods_bind bound_mem
    obtain ⟨declaring_mem, shape_eq, -⟩ := sole.mem_operations.mp operation_mem
    rw [binds.reference_eq] at same_name
    obtain rfl := sole.method_eq declaring_mem method_mem same_name
    have carry := sole.payloads_carry operation_mem
    exact ⟨operation.shape, shape_eq,
      (CallShape.payloads?_isSome_iff remembers carry).mp bindable.resolved, bindable.served⟩
  · rintro ⟨shape, classified, marshallers, noOptions⟩
    let operation : Operation := ⟨method.operationName, shape, method⟩
    let declared : DeclaredOperation := ⟨implementation, service.name, operation⟩
    have operation_mem : operation ∈ implementation.contract.operations :=
      sole.mem_operations.mpr ⟨method_mem, classified, rfl⟩
    have declared_mem : declared ∈ HostedService.declared ⟨own, [implementation]⟩ := by
      rw [sole.declared_eq]
      exact List.mem_map.mpr ⟨operation, operation_mem, rfl⟩
    obtain ⟨met, met_mem⟩ := DeclaredOperation.exists_withCaches declared_mem .empty
    obtain ⟨_, _, -, remembers⟩ := sole.of_mem_withCaches met_mem
    have resolved := (CallShape.payloads?_isSome_iff remembers
      (sole.payloads_carry operation_mem)).mpr marshallers
    have bindable : declared.Bindable met :=
      ⟨sole.attached method method_mem, resolved, noOptions⟩
    obtain ⟨bound, bound_mem, binds⟩ :=
      (forall₂_exists_of_mem methods_bind).1 (declared, met)
        (DeclaredOperation.mem_bindable.mpr ⟨met_mem, bindable⟩)
    refine ⟨bound, bound_mem, ?_⟩
    rw [binds.reference_eq]
    rfl

end

end SoleContract

/-! ## Agreement -/

/-- What a client calls under the name of a method is what a registration of a server is reached
by: the identity on the wire is the same, and every call enters where the server registered it. -/
structure Agree (client : ClientMethod) (server : Registration) (method : Signature) : Prop where
  fullName_eq : client.wire.reference.fullName = server.method.wire.reference.fullName
  methodId_eq : client.wire.reference.methodId = server.method.wire.reference.methodId
  callKind_eq : client.wire.reference.callKind = server.method.wire.reference.callKind
  requestMarshaller_eq : client.wire.requestMarshaller = server.method.wire.requestMarshaller
  responseMarshaller_eq : client.wire.responseMarshaller = server.method.wire.responseMarshaller
  handler_eq : server.method.handler.callKind = server.method.wire.reference.callKind
  entry_eq : ∀ transport values history memory,
    values.map Value.type = method.params.map DeclaredType.valueType →
      ∃ issued, issued.entry = server.entry ∧ issued.head.method = client.wire ∧
        ∀ calls, (client.call (Transport.recorded transport) values history memory).run calls =
          (client.call transport values history memory, calls ++ [issued])

/-- A client binds exactly the methods that are for clients. -/
theorem client_binds_iff {assigned : PlainType → Option Marshaller} {cache : MarshallerCache}
    {method : Signature} (remembers : cache.Remembers assigned) (carries : method.Carries assigned)
    (service : String) :
    (∃ client, method.clientEntry service cache = .bound client) ↔
      ∃ shape : CallShape, shape.ForClients method := by
  constructor
  · rintro ⟨client, entry_eq⟩
    obtain ⟨shape, callable, -⟩ := Signature.calls_of_clientEntry entry_eq
    exact ⟨shape, (CallShape.forClients_iff remembers carries).mpr callable⟩
  · rintro ⟨shape, forClients⟩
    obtain ⟨client, entry_eq, -⟩ :=
      ((CallShape.forClients_iff remembers carries).mp forClients).calls service
    exact ⟨client, entry_eq⟩

/-- A method that both sides bind, from caches that remember assigned marshallers only, is the same
on the wire. -/
theorem agree_of_binds {assigned : PlainType → Option Marshaller}
    {clientCache serverCache : MarshallerCache} {method : Signature} {shape : CallShape}
    {client : ClientMethod} {server : BoundMethod} {annotations : List Annotation}
    {source : Implementation} {service : String}
    (carries : method.Carries assigned) (classified : method.shape? = some shape)
    (client_remembers : clientCache.Remembers assigned)
    (server_remembers : serverCache.Remembers assigned)
    (calls : client.Calls service method clientCache shape)
    (binds : server.Binds annotations
      ⟨source, service, ⟨method.operationName, shape, method⟩⟩ serverCache) :
    Agree client ⟨server.handler.callKind, server⟩ method := by
  obtain ⟨request_carries, response_carries⟩ :=
    (describes_of_shape? classified).payloads_carry carries
  have reference_eq : client.wire.reference = server.wire.reference := by
    rw [calls.reference_eq, binds.reference_eq]
    rfl
  obtain ⟨client_request, client_response⟩ := (MarshallerCache.payloads?_eq_some_iff
    client_remembers request_carries response_carries).mp calls.marshallers_eq
  obtain ⟨server_request, server_response⟩ := (MarshallerCache.payloads?_eq_some_iff
    server_remembers request_carries response_carries).mp binds.marshallers_eq
  refine ⟨congrArg MethodReference.fullName reference_eq,
    congrArg MethodReference.methodId reference_eq,
    congrArg MethodReference.callKind reference_eq,
    Option.some.inj (client_request.symm.trans server_request),
    Option.some.inj (client_response.symm.trans server_response), ?_, ?_⟩
  · rw [binds.reference_eq]
    exact binds.callKind_eq
  · intro transport values history memory values_types
    obtain ⟨issued, issues⟩ := calls.issues transport values history memory values_types
    refine ⟨issued, ?_, ?_, issues.one_call⟩
    · exact issues.entry_eq.trans binds.callKind_eq.symm
    · rw [issues.head_eq]

/-- A client and a server built from one tagged interface, each with a fresh cache, bind exactly the
methods that are for clients and for servers, and where both bind a method, they agree on it. -/
theorem SoleContract.client_and_server_agree {own implementation : Implementation}
    {service : Service} {assigned : PlainType → Option Marshaller}
    (sole : SoleContract own implementation service assigned) :
    ∃ table binding,
      (DispatchTable.build implementation.contract .empty).value.1 = .ok table ∧
      (Binding.build ⟨own, [implementation]⟩ .empty).value.1 = .ok binding ∧
      ∀ method ∈ implementation.contract.methods,
        (table.Binds method ↔ ∃ shape : CallShape, shape.ForClients method) ∧
        (binding.Binds method ↔ ∃ shape : CallShape, shape.ForServers method) ∧
        ∀ client, table.get? method.name = some (.bound client) →
          ∀ server ∈ binding.registrations,
            server.method.wire.reference.method = method.name → Agree client server method := by
  obtain ⟨table, table_eq, -, -, entries⟩ := DispatchTable.exists_build sole.isInterface
    sole.names_nodup sole.inspected .empty
  obtain ⟨binding, after, binding_eq, methods_bind⟩ := sole.exists_binding
  refine ⟨table, binding, table_eq, by rw [binding_eq], ?_⟩
  intro method method_mem
  have carries := sole.carries method method_mem
  obtain ⟨earlier, later, split_eq⟩ := List.append_of_mem method_mem
  have entry_eq := entries earlier method later split_eq
  have client_remembers : (clientCache .empty earlier).Remembers assigned := by
    apply sole.carries.remembers_clientCache
    intro declared declared_mem
    rw [split_eq]
    exact List.mem_append_left _ declared_mem
  have client_iff := client_binds_iff client_remembers carries service.name
  refine ⟨?_, sole.server_binds_iff methods_bind method_mem, ?_⟩
  · rw [← client_iff, DispatchTable.Binds]
    simp [entry_eq]
  · intro client client_eq server server_mem same_name
    obtain ⟨bound, bound_mem, rfl⟩ := List.mem_map.mp server_mem
    obtain ⟨operation, operation_mem, met, server_remembers, -, binds⟩ :=
      sole.operation_of_bound methods_bind bound_mem
    obtain ⟨declaring_mem, classified, name_eq⟩ := sole.mem_operations.mp operation_mem
    have same_method : operation.method = method := by
      apply sole.method_eq declaring_mem method_mem
      rw [← same_name, binds.reference_eq]
      rfl
    have bound_eq := Option.some.inj (entry_eq.symm.trans client_eq)
    obtain ⟨shape, callable, calls⟩ := Signature.calls_of_clientEntry bound_eq
    have shape_eq : operation.shape = shape := by
      rw [same_method, callable.classified] at classified
      exact (Option.some.inj classified).symm
    have operation_eq : operation = ⟨method.operationName, shape, method⟩ := by
      rw [← same_method, ← shape_eq, ← name_eq]
    rw [operation_eq] at binds
    exact agree_of_binds carries callable.classified client_remembers server_remembers calls binds

namespace Sample

theorem greeterService_sole :
    SoleContract greeterService.own (greetOften (greetOnce (.ofContract greeter)))
      (greeter.exposedAs "Greet.Greeter") PlainType.marshaller? where
  own_methods := rfl
  own_binds := rfl
  isInterface := rfl
  isTagged := rfl
  names_nodup := by decide
  attached := by decide
  inspected := rfl
  carries := by
    rintro method (_ | ⟨_, _ | ⟨_, ⟨⟩⟩⟩)
    · exact ⟨by rintro param (_ | ⟨_, ⟨⟩⟩); rfl, rfl⟩
    · exact ⟨by rintro param (_ | ⟨_, _ | ⟨_, ⟨⟩⟩⟩) <;> rfl, rfl⟩

/-- The sample client and the sample server agree on the greeting. -/
theorem sayHello_agree : ∃ client server, Agree client server sayHello := by
  let shape : CallShape := ⟨.unary, .none, .deferred, false, helloRequest, helloReply⟩
  have forClients : shape.ForClients sayHello := ⟨rfl, ⟨rfl, rfl⟩, rfl, nofun⟩
  have forServers : shape.ForServers sayHello := ⟨rfl, ⟨rfl, rfl⟩, nofun⟩
  obtain ⟨table, binding, -, -, agree⟩ := greeterService_sole.client_and_server_agree
  obtain ⟨client_iff, server_iff, agrees⟩ := agree sayHello List.mem_cons_self
  obtain ⟨client, client_eq⟩ := client_iff.mpr ⟨shape, forClients⟩
  obtain ⟨server, server_mem, same_name⟩ := server_iff.mpr ⟨shape, forServers⟩
  have registered : ⟨server.handler.callKind, server⟩ ∈ binding.registrations :=
    List.mem_map.mpr ⟨server, server_mem, rfl⟩
  exact ⟨client, _, agrees client client_eq _ registered same_name⟩

end Sample

end RpcContracts
