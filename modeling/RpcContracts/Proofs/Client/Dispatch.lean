import RpcContracts.Proofs.Client.Calls
import RpcContracts.Proofs.Contract.Inspection
import RpcContracts.Proofs.Marshal.Resolution
import RpcContracts.Sample.Contracts

/-!
# What a dispatch table holds

A table is filled by two passes, one over the operations and one over the methods without a call
shape. This file says for each declared method what its entry does: it issues one call wherever a
client can express the method, and otherwise fails every call without issuing any.
-/

namespace RpcContracts

/-! ## Binding one method -/

/-- Only servers can express the calls of the shape. -/
def CallShape.isServerOnly (shape : CallShape) : Bool :=
  shape.responseWriter || shape.contextKind = .serverContext

/-- The marshallers resolved after a client bound an operation of a shape. -/
def CallShape.clientCacheAfter (shape : CallShape) (cache : MarshallerCache) : MarshallerCache :=
  if shape.isServerOnly then cache else cache.afterPayloads shape

namespace Signature

/-- A client can express the calls of the method, and both payload types have a marshaller. -/
structure Callable (method : Signature) (cache : MarshallerCache) (shape : CallShape) : Prop where
  classified : method.shape? = some shape
  noWriter : ∀ param ∈ method.params, param.wrapper? ≠ some .streamWriter
  noServerContext : ∀ param ∈ method.params, param.plain? ≠ some .serverCallContext
  resolved : (cache.payloads? shape).isSome = true

/-- Why a client cannot bind a method. -/
inductive Refused (method : Signature) (cache : MarshallerCache) : String → Prop where
  | shapeless : method.shape? = none → Refused method cache "signature matches no call shape"
  | writer {shape : CallShape} : method.shape? = some shape → shape.responseWriter = true →
      Refused method cache (ContractError.unsupportedShape method.name
        "response writer parameters are only available to servers").message
  | serverContext {shape : CallShape} : method.shape? = some shape →
      shape.responseWriter = false → shape.contextKind = .serverContext →
      Refused method cache (ContractError.unsupportedShape method.name
        "ServerCallContext parameters are only available to servers").message
  | marshaller {shape : CallShape} {type : DeclaredType} : method.shape? = some shape →
      shape.isServerOnly = false → cache.Lacks shape type →
      Refused method cache (ContractError.missingMarshaller type.name).message

theorem callable_iff {method : Signature} {cache : MarshallerCache} {shape : CallShape}
    (classified : method.shape? = some shape) :
    method.Callable cache shape ↔
      shape.isServerOnly = false ∧ (cache.payloads? shape).isSome = true := by
  have described := describes_of_shape? classified
  have writer_iff := described.responseWriter_iff
  have context_iff := described.serverContext_iff
  unfold CallShape.isServerOnly
  rw [Bool.or_eq_false_iff, decide_eq_false_iff_not, ← Bool.not_eq_true, writer_iff, context_iff]
  constructor
  · rintro ⟨-, noWriter, noServerContext, resolved⟩
    refine ⟨⟨?_, ?_⟩, resolved⟩
    · rintro ⟨param, param_mem, isWriter⟩
      exact noWriter param param_mem isWriter
    · rintro ⟨param, param_mem, isContext⟩
      exact noServerContext param param_mem isContext
  · rintro ⟨⟨noWriter, noServerContext⟩, resolved⟩
    refine ⟨classified, ?_, ?_, resolved⟩
    · intro param param_mem isWriter
      exact noWriter ⟨param, param_mem, isWriter⟩
    · intro param param_mem isContext
      exact noServerContext ⟨param, param_mem, isContext⟩

end Signature

namespace ClientMethod

/-- An operation is bound unless a client cannot express it or a payload type has no marshaller. -/
theorem bind_cases {operation : Operation}
    (classified : operation.method.shape? = some operation.shape) (service : String)
    (cache : MarshallerCache) :
    (∃ payloads, operation.shape.isServerOnly = false ∧
      cache.payloads? operation.shape = some payloads ∧
      bind service operation cache =
        (.ok (ofShape ⟨operation.reference service, payloads.1, payloads.2⟩ operation.shape),
          operation.shape.clientCacheAfter cache)) ∨
    ∃ error, operation.method.Refused cache error.message ∧
      (operation.shape.isServerOnly = false → cache.payloads? operation.shape = none) ∧
      bind service operation cache = (.error error, operation.shape.clientCacheAfter cache) := by
  unfold bind CallShape.clientCacheAfter
  split
  · next writes =>
      refine .inr ⟨_, .writer classified writes, ?_, ?_⟩
      · simp [CallShape.isServerOnly, writes]
      · simp [CallShape.isServerOnly, writes]
  · next noWriter =>
      have noWriter_eq := Bool.eq_false_iff.mpr noWriter
      split
      · next isContext =>
          refine .inr ⟨_, .serverContext classified noWriter_eq isContext, ?_, ?_⟩
          · simp [CallShape.isServerOnly, isContext]
          · simp [CallShape.isServerOnly, isContext]
      · next noContext =>
          have expressible : operation.shape.isServerOnly = false := by
            simp [CallShape.isServerOnly, noWriter_eq, noContext]
          rw [if_neg (Bool.eq_false_iff.mp expressible)]
          cases resolved : cache.payloads? operation.shape with
          | none =>
              obtain ⟨type, lacks, error_eq⟩ :=
                WireMethod.resolve_of_no_payloads resolved (operation.reference service)
              refine .inr ⟨_, .marshaller classified expressible lacks, fun _ => rfl, ?_⟩
              simp only [error_eq]
          | some payloads =>
              have wire_eq := WireMethod.resolve_of_payloads resolved (operation.reference service)
              refine .inl ⟨payloads, expressible, rfl, ?_⟩
              simp only [wire_eq, form_of_described (describes_of_shape? classified)]
              rfl

end ClientMethod

/-! ## Entries -/

/-- The entry of an operation. -/
def Operation.clientEntry (operation : Operation) (service : String) (cache : MarshallerCache) :
    ClientEntry :=
  match (ClientMethod.bind service operation cache).1 with
  | .ok method => .bound method
  | .error error => .unsupported (operation.method.name ++ ": " ++ error.message)

/-- The entry of a method without a call shape. -/
def shapelessEntry (name : String) : ClientEntry :=
  .unsupported (name ++ ": signature matches no call shape")

/-- The entries of operations that are bound one after another. -/
def clientEntries (service : String) (cache : MarshallerCache) :
    List Operation → List (String × ClientEntry)
  | [] => []
  | operation :: rest =>
      (operation.method.name, operation.clientEntry service cache) ::
        clientEntries service (ClientMethod.bind service operation cache).2 rest

theorem keys_clientEntries (service : String) (operations : List Operation)
    (cache : MarshallerCache) :
    (clientEntries service cache operations).map Prod.fst =
      operations.map fun operation => operation.method.name := by
  induction operations generalizing cache with
  | nil => rfl
  | cons operation rest ih => rw [clientEntries, List.map_cons, ih, List.map_cons]

theorem clientEntries_append (service : String) (front back : List Operation)
    (cache : MarshallerCache) :
    clientEntries service cache (front ++ back) =
      clientEntries service cache front ++
        clientEntries service
          (front.foldl (fun cache operation => (ClientMethod.bind service operation cache).2) cache)
          back := by
  induction front generalizing cache with
  | nil => rfl
  | cons operation front ih =>
      rw [List.cons_append, clientEntries, ih, clientEntries, List.cons_append, List.foldl_cons]

theorem lookup_eq_of_mem {α : Type u} {entries : List (String × α)} {key : String} {value : α}
    (keys_nodup : (entries.map Prod.fst).Nodup) (entry_mem : (key, value) ∈ entries) :
    entries.lookup key = some value := by
  induction entries with
  | nil => cases entry_mem
  | cons entry rest ih =>
      obtain ⟨first, stored⟩ := entry
      obtain ⟨first_fresh, rest_nodup⟩ := List.nodup_cons.mp keys_nodup
      obtain here | later := List.mem_cons.mp entry_mem
      · obtain ⟨rfl, rfl⟩ := Prod.mk.inj here
        exact List.lookup_cons_self
      · have different : key ≠ first := by
          rintro rfl
          exact first_fresh (List.mem_map.mpr ⟨(key, value), later, rfl⟩)
        rw [List.lookup_cons, beq_false_of_ne different]
        exact ih rest_nodup later

namespace DispatchTable

theorem insert_fresh {table : DispatchTable} {name : String} (fresh : name ∉ table.methods)
    (entry : ClientEntry) :
    table.insert name entry = ⟨table.service, table.entries ++ [(name, entry)]⟩ := by
  have absent : table.get? name = none := by
    rw [get?, List.lookup_eq_none_iff]
    intro existing existing_mem
    have different : name ≠ existing.1 := by
      rintro rfl
      exact fresh (List.mem_map.mpr ⟨existing, existing_mem, rfl⟩)
    exact bne_iff_ne.mpr different
  simp [insert, absent]

/-- With distinct new names every operation adds its entry at the end. -/
theorem addOperations_value (operations : List Operation) (table : DispatchTable)
    (cache : MarshallerCache)
    (distinct : (table.methods ++ operations.map fun operation => operation.method.name).Nodup) :
    (table.addOperations cache operations).value.1 =
      ⟨table.service, table.entries ++ clientEntries table.service cache operations⟩ := by
  induction operations generalizing table cache with
  | nil => simp [addOperations, Logged.quiet, clientEntries]
  | cons operation rest ih =>
      have fresh : operation.method.name ∉ table.methods := notMem_of_nodup distinct
      have added (entry : ClientEntry) (after : MarshallerCache) :
          ((table.insert operation.method.name entry).addOperations after rest).value.1 =
            ⟨table.service, table.entries ++ (operation.method.name, entry) ::
              clientEntries table.service after rest⟩ := by
        rw [insert_fresh fresh, ih]
        · rw [List.append_assoc, List.singleton_append]
        · simpa [methods] using distinct
      rw [addOperations, clientEntries, Operation.clientEntry]
      cases ClientMethod.bind table.service operation cache with
      | mk result after =>
          cases result with
          | ok method => exact added (.bound method) after
          | error error =>
              exact added (.unsupported (operation.method.name ++ ": " ++ error.message)) after

/-- With distinct new names every method without a shape adds its entry at the end. -/
theorem addUnmatched_value (names : List String) (table : DispatchTable)
    (distinct : (table.methods ++ names).Nodup) :
    table.addUnmatched names =
      ⟨table.service, table.entries ++ names.map fun name => (name, shapelessEntry name)⟩ := by
  induction names generalizing table with
  | nil => simp [addUnmatched]
  | cons name rest ih =>
      have fresh : name ∉ table.methods := notMem_of_nodup distinct
      rw [addUnmatched, List.foldl_cons, insert_fresh fresh]
      have rest_eq := ih ⟨table.service, table.entries ++ [(name, shapelessEntry name)]⟩
        (by simpa [methods] using distinct)
      refine rest_eq.trans ?_
      simp

end DispatchTable

/-! ## The table of a contract -/

/-- The shape that a client tries to bind a method with. -/
def Signature.clientShape? (method : Signature) : Option CallShape :=
  method.shape?.filter fun shape => !shape.isServerOnly

/-- The marshallers resolved before the turn of a method that is declared after others. -/
def clientCache (cache : MarshallerCache) (earlier : List Signature) : MarshallerCache :=
  cache.afterShapes (earlier.filterMap Signature.clientShape?)

theorem ClientMethod.bind_snd {operation : Operation}
    (classified : operation.method.shape? = some operation.shape) (service : String)
    (cache : MarshallerCache) :
    (bind service operation cache).2 = operation.shape.clientCacheAfter cache := by
  obtain ⟨payloads, -, -, bind_eq⟩ | ⟨error, -, -, bind_eq⟩ :=
    bind_cases classified service cache
  · rw [bind_eq]
  · rw [bind_eq]

/-- Operations of declared methods leave the marshallers of their shapes. -/
theorem foldl_bind_snd (service : String) (earlier : List Signature) (cache : MarshallerCache) :
    (earlier.filterMap Signature.operation?).foldl
        (fun cache operation => (ClientMethod.bind service operation cache).2) cache =
      clientCache cache earlier := by
  induction earlier generalizing cache with
  | nil => rfl
  | cons method earlier ih =>
      unfold clientCache at ih ⊢
      cases shape_eq : method.shape? with
      | none =>
          have noOperation := Signature.operation?_eq_none.mpr shape_eq
          have noShape : method.clientShape? = none := by simp [Signature.clientShape?, shape_eq]
          rw [List.filterMap_cons_none noOperation, List.filterMap_cons_none noShape, ih]
      | some shape =>
          have operation_eq := Signature.operation?_of_classified shape_eq
          rw [List.filterMap_cons_some operation_eq, List.foldl_cons,
            ClientMethod.bind_snd shape_eq, ih, CallShape.clientCacheAfter]
          cases serverOnly : shape.isServerOnly with
          | true =>
              have noShape : method.clientShape? = none := by
                simp [Signature.clientShape?, shape_eq, serverOnly]
              rw [List.filterMap_cons_none noShape]
              rfl
          | false =>
              have hasShape : method.clientShape? = some shape := by
                simp [Signature.clientShape?, shape_eq, serverOnly]
              rw [List.filterMap_cons_some hasShape]
              rfl

/-- The entry of a declared method. -/
def Signature.clientEntry (method : Signature) (service : String) (cache : MarshallerCache) :
    ClientEntry :=
  match method.operation? with
  | none => shapelessEntry method.name
  | some operation => operation.clientEntry service cache

theorem names_perm (methods : List Signature) :
    ((methods.filterMap Signature.operation?).map (fun operation => operation.method.name) ++
      unmatchedNames methods).Perm (methods.map Signature.name) := by
  induction methods with
  | nil => exact .nil
  | cons method rest ih =>
      unfold unmatchedNames at ih ⊢
      cases shape_eq : method.shape? with
      | none =>
          have noOperation := Signature.operation?_eq_none.mpr shape_eq
          rw [List.filterMap_cons_none noOperation, List.filter_cons, shape_eq]
          exact List.perm_middle.trans (ih.cons method.name)
      | some shape =>
          have operation_eq := Signature.operation?_of_classified shape_eq
          rw [List.filterMap_cons_some operation_eq, List.filter_cons, shape_eq]
          exact ih.cons method.name

namespace DispatchTable

section

variable {contract : Contract} {service : Service} (isInterface : contract.isInterface = true)
  (names_nodup : (contract.methods.map Signature.name).Nodup)
  (inspected : contract.inspect.value = .ok service) (cache : MarshallerCache)

include isInterface names_nodup inspected

/-- The table of an interface holds its operations and then its methods without a shape. -/
theorem build_value :
    (build contract cache).value.1 = .ok ⟨service.name,
      clientEntries service.name cache (contract.methods.filterMap Signature.operation?) ++
        (unmatchedNames contract.methods).map fun name => (name, shapelessEntry name)⟩ := by
  obtain ⟨-, service_eq, -⟩ := Contract.inspect_ok inspected
  have eligible_eq : contract.eligible = contract.methods := by
    unfold Contract.isInterface at isInterface
    simp [Contract.eligible, of_decide_eq_true isInterface]
  have operations_eq :
      service.operations = contract.methods.filterMap Signature.operation? := by
    rw [service_eq, Contract.exposedAs, Contract.operations, eligible_eq]
  have unmatched_eq : service.unmatched = unmatchedNames contract.methods := by
    rw [service_eq, Contract.exposedAs, eligible_eq]
  have distinct := (names_perm contract.methods).nodup_iff.mpr names_nodup
  have added := addOperations_value service.operations ⟨service.name, []⟩ cache (by
    rw [operations_eq]
    exact (List.nodup_append.mp distinct).1)
  have keys_eq := keys_clientEntries service.name service.operations cache
  rw [build, if_pos isInterface, Logged.value_bind, inspected]
  simp only [Logged.value_map]
  rw [added, addUnmatched_value]
  · rw [operations_eq, unmatched_eq, List.nil_append]
  · rw [methods, List.nil_append, keys_eq, operations_eq, unmatched_eq]
    exact distinct

/-- Every declared method has the entry that the marshallers before its turn give it. -/
theorem exists_build :
    ∃ table, (build contract cache).value.1 = .ok table ∧ table.service = service.name ∧
      table.methods.Perm (contract.methods.map Signature.name) ∧
      ∀ earlier method later, contract.methods = earlier ++ method :: later →
        table.get? method.name =
          some (method.clientEntry service.name (clientCache cache earlier)) := by
  let table : DispatchTable := ⟨service.name,
    clientEntries service.name cache (contract.methods.filterMap Signature.operation?) ++
      (unmatchedNames contract.methods).map fun name => (name, shapelessEntry name)⟩
  have methods_eq : table.methods =
      (contract.methods.filterMap Signature.operation?).map
          (fun operation => operation.method.name) ++
        unmatchedNames contract.methods := by
    rw [methods, List.map_append, keys_clientEntries, List.map_map]
    exact congrArg _ (List.map_id _)
  have methods_perm : table.methods.Perm (contract.methods.map Signature.name) := by
    rw [methods_eq]
    exact names_perm contract.methods
  refine ⟨table, build_value isInterface names_nodup inspected cache, rfl, methods_perm, ?_⟩
  intro earlier method later split_eq
  apply lookup_eq_of_mem (methods_perm.nodup_iff.mpr names_nodup)
  rw [List.mem_append]
  cases operation_eq : method.operation? with
  | none =>
      have shapeless := Signature.operation?_eq_none.mp operation_eq
      right
      refine List.mem_map.mpr ⟨method.name, ?_, ?_⟩
      · refine List.mem_map.mpr ⟨method, List.mem_filter.mpr ⟨?_, ?_⟩, rfl⟩
        · rw [split_eq]
          exact List.mem_append_right _ List.mem_cons_self
        · rw [shapeless]
          rfl
      · rw [Signature.clientEntry, operation_eq]
  | some operation =>
      obtain ⟨shape, -, rfl⟩ := Signature.operation?_eq_some.mp operation_eq
      left
      rw [split_eq, List.filterMap_append, List.filterMap_cons_some operation_eq,
        clientEntries_append, foldl_bind_snd]
      apply List.mem_append_right
      rw [clientEntries, Signature.clientEntry, operation_eq]
      exact List.mem_cons_self

end

end DispatchTable

/-! ## Calling through an entry -/

/-- A bound method makes the calls of a declared method: under its full name, with the marshallers
of its payload types, and for arguments of the declared types by one issued call whose outcome is
what the declared return type is made from. -/
structure ClientMethod.Calls (bound : ClientMethod) (service : String) (method : Signature)
    (cache : MarshallerCache) (shape : CallShape) : Prop where
  reference_eq : bound.wire.reference =
    ⟨service, method.operationName, shape.callKind, method.name⟩
  fullName_eq : bound.wire.reference.fullName = "/" ++ service ++ "/" ++ method.operationName
  marshallers_eq : cache.payloads? shape =
    some (bound.wire.requestMarshaller, bound.wire.responseMarshaller)
  returns_form : method.returns.IsReturned (ReturnForm.ofShape shape.responseShape)
    shape.responseType
  issues : ∀ transport values history memory,
    values.map Value.type = method.params.map DeclaredType.valueType →
      ∃ issued, bound.Issues shape transport values history memory issued

/-- A bound method of a callable method makes its calls. -/
theorem Signature.Callable.calls {method : Signature} {cache : MarshallerCache} {shape : CallShape}
    (callable : method.Callable cache shape) (service : String) :
    ∃ bound, method.clientEntry service cache = .bound bound ∧
      bound.Calls service method cache shape := by
  have classified := callable.classified
  have described := describes_of_shape? classified
  obtain ⟨expressible, resolved⟩ := (callable_iff classified).mp callable
  let operation : Operation := ⟨method.operationName, shape, method⟩
  have operation_eq : method.operation? = some operation := operation?_of_classified classified
  have operation_classified : operation.method.shape? = some operation.shape := classified
  obtain ⟨noWriter, noContext⟩ := Bool.or_eq_false_iff.mp expressible
  obtain ⟨payloads, -, payloads_eq, bind_eq⟩ | ⟨error, -, unresolved, -⟩ :=
    ClientMethod.bind_cases operation_classified service cache
  · refine ⟨.ofShape ⟨operation.reference service, payloads.1, payloads.2⟩ shape, ?_, rfl, rfl,
      payloads_eq, described.returns.isReturned noWriter, ?_⟩
    · simp only [clientEntry, operation_eq, Operation.clientEntry, bind_eq]
      rfl
    · intro transport values history memory values_types
      exact ClientMethod.exists_issues described noWriter (of_decide_eq_false noContext) _ transport
        values_types history memory
  · rw [unresolved expressible] at resolved
    cases resolved

/-- An entry of a method that is not callable fails every call for a reason, and issues none. -/
theorem Signature.refused_of_not_callable {method : Signature} {cache : MarshallerCache}
    (refused : ∀ shape, ¬method.Callable cache shape) (service : String) :
    ∃ reason, method.Refused cache reason ∧
      method.clientEntry service cache = .unsupported (method.name ++ ": " ++ reason) := by
  cases classified : method.shape? with
  | none =>
      have noOperation := operation?_eq_none.mpr classified
      refine ⟨_, .shapeless classified, ?_⟩
      simp only [clientEntry, noOperation]
      rw [String.append_assoc]
      rfl
  | some shape =>
      let operation : Operation := ⟨method.operationName, shape, method⟩
      have operation_eq : method.operation? = some operation :=
        operation?_of_classified classified
      have operation_classified : operation.method.shape? = some operation.shape := classified
      obtain ⟨payloads, expressible, payloads_eq, -⟩ | ⟨error, reason, -, bind_eq⟩ :=
        ClientMethod.bind_cases operation_classified service cache
      · refine absurd ((callable_iff classified).mpr ⟨expressible, ?_⟩) (refused shape)
        rw [show cache.payloads? shape = some payloads from payloads_eq]
        rfl
      · refine ⟨error.message, reason, ?_⟩
        simp only [clientEntry, operation_eq, Operation.clientEntry, bind_eq]
        rfl

/-- Whatever is bound for a declared method makes its calls. -/
theorem Signature.calls_of_clientEntry {method : Signature} {cache : MarshallerCache}
    {service : String} {bound : ClientMethod}
    (entry_eq : method.clientEntry service cache = .bound bound) :
    ∃ shape, method.Callable cache shape ∧ bound.Calls service method cache shape := by
  by_cases callable : ∃ shape, method.Callable cache shape
  · obtain ⟨shape, callable⟩ := callable
    obtain ⟨called, called_eq, calls⟩ := callable.calls service
    obtain rfl := ClientEntry.bound.inj (called_eq.symm.trans entry_eq)
    exact ⟨shape, callable, calls⟩
  · obtain ⟨reason, -, refused_eq⟩ := refused_of_not_callable (not_exists.mp callable) service
    cases refused_eq.symm.trans entry_eq

/-- The table of an interface with distinct method names has an entry for each of its methods. A
method that a client can express, and whose payload types have marshallers by then, issues one call
per call; every other method fails each call with its name and a reason, and issues none. -/
theorem DispatchTable.build_total {contract : Contract} {service : Service}
    (isInterface : contract.isInterface = true)
    (names_nodup : (contract.methods.map Signature.name).Nodup)
    (inspected : contract.inspect.value = .ok service) (cache : MarshallerCache) :
    ∃ table, (build contract cache).value.1 = .ok table ∧ table.service = service.name ∧
      table.methods.Perm (contract.methods.map Signature.name) ∧
      ∀ earlier method later, contract.methods = earlier ++ method :: later →
        ∃ entry, table.get? method.name = some entry ∧
          (∀ shape, method.Callable (clientCache cache earlier) shape →
            ∃ bound, entry = .bound bound ∧
              bound.Calls service.name method (clientCache cache earlier) shape) ∧
          ((∀ shape, ¬method.Callable (clientCache cache earlier) shape) →
            ∃ reason, method.Refused (clientCache cache earlier) reason ∧
              ∀ transport values history memory calls,
                (entry.call (Transport.recorded transport) values history memory).run calls =
                  ((.failed (.unsupported (method.name ++ ": " ++ reason)), memory), calls)) := by
  obtain ⟨table, built, service_eq, methods_perm, entries⟩ :=
    exists_build isInterface names_nodup inspected cache
  refine ⟨table, built, service_eq, methods_perm, ?_⟩
  intro earlier method later split_eq
  refine ⟨_, entries earlier method later split_eq, ?_, ?_⟩
  · intro shape callable
    exact callable.calls service.name
  · intro refused
    obtain ⟨reason, isReason, entry_eq⟩ :=
      Signature.refused_of_not_callable refused service.name
    refine ⟨reason, isReason, ?_⟩
    intro transport values history memory calls
    rw [entry_eq]
    rfl

namespace Sample

/-- The shape of the sample method that answers at once. -/
def blockingShape : CallShape := ⟨.unary, .none, .sync, false, ping, pong⟩

/-- A transport whose calls with a single response come late. -/
def lateTransport : Transport Id :=
  .ofIssued (fun _ memory => (latePong, memory))
    fun _ memory => (.ofStream (.ofItems [] false), memory)

/-- A request of the sample contract. -/
def firstPing : Value := .payload (.message (.ping 1 "first"))

/-- The sample contract has an entry that issues calls, where the caller waits for a response that
comes late, and one that refuses them. -/
theorem allShapes_table :
    allShapes.isInterface = true ∧ (allShapes.methods.map Signature.name).Nodup ∧
      ∃ table, (DispatchTable.build allShapes .empty).value.1 = .ok table ∧
        (∃ bound, table.get? "blocking_unary" = some (.bound bound) ∧
          bound.Calls "Shapes.AllShapes" blockingUnary .empty blockingShape ∧
          (bound.call (m := Id) lateTransport [firstPing] [] .fresh).1 =
            .completed (.ok (pongOf 1 "late").val)) ∧
        ∃ entry, table.get? "is_valid" = some entry ∧
          ∃ reason, isValid.Refused (clientCache .empty (allShapes.methods.take 10)) reason := by
  have names_nodup : (allShapes.methods.map Signature.name).Nodup := by decide
  have inspected : allShapes.inspect.value = .ok (allShapes.exposedAs "Shapes.AllShapes") := rfl
  obtain ⟨table, table_eq, -, -, entries⟩ :=
    DispatchTable.build_total rfl names_nodup inspected .empty
  refine ⟨rfl, names_nodup, table, table_eq, ?_, ?_⟩
  · obtain ⟨entry, entry_eq, issues, -⟩ :=
      entries [] blockingUnary (allShapes.methods.drop 1) rfl
    have callable : blockingUnary.Callable .empty blockingShape :=
      ⟨rfl, by decide, by decide, rfl⟩
    obtain ⟨bound, rfl, calls⟩ := issues blockingShape callable
    refine ⟨bound, entry_eq, calls, ?_⟩
    obtain ⟨issued, issues⟩ := calls.issues lateTransport [firstPing] [] .fresh rfl
    obtain ⟨call, issue_eq, completes⟩ := issues.completes rfl
    obtain rfl : latePong = call := by
      have entry_kind : issued.entry = .unary := issues.entry_eq
      cases issued <;> cases entry_kind
      exact CallInFlight.single.inj issue_eq
    have quiet : History.hasFired [] issued.head.options.token = false := by
      rw [issues.head_eq]
      rfl
    exact completes.responded latePong_responds quiet
  · obtain ⟨entry, entry_eq, -, refuses⟩ :=
      entries (allShapes.methods.take 10) isValid [] rfl
    have refused : ∀ shape,
        ¬isValid.Callable (clientCache .empty (allShapes.methods.take 10)) shape := by
      intro shape callable
      cases callable.classified
    obtain ⟨reason, isReason, -⟩ := refuses refused
    exact ⟨entry, entry_eq, reason, isReason⟩

end Sample

end RpcContracts
