import Mathlib.Data.List.Forall2
import RpcContracts.Proofs.Contract.Inspection
import RpcContracts.Proofs.Marshal.Resolution
import RpcContracts.Proofs.Server.Adapters
import RpcContracts.Sample.Services
import RpcContracts.Server.Binder

/-!
# What a binder binds

Building goes through the sources of a service and through the operations of each, and stops at the
first name that is taken. This file lists the declared operations without that pass and proves that
the build fails exactly when two of them collide and otherwise binds exactly those that can be
bound, in order.
-/

namespace RpcContracts

/-! ## Declared operations -/

/-- An operation as a source of a service declares it under a service name. -/
structure DeclaredOperation : Type 1 where
  source : Implementation
  service : String
  operation : Operation

namespace DeclaredOperation

/-- What has to be distinct among all operations of a service type. -/
def key (declared : DeclaredOperation) : String × String :=
  (declared.service, declared.operation.name)

/-- Name of the declaring method. -/
def method (declared : DeclaredOperation) : String := declared.operation.method.name

/-- The function attached to the declaring method. -/
def invoker? (declared : DeclaredOperation) : Option Invoker :=
  declared.source.invoker? declared.method

/-- The shape is that of the declaring method. -/
def IsClassified (declared : DeclaredOperation) : Prop :=
  declared.operation.method.shape? = some declared.operation.shape

/-- The error of an operation whose key is taken by another. -/
def duplicateError (first second : DeclaredOperation) : ContractError :=
  .duplicateOperation second.service second.operation.name first.method second.method

/-- The marshallers resolved after an operation had its turn. Without a function nothing is tried.
-/
def cacheAfter (declared : DeclaredOperation) (cache : MarshallerCache) : MarshallerCache :=
  if declared.invoker?.isSome then cache.afterPayloads declared.operation.shape else cache

/-- An operation can be bound with the marshallers resolved so far. -/
structure Bindable (declared : DeclaredOperation) (cache : MarshallerCache) : Prop where
  attached : declared.invoker?.isSome = true
  resolved : (cache.payloads? declared.operation.shape).isSome = true
  served : declared.operation.shape.contextKind ≠ .plainOptions

instance (declared : DeclaredOperation) (cache : MarshallerCache) :
    Decidable (declared.Bindable cache) :=
  decidable_of_iff
    (declared.invoker?.isSome = true ∧ (cache.payloads? declared.operation.shape).isSome = true ∧
      declared.operation.shape.contextKind ≠ .plainOptions)
    ⟨fun ⟨attached, resolved, served⟩ => ⟨attached, resolved, served⟩,
      fun ⟨attached, resolved, served⟩ => ⟨attached, resolved, served⟩⟩

/-- Each operation of a list with the marshallers resolved before its turn. -/
def withCaches (cache : MarshallerCache) :
    List DeclaredOperation → List (DeclaredOperation × MarshallerCache)
  | [] => []
  | declared :: rest => (declared, cache) :: withCaches (declared.cacheAfter cache) rest

/-- The marshallers resolved after a list of operations. -/
def cacheAfterAll (cache : MarshallerCache) (declared : List DeclaredOperation) :
    MarshallerCache :=
  declared.foldl (fun cache operation => operation.cacheAfter cache) cache

/-- The operations of a list that can be bound, with the marshallers resolved before their turn. -/
def bindable (cache : MarshallerCache) (declared : List DeclaredOperation) :
    List (DeclaredOperation × MarshallerCache) :=
  (withCaches cache declared).filter fun turn => turn.1.Bindable turn.2

theorem cacheAfterAll_concat (cache : MarshallerCache) (front : List DeclaredOperation)
    (last : DeclaredOperation) :
    cacheAfterAll cache (front ++ [last]) = last.cacheAfter (cacheAfterAll cache front) := by
  simp [cacheAfterAll, List.foldl_append]

theorem withCaches_concat (cache : MarshallerCache) (front : List DeclaredOperation)
    (last : DeclaredOperation) :
    withCaches cache (front ++ [last]) =
      withCaches cache front ++ [(last, cacheAfterAll cache front)] := by
  induction front generalizing cache with
  | nil => rfl
  | cons first front ih =>
      rw [List.cons_append, withCaches, ih, withCaches, List.cons_append]
      rfl

theorem map_fst_withCaches (cache : MarshallerCache) (declared : List DeclaredOperation) :
    (withCaches cache declared).map Prod.fst = declared := by
  induction declared generalizing cache with
  | nil => rfl
  | cons first rest ih => rw [withCaches, List.map_cons, ih]

/-- The operations that can be bound are among those listed, in order. -/
theorem map_fst_bindable_sublist (cache : MarshallerCache) (declared : List DeclaredOperation) :
    ((bindable cache declared).map Prod.fst).Sublist declared := by
  have filtered := (List.filter_sublist (p := fun turn => turn.1.Bindable turn.2)
    (l := withCaches cache declared)).map Prod.fst
  rwa [map_fst_withCaches] at filtered

theorem bindable_concat (cache : MarshallerCache) (front : List DeclaredOperation)
    (last : DeclaredOperation) :
    bindable cache (front ++ [last]) =
      bindable cache front ++
        if last.Bindable (cacheAfterAll cache front) then [(last, cacheAfterAll cache front)]
        else [] := by
  rw [bindable, withCaches_concat, List.filter_append, bindable, List.filter_singleton]
  simp

end DeclaredOperation

namespace HostedService

/-- The operations that a source declares; without a service name it declares none. -/
def declaredBy (source : Implementation) : List DeclaredOperation :=
  match source.contract.serviceName? with
  | none => []
  | some name => source.contract.operations.map fun operation => ⟨source, name, operation⟩

/-- The contract of the type itself and then the implemented ones, without untagged interfaces. -/
def counted (service : HostedService) : List Implementation :=
  service.own :: service.implemented.filter fun source =>
    !(source.contract.isInterface && !source.contract.isTagged)

/-- All operations of a service type, in order. -/
def declared (service : HostedService) : List DeclaredOperation :=
  service.counted.flatMap declaredBy

theorem declaredBy_of_named {source : Implementation} {name : String}
    (named : source.contract.serviceName? = some name) :
    declaredBy source =
      source.contract.operations.map fun operation => ⟨source, name, operation⟩ := by
  simp only [declaredBy, named]

theorem value_sources (service : HostedService) : service.sources.value = service.counted := by
  have counted_eq : ∀ implemented, (service.countedContracts implemented).value =
      implemented.filter fun source =>
        !(source.contract.isInterface && !source.contract.isTagged) := by
    intro implemented
    induction implemented with
    | nil => rfl
    | cons source rest ih =>
        rw [countedContracts]
        split
        · next ignored => rw [Logged.value_after, ih, List.filter_cons, ignored]; rfl
        · next kept => rw [Logged.value_map, ih, List.filter_cons]; simp [kept]
  rw [sources, Logged.value_map, counted_eq]
  rfl

end HostedService

theorem forall₂_exists_of_mem {α : Type u} {β : Type v} {related : α → β → Prop} {front : List α}
    {back : List β} (all : List.Forall₂ related front back) :
    (∀ first ∈ front, ∃ second ∈ back, related first second) ∧
      ∀ second ∈ back, ∃ first ∈ front, related first second := by
  induction all with
  | nil => exact ⟨nofun, nofun⟩
  | cons head _ ih =>
      obtain ⟨forward, backward⟩ := ih
      constructor
      · rintro first first_mem
        obtain rfl | later := List.mem_cons.mp first_mem
        · exact ⟨_, List.mem_cons_self, head⟩
        · obtain ⟨second, second_mem, relates⟩ := forward first later
          exact ⟨second, List.mem_cons_of_mem _ second_mem, relates⟩
      · rintro second second_mem
        obtain rfl | later := List.mem_cons.mp second_mem
        · exact ⟨_, List.mem_cons_self, head⟩
        · obtain ⟨first, first_mem, relates⟩ := backward second later
          exact ⟨first, List.mem_cons_of_mem _ first_mem, relates⟩

/-! ## Binding one operation -/

/-- A custom value of a method hides that of its service. -/
theorem EndpointMetadata.custom?_ofLayers (service method : List Annotation) (key : String) :
    (ofLayers service method).custom? key =
      ((mk method).custom? key).or ((mk service).custom? key) := by
  simp [ofLayers, custom?, List.reverse_append, List.findSome?_append]

/-- A bound method is what an operation becomes with the marshallers resolved so far: its identity
on the wire, the annotations of the service type and its own, and a handler of its call kind. -/
structure BoundMethod.Binds (bound : BoundMethod) (annotations : List Annotation)
    (declared : DeclaredOperation) (cache : MarshallerCache) : Prop where
  reference_eq : bound.wire.reference = declared.operation.reference declared.service
  marshallers_eq : cache.payloads? declared.operation.shape =
    some (bound.wire.requestMarshaller, bound.wire.responseMarshaller)
  metadata_eq : bound.metadata.items = annotations ++ declared.operation.method.annotations
  custom_eq : ∀ key, bound.metadata.custom? key =
    ((EndpointMetadata.mk declared.operation.method.annotations).custom? key).or
      ((EndpointMetadata.mk annotations).custom? key)
  handler_eq : ∃ invoker, declared.invoker? = some invoker ∧
    ServerHandler.of declared.operation invoker = .ok bound.handler
  callKind_eq : bound.handler.callKind = declared.operation.shape.callKind

/-- An operation is bound exactly when it can be, and in both cases leaves the marshallers of its
turn. -/
theorem DeclaredOperation.bind_cases {declared : DeclaredOperation}
    (classified : declared.IsClassified) (annotations : List Annotation)
    (cache : MarshallerCache) :
    (declared.Bindable cache ∧ ∃ bound : BoundMethod,
      declared.source.bind declared.service declared.operation annotations cache =
          (.ok bound, declared.cacheAfter cache) ∧
        bound.Binds annotations declared cache) ∨
    ¬declared.Bindable cache ∧ ∃ error,
      declared.source.bind declared.service declared.operation annotations cache =
        (.error error, declared.cacheAfter cache) := by
  obtain ⟨source, service, operation⟩ := declared
  have described : operation.shape.Describes operation.method := describes_of_shape? classified
  unfold Implementation.bind cacheAfter
  cases attached : source.invoker? operation.method.name with
  | none =>
      have invoker_eq : invoker? ⟨source, service, operation⟩ = none := attached
      refine .inr ⟨fun bindable => ?_, _, by rw [invoker_eq]; rfl⟩
      cases invoker_eq ▸ bindable.attached
  | some invoker =>
      have invoker_eq : invoker? ⟨source, service, operation⟩ = some invoker := attached
      rw [invoker_eq, if_pos Option.isSome_some]
      cases resolved : cache.payloads? operation.shape with
      | none =>
          obtain ⟨type, -, error_eq⟩ :=
            WireMethod.resolve_of_no_payloads resolved (operation.reference service)
          refine .inr ⟨fun bindable => ?_, .missingMarshaller type.name, by simp only [error_eq]⟩
          cases resolved ▸ bindable.resolved
      | some payloads =>
          have wire_eq := WireMethod.resolve_of_payloads resolved (operation.reference service)
          simp only [wire_eq]
          obtain ⟨refused, error, error_eq⟩ | ⟨served, handler, handler_eq, adapts⟩ :=
            ServerHandler.of_described described invoker
          · refine .inr ⟨fun bindable => bindable.served refused, error, ?_⟩
            rw [error_eq]
            rfl
          · let bound : BoundMethod :=
              ⟨⟨operation.reference service, payloads.1, payloads.2⟩,
                .ofLayers annotations operation.method.annotations, handler⟩
            refine .inl ⟨⟨?_, ?_, served⟩, bound, ?_, ?_⟩
            · rw [invoker_eq]
              rfl
            · rw [resolved]
              rfl
            · rw [handler_eq]
              rfl
            · exact ⟨rfl, resolved, rfl, EndpointMetadata.custom?_ofLayers annotations _,
                ⟨invoker, invoker_eq, handler_eq⟩, adapts.callKind_eq⟩

/-! ## Binding all operations -/

/-- Building has gone through the operations seen so far: those that can be bound are, all of them
are known by their keys, and the keys are distinct. -/
structure BindingProgress.Reached (progress : BindingProgress) (annotations : List Annotation)
    (cache : MarshallerCache) (seen : List DeclaredOperation) : Prop where
  methods_bind : List.Forall₂ (fun turn bound => bound.Binds annotations turn.1 turn.2)
    (DeclaredOperation.bindable cache seen) progress.methods
  declared_eq : progress.declared = seen.map fun declared => (declared.key, declared.method)
  marshallers_eq : progress.marshallers = DeclaredOperation.cacheAfterAll cache seen
  keys_nodup : (seen.map DeclaredOperation.key).Nodup

namespace BindingProgress

variable {progress : BindingProgress} {annotations : List Annotation} {cache : MarshallerCache}
  {seen : List DeclaredOperation}

theorem reached_start : Reached ⟨[], [], cache⟩ annotations cache [] :=
  ⟨.nil, rfl, rfl, List.nodup_nil⟩

theorem lookup_eq_some (declared : DeclaredOperation) {first : String}
    (reached : progress.Reached annotations cache seen)
    (taken : progress.declared.lookup declared.key = some first) :
    ∃ earlier ∈ seen, earlier.key = declared.key ∧ earlier.method = first := by
  rw [reached.declared_eq] at taken
  obtain ⟨front, back, split_eq, -⟩ := List.lookup_eq_some_iff.mp taken
  have pair_mem : (declared.key, first) ∈
      seen.map fun declared => (declared.key, declared.method) := by
    rw [split_eq]
    simp
  obtain ⟨earlier, earlier_mem, pair_eq⟩ := List.mem_map.mp pair_mem
  obtain ⟨key_eq, method_eq⟩ := Prod.mk.inj pair_eq
  exact ⟨earlier, earlier_mem, key_eq, method_eq⟩

theorem key_notMem (declared : DeclaredOperation)
    (reached : progress.Reached annotations cache seen)
    (fresh : progress.declared.lookup declared.key = none) :
    declared.key ∉ seen.map DeclaredOperation.key := by
  rw [reached.declared_eq, List.lookup_eq_none_iff] at fresh
  intro key_mem
  obtain ⟨earlier, earlier_mem, key_eq⟩ := List.mem_map.mp key_mem
  have different :=
    fresh (earlier.key, earlier.method) (List.mem_map.mpr ⟨earlier, earlier_mem, rfl⟩)
  simp [key_eq] at different

/-- One operation with a fresh key is bound if it can be, and is known from then on. -/
theorem Reached.step (declared : DeclaredOperation)
    (reached : progress.Reached annotations cache seen)
    (fresh : progress.declared.lookup declared.key = none) (classified : declared.IsClassified) :
    (∃ bound, declared.source.bind declared.service declared.operation annotations
          progress.marshallers = (.ok bound, declared.cacheAfter progress.marshallers) ∧
        Reached ⟨progress.methods ++ [bound],
          progress.declared ++ [(declared.key, declared.method)],
          declared.cacheAfter progress.marshallers⟩ annotations cache (seen ++ [declared])) ∨
    ∃ error, declared.source.bind declared.service declared.operation annotations
          progress.marshallers = (.error error, declared.cacheAfter progress.marshallers) ∧
        Reached ⟨progress.methods, progress.declared ++ [(declared.key, declared.method)],
          declared.cacheAfter progress.marshallers⟩ annotations cache (seen ++ [declared]) := by
  have met_eq := reached.marshallers_eq
  have keys_nodup : ((seen ++ [declared]).map DeclaredOperation.key).Nodup := by
    rw [List.map_append]
    exact nodup_concat reached.keys_nodup (key_notMem declared reached fresh)
  have declared_eq : progress.declared ++ [(declared.key, declared.method)] =
      (seen ++ [declared]).map fun declared => (declared.key, declared.method) := by
    rw [List.map_append, reached.declared_eq]
    rfl
  have marshallers_eq : declared.cacheAfter progress.marshallers =
      DeclaredOperation.cacheAfterAll cache (seen ++ [declared]) := by
    rw [DeclaredOperation.cacheAfterAll_concat, met_eq]
  obtain ⟨bindable, bound, bind_eq, binds⟩ | ⟨unbindable, error, bind_eq⟩ :=
    DeclaredOperation.bind_cases classified annotations progress.marshallers
  · refine .inl ⟨bound, bind_eq, ?_, declared_eq, marshallers_eq, keys_nodup⟩
    rw [DeclaredOperation.bindable_concat, if_pos (met_eq ▸ bindable)]
    refine List.rel_append reached.methods_bind (.cons ?_ .nil)
    rwa [← met_eq]
  · refine .inr ⟨error, bind_eq, ?_, declared_eq, marshallers_eq, keys_nodup⟩
    rw [DeclaredOperation.bindable_concat, if_neg (met_eq ▸ unbindable), List.append_nil]
    exact reached.methods_bind

/-- The operations of a source are bound one after another, up to one whose key is taken. -/
theorem addOperations_cases {service : HostedService} (source : Implementation) (name : String)
    (operations : List Operation)
    (classified : ∀ operation ∈ operations, operation.method.shape? = some operation.shape)
    (progress : BindingProgress) (seen : List DeclaredOperation)
    (reached : progress.Reached service.own.contract.annotations cache seen) :
    (∃ after, (addOperations service source name progress operations).value = (.ok (), after) ∧
      after.Reached service.own.contract.annotations cache
        (seen ++ operations.map fun operation => ⟨source, name, operation⟩)) ∨
    ∃ first second after,
      Collide DeclaredOperation.key
          (seen ++ operations.map fun operation => ⟨source, name, operation⟩) first second ∧
        (addOperations service source name progress operations).value =
          (.error (DeclaredOperation.duplicateError first second), after) := by
  induction operations generalizing progress seen with
  | nil => exact .inl ⟨progress, rfl, by simpa using reached⟩
  | cons operation rest ih =>
      let declared : DeclaredOperation := ⟨source, name, operation⟩
      have declared_classified : declared.IsClassified := classified operation List.mem_cons_self
      have rest_classified : ∀ operation ∈ rest,
          operation.method.shape? = some operation.shape :=
        fun later later_mem => classified later (List.mem_cons_of_mem operation later_mem)
      have move : ∀ after : BindingProgress,
          after.Reached service.own.contract.annotations cache (seen ++ [declared]) → _ :=
        fun after => ih rest_classified after (seen ++ [declared])
      simp only [List.append_assoc, List.singleton_append] at move
      rw [addOperations]
      split
      · next first taken =>
          obtain ⟨earlier, earlier_mem, key_eq, rfl⟩ :=
            lookup_eq_some declared reached taken
          exact .inr ⟨earlier, declared, progress, Collide.of_mem earlier_mem key_eq, rfl⟩
      · next fresh =>
          obtain ⟨bound, bind_eq, next⟩ | ⟨error, bind_eq, next⟩ :=
            reached.step declared fresh declared_classified
          · rw [bind_eq]
            exact move _ next
          · rw [bind_eq]
            exact move _ next

/-- The sources are bound one after another, up to the first operation whose key is taken. -/
theorem addSources_cases {service : HostedService} (sources : List Implementation)
    (progress : BindingProgress) (seen : List DeclaredOperation)
    (reached : progress.Reached service.own.contract.annotations cache seen) :
    (∃ after, (addSources service progress sources).value = (.ok (), after) ∧
      after.Reached service.own.contract.annotations cache
        (seen ++ sources.flatMap HostedService.declaredBy)) ∨
    ∃ first second after,
      Collide DeclaredOperation.key (seen ++ sources.flatMap HostedService.declaredBy)
          first second ∧
        (addSources service progress sources).value =
          (.error (DeclaredOperation.duplicateError first second), after) := by
  induction sources generalizing progress seen with
  | nil => exact .inl ⟨progress, rfl, by simpa using reached⟩
  | cons source rest ih =>
      rw [addSources, Logged.value_bind, List.flatMap_cons]
      obtain ⟨nameless, inspect_eq⟩ |
          ⟨name, named, ⟨inspect_eq, distinct⟩ | ⟨first, second, collision, inspect_eq⟩⟩ :=
        source.contract.inspect_cases
      · have declared_nil : HostedService.declaredBy source = [] := by
          simp [HostedService.declaredBy, nameless]
        rw [inspect_eq, declared_nil]
        exact ih progress seen reached
      · have declared_eq := HostedService.declaredBy_of_named named
        rw [inspect_eq, declared_eq, ← List.append_assoc, Logged.value_bind]
        obtain ⟨after, added, reached_after⟩ | ⟨first, second, after, collide, failed⟩ :=
          addOperations_cases source name source.contract.operations
            (fun _ => Contract.shape?_of_mem) progress seen reached
        · simp only [Contract.exposedAs, added]
          exact ih after _ reached_after
        · simp only [Contract.exposedAs, failed]
          exact .inr ⟨first, second, after, collide.mono (List.sublist_append_left _ _), rfl⟩
      · have declared_eq := HostedService.declaredBy_of_named named
        refine .inr ⟨⟨source, name, first⟩, ⟨source, name, second⟩, progress, ?_, ?_⟩
        · rw [declared_eq]
          have sources_collide : Collide DeclaredOperation.key
              (source.contract.operations.map fun operation => ⟨source, name, operation⟩)
              ⟨source, name, first⟩ ⟨source, name, second⟩ :=
            ⟨collision.collide.sublist.map _, congrArg (Prod.mk name) collision.same_key⟩
          exact sources_collide.mono
            ((List.sublist_append_left _ _).trans (List.sublist_append_right _ _))
        · rw [inspect_eq]
          rfl

end BindingProgress

/-! ## Registering -/

theorem Registrar.foldl_add (registrar : Registrar) (methods : List BoundMethod) :
    methods.foldl add registrar =
      ⟨registrar.calls ++ methods.map fun method => ⟨method.handler.callKind, method⟩⟩ := by
  induction methods generalizing registrar with
  | nil => simp
  | cons method rest ih => simp [ih, add]

/-- Registering asks for one method after another, each on the entry of its call kind. -/
theorem Binding.register_eq (binding : Binding) (registrar : Registrar) :
    binding.register registrar =
      (binding.registrations.length, ⟨registrar.calls ++ binding.registrations⟩) := by
  rw [register, registrar.foldl_add, length_registrations]
  rfl

/-! ## Building -/

namespace Binding

section

variable {service : HostedService} (cache : MarshallerCache) {after : BindingProgress}
  (notDefault : service.isDefaultHandler = false)

include notDefault

theorem build_of_added
    (added : (BindingProgress.addSources service ⟨[], [], cache⟩ service.counted).value =
      (.ok (), after)) :
    (build service cache).value = (.ok ⟨service.typeName, after.methods⟩, after.marshallers) := by
  rw [build, if_neg (Bool.eq_false_iff.mp notDefault), Logged.value_bind, Logged.value_map,
    HostedService.value_sources, added]

theorem build_of_failed {error : ContractError}
    (failed : (BindingProgress.addSources service ⟨[], [], cache⟩ service.counted).value =
      (.error error, after)) :
    (build service cache).value = (.error error, after.marshallers) := by
  rw [build, if_neg (Bool.eq_false_iff.mp notDefault), Logged.value_bind, Logged.value_map,
    HostedService.value_sources, failed]

/-- A build either binds all that can be bound or reports two colliding operations. -/
theorem build_cases :
    (∃ after : BindingProgress,
      (build service cache).value = (.ok ⟨service.typeName, after.methods⟩, after.marshallers) ∧
        after.Reached service.own.contract.annotations cache service.declared) ∨
    ∃ first second after, Collide DeclaredOperation.key service.declared first second ∧
      (build service cache).value = (.error (first.duplicateError second), after) := by
  obtain ⟨after, added, reached⟩ | ⟨first, second, after, collide, failed⟩ :=
    BindingProgress.addSources_cases service.counted ⟨[], [], cache⟩ []
      BindingProgress.reached_start
  · exact .inl ⟨after, build_of_added cache notDefault added, reached⟩
  · exact .inr ⟨first, second, _, collide, build_of_failed cache notDefault failed⟩

end

/-- A binding is that of a default handler, which is empty, or what became of all operations. -/
theorem of_build {service : HostedService} {cache : MarshallerCache} {binding : Binding}
    (built : (build service cache).value.1 = .ok binding) :
    binding.methods = [] ∨
      List.Forall₂
          (fun turn bound => BoundMethod.Binds bound service.own.contract.annotations turn.1 turn.2)
          (DeclaredOperation.bindable cache service.declared) binding.methods ∧
        (service.declared.map DeclaredOperation.key).Nodup := by
  cases isDefault : service.isDefaultHandler with
  | true =>
      rw [build, if_pos isDefault] at built
      cases built
      exact .inl rfl
  | false =>
      obtain ⟨after, build_eq, reached⟩ | ⟨first, second, after, -, build_eq⟩ :=
        build_cases cache isDefault
      · rw [build_eq] at built
        cases built
        exact .inr ⟨reached.methods_bind, reached.keys_nodup⟩
      · rw [build_eq] at built
        cases built

/-- The default handler binds nothing. Any other service type fails to build exactly when two of its
operations have the same key, with the error of such a pair; otherwise it binds, in order, exactly
the operations that can be bound, and registering asks for each on the entry of its call kind. -/
theorem build_binds (service : HostedService) (cache : MarshallerCache) :
    (service.isDefaultHandler = true →
      (build service cache).value = (.ok ⟨service.typeName, []⟩, cache)) ∧
    (service.isDefaultHandler = false →
      ((∃ error, (build service cache).value.1 = .error error) ↔
        ∃ first second, Collide DeclaredOperation.key service.declared first second) ∧
      (∀ error, (build service cache).value.1 = .error error →
        ∃ first second, Collide DeclaredOperation.key service.declared first second ∧
          error = first.duplicateError second) ∧
      ∀ binding, (build service cache).value.1 = .ok binding →
        binding.serviceType = service.typeName ∧
        List.Forall₂
          (fun turn bound => bound.Binds service.own.contract.annotations turn.1 turn.2)
          (DeclaredOperation.bindable cache service.declared) binding.methods ∧
        List.Forall₂
          (fun turn registration => registration.entry = turn.1.operation.shape.callKind)
          (DeclaredOperation.bindable cache service.declared) binding.registrations ∧
        binding.registrations.map Registration.method = binding.methods ∧
        ∀ registrar, binding.register registrar =
          (binding.methods.length, ⟨registrar.calls ++ binding.registrations⟩)) := by
  constructor
  · intro isDefault
    rw [build, if_pos isDefault]
    rfl
  · intro notDefault
    obtain ⟨after, build_eq, reached⟩ | ⟨first, second, after, collide, build_eq⟩ :=
      build_cases cache notDefault
    · rw [build_eq]
      refine ⟨⟨?_, ?_⟩, ?_, ?_⟩
      · rintro ⟨error, ⟨⟩⟩
      · rintro ⟨first, second, collide⟩
        exact absurd reached.keys_nodup collide.not_nodup
      · rintro error ⟨⟩
      · intro binding binding_eq
        cases binding_eq
        refine ⟨rfl, reached.methods_bind, ?_, ?_, fun registrar => ?_⟩
        · rw [registrations, List.forall₂_map_right_iff]
          exact reached.methods_bind.imp fun _ _ binds => binds.callKind_eq
        · rw [registrations, List.map_map]
          exact List.map_id _
        · rw [register_eq, length_registrations]
          rfl
    · rw [build_eq]
      refine ⟨⟨fun _ => ⟨first, second, collide⟩, fun _ => ⟨_, rfl⟩⟩, ?_, ?_⟩
      · intro error error_eq
        cases error_eq
        exact ⟨first, second, collide, rfl⟩
      · rintro binding ⟨⟩

end Binding

/-- Both methods of the sample greeter are bound and registered. -/
theorem Sample.greeterService_bound :
    greeterService.isDefaultHandler = false ∧
      ∃ binding, (Binding.build greeterService .empty).value.1 = .ok binding ∧
        binding.size = 2 ∧
        List.Forall₂
          (fun turn bound =>
            BoundMethod.Binds bound greeterService.own.contract.annotations turn.1 turn.2)
          (DeclaredOperation.bindable .empty greeterService.declared) binding.methods ∧
        binding.register .empty = (2, ⟨binding.registrations⟩) := by
  obtain ⟨-, builds⟩ := Binding.build_binds greeterService .empty
  obtain ⟨-, -, binds⟩ := builds rfl
  obtain ⟨-, methods_bind, -, -, registers⟩ := binds _ rfl
  exact ⟨rfl, _, rfl, rfl, methods_bind, registers .empty⟩

end RpcContracts
