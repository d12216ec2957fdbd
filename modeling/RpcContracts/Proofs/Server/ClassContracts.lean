import Mathlib.Data.List.Flatten
import RpcContracts.Proofs.Server.Routing
import RpcContracts.Proofs.Server.Serving

/-!
# Contracts built by a class

A class declares its methods one by one, each with the function that implements it. The signatures
are listed, whereas the functions are kept by method name, so that a later declaration under a name
replaces the function of an earlier one. This file says which function a bound operation of a class
runs: the one declared last under the name of its method, which is its own unless the name was used
again.
-/

namespace RpcContracts

/-! ## Declarations -/

/-- A method as a class declares it. -/
structure ClassMethod : Type 1 where
  name : String
  function : ServiceFunction
  annotations : List Annotation

/-- The signature that is listed. -/
def ClassMethod.signature (method : ClassMethod) : Signature :=
  method.function.signature method.name method.annotations

/-- A step in building the contract of a class. -/
inductive ClassStep : Type 1 where
  | annotate (marker : Annotation)
  | method (name : String) (function : ServiceFunction)
  | operation (name : String) (function : ServiceFunction)
  | namedOperation (name wireName : String) (function : ServiceFunction)
  | declare (name : String) (function : ServiceFunction) (annotations : List Annotation)

namespace ClassStep

/-- Take a step. -/
def apply (implementation : Implementation) : ClassStep → Implementation
  | annotate marker => implementation.annotate marker
  | method name function => implementation.method name function
  | operation name function => implementation.operation name function
  | namedOperation name wireName function => implementation.namedOperation name wireName function
  | declare name function annotations => implementation.declare name function annotations

/-- The method that a step declares. -/
def declares? : ClassStep → Option ClassMethod
  | annotate _ => none
  | method name function => some ⟨name, function, []⟩
  | operation name function => some ⟨name, function, [.operationContract none]⟩
  | namedOperation name wireName function =>
      some ⟨name, function, [.operationContract (some wireName)]⟩
  | declare name function annotations => some ⟨name, function, annotations⟩

theorem apply_of_declares {step : ClassStep} {method : ClassMethod}
    (declares : step.declares? = some method) (implementation : Implementation) :
    step.apply implementation =
      implementation.declare method.name method.function method.annotations := by
  cases step <;> cases declares <;> rfl

theorem apply_of_declares_none {step : ClassStep} (declares : step.declares? = none)
    (implementation : Implementation) :
    ∃ marker, step.apply implementation = implementation.annotate marker := by
  cases step <;> cases declares
  exact ⟨_, rfl⟩

end ClassStep

/-- The contract of a class after some steps. -/
def Implementation.ofSteps (typeName : String) (steps : List ClassStep) : Implementation :=
  steps.foldl ClassStep.apply (.ofClass typeName)

/-- The methods that steps declare, in order. -/
def declaredMethods (steps : List ClassStep) : List ClassMethod :=
  steps.filterMap ClassStep.declares?

/-- The method declared last under a name. -/
def lastNamed (name : String) (methods : List ClassMethod) : Option ClassMethod :=
  methods.reverse.find? fun method => method.name == name

theorem lastNamed_append (name : String) (front back : List ClassMethod) :
    lastNamed name (front ++ back) = (lastNamed name back).or (lastNamed name front) := by
  simp [lastNamed]

theorem lastNamed_eq_none {name : String} {methods : List ClassMethod} :
    lastNamed name methods = none ↔ ∀ method ∈ methods, method.name ≠ name := by
  simp [lastNamed]

/-- Nothing declared under the name of a method before it matters. -/
theorem lastNamed_split (earlier : List ClassMethod) (method : ClassMethod)
    (later : List ClassMethod) :
    lastNamed method.name (earlier ++ method :: later) =
      some ((lastNamed method.name later).getD method) := by
  have here : lastNamed method.name [method] = some method := by simp [lastNamed]
  rw [lastNamed_append, ← List.singleton_append, lastNamed_append, here]
  cases lastNamed method.name later <;> rfl

namespace Implementation

/-- A class contract lists the methods declared so far, and has under each name the function
declared last. -/
structure Lists (implementation : Implementation) (methods : List ClassMethod) : Prop where
  concrete : implementation.contract.kind = .concrete
  signatures : implementation.contract.methods = methods.map ClassMethod.signature
  functions : ∀ name, implementation.invoker? name =
    (lastNamed name methods).map fun method => method.function.invoker

variable {implementation : Implementation} {methods : List ClassMethod}

theorem Lists.annotate (lists : implementation.Lists methods) (marker : Annotation) :
    (implementation.annotate marker).Lists methods :=
  ⟨lists.concrete, lists.signatures, lists.functions⟩

theorem Lists.declare (lists : implementation.Lists methods) (method : ClassMethod) :
    (implementation.declare method.name method.function method.annotations).Lists
      (methods ++ [method]) where
  concrete := lists.concrete
  signatures := by
    rw [List.map_append, ← lists.signatures]
    rfl
  functions := by
    intro name
    rw [lastNamed_append]
    by_cases same : name = method.name
    · subst same
      simp [Implementation.declare, lastNamed]
    · have earlier := lists.functions name
      unfold invoker? at earlier ⊢
      simp only [Implementation.declare, attach, addSignature]
      rw [List.lookup_cons, beq_false_of_ne same, earlier]
      simp [lastNamed, Ne.symm same]

/-- The steps are taken one after another, each to a longer list of declared methods. -/
theorem lists_ofSteps (typeName : String) (steps : List ClassStep) :
    (ofSteps typeName steps).Lists (declaredMethods steps) := by
  suffices run : ∀ (implementation : Implementation) (methods : List ClassMethod),
      implementation.Lists methods →
        (steps.foldl ClassStep.apply implementation).Lists (methods ++ declaredMethods steps) by
    exact run (.ofClass typeName) [] ⟨rfl, rfl, fun _ => rfl⟩
  induction steps with
  | nil =>
      intro implementation methods lists
      rwa [declaredMethods, List.filterMap_nil, List.append_nil]
  | cons step steps ih =>
      intro implementation methods lists
      rw [List.foldl_cons]
      cases declares : step.declares? with
      | none =>
          obtain ⟨marker, apply_eq⟩ := ClassStep.apply_of_declares_none declares implementation
          rw [apply_eq, declaredMethods, List.filterMap_cons_none declares]
          exact ih _ _ (lists.annotate marker)
      | some method =>
          rw [ClassStep.apply_of_declares declares, declaredMethods,
            List.filterMap_cons_some declares]
          have longer := ih _ _ (lists.declare method)
          rwa [List.append_assoc] at longer

/-- The function attached to the name of a method is its own, unless the name was used again. -/
theorem Lists.invoker?_eq {earlier later : List ClassMethod} {method : ClassMethod}
    (lists : implementation.Lists (earlier ++ method :: later)) :
    implementation.invoker? method.name =
      some ((lastNamed method.name later).getD method).function.invoker := by
  rw [lists.functions, lastNamed_split, Option.map_some]

/-- What a source declares is one of its operations, under its service name. -/
theorem declared_of_mem {declared : DeclaredOperation}
    (declared_mem : declared ∈ HostedService.declaredBy implementation) :
    ∃ name operation, implementation.contract.serviceName? = some name ∧
      operation ∈ implementation.contract.operations ∧
      declared = ⟨implementation, name, operation⟩ := by
  cases named : implementation.contract.serviceName? with
  | none => simp [HostedService.declaredBy, named] at declared_mem
  | some name =>
      rw [HostedService.declaredBy_of_named named] at declared_mem
      obtain ⟨operation, operation_mem, rfl⟩ := List.mem_map.mp declared_mem
      exact ⟨name, operation, rfl, operation_mem, rfl⟩

/-- A bound method is what a method of a class became: an operation of its own shape, under the
name of the class and its own. -/
structure Became (implementation : Implementation) (method : ClassMethod) (shape : CallShape)
    (bound : BoundMethod) : Prop where
  optedIn : method.signature.isOptedIn = true
  classified : method.signature.shape? = some shape
  service_eq : implementation.contract.serviceName? = some bound.wire.reference.service
  operation_eq : bound.wire.reference.operation = method.signature.operationName

variable {method : ClassMethod} {shape : CallShape}

/-- An operation of a class is one of its methods, opted in and with a shape. -/
theorem Lists.mem_operations_iff (lists : implementation.Lists methods) {operation : Operation} :
    operation ∈ implementation.contract.operations ↔
      ∃ method ∈ methods, ∃ shape, method.signature.isOptedIn = true ∧
        method.signature.shape? = some shape ∧
        operation = ⟨method.signature.operationName, shape, method.signature⟩ := by
  have eligible_eq : implementation.contract.eligible =
      (methods.map ClassMethod.signature).filter Signature.isOptedIn := by
    rw [Contract.eligible, lists.concrete, lists.signatures]
  rw [Contract.mem_operations, eligible_eq]
  constructor
  · rintro ⟨shape, eligible, classified, operation_eq⟩
    obtain ⟨listed, optedIn⟩ := List.mem_filter.mp eligible
    obtain ⟨method, method_mem, signature_eq⟩ := List.mem_map.mp listed
    rw [← signature_eq] at optedIn classified operation_eq
    exact ⟨method, method_mem, shape, optedIn, classified, operation_eq⟩
  · rintro ⟨method, method_mem, shape, optedIn, classified, rfl⟩
    exact ⟨shape, List.mem_filter.mpr ⟨List.mem_map_of_mem method_mem, optedIn⟩, classified, rfl⟩

/-- No two methods of a class become one operation. -/
theorem Became.alone {earlier later : List ClassMethod} {bound : BoundMethod}
    (lists : implementation.Lists (earlier ++ method :: later))
    (distinct : (implementation.contract.operations.map Operation.name).Nodup)
    (became : implementation.Became method shape bound) {other : ClassMethod}
    (other_mem : other ∈ earlier ++ later) (otherShape : CallShape) :
    ¬implementation.Became other otherShape bound := by
  intro other_became
  let names (methods : List ClassMethod) : List String :=
    (((methods.map ClassMethod.signature).filter Signature.isOptedIn).filterMap
      Signature.operation?).map Operation.name
  have names_eq : implementation.contract.operations.map Operation.name =
      names earlier ++ method.signature.operationName :: names later := by
    simp only [names, Contract.operations, Contract.eligible, lists.concrete, lists.signatures,
      List.map_append, List.filter_append, List.filterMap_append, List.map_cons]
    rw [List.filter_cons_of_pos became.optedIn,
      List.filterMap_cons_some (Signature.operation?_of_classified became.classified),
      List.map_cons]
  have name_mem : ∀ {listed : List ClassMethod}, other ∈ listed →
      method.signature.operationName ∈ names listed := by
    intro listed listed_mem
    rw [← became.operation_eq, other_became.operation_eq]
    refine List.mem_map.mpr ⟨⟨_, otherShape, other.signature⟩, ?_, rfl⟩
    refine List.mem_filterMap.mpr ⟨other.signature, ?_,
      Signature.operation?_of_classified other_became.classified⟩
    exact List.mem_filter.mpr ⟨List.mem_map_of_mem listed_mem, other_became.optedIn⟩
  rw [names_eq, List.nodup_middle, List.nodup_cons] at distinct
  apply distinct.1
  obtain before | after := List.mem_append.mp other_mem
  · exact List.mem_append_left _ (name_mem before)
  · exact List.mem_append_right _ (name_mem after)

end Implementation

/-! ## Bound methods -/

/-- A source declares an operation under the names of the bound method. -/
def BoundMethod.DeclaredBy (bound : BoundMethod) (source : Implementation) : Prop :=
  ∃ declared ∈ HostedService.declaredBy source, declared.key = bound.wire.reference.names

/-- The handler of an operation whose function is declared at the types of its method runs that
function once per call. -/
theorem BoundMethod.Binds.runsOnce {bound : BoundMethod} {annotations : List Annotation}
    {source : Implementation} {service : String} {operation : Operation} {turn : MarshallerCache}
    (binds : bound.Binds annotations ⟨source, service, operation⟩ turn)
    (classified : operation.method.shape? = some operation.shape)
    {run : Arguments (operation.method.params.map DeclaredType.valueType) →
      operation.method.returns.valueType.Carrier}
    (attached : source.invoker? operation.method.name =
      some (ServiceFunction.invoker ⟨operation.method.params, operation.method.returns, run⟩)) :
    bound.handler.RunsOnce operation.shape
      ⟨operation.method.params, operation.method.returns, run⟩ := by
  have described := describes_of_shape? classified
  obtain ⟨invoker, invoker_eq, handler_eq⟩ := binds.handler_eq
  obtain rfl := Option.some.inj (attached.symm.trans invoker_eq)
  obtain ⟨-, error, refused_eq⟩ | ⟨served, handler, built_eq, adapts⟩ :=
    ServerHandler.of_described described
      (ServiceFunction.invoker ⟨operation.method.params, operation.method.returns, run⟩)
  · cases refused_eq.symm.trans handler_eq
  · cases built_eq.symm.trans handler_eq
    exact adapts.runsOnce described served

namespace Binding

variable {service : HostedService} {cache : MarshallerCache} {binding : Binding}

/-- A bound method is what an operation declared by one of the sources became. -/
theorem exists_declared (built : (build service cache).value.1 = .ok binding) {bound : BoundMethod}
    (bound_mem : bound ∈ binding.methods) :
    (∃ declared ∈ service.declared, ∃ turn,
        bound.Binds service.own.contract.annotations declared turn) ∧
      (service.declared.map DeclaredOperation.key).Nodup := by
  obtain empty | ⟨methods_bind, keys_nodup⟩ := of_build built
  · rw [empty] at bound_mem
    cases bound_mem
  · obtain ⟨⟨declared, turn⟩, turn_mem, binds⟩ :=
      (forall₂_exists_of_mem methods_bind).2 bound bound_mem
    have declared_mem := (DeclaredOperation.map_fst_bindable_sublist cache service.declared).mem
      (List.mem_map_of_mem turn_mem)
    exact ⟨⟨declared, declared_mem, turn, binds⟩, keys_nodup⟩

/-- Whatever is declared under the names of a bound method is what the method is bound from. -/
theorem binds_of_key (built : (build service cache).value.1 = .ok binding) {bound : BoundMethod}
    (bound_mem : bound ∈ binding.methods) {declared : DeclaredOperation}
    (declared_mem : declared ∈ service.declared)
    (key_eq : declared.key = bound.wire.reference.names) :
    ∃ turn, bound.Binds service.own.contract.annotations declared turn := by
  obtain ⟨⟨origin, origin_mem, turn, binds⟩, keys_nodup⟩ := exists_declared built bound_mem
  have same_key : origin.key = declared.key := by
    rw [key_eq, binds.reference_eq]
    rfl
  obtain rfl := List.inj_on_of_nodup_map keys_nodup origin_mem declared_mem same_key
  exact ⟨turn, binds⟩

/-- A source of a service that binds anything has operations with distinct names. -/
theorem names_nodup_of_counted (built : (build service cache).value.1 = .ok binding)
    {bound : BoundMethod} (bound_mem : bound ∈ binding.methods) {source : Implementation}
    (counted : source ∈ service.counted) {name : String}
    (named : source.contract.serviceName? = some name) :
    (source.contract.operations.map Operation.name).Nodup := by
  obtain ⟨-, keys_nodup⟩ := exists_declared built bound_mem
  have included := (List.singleton_sublist.mpr counted).flatMap HostedService.declaredBy
  rw [List.flatMap_singleton, HostedService.declaredBy_of_named named] at included
  have pairs_nodup := keys_nodup.sublist (included.map DeclaredOperation.key)
  have pairs_eq : (source.contract.operations.map fun operation : Operation =>
        (⟨source, name, operation⟩ : DeclaredOperation)).map DeclaredOperation.key =
      (source.contract.operations.map Operation.name).map (Prod.mk name) := by
    rw [List.map_map, List.map_map]
    rfl
  rw [pairs_eq] at pairs_nodup
  exact pairs_nodup.of_map

/-- Every bound method is declared by a source of the service. Where that is a class built by steps,
exactly one of the methods it declares became the bound method, and the handler calls the function
declared last under the name of that method. Unless the name was declared again later, this is the
function that the method was declared with, which then runs once per call. -/
theorem class_functions (built : (build service cache).value.1 = .ok binding) :
    (∀ bound ∈ binding.methods, ∃ source ∈ service.counted, bound.DeclaredBy source) ∧
    ∀ typeName steps, Implementation.ofSteps typeName steps ∈ service.counted →
      ∀ bound ∈ binding.methods, bound.DeclaredBy (.ofSteps typeName steps) →
        ∃ earlier method later shape, declaredMethods steps = earlier ++ method :: later ∧
          (Implementation.ofSteps typeName steps).Became method shape bound ∧
          (∀ other ∈ earlier ++ later, ∀ otherShape,
            ¬(Implementation.ofSteps typeName steps).Became other otherShape bound) ∧
          bound.handler.invoker = ((lastNamed method.name later).getD method).function.invoker ∧
          ((∀ other ∈ later, other.name ≠ method.name) →
            bound.handler.invoker = method.function.invoker ∧
              bound.handler.RunsOnce shape method.function) := by
  constructor
  · intro bound bound_mem
    obtain ⟨⟨declared, declared_mem, turn, binds⟩, -⟩ := exists_declared built bound_mem
    obtain ⟨source, source_mem, by_source⟩ := List.mem_flatMap.mp declared_mem
    refine ⟨source, source_mem, declared, by_source, ?_⟩
    rw [binds.reference_eq]
    rfl
  · intro typeName steps counted bound bound_mem bound_declared
    let source := Implementation.ofSteps typeName steps
    have lists : source.Lists (declaredMethods steps) := Implementation.lists_ofSteps typeName steps
    obtain ⟨declared, by_source, key_eq⟩ := bound_declared
    have declared_mem : declared ∈ service.declared :=
      List.mem_flatMap.mpr ⟨source, counted, by_source⟩
    obtain ⟨turn, binds⟩ := binds_of_key built bound_mem declared_mem key_eq
    obtain ⟨name, operation, named, operation_mem, rfl⟩ :=
      Implementation.declared_of_mem by_source
    obtain ⟨method, method_mem, shape, optedIn, classified, rfl⟩ :=
      lists.mem_operations_iff.mp operation_mem
    obtain ⟨service_eq, operation_eq⟩ := Prod.mk.inj key_eq
    have became : source.Became method shape bound :=
      ⟨optedIn, classified, service_eq ▸ named, operation_eq.symm⟩
    obtain ⟨earlier, later, split_eq⟩ := List.append_of_mem method_mem
    rw [split_eq] at lists
    have distinct : (source.contract.operations.map Operation.name).Nodup :=
      names_nodup_of_counted built bound_mem counted named
    have attached := lists.invoker?_eq
    obtain ⟨invoker, invoker_eq, handler_eq⟩ := binds.handler_eq
    have called : bound.handler.invoker =
        ((lastNamed method.name later).getD method).function.invoker :=
      (ServerHandler.form_of_ok handler_eq).2.trans
        (Option.some.inj (invoker_eq.symm.trans attached))
    refine ⟨earlier, method, later, shape, split_eq, became, ?_, called, ?_⟩
    · intro other other_mem otherShape
      exact became.alone lists distinct other_mem otherShape
    · intro fresh
      rw [lastNamed_eq_none.mpr fresh] at called attached
      exact ⟨called, binds.runsOnce classified attached⟩

end Binding

namespace Sample

/-- A function that greets. -/
def helloTask : ServiceFunction where
  params := [helloRequest]
  returns := .wrapped .task helloReply
  run := fun (request, _) => Future.ready (.ok (replyOf request.down.val.text))

/-- A class with two operations and a method in between, each under a name of its own. -/
def mixedSteps : List ClassStep :=
  [.operation "answer" pongTask, .method "idle" pongTask, .namedOperation "greet" "Hello" helloTask]

/-- A service type that declares its operations itself. -/
def classService (steps : List ClassStep) : HostedService := ⟨.ofSteps "app::Service" steps, []⟩

/-- Both operations of the class with distinct names call the function they were declared with. -/
theorem mixedSteps_functions :
    ∃ binding, (Binding.build (classService mixedSteps) .empty).value.1 = .ok binding ∧
      binding.size = 2 ∧
      ∀ bound ∈ binding.methods, ∃ method ∈ declaredMethods mixedSteps, ∃ shape,
        (Implementation.ofSteps "app::Service" mixedSteps).Became method shape bound ∧
          bound.handler.invoker = method.function.invoker ∧
          bound.handler.RunsOnce shape method.function := by
  obtain ⟨binding, built, size_eq⟩ :
      ∃ binding, (Binding.build (classService mixedSteps) .empty).value.1 = .ok binding ∧
        binding.size = 2 :=
    ⟨_, rfl, rfl⟩
  obtain ⟨declares, functions⟩ := Binding.class_functions built
  refine ⟨binding, built, size_eq, fun bound bound_mem => ?_⟩
  have names_nodup : ((declaredMethods mixedSteps).map ClassMethod.name).Nodup := by decide
  obtain ⟨source, source_mem, declared⟩ := declares bound bound_mem
  obtain rfl := List.mem_singleton.mp source_mem
  obtain ⟨earlier, method, later, shape, split_eq, became, -, -, own⟩ :=
    functions "app::Service" mixedSteps List.mem_cons_self bound bound_mem declared
  rw [split_eq] at names_nodup ⊢
  have fresh : ∀ other ∈ later, other.name ≠ method.name := by
    intro other other_mem same
    have back_nodup := List.Nodup.of_append_right (List.map_append ▸ names_nodup)
    exact (List.nodup_cons.mp back_nodup).1 (same ▸ List.mem_map_of_mem other_mem)
  exact ⟨method, by simp, shape, became, own fresh⟩

/-- A class that declares two operations under one method name. -/
def reusedSteps : List ClassStep :=
  [.operation "m" pongTask, .namedOperation "m" "Other" helloTask]

/-- The first of two operations under one method name is bound and calls the function of the second,
which refuses the pings that its own would answer. -/
theorem reusedSteps_swapped :
    ∃ binding, (Binding.build (classService reusedSteps) .empty).value.1 = .ok binding ∧
      ∃ bound ∈ binding.methods, ∃ shape,
        (Implementation.ofSteps "app::Service" reusedSteps).Became
            ⟨"m", pongTask, [.operationContract none]⟩ shape bound ∧
          bound.handler.invoker ≠ pongTask.invoker ∧
          ∃ error, bound.handler.invoker [.payload (.message (.ping 1 "q"))] = .error error := by
  obtain ⟨binding, first, second, built, methods_eq, reference_eq, invoker_eq⟩ :
      ∃ (binding : Binding) (first second : BoundMethod),
        (Binding.build (classService reusedSteps) .empty).value.1 = .ok binding ∧
          binding.methods = [first, second] ∧
          first.wire.reference = ⟨"app.Service", "M", .unary, "m"⟩ ∧
          first.handler.invoker = helloTask.invoker :=
    ⟨_, _, _, rfl, rfl, rfl, rfl⟩
  refine ⟨binding, built, first, methods_eq ▸ List.mem_cons_self,
    ⟨.unary, .none, .deferred, false, ping, pong⟩, ⟨rfl, rfl, ?_, ?_⟩, ?_, ?_⟩
  · rw [reference_eq]
    rfl
  · rw [reference_eq]
    rfl
  · intro same
    have answers := congrFun (invoker_eq.symm.trans same) [.payload (.message (.ping 1 "q"))]
    cases answers
  · rw [invoker_eq]
    exact ⟨_, rfl⟩

end Sample

end RpcContracts
