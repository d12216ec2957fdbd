import RpcContracts.Cache.Once
import RpcContracts.Server.Binding
import RpcContracts.Server.Implementation

/-!
# Binders

A binder builds the binding of a service type when it is first asked for and keeps it. It goes
through the contract of the type itself and then the contracts the type implements. An operation
that cannot be bound is reported and left out, whereas an operation name that is declared twice for
one service name fails the whole service.
-/

namespace RpcContracts

/-- A service type as a hosting runtime sees it. -/
structure HostedService : Type 1 where
  /-- The contract of the type itself, whose annotations all bound methods share. -/
  own : Implementation
  /-- The contracts that the type implements. -/
  implemented : List Implementation

namespace HostedService

/-- Name of the service type. -/
def typeName (service : HostedService) : String := service.own.contract.typeName

/-- Whether the type is the default handler of the runtime, which binds nothing. -/
def isDefaultHandler (service : HostedService) : Bool :=
  service.own.contract.annotations.any Annotation.isBindServiceMethod

/-- The implemented contracts that count: interfaces have to be tagged. -/
def countedContracts (service : HostedService) : List Implementation → Logged (List Implementation)
  | [] => .quiet []
  | source :: rest =>
      if source.contract.isInterface && !source.contract.isTagged then
        (countedContracts service rest).after
          (.untaggedIgnored source.contract.typeName service.typeName)
      else (countedContracts service rest).map (source :: ·)

/-- The contracts whose operations are bound, in order. -/
def sources (service : HostedService) : Logged (List Implementation) :=
  (service.countedContracts service.implemented).map (service.own :: ·)

end HostedService

/-- Bind an operation of a named service to the function attached to its method. -/
def Implementation.bind (source : Implementation) (service : String) (operation : Operation)
    (typeAnnotations : List Annotation) (marshallers : MarshallerCache) :
    Except ContractError BoundMethod × MarshallerCache :=
  match source.invoker? operation.method.name with
  | none =>
      (.error (.unsupportedShape operation.method.name
        "no implementation is attached to the method"), marshallers)
  | some invoker =>
      match WireMethod.resolve (operation.reference service) operation.shape.requestType
          operation.shape.responseType marshallers with
      | (.error error, marshallers) => (.error error, marshallers)
      | (.ok wire, marshallers) =>
          ((ServerHandler.of operation invoker).map fun handler =>
            ⟨wire, .ofLayers typeAnnotations operation.method.annotations, handler⟩, marshallers)

/-- How far the binding of a service has come. -/
structure BindingProgress : Type 1 where
  /-- Methods bound so far. -/
  methods : List BoundMethod
  /-- Operations seen so far, by service and operation name, with the methods that declare them. -/
  declared : List ((String × String) × String)
  /-- Marshallers resolved so far. -/
  marshallers : MarshallerCache

namespace BindingProgress

/-- Bind the operations of a source one after another, up to one whose name is taken. -/
def addOperations (service : HostedService) (source : Implementation) (name : String)
    (progress : BindingProgress) :
    List Operation → Logged (Except ContractError Unit × BindingProgress)
  | [] => .quiet (.ok (), progress)
  | operation :: rest =>
      let key := (name, operation.name)
      let method := operation.method.name
      match progress.declared.lookup key with
      | some first =>
          .quiet (.error (.duplicateOperation name operation.name first method), progress)
      | none =>
          let declared := progress.declared ++ [(key, method)]
          match source.bind name operation service.own.contract.annotations
              progress.marshallers with
          | (.ok bound, marshallers) =>
              (addOperations service source name
                ⟨progress.methods ++ [bound], declared, marshallers⟩ rest).after
                (.serverMethodBound bound.wire.reference.display service.typeName method)
          | (.error error, marshallers) =>
              (addOperations service source name ⟨progress.methods, declared, marshallers⟩
                rest).after (.serverMethodUnbound service.typeName method error.message)

/-- Bind the operations of sources one after another. A source without a service name is left out.
-/
def addSources (service : HostedService) (progress : BindingProgress) :
    List Implementation → Logged (Except ContractError Unit × BindingProgress)
  | [] => .quiet (.ok (), progress)
  | source :: rest =>
      source.contract.inspect.bind fun
        | .error (.missingServiceName contract) =>
            (addSources service progress rest).after (.namelessSkipped contract service.typeName)
        | .error error => .quiet (.error error, progress)
        | .ok exposed =>
            (addOperations service source exposed.name progress exposed.operations).bind fun
              | (.error error, progress) => .quiet (.error error, progress)
              | (.ok (), progress) => addSources service progress rest

end BindingProgress

namespace Binding

/-- Build the binding of a service, and give back the marshallers resolved so far. -/
def build (service : HostedService) (marshallers : MarshallerCache) :
    Logged (Except ContractError Binding × MarshallerCache) :=
  if service.isDefaultHandler then
    (Logged.quiet (.ok ⟨service.typeName, []⟩, marshallers)).after
      (.defaultHandlerSkipped service.typeName)
  else
    service.sources.bind fun sources =>
      (BindingProgress.addSources service ⟨[], [], marshallers⟩ sources).map fun
        | (.error error, progress) => (.error error, progress.marshallers)
        | (.ok (), progress) => (.ok ⟨service.typeName, progress.methods⟩, progress.marshallers)

end Binding

/-- The bindings built so far, by service type. -/
structure Binder : Type 1 where
  /-- Bindings and the number of builds. -/
  bindings : OnceCache String Binding
  /-- Marshallers resolved so far. -/
  marshallers : MarshallerCache

namespace Binder

/-- A binder that shares marshallers. -/
def withMarshallers (marshallers : MarshallerCache) : Binder := ⟨.empty, marshallers⟩

/-- A binder without bindings. -/
def empty : Binder := withMarshallers .empty

/-- The binding of a service type, built on first use. -/
def bind (binder : Binder) (key : String) (service : HostedService) :
    Logged (Except ContractError (Built Binding) × Binder) :=
  match binder.bindings.get? key with
  | some built => .quiet (.ok built, binder)
  | none =>
      (Binding.build service binder.marshallers).map fun (result, marshallers) =>
        match binder.bindings.getOrBuild key fun bindings => (result, bindings) with
        | (found, bindings) => (found, ⟨bindings, marshallers⟩)

/-- Register the methods of a service type with a hosting runtime, and tell their number. A service
that cannot be bound registers nothing. -/
def discover (binder : Binder) (key : String) (service : HostedService) (registrar : Registrar) :
    Logged ((Except ContractError Nat × Registrar) × Binder) :=
  (binder.bind key service).bind fun
    | (.error error, binder) => .quiet ((.error error, registrar), binder)
    | (.ok built, binder) =>
        match built.value.register registrar with
        | (count, registrar) =>
            (Logged.quiet ((.ok count, registrar), binder)).after
              (.serviceRegistered count built.value.serviceType)

end Binder
end RpcContracts
