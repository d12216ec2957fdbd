import RpcContracts.Text.Blank

/-!
# Annotations

Declarative markers of contract types and of their methods, and the endpoint metadata that a bound
method carries: the annotations of its service followed by its own.
-/

namespace RpcContracts

/-- A marker of a contract type or of a method. -/
inductive Annotation where
  /-- Tags a type as a service contract, optionally naming the service. -/
  | serviceContract (name : Option String)
  /-- Opts a method in as an operation, optionally naming it. -/
  | operationContract (name : Option String)
  /-- Marks the default handler of the runtime, which is never bound. -/
  | bindServiceMethod
  /-- Metadata for the hosting runtime. -/
  | custom (key value : String)
  deriving DecidableEq

namespace Annotation

/-- A tag of a service contract. -/
def isServiceContract : Annotation → Bool
  | serviceContract _ => true
  | _ => false

/-- A tag of an operation. -/
def isOperationContract : Annotation → Bool
  | operationContract _ => true
  | _ => false

/-- A mark of the default handler. -/
def isBindServiceMethod : Annotation → Bool
  | bindServiceMethod => true
  | _ => false

/-- The service name a marker carries, unless it is blank. -/
def serviceName? : Annotation → Option String
  | serviceContract (some name) => Text.nonBlank? name
  | _ => none

/-- The operation name a marker carries, unless it is blank. -/
def operationName? : Annotation → Option String
  | operationContract (some name) => Text.nonBlank? name
  | _ => none

/-- The value of a custom marker with a given key. -/
def valueOf? (sought : String) : Annotation → Option String
  | custom key value => if key = sought then some value else none
  | _ => none

end Annotation

/-- Metadata registered with a bound method. -/
structure EndpointMetadata where
  /-- Annotations of the service, then those of the method. -/
  items : List Annotation
  deriving DecidableEq

namespace EndpointMetadata

/-- The metadata of a method of a service. -/
def ofLayers (service method : List Annotation) : EndpointMetadata :=
  ⟨service ++ method⟩

/-- The last custom value with a given key, so that a method overrides its service. -/
def custom? (metadata : EndpointMetadata) (key : String) : Option String :=
  metadata.items.reverse.findSome? fun item => item.valueOf? key

end EndpointMetadata
end RpcContracts
