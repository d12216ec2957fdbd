import RpcContracts.Marshal.Cache
import RpcContracts.Server.Handler

/-!
# Bindings

A binding holds the methods of one service that are ready to be registered with a hosting runtime.
-/

namespace RpcContracts

/-- A method ready to be registered. -/
structure BoundMethod : Type 1 where
  /-- Identity on the wire, and the marshallers. -/
  wire : WireMethod
  /-- Annotations of the service type and of the method. -/
  metadata : EndpointMetadata
  /-- What handles the calls. -/
  handler : ServerHandler

/-- The bound methods of one service. -/
structure Binding : Type 1 where
  /-- Name of the service type. -/
  serviceType : String
  /-- The methods, in the order of their declaration. -/
  methods : List BoundMethod

namespace Binding

/-- The method that is registered under a full name. -/
def method? (binding : Binding) (fullName : String) : Option BoundMethod :=
  binding.methods.find? fun method => method.wire.reference.fullName == fullName

/-- Number of bound methods. -/
def size (binding : Binding) : Nat := binding.methods.length

end Binding

/-- A method as a hosting runtime gets it, on the entry for the kind of its calls. -/
structure Registration : Type 1 where
  /-- The kind of calls whose entry is used. -/
  entry : CallKind
  /-- The registered method. -/
  method : BoundMethod

/-- What a hosting runtime registers methods with. -/
structure Registrar : Type 1 where
  /-- What it was asked to register, in order. -/
  calls : List Registration

namespace Registrar

/-- A registrar that was asked for nothing. -/
def empty : Registrar := ⟨[]⟩

/-- Register a method on the entry for the kind of its calls. -/
def add (registrar : Registrar) (method : BoundMethod) : Registrar :=
  ⟨registrar.calls ++ [⟨method.handler.callKind, method⟩]⟩

end Registrar

namespace Binding

/-- Register the methods of a binding one after another, and tell their number. -/
def register (binding : Binding) (registrar : Registrar) : Nat × Registrar :=
  (binding.size, binding.methods.foldl Registrar.add registrar)

/-- What registering a binding asks of the hosting runtime, in order. -/
def registrations (binding : Binding) : List Registration :=
  binding.methods.map fun method => ⟨method.handler.callKind, method⟩

@[simp]
theorem length_registrations (binding : Binding) :
    binding.registrations.length = binding.size := by
  simp [registrations, size]

end Binding
end RpcContracts
