import RpcContracts.Contract.Description
import RpcContracts.Server.Binding
import RpcContracts.Server.Implementation

/-!
# Structural text of implementations and bindings
-/

namespace RpcContracts

/-- The structural text of an implementation: its contract and the names that have a function. -/
def Implementation.structuralText (implementation : Implementation) : String :=
  Text.record "ContractImplementation"
    [("definition", implementation.contract.structuralText),
     ("invokers",
       Text.listing ((implementation.invokers.map Prod.fst).eraseDups.map Text.quoted))]

/-- The structural text of a bound method. -/
def BoundMethod.structuralText (method : BoundMethod) : String :=
  Text.record "BoundServiceMethod"
    [("method", method.wire.reference.structuralText),
     ("metadata", method.metadata.structuralText)]

/-- The structural text of a binding. -/
def Binding.structuralText (binding : Binding) : String :=
  Text.record "ServiceBinding"
    [("service_type", Text.quoted binding.serviceType),
     ("methods", Text.listing (binding.methods.map BoundMethod.structuralText))]

end RpcContracts
