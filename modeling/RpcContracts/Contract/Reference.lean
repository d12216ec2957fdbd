import RpcContracts.Contract.Shape
import RpcContracts.Hash.Xxh3

/-!
# Method references

A method reference identifies an operation on the wire. Its full name joins the service and the
operation, and the routing key is the hash of the full name.
-/

namespace RpcContracts

/-- Identity of an operation on the wire. -/
structure MethodReference where
  /-- Name of the service. -/
  service : String
  /-- Name of the operation. -/
  operation : String
  /-- Which sides stream. -/
  callKind : CallKind
  /-- Name of the method the operation was declared as. -/
  method : String
  deriving DecidableEq

namespace MethodReference

/-- The name that travels with a call. -/
def fullName (reference : MethodReference) : String :=
  "/" ++ reference.service ++ "/" ++ reference.operation

/-- The routing key. -/
def methodId (reference : MethodReference) : UInt64 :=
  Hash.Xxh3.hashText reference.fullName

/-- The full name with the call kind in parentheses. -/
def display (reference : MethodReference) : String :=
  reference.fullName ++ " (" ++ reference.callKind.name ++ ")"

end MethodReference
end RpcContracts
