import RpcContracts.Contract.Annotation
import RpcContracts.Contract.Type

/-!
# Signatures and contracts

A contract is an annotated type with the signatures of its methods.
-/

namespace RpcContracts

/-- What a contract says of one method. -/
structure Signature where
  /-- Name of the method. -/
  name : String
  /-- Types of the parameters. -/
  params : List DeclaredType
  /-- Type of the return value. -/
  returns : DeclaredType
  /-- Number of type parameters left open. -/
  genericParams : Nat
  /-- Markers of the method. -/
  annotations : List Annotation

namespace Signature

/-- Whether the method has type parameters left open. -/
def isGeneric (signature : Signature) : Bool :=
  0 < signature.genericParams

/-- Whether the method is opted in as an operation. -/
def isOptedIn (signature : Signature) : Bool :=
  signature.annotations.any Annotation.isOperationContract

end Signature

/-- How the methods of a contract become eligible. -/
inductive ContractKind where
  /-- Every method is eligible. -/
  | interface
  /-- Methods have to opt in one by one. -/
  | concrete
  deriving DecidableEq

/-- An annotated type with its methods. -/
structure Contract where
  /-- How methods become eligible. -/
  kind : ContractKind
  /-- Qualified name of the type. -/
  typeName : String
  /-- Markers of the type. -/
  annotations : List Annotation
  /-- Methods in declaration order. -/
  methods : List Signature

namespace Contract

/-- Whether the contract is an interface. -/
def isInterface (contract : Contract) : Bool :=
  contract.kind = .interface

/-- Whether the contract carries a service tag. -/
def isTagged (contract : Contract) : Bool :=
  contract.annotations.any Annotation.isServiceContract

/-- The first method with a given name. -/
def method? (contract : Contract) (name : String) : Option Signature :=
  contract.methods.find? fun method => method.name == name

/-- The methods that may become operations: all of an interface, those opted in of a class. -/
def eligible (contract : Contract) : List Signature :=
  match contract.kind with
  | .interface => contract.methods
  | .concrete => contract.methods.filter Signature.isOptedIn

end Contract
end RpcContracts
