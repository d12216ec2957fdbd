import RpcContracts.Contract.Signature
import RpcContracts.Value.Arguments

/-!
# Implementations

An implementation is a contract with functions attached to method names. A name has at most one
function; attaching another one replaces it, also for methods declared before.
-/

namespace RpcContracts

/-- A function of a service, with the types it is declared at. -/
structure ServiceFunction : Type 1 where
  /-- Types of the parameters. -/
  params : List DeclaredType
  /-- Type of the return value. -/
  returns : DeclaredType
  /-- What the function does. -/
  run : Arguments (params.map DeclaredType.valueType) → returns.valueType.Carrier

namespace ServiceFunction

/-- The signature of a function under a name. -/
def signature (function : ServiceFunction) (name : String) (annotations : List Annotation) :
    Signature :=
  ⟨name, function.params, function.returns, 0, annotations⟩

/-- A function, called with values of any types. -/
def invoker (function : ServiceFunction) : Invoker :=
  .ofFunction (function.params.map DeclaredType.valueType) function.returns.valueType function.run

end ServiceFunction

/-- A contract with the functions that implement its methods. -/
structure Implementation : Type 1 where
  /-- What is declared. -/
  contract : Contract
  /-- Attached functions by method name, the latest first. -/
  invokers : List (String × Invoker)

namespace Implementation

/-- A contract without functions. -/
def ofContract (contract : Contract) : Implementation := ⟨contract, []⟩

/-- A class without methods. -/
def ofClass (typeName : String) : Implementation := ofContract ⟨.concrete, typeName, [], []⟩

/-- Add a marker to the type. -/
def annotate (implementation : Implementation) (marker : Annotation) : Implementation :=
  { implementation with
    contract :=
      { implementation.contract with
        annotations := implementation.contract.annotations ++ [marker] } }

/-- Attach a function to a method name. -/
def attach (implementation : Implementation) (name : String) (invoker : Invoker) :
    Implementation :=
  { implementation with invokers := (name, invoker) :: implementation.invokers }

/-- Declare a method, which may have no function. -/
def addSignature (implementation : Implementation) (signature : Signature) : Implementation :=
  { implementation with
    contract :=
      { implementation.contract with
        methods := implementation.contract.methods ++ [signature] } }

/-- Declare a method by the function that implements it. -/
def declare (implementation : Implementation) (name : String) (function : ServiceFunction)
    (annotations : List Annotation) : Implementation :=
  (implementation.addSignature (function.signature name annotations)).attach name function.invoker

/-- Declare a method that is no operation of a class. -/
def method (implementation : Implementation) (name : String) (function : ServiceFunction) :
    Implementation :=
  implementation.declare name function []

/-- Declare an operation. -/
def operation (implementation : Implementation) (name : String) (function : ServiceFunction) :
    Implementation :=
  implementation.declare name function [.operationContract none]

/-- Declare an operation with a wire name. -/
def namedOperation (implementation : Implementation) (name wireName : String)
    (function : ServiceFunction) : Implementation :=
  implementation.declare name function [.operationContract (some wireName)]

/-- The function attached to a method name. -/
def invoker? (implementation : Implementation) (name : String) : Option Invoker :=
  implementation.invokers.lookup name

@[simp]
theorem invoker?_attach_self (implementation : Implementation) (name : String)
    (invoker : Invoker) : (implementation.attach name invoker).invoker? name = some invoker := by
  simp [attach, invoker?]

end Implementation
end RpcContracts
