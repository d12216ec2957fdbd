import RpcContracts.Contract.Log
import RpcContracts.Contract.Name
import RpcContracts.Contract.Reference

/-!
# Services

A service is what a contract exposes under its resolved name: the eligible methods with a call
shape, as operations with pairwise distinct names, and the eligible methods without one.
-/

namespace RpcContracts

/-- A method with a call shape and the name it is called by. -/
structure Operation where
  /-- Name on the wire. -/
  name : String
  /-- Shape of the calls. -/
  shape : CallShape
  /-- The method as declared. -/
  method : Signature

namespace Operation

/-- The reference of an operation of a named service. -/
def reference (operation : Operation) (service : String) : MethodReference :=
  ⟨service, operation.name, operation.shape.callKind, operation.method.name⟩

end Operation

/-- The type of the requests that the first parameter, a reader, yields. -/
def Signature.readerArgument (method : Signature) : Except ContractError ValueType :=
  match method.params.head? with
  | some (.wrapped .streamReader argument) => .ok argument.valueType
  | _ => .error (.unsupportedShape method.name "the request parameter is not a StreamReader")

/-- What a contract exposes. -/
structure Service where
  /-- Resolved name. -/
  name : String
  /-- Type of the contract. -/
  contractType : String
  /-- Operations in declaration order. -/
  operations : List Operation
  /-- Names of the eligible methods without a call shape. -/
  unmatched : List String

namespace Service

/-- The first operation with a given name. -/
def operation? (service : Service) (name : String) : Option Operation :=
  service.operations.find? fun operation => operation.name == name

end Service

/-- Extend a service by methods one after another. A method whose operation name is taken ends the
inspection, and a method without a shape is noted and reported. -/
def Service.extend (service : Service) :
    List Signature → Logged (Except ContractError Service)
  | [] => .quiet (.ok service)
  | method :: rest =>
      match method.shape? with
      | none =>
          (extend { service with unmatched := service.unmatched ++ [method.name] } rest).after
            (.shapeless service.contractType method.name)
      | some shape =>
          match service.operation? method.operationName with
          | some first =>
              .quiet (.error (.duplicateOperation service.name method.operationName
                first.method.name method.name))
          | none =>
              extend
                { service with
                  operations := service.operations ++ [⟨method.operationName, shape, method⟩] }
                rest

/-- The service that a contract exposes. -/
def Contract.inspect (contract : Contract) : Logged (Except ContractError Service) :=
  match contract.serviceName? with
  | none => .quiet (.error (.missingServiceName contract.typeName))
  | some name => Service.extend ⟨name, contract.typeName, [], []⟩ contract.eligible

end RpcContracts
