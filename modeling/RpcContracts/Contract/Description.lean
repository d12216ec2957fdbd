import RpcContracts.Contract.Reference
import RpcContracts.Text.Structure

/-!
# Structural text of contracts
-/

namespace RpcContracts

/-- The structural text of a marshaller. -/
def Marshaller.structuralText (marshaller : Marshaller) : String :=
  Text.record "Marshaller" [("type_name", Text.quoted marshaller.typeName)]

/-- The structural text of a marker. -/
def Annotation.structuralText : Annotation → String
  | serviceContract name =>
      Text.record "ServiceContract" [("name", Text.optional (name.map Text.quoted))]
  | operationContract name =>
      Text.record "OperationContract" [("name", Text.optional (name.map Text.quoted))]
  | bindServiceMethod => "BindServiceMethod"
  | custom key value =>
      Text.record "Custom" [("key", Text.quoted key), ("value", Text.quoted value)]

/-- The structural text of several markers. -/
def Annotation.listText (annotations : List Annotation) : String :=
  Text.listing (annotations.map structuralText)

/-- The structural text of the markers that something carries. -/
def Annotation.tupleText (annotations : List Annotation) : String :=
  Text.tuple "Annotations" [listText annotations]

/-- The structural text of endpoint metadata. -/
def EndpointMetadata.structuralText (metadata : EndpointMetadata) : String :=
  Text.record "EndpointMetadata" [("items", Annotation.listText metadata.items)]

/-- The structural text of a signature. -/
def Signature.structuralText (signature : Signature) : String :=
  Text.record "MethodSignature"
    [("name", Text.quoted signature.name),
     ("params", Text.listing (signature.params.map DeclaredType.name)),
     ("returns", signature.returns.name),
     ("generic_params", toString signature.genericParams),
     ("annotations", Annotation.tupleText signature.annotations)]

/-- Printed name of a kind of contracts. -/
def ContractKind.name : ContractKind → String
  | interface => "Interface"
  | concrete => "Class"

/-- The structural text of a contract without its methods. -/
def Contract.headText (contract : Contract) : String :=
  Text.record "ContractInfo"
    [("kind", contract.kind.name), ("type_name", Text.quoted contract.typeName),
     ("annotations", Annotation.tupleText contract.annotations)]

/-- The structural text of a contract. -/
def Contract.structuralText (contract : Contract) : String :=
  Text.record "ContractDefinition"
    [("info", contract.headText),
     ("methods", Text.listing (contract.methods.map Signature.structuralText))]

/-- The structural text of a method reference. -/
def MethodReference.structuralText (reference : MethodReference) : String :=
  Text.record "MethodReference"
    [("service_name", Text.quoted reference.service),
     ("operation_name", Text.quoted reference.operation),
     ("call_kind", reference.callKind.name),
     ("declaring_method_name", Text.quoted reference.method)]

end RpcContracts
