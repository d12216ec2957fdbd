import RpcContracts.Call.Error
import RpcContracts.Call.Metadata
import RpcContracts.Text.Structure

/-!
# Structural text of statuses, errors and metadata
-/

namespace RpcContracts

/-- The structural text of a status. -/
def Status.structuralText (status : Status) : String :=
  Text.record "Status" [("code", status.code.name), ("detail", Text.quoted status.detail)]

/-- The structural text of an error. -/
def RpcError.structuralText : RpcError → String
  | cancelled => "Cancelled"
  | status reported => Text.tuple "Status" [reported.structuralText]
  | unsupported reason => Text.tuple "Unsupported" [Text.quoted reason]
  | codec reason => Text.tuple "Codec" [Text.quoted reason]
  | invalidOperation reason => Text.tuple "InvalidOperation" [Text.quoted reason]
  | typeMismatch expected => Text.record "TypeMismatch" [("expected", Text.quoted expected)]

/-- The structural text of an error of building. -/
def ContractError.structuralText : ContractError → String
  | notAnInterface typeName => Text.tuple "NotAnInterface" [Text.quoted typeName]
  | missingServiceName typeName => Text.tuple "MissingServiceName" [Text.quoted typeName]
  | duplicateOperation service operation first second =>
      Text.record "DuplicateOperation"
        [("service", Text.quoted service), ("operation", Text.quoted operation),
         ("first", Text.quoted first), ("second", Text.quoted second)]
  | missingMarshaller typeName => Text.tuple "MissingMarshaller" [Text.quoted typeName]
  | unsupportedShape method reason =>
      Text.record "UnsupportedShape"
        [("method", Text.quoted method), ("reason", Text.quoted reason)]

/-- The structural text of a metadata value. -/
def MetadataValue.structuralText : MetadataValue → String
  | ascii text => Text.tuple "Ascii" [Text.quoted text]
  | binary bytes => Text.tuple "Binary" [Text.listing (bytes.map fun byte => toString byte.toNat)]

/-- The structural text of metadata. -/
def Metadata.structuralText (metadata : Metadata) : String :=
  Text.record "Metadata" [("entries", Text.listing (metadata.entries.map fun entry =>
    Text.record "MetadataEntry"
      [("key", Text.quoted entry.key), ("value", entry.value.structuralText)]))]

end RpcContracts
