import RpcContracts.Call.Status

/-!
# Errors

`RpcError` is what a call in flight can fail with, and `ContractError` what building a client or a
server from a contract can fail with. Each has one function giving its message.
-/

namespace RpcContracts

/-- Why a call failed. -/
inductive RpcError where
  /-- The call's token fired, or the transport reported a cancelled call. -/
  | cancelled
  /-- The transport completed the call with a status other than success. -/
  | status (status : Status)
  /-- The invoked method has no usable client binding. -/
  | unsupported (reason : String)
  /-- A payload could not be encoded or decoded. -/
  | codec (reason : String)
  /-- The operation is not valid in the state of its object. -/
  | invalidOperation (reason : String)
  /-- A value did not have the type its receiver expected. -/
  | typeMismatch (expected : String)
  deriving DecidableEq

namespace RpcError

/-- Printed name of the kind of an error. -/
def kind : RpcError → String
  | cancelled => "Cancelled"
  | status _ => "Status"
  | unsupported _ => "Unsupported"
  | codec _ => "Codec"
  | invalidOperation _ => "InvalidOperation"
  | typeMismatch _ => "TypeMismatch"

/-- The message of an error. -/
def message : RpcError → String
  | cancelled => "the call was cancelled"
  | status reported => "call failed with status " ++ reported.message
  | unsupported reason => "operation is not supported by this client: " ++ reason
  | codec reason => "codec error: " ++ reason
  | invalidOperation reason => reason
  | typeMismatch expected => "type mismatch: expected `" ++ expected ++ "`"

/-- Whether the error is the normal form of a cancellation. -/
def isCancelled : RpcError → Bool
  | cancelled => true
  | _ => false

/-- A status with the cancelled code is a cancellation; every other error is itself. -/
def normalize : RpcError → RpcError
  | status reported => if reported.code = .cancelled then cancelled else status reported
  | error => error

/-- The error a reported status stands for. -/
def ofStatus (reported : Status) : RpcError :=
  normalize (status reported)

@[simp]
theorem normalize_normalize (error : RpcError) : error.normalize.normalize = error.normalize := by
  cases error with
  | status reported => by_cases isCancel : reported.code = .cancelled <;> simp [normalize, isCancel]
  | _ => rfl

end RpcError

/-- Why a client or a server cannot be built from a contract. -/
inductive ContractError where
  /-- Clients are built from interface contracts only. -/
  | notAnInterface (typeName : String)
  /-- Neither an annotation nor the type name yields a service name. -/
  | missingServiceName (typeName : String)
  /-- Two methods of one service have the same operation name. -/
  | duplicateOperation (service operation first second : String)
  /-- A request or response type has no marshaller. -/
  | missingMarshaller (typeName : String)
  /-- The method has a call shape that this side cannot express. -/
  | unsupportedShape (method reason : String)
  deriving DecidableEq

namespace ContractError

/-- Printed name of the kind of an error. -/
def kind : ContractError → String
  | notAnInterface _ => "NotAnInterface"
  | missingServiceName _ => "MissingServiceName"
  | duplicateOperation .. => "DuplicateOperation"
  | missingMarshaller _ => "MissingMarshaller"
  | unsupportedShape .. => "UnsupportedShape"

/-- The message of an error. -/
def message : ContractError → String
  | notAnInterface typeName => "`" ++ typeName ++ "` is not an interface contract"
  | missingServiceName typeName => "unable to resolve a service name for `" ++ typeName ++ "`"
  | duplicateOperation service operation first second =>
      "duplicate operation `" ++ operation ++ "` in service `" ++ service ++
        "`: declared by `" ++ first ++ "` and `" ++ second ++ "`"
  | missingMarshaller typeName => "no marshaller is available for `" ++ typeName ++ "`"
  | unsupportedShape method reason => "method `" ++ method ++ "` cannot be bound: " ++ reason

end ContractError
end RpcContracts
