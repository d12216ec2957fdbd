/-!
# Call status

The final status of a call: one of seventeen codes with a detail text. Codes travel as numbers; a
number outside the known range stands for the unknown code.
-/

namespace RpcContracts

/-- How a call ended, in the order of the numeric codes. -/
inductive StatusCode where
  | ok
  | cancelled
  | unknown
  | invalidArgument
  | deadlineExceeded
  | notFound
  | alreadyExists
  | permissionDenied
  | resourceExhausted
  | failedPrecondition
  | aborted
  | outOfRange
  | unimplemented
  | internal
  | unavailable
  | dataLoss
  | unauthenticated
  deriving DecidableEq

namespace StatusCode

/-- Every code, in numeric order. -/
def all : List StatusCode :=
  [ok, cancelled, unknown, invalidArgument, deadlineExceeded, notFound, alreadyExists,
   permissionDenied, resourceExhausted, failedPrecondition, aborted, outOfRange, unimplemented,
   internal, unavailable, dataLoss, unauthenticated]

/-- The number a code travels as. -/
def raw (code : StatusCode) : Nat := code.ctorIdx

/-- The code with a given number, if the number is in the known range. -/
def ofRaw? (raw : Nat) : Option StatusCode := all[raw]?

/-- The printed name of a code. -/
def name : StatusCode → String
  | ok => "Ok"
  | cancelled => "Cancelled"
  | unknown => "Unknown"
  | invalidArgument => "InvalidArgument"
  | deadlineExceeded => "DeadlineExceeded"
  | notFound => "NotFound"
  | alreadyExists => "AlreadyExists"
  | permissionDenied => "PermissionDenied"
  | resourceExhausted => "ResourceExhausted"
  | failedPrecondition => "FailedPrecondition"
  | aborted => "Aborted"
  | outOfRange => "OutOfRange"
  | unimplemented => "Unimplemented"
  | internal => "Internal"
  | unavailable => "Unavailable"
  | dataLoss => "DataLoss"
  | unauthenticated => "Unauthenticated"

/-- What is reported for a number that is no code. -/
def unknownRawMessage (raw : Nat) : String :=
  "No discriminant in enum `StatusCode` matches the value `" ++ toString raw ++ "`"

end StatusCode

/-- Final status of a call, as reported by the transport. -/
structure Status where
  /-- How the call ended. -/
  code : StatusCode
  /-- Free text of the reporting side. -/
  detail : String
  deriving DecidableEq

namespace Status

/-- The status of a call that succeeded. -/
def ok : Status := ⟨.ok, ""⟩

/-- The status of a cancelled call. -/
def cancelled (detail : String) : Status := ⟨.cancelled, detail⟩

/-- The status for a number received from the wire. -/
def ofRaw (raw : Nat) (detail : String) : Status :=
  ⟨(StatusCode.ofRaw? raw).getD .unknown, detail⟩

/-- Whether the call succeeded. -/
def isOk (status : Status) : Bool := status.code = .ok

/-- The code's name, followed by the detail unless it is empty. -/
def message (status : Status) : String :=
  if status.detail.isEmpty then status.code.name
  else status.code.name ++ ": " ++ status.detail

end Status
end RpcContracts
