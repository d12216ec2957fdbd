import RpcContracts.Call.Error
import RpcContracts.Call.Metadata

/-!
# Captured response metadata

A transport reports headers when they arrive, and a completion, which is the final status with the
trailers, when a call is over. A capture buffer keeps what one call reported.
-/

namespace RpcContracts

/-- Final status and trailers of a call. -/
structure Completion where
  /-- How the call ended. -/
  status : Status
  /-- Trailer entries. -/
  trailers : Metadata
  deriving DecidableEq

namespace Completion

/-- The completion of a call that succeeded without trailers. -/
def ok : Completion := ⟨.ok, .empty⟩

end Completion

/-- What one call has reported so far. -/
structure Capture where
  /-- Response headers. -/
  headers : Option Metadata
  /-- Response trailers. -/
  trailers : Option Metadata
  /-- Final status. -/
  status : Option Status
  deriving DecidableEq

namespace Capture

/-- Nothing reported. -/
def empty : Capture := ⟨none, none, none⟩

/-- Keep the headers. -/
def setHeaders (capture : Capture) (headers : Metadata) : Capture :=
  { capture with headers := some headers }

/-- Keep the status and the trailers. -/
def setCompletion (capture : Capture) (completion : Completion) : Capture :=
  { capture with trailers := some completion.trailers, status := some completion.status }

/-- A reported value, or an error that names it. -/
def reported {α : Type} (name : String) : Option α → Except RpcError α
  | some value => .ok value
  | none => .error (.invalidOperation (name ++ " not yet available"))

/-- The reported headers. -/
def readHeaders (capture : Capture) : Except RpcError Metadata :=
  reported "Headers are" capture.headers

/-- The reported trailers. -/
def readTrailers (capture : Capture) : Except RpcError Metadata :=
  reported "Trailers are" capture.trailers

/-- The reported status. -/
def readStatus (capture : Capture) : Except RpcError Status :=
  reported "Status is" capture.status

end Capture
end RpcContracts
