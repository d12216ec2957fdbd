import RpcContracts.Call.Capture
import RpcContracts.Call.Options

/-!
# Call contexts

One context type serves both sides of a call. A client context holds options and possibly a capture
buffer, known by its number; a server context is that of the call being handled.
-/

namespace RpcContracts

/-- A context usable from either side of a call. -/
inductive CallContext where
  | client (options : CallOptions) (capture : Option Nat)
  | server (context : ServerCallContext)
  deriving DecidableEq

namespace CallContext

/-- Whether the context is that of a handled call. -/
def isServer : CallContext → Bool
  | client .. => false
  | server _ => true

/-- The context of the handled call. -/
def serverContext? : CallContext → Option ServerCallContext
  | client .. => none
  | server context => some context

/-- The number of the capture buffer. -/
def capture? : CallContext → Option Nat
  | client _ capture => capture
  | server _ => none

/-- Headers of the request. -/
def requestHeaders : CallContext → Metadata
  | client options _ => options.headers
  | server context => context.headers

/-- The options of an outgoing call made with the context. A handled call passes on its deadline,
token and write options, but not its headers. -/
def clientOptions : CallContext → CallOptions
  | client options _ => options
  | server context => ⟨.empty, context.deadline, context.token, context.writeOptions⟩

/-- The capture buffer from which response metadata is read. -/
def captureToRead : CallContext → Except RpcError Nat
  | server _ =>
      .error (.invalidOperation "Response metadata is not available for server contexts")
  | client _ none =>
      .error (.invalidOperation <|
        "The CaptureMetadata flag must be specified when creating the CallContext " ++
          "to enable response metadata")
  | client _ (some capture) => .ok capture

end CallContext
end RpcContracts
