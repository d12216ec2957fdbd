import RpcContracts.Call.Metadata

/-!
# Call options

What accompanies a call besides its payload: headers, a deadline, a cancellation token and write
options. A token is known by name, and a detached token never fires.
-/

namespace RpcContracts

/-- A cancellation token. -/
inductive Token where
  /-- A token nobody else holds, which never fires. -/
  | detached
  /-- A token shared under a name. -/
  | named (name : String)
  deriving DecidableEq

/-- Flags for writing a message, as a bit set. -/
structure WriteOptions where
  /-- The bits. -/
  flags : UInt32
  deriving DecidableEq

namespace WriteOptions

/-- No flags. -/
def none : WriteOptions := ⟨0⟩

/-- The message may be buffered. -/
def bufferHint : WriteOptions := ⟨1⟩

/-- The message must not be compressed. -/
def noCompress : WriteOptions := ⟨2⟩

/-- Whether all of the given flags are set. -/
def contains (options sought : WriteOptions) : Bool :=
  options.flags &&& sought.flags == sought.flags

end WriteOptions

/-- What accompanies an outgoing call. -/
structure CallOptions where
  /-- Request headers. -/
  headers : Metadata
  /-- Deadline in milliseconds since the epoch. -/
  deadline : Option Int
  /-- Token that cancels the call. -/
  token : Token
  /-- Flags for writing the request. -/
  writeOptions : Option WriteOptions
  deriving DecidableEq

namespace CallOptions

/-- No headers, no deadline, a token of its own and no flags. -/
def default : CallOptions := ⟨.empty, none, .detached, none⟩

end CallOptions

/-- What accompanies a call that a server handles. -/
structure ServerCallContext where
  /-- Full name of the called method. -/
  method : String
  /-- Address of the caller. -/
  peer : String
  /-- Request headers. -/
  headers : Metadata
  /-- Deadline in milliseconds since the epoch. -/
  deadline : Option Int
  /-- Token that cancels the call. -/
  token : Token
  /-- Flags for writing the responses. -/
  writeOptions : Option WriteOptions
  deriving DecidableEq

end RpcContracts
