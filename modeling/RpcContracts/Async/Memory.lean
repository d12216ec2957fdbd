import RpcContracts.Async.Channel
import RpcContracts.Async.History

/-!
# Memories

What polled work shares and changes: the capture buffers of calls and the channels of responses,
each under a number. A buffer or channel that nobody has touched is empty.
-/

namespace RpcContracts

/-- Shared state that polls may change. -/
structure Memory where
  /-- Capture buffers. -/
  captures : Nat → Capture
  /-- Response channels. -/
  channels : Nat → Channel Payload

namespace Memory

/-- Nothing captured, and no channel used. -/
def fresh : Memory := ⟨fun _ => .empty, fun _ => .create Channel.defaultBuffer⟩

/-- Change one capture buffer. -/
def setCapture (memory : Memory) (number : Nat) (capture : Capture) : Memory where
  captures := fun other => if other = number then capture else memory.captures other
  channels := memory.channels

/-- Change one channel. -/
def setChannel (memory : Memory) (number : Nat) (channel : Channel Payload) : Memory where
  captures := memory.captures
  channels := fun other => if other = number then channel else memory.channels other

/-- Forget what a capture buffer holds, if there is one. -/
def resetCapture (memory : Memory) : Option Nat → Memory
  | some number => memory.setCapture number .empty
  | none => memory

/-- Keep headers in a capture buffer. -/
def captureHeaders (memory : Memory) (number : Nat) (headers : Metadata) : Memory :=
  memory.setCapture number ((memory.captures number).setHeaders headers)

/-- Keep a completion in a capture buffer. -/
def captureCompletion (memory : Memory) (number : Nat) (completion : Completion) : Memory :=
  memory.setCapture number ((memory.captures number).setCompletion completion)

/-- Receive from a channel. -/
def receive (memory : Memory) (number : Nat) : Poll (Option Payload) × Memory :=
  match (memory.channels number).receive with
  | (poll, channel) => (poll, memory.setChannel number channel)

/-- Shut a channel. -/
def closeChannel (memory : Memory) (number : Nat) : Memory :=
  memory.setChannel number (memory.channels number).close

/-- Headers of the most recent call made with a context. -/
def responseHeaders (memory : Memory) (context : CallContext) : Except RpcError Metadata :=
  context.captureToRead.bind fun number => (memory.captures number).readHeaders

/-- Trailers of the most recent call made with a context. -/
def responseTrailers (memory : Memory) (context : CallContext) : Except RpcError Metadata :=
  context.captureToRead.bind fun number => (memory.captures number).readTrailers

/-- Status of the most recent call made with a context. -/
def responseStatus (memory : Memory) (context : CallContext) : Except RpcError Status :=
  context.captureToRead.bind fun number => (memory.captures number).readStatus

@[simp]
theorem captures_setCapture_same (memory : Memory) (number : Nat) (capture : Capture) :
    (memory.setCapture number capture).captures number = capture := by simp [setCapture]

@[simp]
theorem channels_setChannel_same (memory : Memory) (number : Nat) (channel : Channel Payload) :
    (memory.setChannel number channel).channels number = channel := by simp [setChannel]

end Memory
end RpcContracts
