import RpcContracts.Async.Poll
import RpcContracts.Call.Error

/-!
# Bounded channels

A channel has one sender and one receiver. A send always enqueues; when the queue then holds more
than `buffer` items the sender is parked until the receiver takes one. While it is parked the sender
finds the channel pending and may not send. Either side can shut the channel: the sender then finds
it closed, and the receiver gets the items left before it finds the end.
-/

namespace RpcContracts

/-- State of a channel. -/
structure Channel (α : Type) where
  /-- Number of items beyond which a send parks the sender. -/
  buffer : Nat
  /-- Items sent and not yet received, oldest first. -/
  queue : List α
  /-- Whether the sender is parked. -/
  parked : Bool
  /-- Whether neither side has shut the channel. -/
  isOpen : Bool
  deriving DecidableEq

/-- The error of a sender that finds its channel closed. -/
def streamClosed : RpcError :=
  .invalidOperation "the response stream has already been closed"

namespace Channel

variable {α : Type}

/-- The buffer of a channel for which none is given. -/
def defaultBuffer : Nat := 8

/-- A channel without items. -/
def create (buffer : Nat) : Channel α := ⟨buffer, [], false, true⟩

/-- Whether the sender may send. -/
def pollReady (channel : Channel α) : Poll (Except RpcError Unit) :=
  if !channel.isOpen then .ready (.error streamClosed)
  else if channel.parked then .pending
  else .ready (.ok ())

/-- Send an item. -/
def send (channel : Channel α) (item : α) : Except RpcError Unit × Channel α :=
  if channel.parked || !channel.isOpen then (.error streamClosed, channel)
  else
    (.ok (), { channel with
      queue := channel.queue ++ [item], parked := channel.buffer < channel.queue.length + 1 })

/-- Whether what was sent is no longer held back; a shut channel holds nothing back. -/
def pollFlush (channel : Channel α) : Poll (Except RpcError Unit) :=
  if channel.isOpen && channel.parked then .pending else .ready (.ok ())

/-- Shut the channel, from either side. -/
def close (channel : Channel α) : Channel α := { channel with isOpen := false }

/-- Shut the channel and throw the queue away. -/
def dropReceiver (channel : Channel α) : Channel α :=
  { channel with queue := [], isOpen := false }

/-- Receive an item, which releases a parked sender, or find the end. -/
def receive (channel : Channel α) : Poll (Option α) × Channel α :=
  match channel.queue with
  | item :: rest => (.ready (some item), { channel with queue := rest, parked := false })
  | [] => if channel.isOpen then (.pending, channel) else (.ready none, channel)

end Channel
end RpcContracts
