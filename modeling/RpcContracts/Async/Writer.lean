import RpcContracts.Async.Future

/-!
# Writers

A writer is the sending end of a response channel. A direct writer sends at once. A typed writer
lies over a channel and holds an accepted item until it is next asked whether it is ready, flushed
or closed; then it passes the item on.
-/

namespace RpcContracts

/-- The sending end of a channel, which is known by its number. -/
inductive Writer where
  /-- Sends into the channel. -/
  | direct (channel : Nat)
  /-- Holds an item before it is sent. -/
  | typed (channel : Nat) (held : Option Payload)
  deriving DecidableEq

namespace Writer

/-- The channel that a writer sends into. -/
def channel : Writer → Nat
  | direct channel => channel
  | typed channel _ => channel

/-- The writer without the item it holds. -/
def emptied : Writer → Writer
  | direct channel => direct channel
  | typed channel _ => typed channel none

/-- Send the item that a writer holds, if it holds one. -/
def passOn (writer : Writer) (memory : Memory) : Except RpcError Unit × Memory :=
  match writer with
  | direct _ => (.ok (), memory)
  | typed _ none => (.ok (), memory)
  | typed number (some item) =>
      match (memory.channels number).send item with
      | (result, channel) => (result, memory.setChannel number channel)

/-- Pass on what a writer holds and then ask its channel. -/
def askChannel (ask : Channel Payload → Poll (Except RpcError Unit)) (writer : Writer)
    (memory : Memory) : Poll (Except RpcError Unit) × Writer × Memory :=
  match writer.passOn memory with
  | (.error error, memory) => (.ready (.error error), writer.emptied, memory)
  | (.ok (), memory) => (ask (memory.channels writer.channel), writer.emptied, memory)

/-- Ask whether the writer accepts an item. -/
def pollReady : Writer → Memory → Poll (Except RpcError Unit) × Writer × Memory :=
  askChannel Channel.pollReady

/-- Ask whether everything accepted has been let through. -/
def pollFlush : Writer → Memory → Poll (Except RpcError Unit) × Writer × Memory :=
  askChannel Channel.pollFlush

/-- Accept an item. -/
def send (item : Payload) (writer : Writer) (memory : Memory) :
    Except RpcError Unit × Writer × Memory :=
  match writer with
  | direct number =>
      match (memory.channels number).send item with
      | (result, channel) => (result, direct number, memory.setChannel number channel)
  | typed number _ => (.ok (), typed number (some item), memory)

/-- Shut the channel after passing on what the writer holds. -/
def pollClose (writer : Writer) (memory : Memory) :
    Poll (Except RpcError Unit) × Writer × Memory :=
  match writer.passOn memory with
  | (.error error, memory) => (.ready (.error error), writer.emptied, memory)
  | (.ok (), memory) => (.ready (.ok ()), writer.emptied, memory.closeChannel writer.channel)

/-- Give a writer up: its channel is shut, and what it holds is lost. -/
def drop (writer : Writer) (memory : Memory) : Memory :=
  memory.closeChannel writer.channel

/-- Send items one after another, each when the writer is ready, and flush at the end. The items not
yet accepted are what is left to do. -/
def sendAll : List Payload → Writer → Memory →
    Poll (Except RpcError Unit) × List Payload × Writer × Memory
  | [], writer, memory =>
      match writer.pollFlush memory with
      | (poll, writer, memory) => (poll, [], writer, memory)
  | item :: rest, writer, memory =>
      match writer.pollReady memory with
      | (.pending, writer, memory) => (.pending, item :: rest, writer, memory)
      | (.ready (.error error), writer, memory) =>
          (.ready (.error error), item :: rest, writer, memory)
      | (.ready (.ok ()), writer, memory) =>
          match writer.send item memory with
          | (.error error, writer, memory) => (.ready (.error error), rest, writer, memory)
          | (.ok (), writer, memory) => sendAll rest writer memory

/-- Write items one by one, flushing after each, and end with a result unless writing fails. What is
left to do is the rest of the write in progress, if there is one, and the items after it. -/
def advanceEach (final : Except RpcError Unit) : Option (List Payload) → List Payload → Writer →
    Memory → Poll (Except RpcError Unit) × (Option (List Payload) × List Payload × Writer) × Memory
  | some current, rest, writer, memory =>
      match sendAll current writer memory with
      | (.pending, current, writer, memory) => (.pending, (some current, rest, writer), memory)
      | (.ready (.error error), _, writer, memory) =>
          (.ready (.error error), (none, rest, writer), memory)
      | (.ready (.ok ()), _, writer, memory) =>
          match rest with
          | [] => (.ready final, (none, [], writer), memory)
          | item :: rest => advanceEach final (some [item]) rest writer memory
  | none, item :: rest, writer, memory => advanceEach final (some [item]) rest writer memory
  | none, [], writer, memory => (.ready final, (none, [], writer), memory)
termination_by current items => (items.length, if current.isSome then 0 else 1)

/-- The future that writes items one by one and ends with a result unless writing fails. -/
def writeEach (writer : Writer) (items : List Payload) (final : Except RpcError Unit) :
    Task Unit where
  State := Option (List Payload) × List Payload × Writer
  state := (none, items, writer)
  poll := fun (current, rest, writer) _ memory => advanceEach final current rest writer memory
  waits := fun _ => 0

end Writer
end RpcContracts
