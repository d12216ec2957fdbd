import RpcContracts.Async.Cancellation
import RpcContracts.Async.Writer

/-!
# Pumps

A pump forwards the items of a stream into a writer, one by one, each with a flush, until the stream
ends or an item or a write fails. A token interrupts it while it waits for an item, but not while it
waits for room in the writer.
-/

namespace RpcContracts

/-- What a pump does. -/
inductive PumpStage where
  /-- No item has been asked for. -/
  | idle
  /-- An item has been asked for and was pending. -/
  | waiting
  /-- An item is being written; what has not been accepted is left. -/
  | writing (left : List Payload)

namespace ItemStream

/-- Read and write until something is pending or the pump is over. `begun` tells whether the next
item has been asked for before. -/
def pumpItems (token : Token) (stream : ItemStream Payload) (begun : Bool) (state : stream.State)
    (writer : Writer) (history : History) (memory : Memory) :
    Poll (Except RpcError Unit) × (PumpStage × stream.State × Writer) × Memory :=
  match _raced : PollStep.race stream.next token begun state history memory with
  | (.pending, state, memory) => (.pending, (.waiting, state, writer), memory)
  | (.ready none, state, memory) => (.ready (.error .cancelled), (.idle, state, writer), memory)
  | (.ready (some none), state, memory) => (.ready (.ok ()), (.idle, state, writer), memory)
  | (.ready (some (some (.error error))), state, memory) =>
      (.ready (.error error), (.idle, state, writer), memory)
  | (.ready (some (some (.ok item))), state, memory) =>
      match writer.sendAll [item] memory with
      | (.pending, left, writer, memory) => (.pending, (.writing left, state, writer), memory)
      | (.ready (.error error), _, writer, memory) =>
          (.ready (.error error), (.idle, state, writer), memory)
      | (.ready (.ok ()), _, writer, memory) =>
          pumpItems token stream false state writer history memory
termination_by stream.budget state history
decreasing_by exact stream.budget_lt (PollStep.race_some (by assumption))

/-- One poll of a pump: a write in progress is finished first. -/
def pollPump (token : Token) (stream : ItemStream Payload) :
    PollStep (PumpStage × stream.State × Writer) (Except RpcError Unit) :=
  fun (stage, state, writer) history memory =>
    match stage with
    | .idle => pumpItems token stream false state writer history memory
    | .waiting => pumpItems token stream true state writer history memory
    | .writing left =>
        match writer.sendAll left memory with
        | (.pending, left, writer, memory) => (.pending, (.writing left, state, writer), memory)
        | (.ready (.error error), _, writer, memory) =>
            (.ready (.error error), (.idle, state, writer), memory)
        | (.ready (.ok ()), _, writer, memory) =>
            pumpItems token stream false state writer history memory

/-- The task that forwards the items of a stream into a writer. -/
def pump (stream : ItemStream Payload) (token : Token) (writer : Writer) : Task Unit where
  State := PumpStage × stream.State × Writer
  state := (.idle, stream.state, writer)
  poll := pollPump token stream
  waits := fun _ => 0

end ItemStream
end RpcContracts
