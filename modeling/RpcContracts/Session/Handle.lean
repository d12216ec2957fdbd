import RpcContracts.Client.Outcome
import RpcContracts.Session.Answer

/-!
# Handles

A handle keeps what a client method returned, so that it can be polled until it is over.
-/

namespace RpcContracts

/-- Something that can be polled. -/
inductive Handle : Type 1 where
  /-- Nothing was returned that could be polled. -/
  | empty
  | single (task : Task Payload)
  | stream (items : ItemStream Payload)
  /-- What was returned is over. -/
  | finished

namespace Handle

/-- Poll a handle once. -/
def poll (handle : Handle) (history : History) (memory : Memory) : Answer × Handle × Memory :=
  match handle with
  | empty => (.nothing, empty, memory)
  | finished => (.finished, finished, memory)
  | single task =>
      match task.step history memory with
      | (.pending, task, memory) => (.pending, single task, memory)
      | (.ready outcome, _, memory) => (.ready outcome, finished, memory)
  | stream items =>
      match items.step history memory with
      | (.ready none, _, memory) => (.ended, finished, memory)
      | (poll, items, memory) => (.ofItemPoll poll, stream items, memory)

/-- Poll a handle until a poll yields no item. -/
def drain (handle : Handle) (history : History) (memory : Memory) :
    List Answer × Handle × Memory :=
  match handle with
  | stream items =>
      match items.drain history memory with
      | (found, true, items, memory) =>
          (found.map Answer.item ++ [.pending], stream items, memory)
      | (found, false, _, memory) => (found.map Answer.item ++ [.ended], finished, memory)
  | handle =>
      match handle.poll history memory with
      | (answer, handle, memory) => ([answer], handle, memory)

end Handle

namespace Returned

variable {argument : ValueType}

/-- What was returned, as it is shown. -/
def answer : Returned argument → Answer
  | result outcome => .returnedResult (Outcome.ofTyped outcome)
  | task _ => .remark "task"
  | valueTask work => .returnedValueTask work.isCompleted
  | responses _ => .remark "stream"
  | blocked => .remark "blocked"

/-- What was returned, as it is polled. -/
def handle : Returned argument → Handle
  | result _ => .empty
  | task work => .single (work.map Outcome.ofTyped)
  | valueTask work => .single (work.toTask.map Outcome.ofTyped)
  | responses items => .stream (ItemStream.erase items)
  | blocked => .empty

end Returned

namespace CallOutcome

/-- An outcome, as it is polled before it is adapted. -/
def handle : CallOutcome → Handle
  | completed result => .single (.ready result)
  | pending task => .single task
  | streaming responses => .stream responses
  | blocked => .empty

end CallOutcome
end RpcContracts
