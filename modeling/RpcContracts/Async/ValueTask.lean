import RpcContracts.Async.Future

/-!
# Value tasks

A value task keeps a result that is already there inline, and is backed by a task otherwise. An
inline result can be taken once; after that the value task only reports that it was polled too
often.
-/

namespace RpcContracts

/-- The error of a value task whose result was taken. -/
def polledAfterCompletion : RpcError :=
  .invalidOperation "ValueTask polled after completion"

/-- A result that may already be there. -/
inductive ValueTask (α : Type) : Type 1 where
  /-- The result, unless it was taken. -/
  | inline (slot : Option (Except RpcError α))
  /-- The task that will give the result. -/
  | backed (task : Task α)

namespace ValueTask

variable {α : Type}

/-- Whether the result can be taken without waiting. -/
def isCompleted : ValueTask α → Bool
  | inline slot => slot.isSome
  | backed _ => false

/-- Poll a value task once. -/
def step : ValueTask α → History → Memory → Poll (Except RpcError α) × ValueTask α × Memory
  | inline (some result), _, memory => (.ready result, inline none, memory)
  | inline none, _, memory => (.ready (.error polledAfterCompletion), inline none, memory)
  | backed task, history, memory =>
      match task.step history memory with
      | (poll, task, memory) => (poll, backed task, memory)

/-- The task with the same result. -/
def toTask : ValueTask α → Task α
  | inline (some result) => .ready result
  | inline none => .ready (.error polledAfterCompletion)
  | backed task => task

end ValueTask
end RpcContracts
