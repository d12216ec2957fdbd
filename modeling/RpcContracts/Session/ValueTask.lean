import RpcContracts.Async.ValueTask
import RpcContracts.Session.Answer

/-!
# Sessions on tasks and value tasks

A task or a value task is polled, queried and converted while a source is resolved or abandoned. The
source gives one result, whether or not the object takes its own from it.
-/

namespace RpcContracts

/-- A step on a task or a value task. -/
inductive ValueTaskStep where
  | isCompleted
  /-- Describe the object. -/
  | describe
  | poll
  | intoTask
  | intoValueTask
  /-- Give the result of the source, if it still has none. -/
  | resolve (outcome : Outcome)
  /-- Give up the source, which cancels its result. -/
  | abandon

/-- The steps without parameters, by name. -/
def ValueTaskStep.named : List (String × ValueTaskStep) :=
  [("is_completed", .isCompleted), ("debug", .describe), ("poll", .poll),
   ("into_task", .intoTask), ("into_value_task", .intoValueTask), ("abandon", .abandon)]

/-- How the object of a session is made. -/
inductive ValueTaskOrigin where
  /-- A value task with an inline result. -/
  | inline
  /-- A value task backed by a finished task. -/
  | finished
  /-- A value task backed by a task whose result comes from the source. -/
  | gated
  /-- A finished task. -/
  | finishedTask
  /-- A task whose result comes from the source. -/
  | gatedTask
  deriving DecidableEq

namespace ValueTaskOrigin

/-- The origins, each by the names of the ways to make it. -/
def named : List (String × ValueTaskOrigin) :=
  [("value", inline), ("error", inline), ("result", inline), ("task_result", finished),
   ("gated", gated), ("task", finishedTask), ("task_value", finishedTask),
   ("task_error", finishedTask), ("task_gated", gatedTask)]

end ValueTaskOrigin

/-- What the object is at the moment. -/
inductive TaskHandle : Type 1 where
  | task (task : Task Payload)
  | valueTask (valueTask : ValueTask Payload)
  | finished

/-- A task or value task and the history of the source. -/
structure ValueTaskSession : Type 1 where
  /-- The object. -/
  handle : TaskHandle
  /-- What the source gave. -/
  history : History
  /-- Whether the source has still to give a result. -/
  isOpen : Bool

namespace ValueTaskSession

/-- The task whose result comes from the source. -/
def sourceTask : Task Payload := .awaiting fun history => history.outcome? 0

/-- Poll the object; what is over is discarded, except for an inline result. -/
def pollHandle (history : History) : TaskHandle → Answer × TaskHandle
  | .finished => (.finished, .finished)
  | .task task =>
      match task.step history .fresh with
      | (.pending, task, _) => (.pending, .task task)
      | (.ready outcome, _, _) => (.ready outcome, .finished)
  | .valueTask valueTask =>
      match valueTask.step history .fresh with
      | (.pending, valueTask, _) => (.pending, .valueTask valueTask)
      | (.ready outcome, .inline slot, _) => (.ready outcome, .valueTask (.inline slot))
      | (.ready outcome, .backed _, _) => (.ready outcome, .finished)

/-- The printed form of a truth value. -/
def boolText (value : Bool) : String := if value then "true" else "false"

/-- Take a step. -/
def answer (session : ValueTaskSession) : ValueTaskStep → Answer × ValueTaskSession
  | .isCompleted =>
      match session.handle with
      | .valueTask valueTask => (.flag valueTask.isCompleted, session)
      | _ => (.remark "not a value task", session)
  | .describe =>
      match session.handle with
      | .valueTask valueTask =>
          (.remark ("ValueTask \x7b completed: " ++ boolText valueTask.isCompleted ++ " \x7d"),
            session)
      | .task _ => (.remark "Task \x7b .. \x7d", session)
      | .finished => (.finished, session)
  | .poll =>
      match pollHandle session.history session.handle with
      | (answer, handle) => (answer, { session with handle := handle })
  | .intoTask =>
      match session.handle with
      | .valueTask valueTask => (.done, { session with handle := .task valueTask.toTask })
      | _ => (.remark "not a value task", session)
  | .intoValueTask =>
      match session.handle with
      | .task task => (.done, { session with handle := .valueTask (.backed task) })
      | _ => (.remark "not a task", session)
  | .resolve outcome =>
      if session.isOpen then
        (.done, { session with
          history := session.history ++ [.resolved 0 outcome], isOpen := false })
      else (.remark "already resolved", session)
  | .abandon =>
      if session.isOpen then
        (.done, { session with
          history := session.history ++ [.resolved 0 (.error .cancelled)], isOpen := false })
      else (.done, session)

/-- An object of an origin; only an origin without the source needs a result. -/
def make (origin : ValueTaskOrigin) (result : Outcome) : TaskHandle :=
  match origin with
  | .inline => .valueTask (.inline (some result))
  | .finished => .valueTask (.backed (.ready result))
  | .gated => .valueTask (.backed sourceTask)
  | .finishedTask => .task (.ready result)
  | .gatedTask => .task sourceTask

/-- The answers of steps on an object of an origin. -/
def run (origin : ValueTaskOrigin) (result : Outcome) (steps : List ValueTaskStep) : List Answer :=
  runSteps answer ⟨make origin result, [], true⟩ steps

end ValueTaskSession
end RpcContracts
