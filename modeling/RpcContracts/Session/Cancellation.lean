import RpcContracts.Async.Cancellation
import RpcContracts.Session.Answer

/-!
# Sessions on cancellable work

Work that is there at once, or comes from a source, is polled against a token that can be fired
between polls.
-/

namespace RpcContracts

/-- A step on cancellable work. -/
inductive CancellationStep where
  | poll
  | cancel
  /-- Give the result of the work. -/
  | resolve (outcome : Outcome)
  /-- Give up the source of the work. -/
  | abandon

/-- The steps without parameters, by name. -/
def CancellationStep.named : List (String × CancellationStep) :=
  [("poll", .poll), ("cancel", .cancel), ("abandon", .abandon)]

/-- Cancellable work that may be over, and what happened outside. -/
structure CancellationSession : Type 1 where
  /-- The work, unless it is over. -/
  work : Option (Task Payload)
  /-- What happened outside. -/
  history : History

namespace CancellationSession

/-- The token of a session. -/
def token : Token := .named "token"

/-- Work against the token, cancelled beforehand if asked. -/
def start (work : Option Outcome) (cancelled : Bool) : CancellationSession where
  work :=
    let task : Task Payload :=
      match work with
      | some outcome => .ready outcome
      | none => .awaiting fun history => history.outcome? 0
    some (task.cancellable token)
  history := if cancelled then [.fired "token"] else []

/-- Take a step. -/
def answer (session : CancellationSession) : CancellationStep → Answer × CancellationSession
  | .poll =>
      match session.work with
      | none => (.finished, session)
      | some work =>
          match work.step session.history .fresh with
          | (.pending, work, _) => (.pending, { session with work := some work })
          | (.ready outcome, _, _) => (.ready outcome, { session with work := none })
  | .cancel => (.done, { session with history := session.history ++ [.fired "token"] })
  | .resolve outcome =>
      (.done, { session with history := session.history ++ [.resolved 0 outcome] })
  | .abandon =>
      (.done, { session with
        history := session.history ++ [.resolved 0 (.error (.unsupported "abandoned"))] })

/-- The answers of steps on cancellable work. -/
def run (work : Option Outcome) (cancelled : Bool) (steps : List CancellationStep) : List Answer :=
  runSteps answer (start work cancelled) steps

end CancellationSession
end RpcContracts
