import RpcContracts.Proofs.Client.Cancellations
import RpcContracts.Proofs.Client.Responding

/-!
# Forms of a result

A call with a single response can be made in six ways: its caller blocks, or is handed a task or a
value task, and its metadata is captured or not. The ways wait for different parts of the call, so
they need different numbers of polls, but as long as the token does not fire they all come to the
same result.
-/

namespace RpcContracts
namespace SingleCall

/-- What the caller gets of a response: the payload at the expected type, or the error in normal
form. -/
def answer (argument : ValueType) : Outcome → OutcomeOf argument
  | .ok payload => payload.downcast argument
  | .error error => .error error.normalize

theorem downcast_raceResult (argument : ValueType) (response : Outcome) :
    Outcome.downcast argument (raceResult (some response)) = answer argument response := by
  cases response <;> rfl

/-- What a caller sees of a call that is made in the form of a response shape and polled in some
turns. -/
def seen (call : SingleCall) (shape : ResponseShape) (capture : Option Nat) (token : Token)
    (argument : ValueType) (history : History) (memory : Memory) (turns : List Turn) :
    List (OutcomeOf argument) :=
  match call.outcome shape capture token history memory with
  | (outcome, memory) => outcome.seen (ReturnForm.ofShape shape) argument history memory turns

section

variable {call : SingleCall} {delays : Delays} {metadata : Metadata} {response : Outcome}
  {completion : Completion} (responds : call.Responds delays metadata response completion)
  {token : Token} {history : History} {turns : List Turn}
  (unfired : (history ++ Turn.events turns).hasFired token = false)

include responds unfired

/-- A task of the result is over after as many pending polls as its parts have. -/
theorem seen_of_run (capture : Option Nat) (argument : ValueType) (memory : Memory) :
    let task := (call.result capture token).map (Outcome.downcast argument)
    (Future.Moment.run ⟨task.state, history, memory, none⟩ turns : task.Moment).result.toList =
      if delays.polls capture < Turn.polls turns then [answer argument response] else [] := by
  intro task
  have settles := Future.settlesIn_map (settlesIn_result responds capture token)
    (Outcome.downcast argument)
  rw [downcast_raceResult] at settles
  have quiet (earlier : History) (leads : earlier <+: history ++ Turn.events turns) :
      earlier.hasFired token = false := by
    obtain ⟨later, history_eq⟩ := leads
    rw [← history_eq] at unfired
    exact History.not_hasFired_of_append unfired
  rw [Future.run_of_settlesIn rfl settles turns quiet]
  split <;> rfl

/-- A caller that blocks gets the result, and any other caller gets it after enough polls. Neither
the form nor a capture buffer changes it. -/
theorem forms_agree {shape : ResponseShape} (single : shape ≠ .streamed) (capture : Option Nat)
    (argument : ValueType) (memory : Memory) :
    call.seen shape capture token argument history memory turns =
      if shape = .sync ∨ delays.polls capture < Turn.polls turns then [answer argument response]
      else [] := by
  have awaited := seen_of_run responds unfired capture argument memory
  cases shape with
  | sync =>
      have quiet := History.not_hasFired_of_append unfired
      have completed := outcome_of_comesTo (responds.comesTo_response capture quiet memory)
      unfold seen
      generalize call.outcome .sync capture token history memory = outcome at completed
      rcases outcome with ⟨outcome, memoryAfter⟩
      obtain rfl : outcome = .completed (raceResult (some response)) := completed
      simp only [CallOutcome.seen, CallOutcome.returned, ReturnForm.ofShape, CallOutcome.toResult,
        Returned.seen, downcast_raceResult, true_or, if_true]
  | deferred =>
      refine Eq.trans awaited ?_
      simp only [reduceCtorEq, false_or]
  | lightDeferred =>
      refine Eq.trans awaited ?_
      simp only [reduceCtorEq, false_or]
  | streamed => exact absurd rfl single

end

end SingleCall

namespace Sample

/-- What is seen of the call in a form, when it is polled as often as all its parts take. -/
def seenPong (shape : ResponseShape) (capture : Option Nat) : List (OutcomeOf (.message .pong)) :=
  latePong.seen shape capture (.named "call") (.message .pong) [] .fresh (List.replicate 7 .poll)

theorem latePong_agrees :
    latePong.Responds ⟨2, 1, 3⟩ .empty (.ok (pongOf 1 "late").val) .ok ∧
      History.hasFired ([] ++ Turn.events (List.replicate 7 .poll)) (.named "call") = false ∧
      seenPong .sync none = [.ok (pongOf 1 "late")] ∧
      seenPong .sync (some 0) = [.ok (pongOf 1 "late")] ∧
      seenPong .deferred none = [.ok (pongOf 1 "late")] ∧
      seenPong .deferred (some 0) = [.ok (pongOf 1 "late")] ∧
      seenPong .lightDeferred none = [.ok (pongOf 1 "late")] ∧
      seenPong .lightDeferred (some 0) = [.ok (pongOf 1 "late")] := by
  have unfired : History.hasFired ([] ++ Turn.events (List.replicate 7 .poll)) (.named "call") =
      false := rfl
  have agree (shape : ResponseShape) (single : shape ≠ .streamed) (capture : Option Nat) :=
    SingleCall.forms_agree latePong_responds unfired single capture (.message .pong) .fresh
  exact ⟨latePong_responds, unfired, agree .sync nofun none, agree .sync nofun (some 0),
    agree .deferred nofun none, agree .deferred nofun (some 0), agree .lightDeferred nofun none,
    agree .lightDeferred nofun (some 0)⟩

end Sample
end RpcContracts
