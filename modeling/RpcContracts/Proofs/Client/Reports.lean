import RpcContracts.Client.Response
import RpcContracts.Proofs.Async.Runs

/-!
# What a transport reports of a call

A transport knows nothing of capture buffers, and each of its futures has one value, which it may
take any number of polls, and anything outside, to yield. Whatever is captured of a call is then a
part of what the transport reports of it.
-/

namespace RpcContracts

/-- What a transport reports of a call besides its responses. -/
structure CallReport where
  headers : Except RpcError Metadata
  completion : Completion

/-- No poll changes what is captured. -/
def PollStep.KeepsCaptures {State : Type} {α : Type u} (poll : PollStep State α) : Prop :=
  ∀ {state after : State} {history : History} {memory memoryAfter : Memory} {answer : Poll α},
    poll state history memory = (answer, after, memoryAfter) →
      memoryAfter.captures = memory.captures

theorem PollStep.keepsCaptures_iff {State : Type} {α : Type u} {poll : PollStep State α} :
    poll.KeepsCaptures ↔ poll.Relates fun before after => after.captures = before.captures := by
  constructor
  · intro keeps state history memory
    exact keeps rfl
  · intro relates state after history memory memoryAfter answer polled
    have related := relates state history memory
    rwa [polled] at related

theorem PollStep.KeepsCaptures.race {State : Type} {α : Type u} {poll : PollStep State α}
    (keeps : poll.KeepsCaptures) (token : Token) (begun : Bool) :
    (PollStep.race poll token begun).KeepsCaptures :=
  keepsCaptures_iff.mpr ((keepsCaptures_iff.mp keeps).race (fun _ => rfl) token begun)

/-- A future has no other value than a given one, and it does not touch what is captured. -/
structure Future.Yields {α : Type} (future : Future α) (value : α) : Prop where
  value_eq : ∀ {state after : future.State} {history : History} {memory memoryAfter : Memory}
    {found : α}, future.poll state history memory = (.ready found, after, memoryAfter) →
      found = value
  keeps : future.poll.KeepsCaptures

/-- A future that is pending for some polls has one value. -/
theorem Future.yields_after {α : Type} (polls : Nat) (value : α) :
    (Future.after polls value).Yields value where
  value_eq := by
    intro state after history memory memoryAfter found polled
    cases state with
    | zero =>
        cases polled
        rfl
    | succ fewer => cases polled
  keeps := by
    intro state after history memory memoryAfter answer polled
    cases state <;> cases polled <;> rfl

namespace Memory

@[simp]
theorem captures_captureHeaders_same (memory : Memory) (number : Nat) (headers : Metadata) :
    (memory.captureHeaders number headers).captures number =
      (memory.captures number).setHeaders headers := by simp [captureHeaders]

@[simp]
theorem captures_captureCompletion_same (memory : Memory) (number : Nat)
    (completion : Completion) :
    (memory.captureCompletion number completion).captures number =
      (memory.captures number).setCompletion completion := by simp [captureCompletion]

end Memory

/-- A call whose transport reports given headers, a given response and a given completion. -/
structure SingleCall.Reports (call : SingleCall) (report : CallReport) (response : Outcome) :
    Prop where
  headers : call.headers.Yields report.headers
  response : call.response.Yields response
  completion : call.completion.Yields report.completion

end RpcContracts
