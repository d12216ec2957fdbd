import RpcContracts.Client.Outcome
import RpcContracts.Proofs.Async.Settling
import RpcContracts.Sample.Services

/-!
# Calls that respond

The headers of a call arrive and its response and completion come, each after a delay. The caller
waits for them one after another, so it gets the response in normal form after as many pending polls
as the parts have together. A caller that blocks gets the response by itself, unless the token of
the call has fired.
-/

namespace RpcContracts
namespace SingleCall

/-- How often the parts of a call are pending. -/
structure Delays where
  headers : Nat
  response : Nat
  completion : Nat

/-- How often a call is pending: without a capture buffer only the response is waited for. -/
def Delays.polls (delays : Delays) : Option Nat → Nat
  | none => delays.response
  | some _ => delays.completion + delays.response + delays.headers

/-- A call whose headers arrive and whose response and completion come, each after a delay. -/
structure Responds (call : SingleCall) (delays : Delays) (metadata : Metadata) (response : Outcome)
    (completion : Completion) : Prop where
  headers : call.headers.Settles delays.headers (.ok metadata)
  response : call.response.Settles delays.response response
  completion : call.completion.Settles delays.completion completion

section

variable {call : SingleCall} {delays : Delays} {metadata : Metadata} {response : Outcome}
  {completion : Completion} (responds : call.Responds delays metadata response completion)

include responds

theorem settlesIn_completion (number : Nat) (outcome : Outcome) :
    (call.observed (some number)).poll.SettlesIn (fun _ => True) outcome delays.completion
      (.completion outcome call.completion.state) := by
  refine responds.completion.settles.image (Progress.completion outcome) ?_ ?_
  · intro state after history memory memoryAfter polled
    simp only [observed, pollProgress, pollCompletion, polled]
  · intro state after history memory memoryAfter polled
    exact ⟨_, _, by simp only [observed, pollProgress, pollCompletion, polled]; rfl⟩

theorem settlesIn_response (number : Nat) :
    (call.observed (some number)).poll.SettlesIn (fun _ => True) response
      (delays.completion + delays.response) (.response call.response.state) := by
  refine responds.response.settles.sequence Progress.response
    (settlesIn_completion responds number response) ?_ ?_
  · intro state after history memory memoryAfter polled
    simp only [observed, pollProgress, pollResponse, polled]
  · intro state after history memory memoryAfter polled
    exact ⟨memoryAfter, by simp only [observed, pollProgress, pollResponse, polled]⟩

/-- The waits follow each other, and only the memory is passed on. -/
theorem settlesIn_observed (capture : Option Nat) :
    (call.observed capture).poll.SettlesIn (fun _ => True) response (delays.polls capture)
      (call.observed capture).state := by
  cases capture with
  | none =>
      refine responds.response.settles.image Progress.response ?_ ?_
      · intro state after history memory memoryAfter polled
        simp only [observed, pollProgress, pollResponse, polled]
      · intro state after history memory memoryAfter polled
        exact ⟨_, _, by simp only [observed, pollProgress, pollResponse, polled]; rfl⟩
  | some number =>
      refine responds.headers.settles.sequence Progress.headers
        (settlesIn_response responds number) ?_ ?_
      · intro state after history memory memoryAfter polled
        simp only [observed, pollProgress, pollHeaders, polled]
      · intro state after history memory memoryAfter polled
        exact ⟨memoryAfter.captureHeaders number metadata,
          by simp only [observed, pollProgress, pollHeaders, polled]⟩

theorem polls_le_waits (capture : Option Nat) :
    delays.polls capture ≤ (call.observed capture).waits (call.observed capture).state := by
  have headers := responds.headers.arranged
  have responded := responds.response.arranged
  have completed := responds.completion.arranged
  cases capture with
  | none =>
      show delays.response ≤ call.response.waits call.response.state +
        call.completion.waits call.completion.state
      omega
  | some number =>
      show delays.completion + delays.response + delays.headers ≤
        call.headers.waits call.headers.state + call.response.waits call.response.state +
          call.completion.waits call.completion.state
      omega

/-- What the caller waits for settles as long as the token does not fire. -/
theorem settlesIn_result (capture : Option Nat) (token : Token) :
    (call.result capture token).poll.SettlesIn (fun history => history.hasFired token = false)
      (raceResult (some response)) (delays.polls capture) (call.result capture token).state :=
  Future.settlesIn_cancellable (settlesIn_observed responds capture) token false

theorem Responds.comesTo_response (capture : Option Nat) {token : Token} {history : History}
    (unfired : history.hasFired token = false) (memory : Memory) :
    (call.result capture token).ComesTo history memory (raceResult (some response)) :=
  Future.comesTo_of_settlesIn (settlesIn_result responds capture token)
    (polls_le_waits responds capture) unfired memory

end

/-- A token that has fired settles a call before any part of it is polled. -/
theorem comesTo_cancelled (call : SingleCall) (capture : Option Nat) {token : Token}
    {history : History} (fired : history.hasFired token = true) (memory : Memory) :
    (call.result capture token).ComesTo history memory (.error .cancelled) := by
  have polled : (call.result capture token).poll (call.result capture token).state history memory =
      (.ready (.error .cancelled), (true, (call.observed capture).state), memory) := by
    simp only [result, Future.cancellable, PollStep.race, fired, Bool.not_false, Bool.and_self,
      if_true, Poll.map_ready, raceResult]
  exact ⟨0, Nat.zero_le _, .now polled⟩

section

variable {call : SingleCall} {capture : Option Nat} {token : Token} {history : History}
  {memory : Memory}

/-- A method that answers at once returns what the call comes to. -/
theorem outcome_of_comesTo {result : Outcome}
    (comes : (call.result capture token).ComesTo history memory result) :
    (call.outcome .sync capture token history memory).1 = .completed result := by
  have found := Future.block_eq_some_iff.mpr comes
  unfold outcome
  generalize (call.result capture token).block history memory = blocked at found
  rcases blocked with ⟨answer, memoryAfter⟩
  obtain rfl : answer = some result := found
  rfl

theorem outcome_of_waits
    (waits : ∀ result, ¬(call.result capture token).ComesTo history memory result) :
    (call.outcome .sync capture token history memory).1 = .blocked := by
  have nothing (result : Outcome) := mt Future.block_eq_some_iff.mp (waits result)
  unfold outcome
  generalize (call.result capture token).block history memory = blocked at nothing
  rcases blocked with ⟨_ | result, memoryAfter⟩
  · rfl
  · exact absurd rfl (nothing result)

end

end SingleCall

namespace Sample

/-- A call whose headers, response and completion each take some polls. -/
def latePong : SingleCall :=
  ⟨.after 1 (.ok (pongOf 1 "late").val), .after 2 (.ok .empty), .after 3 .ok⟩

theorem latePong_responds :
    latePong.Responds ⟨2, 1, 3⟩ .empty (.ok (pongOf 1 "late").val) .ok :=
  ⟨Future.settles_after 2 _, Future.settles_after 1 _, Future.settles_after 3 _⟩

end Sample
end RpcContracts
