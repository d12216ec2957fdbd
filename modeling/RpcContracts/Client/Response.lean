import RpcContracts.Client.Call

/-!
# Responses of a call in flight

The responses of a call as its caller sees them: errors are in normal form, the token of the call
interrupts every wait, and if the caller asked for response metadata, the headers are captured
before any response is seen and the completion after the last.
-/

namespace RpcContracts
namespace SingleCall

/-- What a call with a single response still waits for. -/
inductive Progress (call : SingleCall) where
  | headers (headers : call.headers.State)
  | response (response : call.response.State)
  | completion (outcome : Outcome) (completion : call.completion.State)

variable (call : SingleCall) (capture : Option Nat)

/-- Wait for the completion and keep it. -/
def pollCompletion (number : Nat) (outcome : Outcome) (completion : call.completion.State)
    (history : History) (memory : Memory) : Poll Outcome × call.Progress × Memory :=
  match call.completion.poll completion history memory with
  | (.pending, completion, memory) => (.pending, .completion outcome completion, memory)
  | (.ready value, completion, memory) =>
      (.ready outcome, .completion outcome completion, memory.captureCompletion number value)

/-- Wait for the response. -/
def pollResponse (response : call.response.State) (history : History) (memory : Memory) :
    Poll Outcome × call.Progress × Memory :=
  match call.response.poll response history memory with
  | (.pending, response, memory) => (.pending, .response response, memory)
  | (.ready outcome, response, memory) =>
      match capture with
      | some number => call.pollCompletion number outcome call.completion.state history memory
      | none => (.ready outcome, .response response, memory)

/-- Wait for the headers and keep them; failed headers are the result of the call. -/
def pollHeaders (number : Nat) (headers : call.headers.State) (history : History)
    (memory : Memory) : Poll Outcome × call.Progress × Memory :=
  match call.headers.poll headers history memory with
  | (.pending, headers, memory) => (.pending, .headers headers, memory)
  | (.ready (.error error), headers, memory) => (.ready (.error error), .headers headers, memory)
  | (.ready (.ok value), _, memory) =>
      call.pollResponse capture call.response.state history (memory.captureHeaders number value)

/-- Wait for what is still missing. -/
def pollProgress (progress : call.Progress) (history : History) (memory : Memory) :
    Poll Outcome × call.Progress × Memory :=
  match progress, capture with
  | .headers headers, some number => call.pollHeaders capture number headers history memory
  | .headers headers, none => (.pending, .headers headers, memory)
  | .response response, _ => call.pollResponse capture response history memory
  | .completion outcome completion, some number =>
      call.pollCompletion number outcome completion history memory
  | .completion outcome completion, none =>
      (.ready outcome, .completion outcome completion, memory)

/-- How many pending polls end by themselves while something is still missing. -/
def progressWaits : call.Progress → Nat
  | .headers headers =>
      call.headers.waits headers + call.response.waits call.response.state +
        call.completion.waits call.completion.state
  | .response response =>
      call.response.waits response + call.completion.waits call.completion.state
  | .completion _ completion => call.completion.waits completion

/-- The response, with the metadata kept in a capture buffer if one is given. -/
def observed : Task Payload where
  State := call.Progress
  state :=
    if capture.isSome then .headers call.headers.state else .response call.response.state
  poll := call.pollProgress capture
  waits := call.progressWaits

/-- The response as the caller sees it. -/
def result (token : Token) : Task Payload :=
  (call.observed capture).cancellable token

end SingleCall

namespace StreamingCall

/-- What a call with a stream of responses waits for. -/
inductive Stage (call : StreamingCall) where
  /-- For nothing, with headers still to be captured before the next response. -/
  | fresh
  /-- For nothing, between two responses. -/
  | idle
  | headers (headers : call.headers.State)
  | reading
  | completion (completion : call.completion.State)
  | finished

variable (call : StreamingCall) (capture : Option Nat) (token : Token)

/-- A poll of the responses. -/
abbrev ResponsePoll :=
  Poll (Option Outcome) × (call.Stage × call.responses.State) × Memory

/-- Wait for the completion and keep it; an interrupted wait keeps nothing. Either way the responses
are over. -/
def pollCompletion (number : Nat) (begun : Bool) (completion : call.completion.State)
    (responses : call.responses.State) (history : History) (memory : Memory) :
    call.ResponsePoll :=
  match PollStep.race call.completion.poll token begun completion history memory with
  | (.pending, completion, memory) => (.pending, (.completion completion, responses), memory)
  | (.ready none, _, memory) => (.ready none, (.finished, responses), memory)
  | (.ready (some value), _, memory) =>
      (.ready none, (.finished, responses), memory.captureCompletion number value)

/-- Wait for the next response. The first error ends the responses. -/
def pollItem (begun : Bool) (responses : call.responses.State) (history : History)
    (memory : Memory) : call.ResponsePoll :=
  match PollStep.race call.responses.next token begun responses history memory with
  | (.pending, responses, memory) => (.pending, (.reading, responses), memory)
  | (.ready none, responses, memory) =>
      (.ready (some (.error .cancelled)), (.finished, responses), memory)
  | (.ready (some (some (.ok item))), responses, memory) =>
      (.ready (some (.ok item)), (.idle, responses), memory)
  | (.ready (some (some (.error error))), responses, memory) =>
      (.ready (some (.error error.normalize)), (.finished, responses), memory)
  | (.ready (some none), responses, memory) =>
      match capture with
      | none => (.ready none, (.finished, responses), memory)
      | some number =>
          call.pollCompletion token number false call.completion.state responses history memory

/-- Wait for the headers and keep them; failed headers are the only item. -/
def pollHeaders (number : Nat) (begun : Bool) (headers : call.headers.State)
    (responses : call.responses.State) (history : History) (memory : Memory) :
    call.ResponsePoll :=
  match PollStep.race call.headers.poll token begun headers history memory with
  | (.pending, headers, memory) => (.pending, (.headers headers, responses), memory)
  | (.ready raced, _, memory) =>
      match raceResult raced with
      | .error error => (.ready (some (.error error)), (.finished, responses), memory)
      | .ok value =>
          call.pollItem capture token false responses history (memory.captureHeaders number value)

/-- Wait for the next response and for what has to be captured around it. -/
def pollNext (state : call.Stage × call.responses.State) (history : History) (memory : Memory) :
    call.ResponsePoll :=
  match state, capture with
  | (.finished, responses), _ => (.ready none, (.finished, responses), memory)
  | (.fresh, responses), some number =>
      call.pollHeaders capture token number false call.headers.state responses history memory
  | (.fresh, responses), none => call.pollItem capture token false responses history memory
  | (.headers headers, responses), some number =>
      call.pollHeaders capture token number true headers responses history memory
  | (.headers _, responses), none => call.pollItem capture token false responses history memory
  | (.idle, responses), _ => call.pollItem capture token false responses history memory
  | (.reading, responses), _ => call.pollItem capture token true responses history memory
  | (.completion completion, responses), some number =>
      call.pollCompletion token number true completion responses history memory
  | (.completion _, responses), none => (.ready none, (.finished, responses), memory)

/-- How many responses can still come. -/
def responseBudget (state : call.Stage × call.responses.State) (history : History) : Nat :=
  match state with
  | (.finished, _) => 0
  | (_, responses) => call.responses.budget responses history + 1

theorem pollCompletion_ne_item {number : Nat} {begun : Bool} {completion : call.completion.State}
    {responses : call.responses.State} {history : History} {memory memoryAfter : Memory}
    {item : Outcome} {after : call.Stage × call.responses.State} :
    call.pollCompletion token number begun completion responses history memory ≠
      (.ready (some item), after, memoryAfter) := by
  unfold pollCompletion
  split <;> simp

variable {call capture token}

theorem responseBudget_pollItem {begun : Bool} {responses : call.responses.State}
    {history : History} {memory memoryAfter : Memory} {item : Outcome}
    {after : call.Stage × call.responses.State}
    (polled : call.pollItem capture token begun responses history memory =
      (.ready (some item), after, memoryAfter)) :
    call.responseBudget after history < call.responses.budget responses history + 1 := by
  unfold pollItem at polled
  split at polled
  · simp at polled
  · cases polled
    simp [responseBudget]
  · next raced =>
      cases polled
      simpa [responseBudget] using call.responses.budget_lt (PollStep.race_some raced)
  · cases polled
    simp [responseBudget]
  · split at polled
    · simp at polled
    · exact absurd polled (call.pollCompletion_ne_item token)

theorem responseBudget_pollHeaders {number : Nat} {begun : Bool} {headers : call.headers.State}
    {responses : call.responses.State} {history : History} {memory memoryAfter : Memory}
    {item : Outcome} {after : call.Stage × call.responses.State}
    (polled : call.pollHeaders capture token number begun headers responses history memory =
      (.ready (some item), after, memoryAfter)) :
    call.responseBudget after history < call.responses.budget responses history + 1 := by
  unfold pollHeaders at polled
  split at polled
  · simp at polled
  · split at polled
    · cases polled
      simp [responseBudget]
    · exact responseBudget_pollItem polled

theorem responseBudget_pollNext {state after : call.Stage × call.responses.State}
    {history : History} {memory memoryAfter : Memory} {item : Outcome}
    (polled : call.pollNext capture token state history memory =
      (.ready (some item), after, memoryAfter)) :
    call.responseBudget after history < call.responseBudget state history := by
  unfold pollNext at polled
  split at polled
  · simp at polled
  · exact responseBudget_pollHeaders polled
  · exact responseBudget_pollItem polled
  · exact responseBudget_pollHeaders polled
  · exact responseBudget_pollItem polled
  · exact responseBudget_pollItem polled
  · exact responseBudget_pollItem polled
  · exact absurd polled (call.pollCompletion_ne_item token)
  · simp at polled

variable (call capture token)

/-- The responses as the caller sees them, with the metadata kept in a capture buffer if one is
given. -/
def results : ItemStream Payload where
  State := call.Stage × call.responses.State
  state := (.fresh, call.responses.state)
  next := call.pollNext capture token
  budget := call.responseBudget
  budget_lt := responseBudget_pollNext

end StreamingCall
end RpcContracts
