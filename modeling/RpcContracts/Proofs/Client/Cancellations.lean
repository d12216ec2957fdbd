import RpcContracts.Proofs.Async.Races
import RpcContracts.Proofs.Client.Calls

/-!
# Cancellations as callers see them

A transport may report a cancelled call as a status. No caller sees it that way: whatever a proxy
method returns, and whenever it is polled, the same is seen as if the transport had reported the
plain cancellation.
-/

namespace RpcContracts

/-- Errors in normal form stay as they are. -/
theorem normalForm_normalForm {α : Type} (result : Except RpcError α) :
    normalForm (normalForm result) = normalForm result := by
  cases result with
  | ok value => rfl
  | error error => exact congrArg Except.error error.normalize_normalize

theorem raceResult_comp_normalForm {α : Type} :
    (raceResult ∘ Option.map normalForm : Option (Except RpcError α) → Except RpcError α) =
      raceResult := by
  funext raced
  cases raced with
  | none => rfl
  | some result =>
      simp only [Function.comp_apply, Option.map_some, raceResult_some, normalForm_normalForm]

/-! ## Calls in normal form -/

/-- A call whose errors are in normal form. -/
def SingleCall.normalized (call : SingleCall) : SingleCall where
  response := call.response.map normalForm
  headers := call.headers.map normalForm
  completion := call.completion

def StreamingCall.normalized (call : StreamingCall) : StreamingCall where
  responses := call.responses.map normalForm
  headers := call.headers.map normalForm
  completion := call.completion

/-- A transport that reports no cancelled call as a status. -/
def Transport.normalized (transport : Transport Id) : Transport Id where
  unary := fun head request memory =>
    ((transport.unary head request memory).1.normalized,
      (transport.unary head request memory).2)
  clientStreaming := fun head requests memory =>
    ((transport.clientStreaming head requests memory).1.normalized,
      (transport.clientStreaming head requests memory).2)
  serverStreaming := fun head request memory =>
    ((transport.serverStreaming head request memory).1.normalized,
      (transport.serverStreaming head request memory).2)
  duplexStreaming := fun head requests memory =>
    ((transport.duplexStreaming head requests memory).1.normalized,
      (transport.duplexStreaming head requests memory).2)

namespace SingleCall

variable (call : SingleCall) (capture : Option Nat)

def Progress.normalized {call : SingleCall} : call.Progress → call.normalized.Progress
  | .headers state => .headers state
  | .response state => .response state
  | .completion outcome state => .completion (normalForm outcome) state

theorem pollCompletion_normalized (number : Nat) (outcome : Outcome)
    (completion : call.completion.State) (history : History) (memory : Memory) :
    call.normalized.pollCompletion number (normalForm outcome) completion history memory =
      PollStep.carry Progress.normalized normalForm
        (call.pollCompletion number outcome completion history memory) := by
  unfold pollCompletion
  simp only [normalized]
  rcases call.completion.poll completion history memory with ⟨_ | value, after, memoryAfter⟩ <;> rfl

theorem pollResponse_normalized (response : call.response.State) (history : History)
    (memory : Memory) :
    call.normalized.pollResponse capture response history memory =
      PollStep.carry Progress.normalized normalForm
        (call.pollResponse capture response history memory) := by
  have polled : call.normalized.response.poll response history memory =
      PollStep.carry id normalForm (call.response.poll response history memory) := rfl
  unfold pollResponse
  rw [polled]
  rcases call.response.poll response history memory with ⟨_ | outcome, after, memoryAfter⟩
  · rfl
  · cases capture with
    | none => rfl
    | some number => exact call.pollCompletion_normalized number outcome _ history memoryAfter

theorem pollHeaders_normalized (number : Nat) (headers : call.headers.State) (history : History)
    (memory : Memory) :
    call.normalized.pollHeaders capture number headers history memory =
      PollStep.carry Progress.normalized normalForm
        (call.pollHeaders capture number headers history memory) := by
  have polled : call.normalized.headers.poll headers history memory =
      PollStep.carry id normalForm (call.headers.poll headers history memory) := rfl
  unfold pollHeaders
  rw [polled]
  rcases call.headers.poll headers history memory with ⟨_ | _ | value, after, memoryAfter⟩
  · rfl
  · rfl
  · exact call.pollResponse_normalized capture _ history _

theorem pollProgress_normalized (progress : call.Progress) (history : History) (memory : Memory) :
    call.normalized.pollProgress capture progress.normalized history memory =
      PollStep.carry Progress.normalized normalForm
        (call.pollProgress capture progress history memory) := by
  cases progress with
  | headers headers =>
      cases capture with
      | none => rfl
      | some number => exact call.pollHeaders_normalized _ number headers history memory
  | response response => exact call.pollResponse_normalized capture response history memory
  | completion outcome completion =>
      cases capture with
      | none => rfl
      | some number => exact call.pollCompletion_normalized number outcome completion history memory

/-- The wait for the response brings errors into normal form, so nothing is left to do. -/
def mirror (token : Token) :
    (call.result capture token).Mirror (call.normalized.result capture token) where
  image := fun state => (state.1, state.2.normalized)
  state_eq := by cases capture <;> rfl
  waits_eq := by rintro ⟨begun, _ | _ | _⟩ <;> rfl
  poll_eq := by
    rintro ⟨begun, progress⟩ history memory
    have raced := PollStep.race_carry (call.pollProgress_normalized capture) token begun progress
      history memory
    have polled : (call.result capture token).poll (begun, progress) history memory =
        PollStep.carry (Prod.mk true) raceResult
          (PollStep.race (call.pollProgress capture) token begun progress history memory) := rfl
    have mirrored : (call.normalized.result capture token).poll (begun, progress.normalized) history
        memory = PollStep.carry (Prod.mk true) raceResult
          (PollStep.race (call.normalized.pollProgress capture) token begun progress.normalized
            history memory) := rfl
    rw [mirrored, raced, PollStep.carry_carry, raceResult_comp_normalForm, polled]
    rcases PollStep.race (call.pollProgress capture) token begun progress history memory
      with ⟨_ | outcome, after, memoryAfter⟩ <;> rfl

end SingleCall

namespace StreamingCall

variable (call : StreamingCall) (capture : Option Nat) (token : Token)

def Stage.normalized {call : StreamingCall} : call.Stage → call.normalized.Stage
  | .fresh => .fresh
  | .idle => .idle
  | .headers state => .headers state
  | .reading => .reading
  | .completion state => .completion state
  | .finished => .finished

/-- The state of the same responses in normal form. -/
def image {call : StreamingCall} (state : call.Stage × call.responses.State) :
    call.normalized.Stage × call.normalized.responses.State :=
  (state.1.normalized, state.2)

theorem pollCompletion_normalized (number : Nat) (begun : Bool)
    (completion : call.completion.State) (responses : call.responses.State) (history : History)
    (memory : Memory) :
    call.normalized.pollCompletion token number begun completion responses history memory =
      PollStep.carry image id
        (call.pollCompletion token number begun completion responses history memory) := by
  unfold pollCompletion
  simp only [normalized]
  rcases PollStep.race call.completion.poll token begun completion history memory
    with ⟨_ | _ | value, after, memoryAfter⟩ <;> rfl

theorem pollItem_normalized (begun : Bool) (responses : call.responses.State) (history : History)
    (memory : Memory) :
    call.normalized.pollItem capture token begun responses history memory =
      PollStep.carry image id (call.pollItem capture token begun responses history memory) := by
  let same : call.responses.State → call.normalized.responses.State := id
  have carries : ∀ state history memory,
      call.normalized.responses.next (same state) history memory =
        PollStep.carry same (Option.map normalForm) (call.responses.next state history memory) :=
    fun _ _ _ => rfl
  have raced := PollStep.race_carry carries token begun responses history memory
  have raced_eq : PollStep.race call.normalized.responses.next token begun responses history
      memory = _ := raced
  unfold pollItem
  rw [raced_eq]
  rcases PollStep.race call.responses.next token begun responses history memory
    with ⟨_ | _ | _ | error | item, after, memoryAfter⟩
  · rfl
  · rfl
  · cases capture with
    | none => rfl
    | some number => exact call.pollCompletion_normalized token number false _ after history _
  · exact congrArg (fun normal : RpcError =>
      (Poll.ready (some (Except.error normal)), (Stage.finished, after), memoryAfter))
        error.normalize_normalize
  · rfl

theorem pollHeaders_normalized (number : Nat) (begun : Bool) (headers : call.headers.State)
    (responses : call.responses.State) (history : History) (memory : Memory) :
    call.normalized.pollHeaders capture token number begun headers responses history memory =
      PollStep.carry image id
        (call.pollHeaders capture token number begun headers responses history memory) := by
  let same : call.headers.State → call.normalized.headers.State := id
  have carries : ∀ state history memory, call.normalized.headers.poll (same state) history memory =
      PollStep.carry same normalForm (call.headers.poll state history memory) := fun _ _ _ => rfl
  have raced := PollStep.race_carry carries token begun headers history memory
  have raced_eq : PollStep.race call.normalized.headers.poll token begun headers history memory =
      _ := raced
  unfold pollHeaders
  rw [raced_eq]
  rcases PollStep.race call.headers.poll token begun headers history memory
    with ⟨_ | found, after, memoryAfter⟩
  · rfl
  · have result_eq : raceResult (Option.map normalForm found) = raceResult found :=
      congrFun raceResult_comp_normalForm found
    simp only [PollStep.carry, Poll.map_ready]
    rw [result_eq]
    cases raceResult found with
    | error error => rfl
    | ok value => exact call.pollItem_normalized capture token false responses history _

theorem pollNext_normalized (state : call.Stage × call.responses.State) (history : History)
    (memory : Memory) :
    call.normalized.pollNext capture token (image state) history memory =
      PollStep.carry image id (call.pollNext capture token state history memory) := by
  obtain ⟨stage, responses⟩ := state
  cases stage with
  | fresh =>
      cases capture with
      | none => exact call.pollItem_normalized none token false responses history memory
      | some number =>
          exact call.pollHeaders_normalized _ token number false _ responses history memory
  | idle => exact call.pollItem_normalized capture token false responses history memory
  | headers headers =>
      cases capture with
      | none => exact call.pollItem_normalized none token false responses history memory
      | some number =>
          exact call.pollHeaders_normalized _ token number true headers responses history memory
  | reading => exact call.pollItem_normalized capture token true responses history memory
  | completion completion =>
      cases capture with
      | none => rfl
      | some number =>
          exact call.pollCompletion_normalized token number true completion responses history memory
  | finished => rfl

/-- The responses bring errors into normal form on every route, so nothing is left to do. -/
def mirror : (call.results capture token).Mirror (call.normalized.results capture token) where
  image := image
  state_eq := rfl
  next_eq := call.pollNext_normalized capture token

end StreamingCall

/-! ## What is seen -/

namespace Returned

variable {argument : ValueType}

/-- What a caller sees of what a method has returned, when it is polled in some turns. -/
def seen (returned : Returned argument) (history : History) (memory : Memory)
    (turns : List Turn) : List (OutcomeOf argument) :=
  match returned with
  | result outcome => [outcome]
  | task work =>
      (Future.Moment.run ⟨work.state, history, memory, none⟩ turns : work.Moment).result.toList
  | valueTask work =>
      (Future.Moment.run ⟨work.toTask.state, history, memory, none⟩ turns :
        work.toTask.Moment).result.toList
  | responses items =>
      (Stream.Moment.run ⟨items.state, history, memory, [], false⟩ turns : items.Moment).items
  | blocked => []

end Returned

namespace CallOutcome

/-- What a caller sees of an outcome that is adapted to a return type. -/
def seen (outcome : CallOutcome) (form : ReturnForm) (argument : ValueType) (history : History)
    (memory : Memory) (turns : List Turn) : List (OutcomeOf argument) :=
  match outcome.returned form argument history memory with
  | (returned, memory) => returned.seen history memory turns

/-- Two outcomes of which the same is seen. -/
inductive Mirrors : CallOutcome → CallOutcome → Prop where
  | completed (result : Outcome) : Mirrors (.completed result) (.completed result)
  | pending {task other : Task Payload} (mirror : task.Mirror other) :
      Mirrors (.pending task) (.pending other)
  | streaming {responses other : ItemStream Payload} (mirror : responses.Mirror other) :
      Mirrors (.streaming responses) (.streaming other)
  | blocked : Mirrors .blocked .blocked

theorem Mirrors.seen_eq {outcome other : CallOutcome} (mirrors : Mirrors outcome other)
    (form : ReturnForm) (argument : ValueType) (history : History) (memory : Memory)
    (turns : List Turn) :
    other.seen form argument history memory turns =
      outcome.seen form argument history memory turns := by
  cases mirrors with
  | completed result => rfl
  | blocked => rfl
  | @pending task other mirror =>
      have mapped := mirror.map (Outcome.downcast argument)
      cases form with
      | result =>
          simp only [seen, returned, toResult]
          rw [mirror.block_eq]
      | task => exact congrArg Option.toList (mapped.result_eq history memory turns)
      | valueTask => exact congrArg Option.toList (mapped.result_eq history memory turns)
      | responseStream => rfl
  | streaming mirror =>
      cases form with
      | responseStream =>
          exact (mirror.map (Outcome.downcast argument)).items_eq history memory turns
      | _ => rfl

end CallOutcome

namespace ClientEntry

/-- What a caller sees of a call through a transport, adapted to a return type. -/
def seen (entry : ClientEntry) (transport : Transport Id) (arguments : List Value)
    (form : ReturnForm) (argument : ValueType) (history : History) (memory : Memory)
    (turns : List Turn) : List (OutcomeOf argument) :=
  match entry.call (m := Id) transport arguments history memory with
  | (outcome, memory) => outcome.seen form argument history memory turns

end ClientEntry

/-- Two answers of which the same is seen. -/
structure SameAnswer (answer other : CallOutcome × Memory) : Prop where
  mirrors : answer.1.Mirrors other.1
  memory_eq : other.2 = answer.2

theorem SingleCall.outcome_same (call : SingleCall) (shape : ResponseShape)
    (capture : Option Nat) (token : Token) (history : History) (memory : Memory) :
    SameAnswer (call.outcome shape capture token history memory)
      (call.normalized.outcome shape capture token history memory) := by
  have mirror := call.mirror capture token
  cases shape with
  | sync =>
      unfold outcome
      simp only
      rw [mirror.block_eq]
      rcases (call.result capture token).block history memory with ⟨_ | result, memoryAfter⟩
      · exact ⟨.blocked, rfl⟩
      · exact ⟨.completed result, rfl⟩
  | deferred => exact ⟨.pending mirror, rfl⟩
  | lightDeferred => exact ⟨.pending mirror, rfl⟩
  | streamed => exact ⟨.completed _, rfl⟩

theorem Transport.ask_same (transport : Transport Id) (issued : IssuedCall) (shape : ResponseShape)
    (capture : Option Nat) (token : Token) (history : History) (memory : Memory) :
    SameAnswer
      (transport.ask (m := Id) issued memory
        (fun answer => answer.1.outcome shape capture token history answer.2)
        (fun answer => (.streaming (answer.1.results capture token), answer.2)))
      (transport.normalized.ask (m := Id) issued memory
        (fun answer => answer.1.outcome shape capture token history answer.2)
        (fun answer => (.streaming (answer.1.results capture token), answer.2))) := by
  cases issued with
  | unary head request => exact SingleCall.outcome_same ..
  | clientStreaming head requests => exact SingleCall.outcome_same ..
  | serverStreaming head request => exact ⟨.streaming (StreamingCall.mirror ..), rfl⟩
  | duplexStreaming head requests => exact ⟨.streaming (StreamingCall.mirror ..), rfl⟩

theorem ClientMethod.call_same (method : ClientMethod) (history : History) (memory : Memory)
    (transport : Transport Id) (arguments : List Value) :
    SameAnswer (method.call (m := Id) transport arguments history memory)
      (method.call (m := Id) transport.normalized arguments history memory) := by
  rw [method.call_eq, method.call_eq]
  cases method.prepared arguments with
  | error error => exact ⟨.completed _, rfl⟩
  | ok call => exact transport.ask_same ..

theorem ClientEntry.call_same (entry : ClientEntry) (transport : Transport Id)
    (arguments : List Value) (history : History) (memory : Memory) :
    SameAnswer (entry.call (m := Id) transport arguments history memory)
      (entry.call (m := Id) transport.normalized arguments history memory) := by
  cases entry with
  | unsupported reason => exact ⟨.completed _, rfl⟩
  | bound method => exact method.call_same history memory transport arguments

/-- The same is seen of a call if its transport reports cancelled calls as plain cancellations. -/
theorem ClientEntry.seen_normalized (entry : ClientEntry) (transport : Transport Id)
    (arguments : List Value) (form : ReturnForm) (argument : ValueType) (history : History)
    (memory : Memory) (turns : List Turn) :
    entry.seen transport.normalized arguments form argument history memory turns =
      entry.seen transport arguments form argument history memory turns := by
  have same := entry.call_same transport arguments history memory
  unfold seen
  generalize entry.call (m := Id) transport arguments history memory = answer at same ⊢
  generalize entry.call (m := Id) transport.normalized arguments history memory = other at same ⊢
  obtain ⟨outcome, after⟩ := answer
  obtain ⟨normal, afterNormal⟩ := other
  obtain ⟨mirrors, rfl⟩ := same
  exact mirrors.seen_eq form argument history afterNormal turns

/-- A cancelled status of the transport is seen as the plain cancellation. -/
example (argument : ValueType) (detail : String) :
    let call := SingleCall.ready (.error (.status (.cancelled detail)))
    (CallOutcome.pending (call.result none .detached)).seen .task argument [] .fresh [.poll] =
      [.error .cancelled] := rfl

end RpcContracts
