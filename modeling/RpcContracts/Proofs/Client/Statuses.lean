import RpcContracts.Proofs.Client.Cancellations
import RpcContracts.Proofs.Value.Assembly

/-!
# Statuses as callers see them

A status that a caller sees has another code than that of a cancelled call, and it is the
transport's own: the call that was issued has failed with it, as its response, as an item of its
responses or in place of its headers. Nothing else on the way to the caller makes a status: neither
taking the arguments, nor recovering payloads, nor adapting an outcome to a return type.
-/

namespace RpcContracts

theorem RpcError.eq_of_normalize_status {error : RpcError} {status : Status}
    (normal : error.normalize = .status status) :
    error = .status status ∧ status.code ≠ .cancelled := by
  cases error with
  | status reported =>
      by_cases isCancel : reported.code = .cancelled
      · simp [normalize, isCancel] at normal
      · obtain rfl : reported = status := by simpa [normalize, isCancel] using normal
        exact ⟨rfl, isCancel⟩
  | _ => cases normal

theorem eq_of_normalForm_status {α : Type} {result : Except RpcError α} {status : Status}
    (normal : normalForm result = .error (.status status)) :
    result = .error (.status status) ∧ status.code ≠ .cancelled := by
  cases result with
  | ok value => cases normal
  | error error =>
      obtain ⟨rfl, code_ne⟩ := RpcError.eq_of_normalize_status (Except.error.inj normal)
      exact ⟨rfl, code_ne⟩

/-! ## Single responses -/

/-- What comes about after the headers of a call: they are polled first if they are captured. -/
def AfterHeaders {State : Type} (poll : PollStep State (Except RpcError Metadata)) (state : State)
    (capture : Option Nat) (rest : History → Memory → Prop) (history : History) (memory : Memory) :
    Prop :=
  match capture with
  | none => rest history memory
  | some number =>
      ∃ value, poll.Finds (.ok value)
        (fun history memory => rest history (memory.captureHeaders number value))
        state history memory

theorem AfterHeaders.deduce {State : Type} {poll : PollStep State (Except RpcError Metadata)}
    {state : State} {capture : Option Nat} {rest next : History → Memory → Prop} {fact : Prop}
    {history : History} {memory : Memory}
    (deduced : ∀ history memory, rest history memory → fact ∧ next history memory)
    (after : AfterHeaders poll state capture rest history memory) :
    fact ∧ AfterHeaders poll state capture next history memory := by
  cases capture with
  | none => exact deduced history memory after
  | some number =>
      obtain ⟨value, finds⟩ := after
      obtain ⟨known, finds⟩ := finds.deduce fun history memory => deduced history _
      exact ⟨known, value, finds⟩

theorem AfterHeaders.earlier {State : Type} {poll : PollStep State (Except RpcError Metadata)}
    {state : State} {capture : Option Nat} {rest : History → Memory → Prop} {history : History}
    {memory : Memory} (event : Event)
    (waits : rest (history ++ [event]) memory → rest history memory)
    (after : AfterHeaders poll state capture rest (history ++ [event]) memory) :
    AfterHeaders poll state capture rest history memory := by
  cases capture with
  | none => exact waits after
  | some number =>
      obtain ⟨value, finds⟩ := after
      exact ⟨value, .outside event finds⟩

/-- Captured headers that fail. -/
def HeadersFail {State : Type} (poll : PollStep State (Except RpcError Metadata)) (state : State)
    (capture : Option Nat) (happened : History) (error : RpcError) (history : History)
    (memory : Memory) : Prop :=
  capture.isSome = true ∧ poll.Finds (.error error) (Within happened) state history memory

namespace SingleCall

variable {call : SingleCall} {capture : Option Nat} {happened history : History} {memory : Memory}
  {outcome : Outcome}

/-- The work on a call can still come to an outcome: as the response, or because headers fail. -/
def CanEnd (call : SingleCall) (capture : Option Nat) (happened : History) (outcome : Outcome) :
    call.Progress → History → Memory → Prop
  | .headers state, history, memory =>
      AfterHeaders call.headers.poll state capture
          (call.response.Finds outcome (Within happened)) history memory ∨
        ∃ error, HeadersFail call.headers.poll state capture happened error history memory ∧
          outcome = .error error
  | .response state, history, memory =>
      call.response.poll.Finds outcome (Within happened) state history memory
  | .completion found _, _, _ => outcome = found

/-- An outcome that a poll has come to or that is still possible after it. -/
def Leads (call : SingleCall) (capture : Option Nat) (happened : History) (outcome : Outcome)
    (history : History) (polled : Poll Outcome × call.Progress × Memory) : Prop :=
  polled.1 = .ready outcome ∨ call.CanEnd capture happened outcome polled.2.1 history polled.2.2

theorem pollCompletion_leads {number : Nat} {found : Outcome} {completion : call.completion.State}
    (leads : call.Leads capture happened outcome history
      (call.pollCompletion number found completion history memory)) : outcome = found := by
  unfold pollCompletion at leads
  generalize call.completion.poll completion history memory = polled at leads
  rcases polled with ⟨_ | value, after, memoryAfter⟩ <;> obtain ended | can := leads
  · cases ended
  · exact can
  · cases ended
    rfl
  · exact can

theorem pollResponse_leads (reached : history <+: happened) {response : call.response.State}
    (leads : call.Leads capture happened outcome history
      (call.pollResponse capture response history memory)) :
    call.response.poll.Finds outcome (Within happened) response history memory := by
  unfold pollResponse at leads
  rcases polled : call.response.poll response history memory
    with ⟨_ | found, after, memoryAfter⟩ <;> rw [polled] at leads
  · obtain ended | can := leads
    · cases ended
    · exact .later polled can
  · cases capture with
    | none =>
        obtain ended | can := leads
        · cases ended
          exact .now polled reached
        · exact .later polled can
    | some number =>
        obtain rfl := pollCompletion_leads leads
        exact .now polled reached

theorem pollHeaders_leads (reached : history <+: happened) {number : Nat}
    {headers : call.headers.State}
    (leads : call.Leads (some number) happened outcome history
      (call.pollHeaders (some number) number headers history memory)) :
    call.CanEnd (some number) happened outcome (.headers headers) history memory := by
  unfold pollHeaders at leads
  rcases polled : call.headers.poll headers history memory
    with ⟨_ | error | value, after, memoryAfter⟩ <;> rw [polled] at leads
  · obtain ended | ⟨value, responds⟩ | ⟨error, ⟨captured, fails⟩, outcome_eq⟩ := leads
    · cases ended
    · exact .inl ⟨value, .later polled responds⟩
    · exact .inr ⟨error, ⟨captured, .later polled fails⟩, outcome_eq⟩
  · obtain ended | ⟨value, responds⟩ | ⟨error, ⟨captured, fails⟩, outcome_eq⟩ := leads
    · cases ended
      exact .inr ⟨error, ⟨rfl, .now polled reached⟩, rfl⟩
    · exact .inl ⟨value, .later polled responds⟩
    · exact .inr ⟨error, ⟨captured, .later polled fails⟩, outcome_eq⟩
  · exact .inl ⟨value, .now polled (pollResponse_leads reached leads)⟩

theorem pollProgress_leads (reached : history <+: happened) {progress : call.Progress}
    (leads : call.Leads capture happened outcome history
      (call.pollProgress capture progress history memory)) :
    call.CanEnd capture happened outcome progress history memory := by
  cases progress with
  | headers headers =>
      cases capture with
      | none =>
          obtain ended | can := leads
          · cases ended
          · exact can
      | some number => exact pollHeaders_leads reached leads
  | response response => exact pollResponse_leads reached leads
  | completion found completion =>
      cases capture with
      | none =>
          obtain ended | can := leads
          · cases ended
            rfl
          · exact can
      | some number => exact pollCompletion_leads leads

theorem CanEnd.earlier {progress : call.Progress} (event : Event)
    (can : call.CanEnd capture happened outcome progress (history ++ [event]) memory) :
    call.CanEnd capture happened outcome progress history memory := by
  cases progress with
  | headers headers =>
      obtain responds | ⟨error, ⟨captured, fails⟩, outcome_eq⟩ := can
      · exact .inl (responds.earlier event (.outside event))
      · exact .inr ⟨error, ⟨captured, .outside event fails⟩, outcome_eq⟩
  | response response => exact .outside event can
  | completion found completion => exact can

/-- A call fails with a status: as its response, or in place of the headers that are captured. -/
def FailsWith (call : SingleCall) (capture : Option Nat) (happened : History) (status : Status)
    (history : History) (memory : Memory) : Prop :=
  AfterHeaders call.headers.poll call.headers.state capture
      (call.response.Finds (.error (.status status)) (Within happened)) history memory ∨
    HeadersFail call.headers.poll call.headers.state capture happened (.status status) history
      memory

theorem canEnd_of_observed
    (finds : (call.observed capture).Finds outcome (Within happened) history memory) :
    call.CanEnd capture happened outcome (call.observed capture).state history memory := by
  unfold Future.Finds at finds
  generalize (call.observed capture).state = progress at finds
  induction finds with
  | outside event _ ih => exact ih.earlier event
  | @later progress after history memory memoryAfter answer polled finds ih =>
      have leads : call.Leads capture happened outcome history
          ((call.observed capture).poll progress history memory) := by
        rw [polled]
        exact .inr ih
      exact pollProgress_leads finds.reached leads
  | now polled reached => exact pollProgress_leads reached (.inl (congrArg Prod.fst polled))

theorem failsWith_of_result {token : Token} {status : Status}
    (finds : (call.result capture token).Finds (.error (.status status)) (Within happened) history
      memory) :
    status.code ≠ .cancelled ∧ call.FailsWith capture happened status history memory := by
  obtain cancelled | ⟨outcome, observed, result_eq⟩ := Future.finds_cancellable finds
  · cases cancelled
  · rw [raceResult_some] at result_eq
    obtain ⟨rfl, code_ne⟩ := eq_of_normalForm_status result_eq.symm
    refine ⟨code_ne, ?_⟩
    have can := canEnd_of_observed observed
    cases capture with
    | none => exact .inl can
    | some number =>
        obtain responds | ⟨error, fails, outcome_eq⟩ := can
        · exact .inl responds
        · cases outcome_eq
          exact .inr fails

end SingleCall

/-! ## Streams of responses -/

namespace StreamingCall

variable {call : StreamingCall} {capture : Option Nat} {token : Token} {happened history : History}
  {memory : Memory} {item : Outcome}

/-- The responses have an item, perhaps not in normal form, or it is the cancellation. -/
def ItemFrom (call : StreamingCall) (happened : History) (item : Outcome)
    (responses : call.responses.State) (history : History) (memory : Memory) : Prop :=
  item = .error .cancelled ∨
    ∃ found, call.responses.next.Finds (some found) (Within happened) responses history memory ∧
      item = normalForm found

/-- The same if the headers are still to be polled, unless they fail. -/
def ItemAfterHeaders (call : StreamingCall) (capture : Option Nat) (happened : History)
    (item : Outcome) (headers : call.headers.State) (responses : call.responses.State)
    (history : History) (memory : Memory) : Prop :=
  item = .error .cancelled ∨
    AfterHeaders call.headers.poll headers capture (call.ItemFrom happened item responses) history
      memory ∨
    ∃ error, HeadersFail call.headers.poll headers capture happened error history memory ∧
      item = .error error.normalize

/-- An item that a caller can still see. -/
def CanYield (call : StreamingCall) (capture : Option Nat) (happened : History) (item : Outcome) :
    call.Stage × call.responses.State → History → Memory → Prop
  | (.fresh, responses) =>
      call.ItemAfterHeaders capture happened item call.headers.state responses
  | (.headers state, responses) => call.ItemAfterHeaders capture happened item state responses
  | (.idle, responses) => call.ItemFrom happened item responses
  | (.reading, responses) => call.ItemFrom happened item responses
  | (.completion _, _) => fun _ _ => False
  | (.finished, _) => fun _ _ => False

/-- An item that a poll has found or that can still be seen after it. -/
def Leads (call : StreamingCall) (capture : Option Nat) (happened : History) (item : Outcome)
    (history : History) (polled : call.ResponsePoll) : Prop :=
  polled.1 = .ready (some item) ∨
    call.CanYield capture happened item polled.2.1 history polled.2.2

theorem ItemFrom.of_race {begun : Bool} {responses after : call.responses.State}
    {memoryAfter : Memory} {answer : Poll (Option (Option Outcome))}
    (raced_eq : PollStep.race call.responses.next token begun responses history memory =
      (answer, after, memoryAfter))
    (itemFrom : call.ItemFrom happened item after history memoryAfter) :
    call.ItemFrom happened item responses history memory := by
  obtain cancelled | ⟨found, finds, item_eq⟩ := itemFrom
  · exact .inl cancelled
  · exact .inr ⟨found, finds.of_race raced_eq, item_eq⟩

theorem pollCompletion_not_leads {number : Nat} {begun : Bool}
    {completion : call.completion.State} {responses : call.responses.State} :
    ¬call.Leads capture happened item history
      (call.pollCompletion token number begun completion responses history memory) := by
  unfold pollCompletion
  generalize PollStep.race call.completion.poll token begun completion history memory = raced
  rcases raced with ⟨_ | _ | value, after, memoryAfter⟩ <;> rintro (found | can)
  · cases found
  · exact can
  · cases found
  · exact can
  · cases found
  · exact can

theorem pollItem_leads (reached : history <+: happened) {begun : Bool}
    {responses : call.responses.State}
    (leads : call.Leads capture happened item history
      (call.pollItem capture token begun responses history memory)) :
    call.ItemFrom happened item responses history memory := by
  unfold pollItem at leads
  rcases raced_eq : PollStep.race call.responses.next token begun responses history memory
    with ⟨_ | _ | _ | error | value, after, memoryAfter⟩ <;> rw [raced_eq] at leads
  · obtain found | can := leads
    · cases found
    · exact ItemFrom.of_race raced_eq can
  · obtain found | can := leads
    · cases found
      exact .inl rfl
    · exact can.elim
  · cases capture with
    | none =>
        obtain found | can := leads
        · cases found
        · exact can.elim
    | some number => exact absurd leads pollCompletion_not_leads
  · obtain found | can := leads
    · cases found
      exact .inr ⟨_, .now (PollStep.race_some raced_eq) reached, rfl⟩
    · exact can.elim
  · obtain found | can := leads
    · cases found
      exact .inr ⟨_, .now (PollStep.race_some raced_eq) reached, rfl⟩
    · exact ItemFrom.of_race raced_eq can

theorem pollHeaders_leads (reached : history <+: happened) {number : Nat} {begun : Bool}
    {headers : call.headers.State} {responses : call.responses.State}
    (leads : call.Leads (some number) happened item history
      (call.pollHeaders (some number) token number begun headers responses history memory)) :
    call.ItemAfterHeaders (some number) happened item headers responses history memory := by
  unfold pollHeaders at leads
  rcases raced_eq : PollStep.race call.headers.poll token begun headers history memory
    with ⟨_ | _ | error | value, after, memoryAfter⟩ <;> rw [raced_eq] at leads
  · obtain found | cancelled | ⟨value, itemFrom⟩ | ⟨error, ⟨captured, fails⟩, item_eq⟩ := leads
    · cases found
    · exact .inl cancelled
    · exact .inr (.inl ⟨value, itemFrom.of_race raced_eq⟩)
    · exact .inr (.inr ⟨error, ⟨captured, fails.of_race raced_eq⟩, item_eq⟩)
  · obtain found | can := leads
    · cases found
      exact .inl rfl
    · exact can.elim
  · obtain found | can := leads
    · cases found
      exact .inr (.inr ⟨error, ⟨rfl, .now (PollStep.race_some raced_eq) reached⟩, rfl⟩)
    · exact can.elim
  · exact .inr (.inl ⟨value, .now (PollStep.race_some raced_eq) (pollItem_leads reached leads)⟩)

theorem pollNext_leads (reached : history <+: happened)
    {state : call.Stage × call.responses.State}
    (leads : call.Leads capture happened item history
      (call.pollNext capture token state history memory)) :
    call.CanYield capture happened item state history memory := by
  obtain ⟨stage, responses⟩ := state
  cases stage with
  | fresh =>
      cases capture with
      | none => exact .inr (.inl (pollItem_leads reached leads))
      | some number => exact pollHeaders_leads reached leads
  | idle => exact pollItem_leads reached leads
  | headers headers =>
      cases capture with
      | none => exact .inr (.inl (pollItem_leads reached leads))
      | some number => exact pollHeaders_leads reached leads
  | reading => exact pollItem_leads reached leads
  | completion completion =>
      cases capture with
      | none =>
          obtain found | can := leads
          · cases found
          · exact can
      | some number => exact pollCompletion_not_leads leads
  | finished =>
      obtain found | can := leads
      · cases found
      · exact can

theorem ItemFrom.earlier {responses : call.responses.State} (event : Event)
    (itemFrom : call.ItemFrom happened item responses (history ++ [event]) memory) :
    call.ItemFrom happened item responses history memory := by
  obtain cancelled | ⟨found, finds, item_eq⟩ := itemFrom
  · exact .inl cancelled
  · exact .inr ⟨found, .outside event finds, item_eq⟩

theorem ItemAfterHeaders.earlier {headers : call.headers.State} {responses : call.responses.State}
    (event : Event)
    (can : call.ItemAfterHeaders capture happened item headers responses (history ++ [event])
      memory) :
    call.ItemAfterHeaders capture happened item headers responses history memory := by
  obtain cancelled | itemFrom | ⟨error, ⟨captured, fails⟩, item_eq⟩ := can
  · exact .inl cancelled
  · exact .inr (.inl (AfterHeaders.earlier event (ItemFrom.earlier event) itemFrom))
  · exact .inr (.inr ⟨error, ⟨captured, .outside event fails⟩, item_eq⟩)

theorem CanYield.earlier {state : call.Stage × call.responses.State} (event : Event)
    (can : call.CanYield capture happened item state (history ++ [event]) memory) :
    call.CanYield capture happened item state history memory := by
  obtain ⟨stage, responses⟩ := state
  cases stage with
  | fresh => exact ItemAfterHeaders.earlier event can
  | headers headers => exact ItemAfterHeaders.earlier event can
  | idle => exact ItemFrom.earlier event can
  | reading => exact ItemFrom.earlier event can
  | completion completion => exact can
  | finished => exact can

/-- A call fails with a status: as an item of its responses, or in place of the headers that are
captured. -/
def FailsWith (call : StreamingCall) (capture : Option Nat) (happened : History) (status : Status)
    (history : History) (memory : Memory) : Prop :=
  AfterHeaders call.headers.poll call.headers.state capture
      (call.responses.Finds (.error (.status status)) (Within happened)) history memory ∨
    HeadersFail call.headers.poll call.headers.state capture happened (.status status) history
      memory

theorem canYield_of_results
    (finds : (call.results capture token).Finds item (Within happened) history memory) :
    call.CanYield capture happened item (call.results capture token).state history memory := by
  unfold Stream.Finds at finds
  generalize (call.results capture token).state = state at finds
  induction finds with
  | outside event _ ih => exact ih.earlier event
  | @later state after history memory memoryAfter answer polled finds ih =>
      have leads : call.Leads capture happened item history
          ((call.results capture token).next state history memory) := by
        rw [polled]
        exact .inr ih
      exact pollNext_leads finds.reached leads
  | now polled reached => exact pollNext_leads reached (.inl (congrArg Prod.fst polled))

theorem finds_of_itemFrom {status : Status} {responses : call.responses.State}
    (itemFrom : call.ItemFrom happened (.error (.status status)) responses history memory) :
    status.code ≠ .cancelled ∧ call.responses.next.Finds (some (.error (.status status)))
      (Within happened) responses history memory := by
  obtain cancelled | ⟨found, finds, status_eq⟩ := itemFrom
  · cases cancelled
  · obtain ⟨rfl, code_ne⟩ := eq_of_normalForm_status status_eq.symm
    exact ⟨code_ne, finds⟩

theorem failsWith_of_results {status : Status}
    (finds : (call.results capture token).Finds (.error (.status status)) (Within happened) history
      memory) :
    status.code ≠ .cancelled ∧ call.FailsWith capture happened status history memory := by
  obtain cancelled | itemFrom | ⟨error, fails, status_eq⟩ := canYield_of_results finds
  · cases cancelled
  · obtain ⟨code_ne, fails⟩ := itemFrom.deduce fun _ _ => finds_of_itemFrom
    exact ⟨code_ne, .inl fails⟩
  · obtain ⟨rfl, code_ne⟩ := RpcError.eq_of_normalize_status (Except.error.inj status_eq).symm
    exact ⟨code_ne, .inr fails⟩

end StreamingCall

/-! ## From what is seen back to the outcome -/

namespace Returned

variable {argument : ValueType}

/-- A value is found in what a method has returned. -/
def Finds (returned : Returned argument) (value : OutcomeOf argument) (happened history : History)
    (memory : Memory) : Prop :=
  match returned with
  | result outcome => value = outcome
  | task work => work.Finds value (Within happened) history memory
  | valueTask work => work.toTask.Finds value (Within happened) history memory
  | responses items => items.Finds value (Within happened) history memory
  | blocked => False

theorem finds_of_seen {returned : Returned argument} {history : History} {memory : Memory}
    {turns : List Turn} {value : OutcomeOf argument}
    (seen : value ∈ returned.seen history memory turns) :
    returned.Finds value (history ++ Turn.events turns) history memory := by
  cases returned with
  | result outcome => exact List.mem_singleton.mp seen
  | task work => exact Future.finds_of_run rfl (List.prefix_refl _) (Option.mem_toList.mp seen)
  | valueTask work =>
      exact Future.finds_of_run rfl (List.prefix_refl _) (Option.mem_toList.mp seen)
  | responses items =>
      obtain earlier | finds := Stream.finds_of_run (List.prefix_refl _) seen
      · cases earlier
      · exact finds
  | blocked => cases seen

end Returned

namespace CallOutcome

variable {argument : ValueType} {happened history : History} {memory : Memory} {status : Status}

/-- A result or a response is found in the outcome of a call. -/
def Finds (outcome : CallOutcome) (item : Outcome) (happened history : History) (memory : Memory) :
    Prop :=
  match outcome with
  | completed result => item = result
  | pending task => task.Finds item (Within happened) history memory
  | streaming responses => responses.Finds item (Within happened) history memory
  | blocked => False

/-- A status in what a method has returned was in the outcome of the call already. -/
theorem finds_of_returned {outcome : CallOutcome} {form : ReturnForm}
    (reached : history <+: happened)
    (finds : (outcome.returned form argument history memory).1.Finds (.error (.status status))
      happened history (outcome.returned form argument history memory).2) :
    outcome.Finds (.error (.status status)) happened history memory := by
  cases outcome with
  | completed result =>
      have same (read : .error (.status status) = Outcome.downcast argument result) :
          .error (.status status) = result := (Outcome.eq_of_downcast_status read.symm).symm
      cases form with
      | result => exact same finds
      | task => exact same (Future.finds_ready finds)
      | valueTask => exact same (Future.finds_ready finds)
      | responseStream =>
          cases result with
          | ok payload => cases List.mem_singleton.mp (Stream.finds_ofItems finds)
          | error error =>
              cases List.mem_singleton.mp (Stream.finds_ofItems finds)
              rfl
  | pending task =>
      have mapped (finds : (task.map (Outcome.downcast argument)).Finds (.error (.status status))
          (Within happened) history memory) :
          task.Finds (.error (.status status)) (Within happened) history memory := by
        obtain ⟨result, finds, read⟩ := Future.finds_map finds
        obtain rfl := Outcome.eq_of_downcast_status read.symm
        exact finds
      cases form with
      | result =>
          rcases blocked : task.block history memory with ⟨_ | result, memoryAfter⟩ <;>
            simp only [returned, toResult, blocked, Option.map_none, Option.map_some] at finds
          · cases finds
          · obtain rfl := Outcome.eq_of_downcast_status finds.symm
            exact Future.finds_of_block reached (congrArg Prod.fst blocked)
      | task => exact mapped finds
      | valueTask => exact mapped finds
      | responseStream => cases List.mem_singleton.mp (Stream.finds_ofItems finds)
  | streaming responses =>
      cases form with
      | result => cases finds
      | task => cases Future.finds_ready finds
      | valueTask => cases Future.finds_ready finds
      | responseStream =>
          obtain ⟨result, finds, read⟩ := Stream.finds_map finds
          obtain rfl := Outcome.eq_of_downcast_status read.symm
          exact finds
  | blocked => cases form <;> exact finds

end CallOutcome

theorem SingleCall.failsWith_of_outcome {call : SingleCall} {shape : ResponseShape}
    {capture : Option Nat} {token : Token} {happened history : History} {memory : Memory}
    {status : Status} (reached : history <+: happened)
    (finds : (call.outcome shape capture token history memory).1.Finds (.error (.status status))
      happened history (call.outcome shape capture token history memory).2) :
    status.code ≠ .cancelled ∧ call.FailsWith capture happened status history memory := by
  cases shape with
  | sync =>
      rcases blocked : (call.result capture token).block history memory
        with ⟨_ | result, memoryAfter⟩ <;> simp only [outcome, blocked] at finds
      · cases finds
      · have result_eq : .error (.status status) = result := finds
        subst result_eq
        exact failsWith_of_result (Future.finds_of_block reached (congrArg Prod.fst blocked))
  | deferred => exact failsWith_of_result finds
  | lightDeferred => exact failsWith_of_result finds
  | streamed => cases finds

/-! ## From the outcome back to the transport -/

/-- A transport fails an issued call with a status. -/
def Transport.FailsWith (transport : Transport Id) (capture : Option Nat) (happened : History)
    (status : Status) (history : History) (memory : Memory) : IssuedCall → Prop
  | .unary head request =>
      match transport.unary head request memory with
      | (call, memory) => call.FailsWith capture happened status history memory
  | .clientStreaming head requests =>
      match transport.clientStreaming head requests memory with
      | (call, memory) => call.FailsWith capture happened status history memory
  | .serverStreaming head request =>
      match transport.serverStreaming head request memory with
      | (call, memory) => call.FailsWith capture happened status history memory
  | .duplexStreaming head requests =>
      match transport.duplexStreaming head requests memory with
      | (call, memory) => call.FailsWith capture happened status history memory

/-- The capture buffer that a method takes from its arguments. -/
def ClientMethod.captureOf (method : ClientMethod) (arguments : List Value) : Option Nat :=
  match takeOptions method.contextKind arguments.tail with
  | .ok taken => taken.2
  | .error _ => none

def ClientEntry.captureOf (entry : ClientEntry) (arguments : List Value) : Option Nat :=
  match entry with
  | bound method => method.captureOf arguments
  | unsupported _ => none

/-- A status that a transport has reported itself: it is not that of a cancelled call, and the
transport fails one of the issued calls with it. -/
structure StatusReported (transport : Transport Id) (issued : List IssuedCall)
    (capture : Option Nat) (happened : History) (status : Status) (history : History)
    (memory : Memory) : Prop where
  not_cancelled : status.code ≠ .cancelled
  reported : ∃ call ∈ issued,
    transport.FailsWith capture happened status history (memory.resetCapture capture) call

namespace ClientMethod

variable {method : ClientMethod} {arguments : List Value} {happened history : History}
  {memory : Memory} {status : Status}

theorem takeOptions_ne_status {contextKind : ContextKind} :
    takeOptions contextKind arguments ≠ .error (.status status) := by
  intro failed
  cases contextKind with
  | none => cases failed
  | plainOptions =>
      simp only [takeOptions] at failed
      split at failed
      · next missing =>
          cases failed
          exact takeAny_ne_status missing
      · cases failed
      · cases failed
  | unifiedContext =>
      simp only [takeOptions] at failed
      split at failed
      · next missing =>
          cases failed
          exact takeAny_ne_status missing
      · cases failed
      · cases failed
  | serverContext => cases failed

theorem takeSingle_ne_status : method.takeSingle arguments ≠ .error (.status status) := by
  intro failed
  cases arguments with
  | nil => cases failed
  | cons value rest => exact takeOptions_ne_status (eq_error_of_map failed)

theorem takeStream_ne_status {request : ValueType} :
    method.takeStream request arguments ≠ .error (.status status) := by
  intro failed
  have taken := @takeTyped_ne_status (.wrapped .streamReader request) arguments status
  simp only [takeStream] at failed
  generalize takeTyped (.wrapped .streamReader request) arguments = answer at failed taken
  obtain ⟨error | reader, rest⟩ := answer
  · exact taken (congrArg Except.error (Except.error.inj failed))
  · exact takeOptions_ne_status (eq_error_of_map failed)

theorem capture_of_takeSingle {taken : CallInput Payload}
    (taken_eq : method.takeSingle arguments = .ok taken) :
    taken.capture = method.captureOf arguments := by
  cases arguments with
  | nil => cases taken_eq
  | cons value rest =>
      simp only [takeSingle, takeAny] at taken_eq
      simp only [captureOf, List.tail_cons]
      generalize takeOptions method.contextKind rest = options at taken_eq ⊢
      cases options <;> cases taken_eq
      rfl

theorem capture_of_takeStream {request : ValueType} {taken : CallInput (ItemStream Payload)}
    (taken_eq : method.takeStream request arguments = .ok taken) :
    taken.capture = method.captureOf arguments := by
  cases arguments with
  | nil => cases taken_eq
  | cons value rest =>
      simp only [takeStream, takeTyped, takeAny] at taken_eq
      simp only [captureOf, List.tail_cons]
      cases reader_eq : value.downcast (.wrapped .streamReader request) with
      | error error =>
          rw [reader_eq] at taken_eq
          cases taken_eq
      | ok reader =>
          simp only [reader_eq] at taken_eq
          generalize takeOptions method.contextKind rest = options at taken_eq ⊢
          cases options <;> cases taken_eq
          rfl

/-- Taking the arguments makes no status. -/
theorem prepared_ne_status : method.prepared arguments ≠ .error (.status status) := by
  intro failed
  unfold prepared at failed
  cases form_eq : method.form <;> rw [form_eq] at failed
  case unary => exact takeSingle_ne_status (eq_error_of_map failed)
  case clientStreaming => exact takeStream_ne_status (eq_error_of_map failed)
  case serverStreaming => exact takeSingle_ne_status (eq_error_of_map failed)
  case duplexStreaming => exact takeStream_ne_status (eq_error_of_map failed)

theorem capture_of_prepared {issued : IssuedCall} {capture : Option Nat}
    (prepared_eq : method.prepared arguments = .ok (issued, capture)) :
    capture = method.captureOf arguments := by
  unfold prepared at prepared_eq
  cases form_eq : method.form <;> rw [form_eq] at prepared_eq <;>
    obtain ⟨input, taken, input_eq⟩ := eq_ok_of_map prepared_eq <;> cases input_eq
  case unary => exact capture_of_takeSingle taken
  case clientStreaming => exact capture_of_takeStream taken
  case serverStreaming => exact capture_of_takeSingle taken
  case duplexStreaming => exact capture_of_takeStream taken

variable {transport : Transport Id}

/-- A status of a call comes from the call that was issued. -/
theorem failsWith_of_ask {issued : IssuedCall} {shape : ResponseShape} {capture : Option Nat}
    {token : Token} (reached : history <+: happened)
    (finds : (transport.ask (m := Id) issued memory
        (fun answer => answer.1.outcome shape capture token history answer.2)
        (fun answer => (.streaming (answer.1.results capture token), answer.2))).1.Finds
      (.error (.status status)) happened history
      (transport.ask (m := Id) issued memory
        (fun answer => answer.1.outcome shape capture token history answer.2)
        (fun answer => (.streaming (answer.1.results capture token), answer.2))).2) :
    status.code ≠ .cancelled ∧
      transport.FailsWith capture happened status history memory issued := by
  cases issued with
  | unary head request => exact SingleCall.failsWith_of_outcome reached finds
  | clientStreaming head requests => exact SingleCall.failsWith_of_outcome reached finds
  | serverStreaming head request => exact StreamingCall.failsWith_of_results finds
  | duplexStreaming head requests => exact StreamingCall.failsWith_of_results finds

theorem statusReported_of_call (reached : history <+: happened)
    (finds : (method.call (m := Id) transport arguments history memory).1.Finds
      (.error (.status status)) happened history
        (method.call (m := Id) transport arguments history memory).2) :
    StatusReported transport
      ((method.call transport.recorded arguments history memory).run []).2
      (method.captureOf arguments) happened status history memory := by
  rw [method.call_eq] at finds ⊢
  cases prepared_eq : method.prepared arguments with
  | error error =>
      rw [prepared_eq] at finds
      obtain rfl : RpcError.status status = error := Except.error.inj finds
      exact absurd prepared_eq prepared_ne_status
  | ok call =>
      obtain ⟨issued, capture⟩ := call
      rw [prepared_eq] at finds
      obtain ⟨code_ne, failed⟩ := failsWith_of_ask reached finds
      obtain rfl := capture_of_prepared prepared_eq
      refine ⟨code_ne, issued, ?_, failed⟩
      simp only [Transport.recorded_ask]
      exact List.mem_singleton_self _

end ClientMethod

/-- No caller sees a cancelled call as a status: a call through any transport is seen as if the
transport reported plain cancellations in place of such statuses, and whatever status is seen has
another code and was reported by the transport for the call it was issued. -/
theorem ClientEntry.statuses_seen (entry : ClientEntry) (transport : Transport Id)
    (arguments : List Value) (form : ReturnForm) (argument : ValueType) (history : History)
    (memory : Memory) (turns : List Turn) :
    entry.seen transport.normalized arguments form argument history memory turns =
        entry.seen transport arguments form argument history memory turns ∧
      ∀ status, .error (.status status) ∈
          entry.seen transport arguments form argument history memory turns →
        StatusReported transport
          ((entry.call transport.recorded arguments history memory).run []).2
          (entry.captureOf arguments) (history ++ Turn.events turns) status history memory := by
  refine ⟨entry.seen_normalized transport arguments form argument history memory turns, ?_⟩
  intro status seen
  have reached : history <+: history ++ Turn.events turns := List.prefix_append _ _
  have finds := CallOutcome.finds_of_returned reached (Returned.finds_of_seen seen)
  cases entry with
  | unsupported reason => cases finds
  | bound method => exact ClientMethod.statusReported_of_call reached finds

end RpcContracts
