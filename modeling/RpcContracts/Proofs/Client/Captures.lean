import RpcContracts.Client.Outcome
import RpcContracts.Proofs.Client.Reports
import RpcContracts.Session.Handle

/-!
# What calls keep in a capture buffer

However work on a call is wrapped and polled, a poll of it leaves the capture buffer of the call as
it is or keeps parts of what the transport reports of this call. This holds of every piece of the
work, and so of what the caller is handed back.
-/

namespace RpcContracts

/-- A part of a capture buffer has stayed as it was, or a reported value has been kept there. -/
inductive Kept {α : Type} (reported : α → Prop) (before : Option α) : Option α → Prop where
  | unchanged : Kept reported before before
  | kept {value : α} : reported value → Kept reported before (some value)

theorem Kept.trans {α : Type} {reported : α → Prop} {before after last : Option α}
    (earlier : Kept reported before after) (later : Kept reported after last) :
    Kept reported before last := by
  cases later with
  | unchanged => exact earlier
  | kept isReported => exact .kept isReported

/-- A capture buffer has stayed as it was, or parts of a report have been kept in it. -/
structure Capture.Writes (report : CallReport) (before after : Capture) : Prop where
  headers : Kept (fun headers => report.headers = .ok headers) before.headers after.headers
  trailers : Kept (fun trailers => report.completion.trailers = trailers) before.trailers
    after.trailers
  status : Kept (fun status => report.completion.status = status) before.status after.status

namespace Capture.Writes

variable {report : CallReport} {before after last : Capture}

theorem refl (capture : Capture) : Writes report capture capture :=
  ⟨.unchanged, .unchanged, .unchanged⟩

theorem of_eq (same : after = before) : Writes report before after := same ▸ refl _

theorem trans (earlier : Writes report before after) (later : Writes report after last) :
    Writes report before last :=
  ⟨earlier.headers.trans later.headers, earlier.trailers.trans later.trailers,
    earlier.status.trans later.status⟩

theorem setHeaders {headers : Metadata} (reported : report.headers = .ok headers)
    (capture : Capture) : Writes report capture (capture.setHeaders headers) :=
  ⟨.kept reported, .unchanged, .unchanged⟩

theorem setCompletion (capture : Capture) :
    Writes report capture (capture.setCompletion report.completion) :=
  ⟨.unchanged, .kept rfl, .kept rfl⟩

end Capture.Writes

/-- Every poll keeps at most parts of a report in a capture buffer. -/
def PollStep.Captures {State : Type} {α : Type u} (poll : PollStep State α) (report : CallReport)
    (number : Nat) : Prop :=
  ∀ state history memory, Capture.Writes report (memory.captures number)
    ((poll state history memory).2.2.captures number)

/-- The capture buffer of a number has stayed as it was, or parts of a report have been kept in it.
-/
def Memory.Writes (report : CallReport) (number : Nat) (before after : Memory) : Prop :=
  Capture.Writes report (before.captures number) (after.captures number)

section

variable {report : CallReport} {number : Nat}

theorem PollStep.KeepsCaptures.captures {State : Type} {α : Type u} {poll : PollStep State α}
    (keeps : poll.KeepsCaptures) (report : CallReport) (number : Nat) :
    poll.Captures report number := by
  intro state history memory
  rcases polled : poll state history memory with ⟨answer, after, memoryAfter⟩
  exact .of_eq (congrFun (keeps polled) number)

theorem Future.Yields.captures {α : Type} {future : Future α} {value : α}
    (yields : future.Yields value) (report : CallReport) (number : Nat) :
    future.poll.Captures report number :=
  PollStep.KeepsCaptures.captures yields.keeps report number

theorem PollStep.Captures.race {State : Type} {α : Type u} {poll : PollStep State α}
    (captures : poll.Captures report number) (token : Token) (begun : Bool) :
    (PollStep.race poll token begun).Captures report number := by
  have relates : poll.Relates (Memory.Writes report number) := captures
  exact relates.race (fun _ => .refl _) token begun

/-- A blocking caller polls the work, and nothing else. -/
theorem Future.runFor_writes {α : Type} (polls : Nat) (future : Future α)
    (captures : future.poll.Captures report number) (history : History) (memory : Memory) :
    Capture.Writes report (memory.captures number)
      ((runFor polls future history memory).2.captures number) := by
  have relates : future.poll.Relates (Memory.Writes report number) := captures
  exact Future.relates_runFor relates .trans polls history memory

end

/-! ## Calls with a single response -/

/-- What the polls of a call with a single response do to the memory, if its metadata is captured
under a number or not at all. -/
structure SingleCall.Relates (call : SingleCall) (capture : Option Nat)
    (relation : Memory → Memory → Prop) : Prop where
  refl : ∀ memory, relation memory memory
  trans : ∀ {before between after}, relation before between → relation between after →
    relation before after
  headers : ∀ number, capture = some number → call.headers.poll.Relates relation
  response : call.response.poll.Relates relation
  completion : ∀ number, capture = some number → call.completion.poll.Relates relation
  headers_kept : ∀ number, capture = some number →
    ∀ {state after history memory memoryAfter headers},
      call.headers.poll state history memory = (.ready (.ok headers), after, memoryAfter) →
        relation memoryAfter (memoryAfter.captureHeaders number headers)
  completion_kept : ∀ number, capture = some number →
    ∀ {state after history memory memoryAfter value},
      call.completion.poll state history memory = (.ready value, after, memoryAfter) →
        relation memoryAfter (memoryAfter.captureCompletion number value)

namespace SingleCall.Relates

variable {call : SingleCall} {capture : Option Nat} {number : Nat}
  {relation : Memory → Memory → Prop} (relates : call.Relates capture relation)

include relates

theorem pollCompletion (captured : capture = some number) (outcome : Outcome)
    (completion : call.completion.State) (history : History) (memory : Memory) :
    relation memory (call.pollCompletion number outcome completion history memory).2.2 := by
  have related := relates.completion number captured completion history memory
  unfold SingleCall.pollCompletion
  rcases polled : call.completion.poll completion history memory
    with ⟨_ | value, after, memoryAfter⟩ <;> rw [polled] at related
  · exact related
  · exact relates.trans related (relates.completion_kept number captured polled)

theorem pollResponse (state : call.response.State) (history : History) (memory : Memory) :
    relation memory (call.pollResponse capture state history memory).2.2 := by
  have related := relates.response state history memory
  unfold SingleCall.pollResponse
  generalize call.response.poll state history memory = polled at related
  rcases polled with ⟨_ | outcome, after, memoryAfter⟩
  · exact related
  · cases capture with
    | none => exact related
    | some number =>
        exact relates.trans related (relates.pollCompletion rfl outcome _ history _)

theorem pollHeaders (captured : capture = some number) (state : call.headers.State)
    (history : History) (memory : Memory) :
    relation memory (call.pollHeaders capture number state history memory).2.2 := by
  have related := relates.headers number captured state history memory
  unfold SingleCall.pollHeaders
  rcases polled : call.headers.poll state history memory
    with ⟨_ | _ | headers, after, memoryAfter⟩ <;> rw [polled] at related
  · exact related
  · exact related
  · have kept := relates.headers_kept number captured polled
    exact relates.trans related (relates.trans kept (relates.pollResponse _ history _))

theorem observed : (call.observed capture).poll.Relates relation := by
  intro progress history memory
  cases progress with
  | response state => exact relates.pollResponse state history memory
  | headers state =>
      cases capture with
      | none => exact relates.refl memory
      | some number => exact relates.pollHeaders rfl state history memory
  | completion outcome state =>
      cases capture with
      | none => exact relates.refl memory
      | some number => exact relates.pollCompletion rfl outcome state history memory

theorem result (token : Token) : (call.result capture token).poll.Relates relation :=
  Future.relates_cancellable relates.observed relates.refl token

/-- Adapting a call polls it if the method answers at once, and not otherwise. -/
theorem outcome (shape : ResponseShape) (token : Token) (history : History)
    (memory : Memory) :
    relation memory (call.outcome shape capture token history memory).2 := by
  have result : (call.result capture token).poll.Relates relation :=
    Future.relates_cancellable (relates.observed) relates.refl token
  cases shape with
  | sync =>
      have blocked : relation memory ((call.result capture token).block history memory).2 :=
        Future.relates_runFor (relates.result token) relates.trans _ history memory
      unfold SingleCall.outcome
      generalize (call.result capture token).block history memory = found at blocked
      rcases found with ⟨_ | value, memoryAfter⟩ <;> exact blocked
  | deferred => exact relates.refl memory
  | lightDeferred => exact relates.refl memory
  | streamed => exact relates.refl memory

end SingleCall.Relates

namespace SingleCall

variable {call : SingleCall} {report : CallReport} {response : Outcome} {number : Nat}
  (reports : call.Reports report response)

include reports

/-- Work on a call keeps at most parts of what is reported of it. -/
theorem writes : call.Relates (some number) (Memory.Writes report number) where
  refl _ := .refl _
  trans := .trans
  headers _ _ := reports.headers.captures report number
  response := reports.response.captures report number
  completion _ _ := reports.completion.captures report number
  headers_kept := by
    rintro number ⟨⟩ state after history memory memoryAfter headers polled
    have kept := Capture.Writes.setHeaders (reports.headers.value_eq polled).symm
      (memoryAfter.captures number)
    rwa [← Memory.captures_captureHeaders_same] at kept
  completion_kept := by
    rintro number ⟨⟩ state after history memory memoryAfter value polled
    obtain rfl := reports.completion.value_eq polled
    rw [Memory.Writes, Memory.captures_captureCompletion_same]
    exact .setCompletion _

theorem outcome_writes (shape : ResponseShape) (token : Token) (history : History)
    (memory : Memory) :
    Capture.Writes report (memory.captures number)
      ((call.outcome shape (some number) token history memory).2.captures number) :=
  (writes reports).outcome shape token history memory

end SingleCall

/-! ## Calls with a stream of responses -/

/-- A call whose transport reports given headers and a given completion, whatever its responses. -/
structure StreamingCall.Reports (call : StreamingCall) (report : CallReport) : Prop where
  headers : call.headers.Yields report.headers
  responses : call.responses.next.KeepsCaptures
  completion : call.completion.Yields report.completion

namespace StreamingCall

variable {call : StreamingCall} {report : CallReport} {number : Nat} {token : Token}
  (reports : call.Reports report)

include reports

theorem pollCompletion_writes (begun : Bool) (completion : call.completion.State)
    (responses : call.responses.State) (history : History) (memory : Memory) :
    Capture.Writes report (memory.captures number)
      ((call.pollCompletion token number begun completion responses history
        memory).2.2.captures number) := by
  have captures := reports.completion.captures report number
  have writes := captures.race token begun completion history memory
  unfold pollCompletion
  rcases raced : PollStep.race call.completion.poll token begun completion history memory
    with ⟨_ | _ | value, after, memoryAfter⟩ <;> rw [raced] at writes
  · exact writes
  · exact writes
  · obtain rfl := reports.completion.value_eq (PollStep.race_some raced)
    refine writes.trans ?_
    rw [Memory.captures_captureCompletion_same]
    exact .setCompletion _

theorem pollItem_writes (begun : Bool) (responses : call.responses.State) (history : History)
    (memory : Memory) :
    Capture.Writes report (memory.captures number)
      ((call.pollItem (some number) token begun responses history
        memory).2.2.captures number) := by
  have captures : call.responses.next.Captures report number :=
    PollStep.KeepsCaptures.captures reports.responses report number
  have writes := captures.race token begun responses history memory
  unfold pollItem
  generalize PollStep.race call.responses.next token begun responses history memory = raced
    at writes
  rcases raced with ⟨_ | _ | _ | _ | item, after, memoryAfter⟩
  · exact writes
  · exact writes
  · exact writes.trans (pollCompletion_writes reports false _ after history memoryAfter)
  · exact writes
  · exact writes

theorem pollHeaders_writes (begun : Bool) (headers : call.headers.State)
    (responses : call.responses.State) (history : History) (memory : Memory) :
    Capture.Writes report (memory.captures number)
      ((call.pollHeaders (some number) token number begun headers responses history
        memory).2.2.captures number) := by
  have captures := reports.headers.captures report number
  have writes := captures.race token begun headers history memory
  unfold pollHeaders
  rcases raced : PollStep.race call.headers.poll token begun headers history memory
    with ⟨_ | _ | _ | value, after, memoryAfter⟩ <;> rw [raced] at writes
  · exact writes
  · exact writes
  · exact writes
  · have reported := reports.headers.value_eq (PollStep.race_some raced)
    have kept := Capture.Writes.setHeaders reported.symm (memoryAfter.captures number)
    rw [← Memory.captures_captureHeaders_same] at kept
    exact writes.trans (kept.trans (pollItem_writes reports false responses history _))

theorem results_captures :
    (call.results (some number) token).next.Captures report number := by
  rintro ⟨stage, responses⟩ history memory
  cases stage with
  | fresh => exact pollHeaders_writes reports false _ responses history memory
  | idle => exact pollItem_writes reports false responses history memory
  | headers headers => exact pollHeaders_writes reports true headers responses history memory
  | reading => exact pollItem_writes reports true responses history memory
  | completion completion =>
      exact pollCompletion_writes reports true completion responses history memory
  | finished => exact .refl _

end StreamingCall

/-! ## What the caller is handed back -/

/-- Every poll of what is handed back keeps at most parts of a report. -/
def CallOutcome.Captures (report : CallReport) (number : Nat) : CallOutcome → Prop
  | completed _ => True
  | pending task => task.poll.Captures report number
  | streaming responses => responses.next.Captures report number
  | blocked => True

def Handle.Captures (report : CallReport) (number : Nat) : Handle → Prop
  | empty => True
  | single task => task.poll.Captures report number
  | stream items => items.next.Captures report number
  | finished => True

section

variable {report : CallReport} {number : Nat}

theorem SingleCall.outcome_captures {call : SingleCall} {response : Outcome}
    (reports : call.Reports report response) (shape : ResponseShape) (token : Token)
    (history : History) (memory : Memory) :
    (call.outcome shape (some number) token history memory).1.Captures report number := by
  have captures : (call.result (some number) token).poll.Captures report number :=
    (writes reports).result token
  unfold outcome
  cases shape with
  | sync =>
      rcases (call.result (some number) token).block history memory with ⟨_ | result, memory⟩ <;>
        exact trivial
  | deferred => exact captures
  | lightDeferred => exact captures
  | streamed => exact trivial

theorem Stream.captures_ofItems {α : Type} (items : List α) (staysOpen : Bool)
    (report : CallReport) (number : Nat) :
    (Stream.ofItems items staysOpen).next.Captures report number := by
  intro left history memory
  cases left <;> exact .refl _

theorem CallOutcome.returned_writes {outcome : CallOutcome}
    (captures : outcome.Captures report number) (form : ReturnForm) (argument : ValueType)
    (history : History) (memory : Memory) :
    Capture.Writes report (memory.captures number)
      ((outcome.returned form argument history memory).2.captures number) := by
  cases outcome with
  | pending task =>
      cases form with
      | result =>
          have writes : Capture.Writes report (memory.captures number)
              ((task.block history memory).2.captures number) :=
            Future.runFor_writes _ task captures history memory
          simp only [CallOutcome.returned, CallOutcome.toResult]
          generalize task.block history memory = blocked at writes
          rcases blocked with ⟨_ | result, memory⟩ <;> exact writes
      | _ => exact .refl _
  | _ => cases form <;> exact .refl _

/-- What is polled later is the work itself, or it touches no capture buffer. -/
theorem CallOutcome.returned_captures {outcome : CallOutcome}
    (captures : outcome.Captures report number) (form : ReturnForm) (argument : ValueType)
    (history : History) (memory : Memory) :
    (outcome.returned form argument history memory).1.handle.Captures report number := by
  cases outcome with
  | pending task =>
      cases form with
      | result =>
          simp only [CallOutcome.returned, CallOutcome.toResult]
          rcases task.block history memory with ⟨_ | result, memory⟩ <;> exact trivial
      | task => exact captures
      | valueTask => exact captures
      | responseStream => exact Stream.captures_ofItems _ _ _ _
  | completed result =>
      cases form with
      | result => exact trivial
      | responseStream => cases result <;> exact Stream.captures_ofItems _ _ _ _
      | _ => exact fun _ _ _ => .refl _
  | streaming responses =>
      cases form with
      | responseStream => exact captures
      | result => exact trivial
      | _ => exact fun _ _ _ => .refl _
  | blocked => cases form <;> exact trivial

theorem Handle.poll_writes {handle : Handle} (captures : handle.Captures report number)
    (history : History) (memory : Memory) :
    Capture.Writes report (memory.captures number)
        ((handle.poll history memory).2.2.captures number) ∧
      (handle.poll history memory).2.1.Captures report number := by
  cases handle with
  | empty => exact ⟨.refl _, trivial⟩
  | finished => exact ⟨.refl _, trivial⟩
  | single task =>
      have writes : Capture.Writes report (memory.captures number)
          ((task.step history memory).2.2.captures number) := captures task.state history memory
      have kept : (task.step history memory).2.1.poll.Captures report number := captures
      rcases stepped : task.step history memory with ⟨_ | value, after, memoryAfter⟩ <;>
        rw [stepped] at writes kept <;> simp only [Handle.poll, stepped]
      · exact ⟨writes, kept⟩
      · exact ⟨writes, trivial⟩
  | stream items =>
      have writes : Capture.Writes report (memory.captures number)
          ((items.step history memory).2.2.captures number) := captures items.state history memory
      have kept : (items.step history memory).2.1.next.Captures report number := captures
      rcases stepped : items.step history memory with ⟨_ | _ | item, after, memoryAfter⟩ <;>
        rw [stepped] at writes kept <;> simp only [Handle.poll, stepped]
      · exact ⟨writes, kept⟩
      · exact ⟨writes, trivial⟩
      · exact ⟨writes, kept⟩

end

end RpcContracts
