import RpcContracts.Client.Outcome
import RpcContracts.Proofs.Client.Reports
import RpcContracts.Sample.Services

/-!
# Runs of a call with a single response

The work behind such a call waits for the headers, the response and the completion, in this order,
and a token may interrupt any of these waits. The order carries everything that can be said of the
capture buffer: while the work waits it holds the headers at most, and the rest comes with the
result.
-/

namespace RpcContracts
namespace SingleCall

/-! ## The work -/

/-- What is captured while the work waits: nothing before the headers, and then the headers. -/
inductive Awaits (call : SingleCall) (report : CallReport) (response : Outcome) :
    call.Progress → Capture → Prop where
  | headers (state : call.headers.State) : Awaits call report response (.headers state) .empty
  | response {headers : Metadata} (state : call.response.State) : report.headers = .ok headers →
      Awaits call report response (.response state) (Capture.empty.setHeaders headers)
  | completion {headers : Metadata} (state : call.completion.State) :
      report.headers = .ok headers →
      Awaits call report response (.completion response state) (Capture.empty.setHeaders headers)

/-- What the work comes to, with what is captured then. -/
inductive Concludes (report : CallReport) (response : Outcome) : Outcome → Capture → Prop where
  | headersFailed {error : RpcError} : report.headers = .error error →
      Concludes report response (.error error) .empty
  | responded {headers : Metadata} : report.headers = .ok headers →
      Concludes report response response
        ((Capture.empty.setHeaders headers).setCompletion report.completion)

section

variable {call : SingleCall} {report : CallReport} {response : Outcome} {number : Nat}
  {history : History} {memory : Memory}

/-- The work goes on waiting or is concluded. -/
inductive Proceeds (call : SingleCall) (report : CallReport) (response : Outcome) (number : Nat) :
    Poll Outcome × call.Progress × Memory → Prop where
  | waits {progress : call.Progress} {memory : Memory} :
      call.Awaits report response progress (memory.captures number) →
      Proceeds call report response number (.pending, progress, memory)
  | ends {progress : call.Progress} {memory : Memory} {outcome : Outcome} :
      Concludes report response outcome (memory.captures number) →
      Proceeds call report response number (.ready outcome, progress, memory)

variable (reports : call.Reports report response)

include reports

theorem pollCompletion_proceeds {headers : Metadata} (headers_eq : report.headers = .ok headers)
    (captured : memory.captures number = Capture.empty.setHeaders headers)
    (completion : call.completion.State) :
    call.Proceeds report response number
      (call.pollCompletion number response completion history memory) := by
  unfold pollCompletion
  rcases polled : call.completion.poll completion history memory
    with ⟨_ | value, after, memoryAfter⟩
  · have kept := congrFun (reports.completion.keeps polled) number
    refine .waits ?_
    rw [kept, captured]
    exact .completion after headers_eq
  · have kept := congrFun (reports.completion.keeps polled) number
    obtain rfl := reports.completion.value_eq polled
    refine .ends ?_
    rw [Memory.captures_captureCompletion_same, kept, captured]
    exact .responded headers_eq

theorem pollResponse_proceeds {headers : Metadata} (headers_eq : report.headers = .ok headers)
    (captured : memory.captures number = Capture.empty.setHeaders headers)
    (state : call.response.State) :
    call.Proceeds report response number
      (call.pollResponse (some number) state history memory) := by
  unfold pollResponse
  rcases polled : call.response.poll state history memory with ⟨_ | outcome, after, memoryAfter⟩
  · have kept := congrFun (reports.response.keeps polled) number
    refine .waits ?_
    rw [kept, captured]
    exact .response after headers_eq
  · have kept := congrFun (reports.response.keeps polled) number
    obtain rfl := reports.response.value_eq polled
    exact pollCompletion_proceeds reports headers_eq (kept.trans captured) _

theorem pollHeaders_proceeds (captured : memory.captures number = .empty)
    (state : call.headers.State) :
    call.Proceeds report response number
      (call.pollHeaders (some number) number state history memory) := by
  unfold pollHeaders
  rcases polled : call.headers.poll state history memory with ⟨_ | headers, after, memoryAfter⟩
  · have kept := congrFun (reports.headers.keeps polled) number
    refine .waits ?_
    rw [kept, captured]
    exact .headers after
  · have kept := congrFun (reports.headers.keeps polled) number
    have headers_eq := reports.headers.value_eq polled
    cases headers with
    | error error =>
        refine .ends ?_
        rw [kept, captured]
        exact .headersFailed headers_eq.symm
    | ok headers =>
        refine pollResponse_proceeds reports headers_eq.symm ?_ _
        rw [Memory.captures_captureHeaders_same, kept, captured]

/-- One poll of work that waits. -/
theorem pollProgress_proceeds {progress : call.Progress}
    (awaits : call.Awaits report response progress (memory.captures number)) :
    call.Proceeds report response number
      (call.pollProgress (some number) progress history memory) := by
  generalize captured : memory.captures number = capture at awaits
  cases awaits with
  | headers state => exact pollHeaders_proceeds reports captured state
  | response state headers_eq => exact pollResponse_proceeds reports headers_eq captured state
  | completion state headers_eq => exact pollCompletion_proceeds reports headers_eq captured state

end

/-! ## The result -/

/-- How a call ends for its caller, with what is captured then. -/
inductive Settles (report : CallReport) (response : Outcome) (fired : Bool) :
    Outcome → Capture → Prop where
  | headersFailed {error : RpcError} : report.headers = .error error →
      Settles report response fired (.error error.normalize) .empty
  | responded {headers : Metadata} : report.headers = .ok headers →
      Settles report response fired (response.mapError RpcError.normalize)
        ⟨some headers, some report.completion.trailers, some report.completion.status⟩
  | interrupted {capture : Capture} : fired = true → capture.status = none →
      capture.trailers = none → (∀ headers ∈ capture.headers, report.headers = .ok headers) →
      Settles report response fired (.error .cancelled) capture

theorem Concludes.settles {report : CallReport} {response outcome : Outcome} {capture : Capture}
    (concludes : Concludes report response outcome capture) (fired : Bool) :
    Settles report response fired (raceResult (some outcome)) capture := by
  cases concludes with
  | headersFailed headers_eq => exact .headersFailed headers_eq
  | responded headers_eq =>
      have result_eq : raceResult (some response) = response.mapError RpcError.normalize := by
        cases response <;> rfl
      rw [result_eq]
      exact .responded headers_eq

theorem Awaits.settles {call : SingleCall} {report : CallReport} {response : Outcome}
    {progress : call.Progress} {capture : Capture} {fired : Bool}
    (awaits : call.Awaits report response progress capture) (isFired : fired = true) :
    Settles report response fired (.error .cancelled) capture := by
  cases awaits with
  | headers state => exact .interrupted isFired rfl rfl nofun
  | response state headers_eq =>
      exact .interrupted isFired rfl rfl (by rintro headers ⟨⟩; exact headers_eq)
  | completion state headers_eq =>
      exact .interrupted isFired rfl rfl (by rintro headers ⟨⟩; exact headers_eq)

/-! ## The run -/

section

variable {call : SingleCall} {report : CallReport} {response : Outcome} {number : Nat}
  {token : Token}

/-- What is captured fits what the work waits for, or how the call ended. -/
def Accounts (report : CallReport) (response : Outcome)
    (moment : (call.result (some number) token).Moment) : Prop :=
  match moment.result with
  | none =>
      call.Awaits report response (moment.state : Bool × call.Progress).2
        (moment.memory.captures number)
  | some outcome =>
      Settles report response (moment.history.hasFired token) outcome
        (moment.memory.captures number)

variable (reports : call.Reports report response)

include reports

/-- The token wins only against work that waits, and then no more than headers are captured. -/
theorem accounts_polled {moment : (call.result (some number) token).Moment}
    (waiting : moment.result = none) (accounts : Accounts report response moment) :
    Accounts report response moment.polled := by
  obtain ⟨⟨begun, progress⟩, history, memory, result⟩ := moment
  obtain rfl : result = none := waiting
  have awaits : call.Awaits report response progress (memory.captures number) := accounts
  have proceeds : call.Proceeds report response number
      (call.pollProgress (some number) progress history memory) :=
    pollProgress_proceeds reports awaits
  have raced := PollStep.raced (call.pollProgress (some number)) token begun progress history memory
  unfold Future.Moment.polled
  simp only [result, observed, Future.cancellable]
  generalize PollStep.race (call.pollProgress (some number)) token begun progress history memory
    = answer at raced
  cases raced with
  | prevented _ fired => exact awaits.settles fired
  | finished _ polled =>
      rw [polled] at proceeds
      cases proceeds with
      | ends concludes => exact concludes.settles _
  | interrupted _ fired polled =>
      rw [polled] at proceeds
      cases proceeds with
      | waits awaits => exact awaits.settles fired
  | waiting _ polled =>
      rw [polled] at proceeds
      cases proceeds with
      | waits awaits => exact awaits

theorem accounts_run {memory : Memory} (fresh : memory.captures number = .empty)
    (turns : List Turn) :
    Accounts report response (((call.result (some number) token).start memory).run turns) := by
  refine Future.Moment.run_induction ?_ ?_ ?_ turns
  · show call.Awaits report response (.headers call.headers.state) (memory.captures number)
    rw [fresh]
    exact .headers _
  · intro moment event waiting accounts
    simp only [Accounts, waiting] at accounts ⊢
    exact accounts
  · exact fun moment waiting accounts => accounts_polled reports waiting accounts

end

end SingleCall

/-- The status and the trailers are captured together, and not before the headers. -/
structure Capture.InOrder (capture : Capture) : Prop where
  together : capture.status.isSome = capture.trailers.isSome
  headers_first : capture.status.isSome = true → capture.headers.isSome = true

namespace SingleCall

theorem Awaits.inOrder {call : SingleCall} {report : CallReport} {response : Outcome}
    {progress : call.Progress} {capture : Capture}
    (awaits : call.Awaits report response progress capture) : capture.InOrder := by
  cases awaits <;> exact ⟨rfl, nofun⟩

theorem Settles.inOrder {report : CallReport} {response outcome : Outcome} {fired : Bool}
    {capture : Capture} (settles : Settles report response fired outcome capture) :
    capture.InOrder := by
  cases settles with
  | headersFailed => exact ⟨rfl, nofun⟩
  | responded => exact ⟨rfl, fun _ => rfl⟩
  | interrupted _ status_eq trailers_eq =>
      refine ⟨by simp [status_eq, trailers_eq], fun captured => ?_⟩
      rw [status_eq] at captured
      cases captured

theorem Accounts.inOrder {call : SingleCall} {report : CallReport} {response : Outcome}
    {number : Nat} {token : Token} {moment : (call.result (some number) token).Moment}
    (accounts : Accounts report response moment) : (moment.memory.captures number).InOrder := by
  unfold Accounts at accounts
  split at accounts
  · exact Awaits.inOrder accounts
  · exact Settles.inOrder accounts

/-- A call whose result is awaited is captured in order at every moment of its run. If it ends, what
is captured tells the reasons apart: nothing when the headers failed, everything when the response
came, and neither status nor trailers when the token fired. After the token has fired, no poll is
pending. -/
theorem outcome_settles {call : SingleCall} {report : CallReport} {response : Outcome}
    (reports : call.Reports report response) {shape : ResponseShape}
    (awaited : shape = .deferred ∨ shape = .lightDeferred) (number : Nat) (token : Token)
    (history : History) {memory : Memory} (fresh : memory.captures number = .empty) :
    ∃ task, call.outcome shape (some number) token history memory = (.pending task, memory) ∧
      ∀ turns,
        let moment := (task.start memory).run turns
        (moment.memory.captures number).InOrder ∧
          (∀ outcome ∈ moment.result, Settles report response (moment.history.hasFired token)
            outcome (moment.memory.captures number)) ∧
          (moment.history.hasFired token = true → (moment.turn .poll).result.isSome = true) := by
  refine ⟨call.result (some number) token, ?_, ?_⟩
  · obtain rfl | rfl := awaited <;> rfl
  · intro turns moment
    have accounts : Accounts report response moment := accounts_run reports fresh turns
    refine ⟨accounts.inOrder, ?_, Future.cancellable_ready⟩
    intro outcome ended
    unfold Accounts at accounts
    rw [Option.mem_def.mp ended] at accounts
    exact accounts

end SingleCall

namespace Sample

/-- What is reported of a sample call. -/
def pongReport : CallReport := ⟨.ok (Metadata.empty.add "trace" "1"), .ok⟩

/-- A call whose headers, response and completion each take one more poll. -/
def slowPong : SingleCall where
  response := .after 1 (.ok (pongOf 7 "slow").val)
  headers := .after 1 pongReport.headers
  completion := .after 1 pongReport.completion

/-- The token fires after the headers of the call have come. -/
def firedMidway : List Turn := [.poll, .poll, .outside (.fired "stop"), .poll]

theorem slowPong_settles :
    slowPong.Reports pongReport (.ok (pongOf 7 "slow").val) ∧ Memory.fresh.captures 0 = .empty ∧
      ∃ task, slowPong.outcome .deferred (some 0) (.named "stop") [] .fresh =
          (.pending task, .fresh) ∧
        let moment := (task.start .fresh).run firedMidway
        moment.result = some (.error .cancelled) ∧
          SingleCall.Settles pongReport (.ok (pongOf 7 "slow").val) true (.error .cancelled)
            (moment.memory.captures 0) := by
  have reports : slowPong.Reports pongReport (.ok (pongOf 7 "slow").val) :=
    ⟨Future.yields_after 1 _, Future.yields_after 1 _, Future.yields_after 1 _⟩
  have fresh : Memory.fresh.captures 0 = .empty := rfl
  obtain ⟨task, task_eq, settles⟩ :=
    SingleCall.outcome_settles reports (.inl rfl) 0 (.named "stop") [] fresh
  have ended : ((task.start .fresh).run firedMidway).result = some (.error .cancelled) := by
    cases task_eq
    rfl
  have fired : ((task.start .fresh).run firedMidway).history.hasFired (.named "stop") = true := by
    cases task_eq
    rfl
  refine ⟨reports, fresh, task, task_eq, ended, ?_⟩
  have settled := (settles firedMidway).2.1 _ ended
  rwa [fired] at settled

end Sample

end RpcContracts
