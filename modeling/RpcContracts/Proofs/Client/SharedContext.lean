import RpcContracts.Proofs.Client.Calls
import RpcContracts.Proofs.Client.Captures
import RpcContracts.Sample.Services

/-!
# Runs of calls that share a context

Calls made with one context, or with clones of it, share its capture buffer. Issuing a call clears
the buffer, but the work on an earlier call still keeps what is reported of that call when it is
polled. What is read through the context therefore belongs to the latest call or to an earlier one
that was polled since.
-/

namespace RpcContracts

/-! ## Calls -/

/-- Polls of a call report on it, and issuing it touches no capture buffer. -/
def SingleCall.Answered (report : CallReport) (memory : Memory) (answer : SingleCall × Memory) :
    Prop :=
  (∃ response, answer.1.Reports report response) ∧ answer.2.captures = memory.captures

def StreamingCall.Answered (report : CallReport) (memory : Memory)
    (answer : StreamingCall × Memory) : Prop :=
  answer.1.Reports report ∧ answer.2.captures = memory.captures

/-- A transport that reports on its calls, on whichever entry they come in. -/
structure Transport.Reports (transport : Transport Id) (report : CallReport) : Prop where
  unary : ∀ head request memory,
    SingleCall.Answered report memory (transport.unary head request memory)
  clientStreaming : ∀ head requests memory,
    SingleCall.Answered report memory (transport.clientStreaming head requests memory)
  serverStreaming : ∀ head request memory,
    StreamingCall.Answered report memory (transport.serverStreaming head request memory)
  duplexStreaming : ∀ head requests memory,
    StreamingCall.Answered report memory (transport.duplexStreaming head requests memory)

/-- A call of a method that takes a context. -/
structure ContextCall : Type 1 where
  method : ClientMethod
  takes_context : method.contextKind = .unifiedContext
  request : Value
  takes_request : method.form.Takes request
  transport : Transport Id
  report : CallReport
  reports : transport.Reports report
  /-- The type that the method returns. -/
  form : ReturnForm
  argument : ValueType

namespace ClientMethod

variable {report : CallReport} {number : Nat} {history : History} {memory : Memory}

/-- The buffer is cleared, and then it holds at most what is reported of the call. -/
def Issued (report : CallReport) (number : Nat) (answer : CallOutcome × Memory) : Prop :=
  Capture.Writes report .empty (answer.2.captures number) ∧ answer.1.Captures report number

/-- Issuing a call keeps what has been cleared, and from then on at most its report is kept. -/
theorem single_issued {answer : SingleCall × Memory}
    (answered : SingleCall.Answered report memory answer)
    (cleared : memory.captures number = .empty) (shape : ResponseShape) (token : Token) :
    Issued report number (answer.1.outcome shape (some number) token history answer.2) := by
  obtain ⟨⟨response, reports⟩, kept⟩ := answered
  have still_cleared := (congrFun kept number).trans cleared
  refine ⟨?_, SingleCall.outcome_captures reports ..⟩
  rw [← still_cleared]
  exact SingleCall.outcome_writes reports ..

theorem streaming_issued {answer : StreamingCall × Memory}
    (answered : StreamingCall.Answered report memory answer)
    (cleared : memory.captures number = .empty) (token : Token) :
    Issued report number (.streaming (answer.1.results (some number) token), answer.2) := by
  obtain ⟨reports, kept⟩ := answered
  exact ⟨.of_eq ((congrFun kept number).trans cleared), StreamingCall.results_captures reports⟩

theorem ask_issued {transport : Transport Id} (reports : transport.Reports report)
    (issued : IssuedCall) (cleared : memory.captures number = .empty) (shape : ResponseShape)
    (token : Token) :
    Issued report number (transport.ask (m := Id) issued memory
      (fun answer => answer.1.outcome shape (some number) token history answer.2)
      (fun answer => (.streaming (answer.1.results (some number) token), answer.2))) := by
  cases issued with
  | unary head request => exact single_issued (reports.unary ..) cleared ..
  | clientStreaming head requests => exact single_issued (reports.clientStreaming ..) cleared ..
  | serverStreaming head request => exact streaming_issued (reports.serverStreaming ..) cleared _
  | duplexStreaming head requests => exact streaming_issued (reports.duplexStreaming ..) cleared _

end ClientMethod

namespace ContextCall

/-- Issue the call with a context. -/
def issue (call : ContextCall) (context : CallContext) (history : History) (memory : Memory) :
    CallOutcome × Memory :=
  call.method.call (m := Id) call.transport [call.request, .payload (.callContext context)] history
    memory

theorem issue_issued (call : ContextCall) (options : CallOptions) (number : Nat)
    (history : History) (memory : Memory) :
    ClientMethod.Issued call.report number
      (call.issue (.client options (some number)) history memory) := by
  obtain ⟨method, takes_context, request, takes_request, transport, report, reports, form,
    argument⟩ := call
  have taken : ClientMethod.takeOptions method.contextKind
      [.payload (.callContext (.client options (some number)))] = .ok (options, some number) := by
    rw [takes_context]
    rfl
  obtain ⟨made, -, prepared_eq⟩ := ClientMethod.prepared_of_takes takes_request
  simp only [issue, ClientMethod.call_eq, prepared_eq, taken, Except.map]
  exact ClientMethod.ask_issued reports _ (Memory.captures_setCapture_same ..) ..

end ContextCall

/-! ## Reads -/

/-- What a read finds: nothing yet, or a value that was reported. -/
inductive Reads {α : Type} (name : String) (reported : α → Prop) : Except RpcError α → Prop where
  | unavailable :
      Reads name reported (.error (.invalidOperation (name ++ " not yet available")))
  | available {value : α} : reported value → Reads name reported (.ok value)

theorem Reads.mono {α : Type} {name : String} {reported more : α → Prop} {found : Except RpcError α}
    (weaker : ∀ value, reported value → more value) (reads : Reads name reported found) :
    Reads name more found := by
  cases reads with
  | unavailable => exact .unavailable
  | available isReported => exact .available (weaker _ isReported)

theorem Reads.reported_of_ok {α : Type} {name : String} {reported : α → Prop} {value : α}
    (reads : Reads name reported (.ok value)) : reported value := by
  cases reads with
  | available isReported => exact isReported

/-- A read after some values may have been kept. -/
theorem Reads.after {α : Type} {name : String} {reported more : α → Prop} {before after : Option α}
    (reads : Reads name more (Capture.reported name before)) (keeps : Kept reported before after)
    (weaker : ∀ value, reported value → more value) :
    Reads name more (Capture.reported name after) := by
  cases keeps with
  | unchanged => exact reads
  | kept isReported => exact .available (weaker _ isReported)

/-- Whatever is read from a capture buffer belongs to one of some calls. -/
structure Capture.Belongs (reports : List CallReport) (capture : Capture) : Prop where
  headers : Reads "Headers are" (fun headers => ∃ report ∈ reports, report.headers = .ok headers)
    capture.readHeaders
  trailers : Reads "Trailers are"
    (fun trailers => ∃ report ∈ reports, report.completion.trailers = trailers)
    capture.readTrailers
  status : Reads "Status is" (fun status => ∃ report ∈ reports, report.completion.status = status)
    capture.readStatus

namespace Capture.Belongs

variable {reports : List CallReport} {report : CallReport} {before after : Capture}

theorem empty (reports : List CallReport) : Belongs reports .empty :=
  ⟨.unavailable, .unavailable, .unavailable⟩

theorem mono {more : List CallReport} (subset : reports ⊆ more) (belongs : Belongs reports before) :
    Belongs more before where
  headers := belongs.headers.mono fun _ ⟨report, member, found⟩ => ⟨report, subset member, found⟩
  trailers := belongs.trailers.mono fun _ ⟨report, member, found⟩ => ⟨report, subset member, found⟩
  status := belongs.status.mono fun _ ⟨report, member, found⟩ => ⟨report, subset member, found⟩

/-- What a call keeps belongs to it. -/
theorem writes (belongs : Belongs reports before) (member : report ∈ reports)
    (writes : Writes report before after) : Belongs reports after where
  headers := belongs.headers.after writes.headers fun _ reported => ⟨report, member, reported⟩
  trailers := belongs.trailers.after writes.trailers fun _ reported => ⟨report, member, reported⟩
  status := belongs.status.after writes.status fun _ reported => ⟨report, member, reported⟩

end Capture.Belongs

/-! ## Runs -/

/-- What happens in one turn of a run of calls that share a context. -/
inductive ContextTurn : Type 1 where
  | outside (event : Event)
  | issue (call : ContextCall)
  /-- Poll what a call returned; calls are counted in the order in which they are issued. -/
  | poll (index : Nat)

/-- The calls made with a context, oldest first. -/
structure SharedContext : Type 1 where
  history : History
  memory : Memory
  /-- What is reported of each call, and what its method returned. -/
  calls : List (CallReport × Handle)

namespace SharedContext

/-- A new context, with a capture buffer of its own. -/
def create (memory : Memory) (number : Nat) : SharedContext :=
  ⟨[], memory.setCapture number .empty, []⟩

/-- The moment after one turn. -/
def turn (context : CallContext) (shared : SharedContext) : ContextTurn → SharedContext
  | .outside event => { shared with history := shared.history ++ [event] }
  | .issue call =>
      match call.issue context shared.history shared.memory with
      | (outcome, memory) =>
          match outcome.returned call.form call.argument shared.history memory with
          | (returned, memory) =>
              { shared with memory, calls := shared.calls ++ [(call.report, returned.handle)] }
  | .poll index =>
      match shared.calls[index]? with
      | none => shared
      | some (report, handle) =>
          match handle.poll shared.history shared.memory with
          | (_, handle, memory) =>
              { shared with memory, calls := shared.calls.set index (report, handle) }

/-- The moment after some turns. -/
def run (context : CallContext) (shared : SharedContext) (turns : List ContextTurn) :
    SharedContext := turns.foldl (turn context) shared

end SharedContext

/-- What is reported of the calls that may have kept something since the latest one was issued: this
call, and any call that was polled after it. -/
def writersSince (issued writers : List CallReport) : List ContextTurn → List CallReport
  | [] => writers
  | .outside _ :: turns => writersSince issued writers turns
  | .issue call :: turns => writersSince (issued ++ [call.report]) [call.report] turns
  | .poll index :: turns => writersSince issued (writers ++ issued[index]?.toList) turns

namespace SharedContext

variable {options : CallOptions} {number : Nat}

/-- The reads of a context belong to some calls, and the work on every call reports on it. -/
structure Belongs (shared : SharedContext) (number : Nat) (issued writers : List CallReport) :
    Prop where
  issued_eq : shared.calls.map Prod.fst = issued
  captures : ∀ call ∈ shared.calls, call.2.Captures call.1 number
  reads : Capture.Belongs writers (shared.memory.captures number)

theorem Belongs.issue {shared : SharedContext} {issued writers : List CallReport}
    (belongs : shared.Belongs number issued writers) (call : ContextCall) :
    Belongs (shared.turn (.client options (some number)) (.issue call)) number
      (issued ++ [call.report]) [call.report] := by
  obtain ⟨writes, captures⟩ := call.issue_issued options number shared.history shared.memory
  rcases issued_eq : call.issue (.client options (some number)) shared.history shared.memory
    with ⟨outcome, memory⟩
  rw [issued_eq] at writes captures
  have returned_writes := CallOutcome.returned_writes captures call.form call.argument
    shared.history memory
  have returned_captures := CallOutcome.returned_captures captures call.form call.argument
    shared.history memory
  rcases returned_eq : outcome.returned call.form call.argument shared.history memory
    with ⟨returned, memoryAfter⟩
  rw [returned_eq] at returned_writes returned_captures
  simp only [turn, issued_eq, returned_eq]
  refine ⟨by simp [belongs.issued_eq], ?_, ?_⟩
  · intro polled member
    rcases List.mem_append.mp member with earlier | latest
    · exact belongs.captures polled earlier
    · obtain rfl := List.mem_singleton.mp latest
      exact returned_captures
  · exact (Capture.Belongs.empty _).writes (List.mem_singleton_self _)
      (writes.trans returned_writes)

theorem Belongs.poll {shared : SharedContext} {issued writers : List CallReport}
    (belongs : shared.Belongs number issued writers) (context : CallContext) (index : Nat) :
    Belongs (shared.turn context (.poll index)) number issued
      (writers ++ issued[index]?.toList) := by
  have report_eq : issued[index]? = shared.calls[index]?.map Prod.fst := by
    rw [← belongs.issued_eq, List.getElem?_map]
  cases found : shared.calls[index]? with
  | none =>
      simp only [turn, found]
      rw [report_eq, found]
      simpa using belongs
  | some call =>
      obtain ⟨report, handle⟩ := call
      have member : (report, handle) ∈ shared.calls := List.mem_of_getElem? found
      obtain ⟨writes, captures⟩ := Handle.poll_writes (belongs.captures _ member) shared.history
        shared.memory
      rcases polled : handle.poll shared.history shared.memory with ⟨answer, after, memory⟩
      rw [polled] at writes captures
      simp only [turn, found, polled]
      rw [report_eq, found]
      refine ⟨?_, ?_, ?_⟩
      · obtain ⟨bound, call_eq⟩ := List.getElem?_eq_some_iff.mp found
        have inside : index < (shared.calls.map Prod.fst).length := by simpa using bound
        have same : (shared.calls.map Prod.fst)[index] = report := by simp [call_eq]
        rw [List.map_set, ← belongs.issued_eq, ← same, List.set_getElem_self]
      · intro call member
        rcases List.mem_or_eq_of_mem_set member with earlier | rfl
        · exact belongs.captures call earlier
        · exact captures
      · exact (belongs.reads.mono (List.subset_append_left ..)).writes
          (List.mem_append_right _ (List.mem_singleton_self _)) writes

theorem Belongs.run {shared : SharedContext} {issued writers : List CallReport}
    (belongs : shared.Belongs number issued writers) (options : CallOptions)
    (turns : List ContextTurn) :
    ∃ issuedAfter, Belongs (shared.run (.client options (some number)) turns) number issuedAfter
      (writersSince issued writers turns) := by
  induction turns generalizing shared issued writers with
  | nil => exact ⟨issued, belongs⟩
  | cons turn turns ih =>
      cases turn with
      | outside event => exact ih ⟨belongs.issued_eq, belongs.captures, belongs.reads⟩
      | issue call => exact ih (belongs.issue call)
      | poll index => exact ih (belongs.poll _ index)

/-- Whatever is read through a context belongs to the latest call made with it or to a call that was
polled since the latest one was issued. -/
theorem reads_belong (options : CallOptions) (number : Nat) (memory : Memory)
    (turns : List ContextTurn) :
    Capture.Belongs (writersSince [] [] turns)
      (((create memory number).run (.client options (some number)) turns).memory.captures
        number) := by
  have created : (create memory number).Belongs number [] [] := by
    refine ⟨rfl, fun _ member => (List.not_mem_nil member).elim, ?_⟩
    show Capture.Belongs [] ((memory.setCapture number .empty).captures number)
    rw [Memory.captures_setCapture_same]
    exact .empty []
  obtain ⟨issued, belongs⟩ := created.run options turns
  exact belongs.reads

end SharedContext

/-- What is reported of the call that was issued last. -/
def latestReport (turns : List ContextTurn) : Option CallReport :=
  (turns.filterMap fun
    | .issue call => some call.report
    | _ => none).getLast?

namespace Sample

/-- A transport on which everything takes one more poll. -/
def slowTransport (report : CallReport) : Transport Id :=
  .ofIssued
    (fun _ memory =>
      (⟨.after 1 (.ok (pongOf 7 "slow").val), .after 1 report.headers, .after 1 report.completion⟩,
        memory))
    (fun _ memory =>
      (⟨.ofItems [] false, .after 1 report.headers, .after 1 report.completion⟩, memory))

theorem slowTransport_reports (report : CallReport) : (slowTransport report).Reports report := by
  have single : ∀ memory : Memory, SingleCall.Answered report memory
      (⟨.after 1 (.ok (pongOf 7 "slow").val), .after 1 report.headers,
        .after 1 report.completion⟩, memory) := by
    intro memory
    refine ⟨⟨.ok (pongOf 7 "slow").val, ?_⟩, rfl⟩
    exact ⟨Future.yields_after 1 _, Future.yields_after 1 _, Future.yields_after 1 _⟩
  have streaming : ∀ memory : Memory, StreamingCall.Answered report memory
      (⟨.ofItems [] false, .after 1 report.headers, .after 1 report.completion⟩, memory) := by
    intro memory
    refine ⟨⟨Future.yields_after 1 _, ?_, Future.yields_after 1 _⟩, rfl⟩
    rintro (_ | ⟨item, left⟩) after history memory memoryAfter answer polled <;>
      cases polled <;> rfl
  exact ⟨fun _ _ => single, fun _ _ => single, fun _ _ => streaming, fun _ _ => streaming⟩

/-- A call of the sample method that takes a context. -/
def contextCall (report : CallReport) : ContextCall where
  method :=
    .ofShape
      ⟨⟨"Shapes.AllShapes", "ValueTaskUnary", .unary, "value_task_unary_async"⟩, .message .ping,
        .message .pong⟩
      ⟨.unary, .unifiedContext, .lightDeferred, false, ping, pong⟩
  takes_context := rfl
  request := .payload (.message (.ping 7 "slow"))
  takes_request := trivial
  transport := slowTransport report
  report := report
  reports := slowTransport_reports report
  form := .valueTask
  argument := pong.valueType

/-- What is reported of a call, told apart by one header. -/
def tracedReport (trace : String) : CallReport := ⟨.ok (Metadata.empty.add "trace" trace), .ok⟩

/-- A call is polled to its headers after another call was issued with the same context. -/
def overlapping : List ContextTurn :=
  [.issue (contextCall (tracedReport "first")), .poll 0,
    .issue (contextCall (tracedReport "second")), .poll 0]

/-- The headers of the earlier call are read, although the later one has not been polled. -/
theorem overlapping_reads_earlier :
    let capture := ((SharedContext.create .fresh 0).run (.client .default (some 0))
      overlapping).memory.captures 0
    latestReport overlapping = some (tracedReport "second") ∧
      capture.readHeaders = (tracedReport "first").headers ∧
      ¬capture.Belongs [tracedReport "second"] := by
  refine ⟨rfl, rfl, fun belongs => ?_⟩
  have reads : Reads "Headers are"
      (fun headers => ∃ report ∈ [tracedReport "second"], report.headers = .ok headers)
      (.ok (Metadata.empty.add "trace" "first")) := belongs.headers
  obtain ⟨report, member, reported⟩ := reads.reported_of_ok
  obtain rfl := List.mem_singleton.mp member
  have distinct : Metadata.empty.add "trace" "second" ≠ Metadata.empty.add "trace" "first" := by
    decide
  exact distinct (Except.ok.inj reported)

end Sample

end RpcContracts
