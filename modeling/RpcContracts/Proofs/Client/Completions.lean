import RpcContracts.Proofs.Client.CapturedStreams
import RpcContracts.Proofs.Client.SharedContext

/-!
# Reading how a streamed call ended

A caller that has read a stream of responses to its end may ask the context of the call for the
status and the trailers. They are there if the stream of the transport came to its end. An error
among the responses ends the stream for the caller as well, but then nobody has waited for the
completion, and nothing is there to be read although the transport reports it.
-/

namespace RpcContracts

/-- How the responses of a call came to be over, and what is read of its completion then: all of it
if the stream of the transport ended, and none of it if a response failed. -/
inductive Concluded (report : CallReport) (last : Option Outcome → Prop) (context : CallContext)
    (memory : Memory) : List Outcome → Prop where
  | ended {values : List Payload} : last none →
      memory.responseStatus context = .ok report.completion.status →
      memory.responseTrailers context = .ok report.completion.trailers →
      Concluded report last context memory (values.map .ok)
  | failed {values : List Payload} {failure : RpcError} : last (some (.error failure)) →
      memory.responseStatus context =
        .error (.invalidOperation "Status is not yet available") →
      memory.responseTrailers context =
        .error (.invalidOperation "Trailers are not yet available") →
      Concluded report last context memory (values.map .ok ++ [.error failure.normalize])

theorem Concluded.read_of_fine {report : CallReport} {last : Option Outcome → Prop}
    {context : CallContext} {memory : Memory} {items : List Outcome}
    (concluded : Concluded report last context memory items)
    (fine : ∀ error, .error error ∉ items) :
    memory.responseStatus context = .ok report.completion.status ∧
      memory.responseTrailers context = .ok report.completion.trailers := by
  cases concluded with
  | ended _ status_eq trailers_eq => exact ⟨status_eq, trailers_eq⟩
  | failed => exact absurd (List.mem_append_right _ (List.mem_singleton_self _)) (fine _)

namespace StreamingCall

variable {call : StreamingCall} {report : CallReport}
  {marked : Option Outcome → call.responses.State → Prop} {number : Nat} {headers : Metadata}

/-- Without a firing, a stream whose headers came is over because of what the transport's stream
found last. -/
theorem Captured.concluded {stage : call.Stage} {responses : call.responses.State}
    {items : List Outcome} {memory : Memory}
    (captured : Captured call report marked false stage responses items true
      (memory.captures number)) (headers_eq : report.headers = .ok headers)
    (options : CallOptions) :
    Concluded report (fun found => marked found responses) (.client options (some number)) memory
      items := by
  have status_eq : memory.responseStatus (.client options (some number)) =
      (memory.captures number).readStatus := rfl
  have trailers_eq : memory.responseTrailers (.client options (some number)) =
      (memory.captures number).readTrailers := rfl
  generalize memory.captures number = capture at captured status_eq trailers_eq
  cases captured with
  | refused seen =>
      cases seen with
      | failed failed_eq => cases headers_eq.symm.trans failed_eq
      | cancelled fired => cases fired
  | failed _ seen =>
      cases seen with
      | failed isMarked => exact .failed isMarked status_eq trailers_eq
      | cancelled fired => cases fired
  | interrupted _ fired => cases fired
  | completed _ isMarked => exact .ended isMarked status_eq trailers_eq

end StreamingCall

/-! ## Calls made with a context -/

namespace ContextCall

variable {options : CallOptions} {number : Nat} {history : History} {memory : Memory}

/-- A call on a streaming entry of the transport is handed back as its captured stream. -/
theorem exists_issued (call : ContextCall)
    (streams : call.method.form.callKind.streamsResponses = true) :
    ∃ (issued : StreamingCall) (after : Memory),
      call.issue (.client options (some number)) history memory =
        (.streaming (issued.results (some number) options.token), after) ∧
      issued.Reports call.report ∧ after.captures number = .empty := by
  obtain ⟨method, takes_context, request, takes_request, transport, report, reports, form,
    argument⟩ := call
  have taken : ClientMethod.takeOptions method.contextKind
      [.payload (.callContext (.client options (some number)))] = .ok (options, some number) := by
    rw [takes_context]
    rfl
  obtain ⟨made, made_eq, prepared_eq⟩ := ClientMethod.prepared_of_takes takes_request
  obtain ⟨entry_eq, head_eq, -⟩ := made_eq options
  have cleared : (memory.resetCapture (some number)).captures number = .empty :=
    Memory.captures_setCapture_same ..
  rw [← entry_eq] at streams
  simp only [issue, ClientMethod.call_eq, prepared_eq, taken, Except.map, head_eq]
  generalize made options = issued at streams
  cases issued with
  | unary head request => cases streams
  | clientStreaming head requests => cases streams
  | serverStreaming head request =>
      obtain ⟨reported, kept⟩ :=
        reports.serverStreaming head request (memory.resetCapture (some number))
      exact ⟨_, _, rfl, reported, (congrFun kept number).trans cleared⟩
  | duplexStreaming head requests =>
      obtain ⟨reported, kept⟩ :=
        reports.duplexStreaming head requests (memory.resetCapture (some number))
      exact ⟨_, _, rfl, reported, (congrFun kept number).trans cleared⟩

/-- The stream that a method returned is read to its end, and the token of the call has not fired.
If the stream of the transport came to its end, its completion is read through the context. If the
transport's last item was an error, neither status nor trailers can be read. -/
theorem completion_read (call : ContextCall)
    (streams : call.method.form.callKind.streamsResponses = true)
    (returns : call.form = .responseStream) (options : CallOptions) (number : Nat)
    (history : History) (memory : Memory) {headers : Metadata}
    (headers_eq : call.report.headers = .ok headers) :
    ∃ (issued : StreamingCall) (after : Memory),
      let relayed := issued.results (some number) options.token
      let responses := relayed.downcast call.argument
      call.issue (.client options (some number)) history memory = (.streaming relayed, after) ∧
      (CallOutcome.streaming relayed).returned call.form call.argument history after =
        (.responses responses, after) ∧
      ∀ turns,
        let relay := (relayed.start after).run turns
        let moment := (responses.start after).run turns
        moment.items = relay.items.map (Outcome.downcast call.argument) ∧
        (moment.isOver = true → moment.history.hasFired options.token = false →
          ∀ marked, issued.responses.Marks marked →
            Concluded call.report (fun found => marked found (StreamingCall.responsesAt relay))
              (.client options (some number)) moment.memory relay.items) := by
  obtain ⟨issued, after, issued_eq, reports, fresh⟩ := call.exists_issued streams
  refine ⟨issued, after, issued_eq, by rw [returns]; rfl, fun turns => ?_⟩
  intro relay moment
  have moment_eq : moment = relay.mapped (Outcome.downcast call.argument) :=
    Stream.Moment.run_mapped _ ((issued.results (some number) options.token).start after) turns
  rw [moment_eq]
  refine ⟨Stream.Moment.items_mapped _ relay, ?_⟩
  intro isOver unfired marked marks
  have captured : StreamingCall.CapturedAt call.report marked relay :=
    StreamingCall.capturedAt_run reports marks fresh turns
  have relay_over : relay.isOver = true := isOver
  have relay_unfired : relay.history.hasFired options.token = false := unfired
  rw [StreamingCall.CapturedAt, relay_over, relay_unfired] at captured
  exact captured.concluded headers_eq options

end ContextCall

namespace Sample

/-- A transport whose responses follow a script, and on which headers and completion take one more
poll. A call with a single response gets the first item of the script. -/
def scriptedTransport (item : Outcome) (script : List (Poll Outcome)) (report : CallReport) :
    Transport Id :=
  .ofIssued
    (fun _ memory => (⟨.after 1 item, .after 1 report.headers, .after 1 report.completion⟩, memory))
    (fun _ memory =>
      (⟨.ofScript script, .after 1 report.headers, .after 1 report.completion⟩, memory))

theorem scriptedTransport_reports (item : Outcome) (script : List (Poll Outcome))
    (report : CallReport) : (scriptedTransport item script report).Reports report := by
  have single : ∀ memory : Memory, SingleCall.Answered report memory
      (⟨.after 1 item, .after 1 report.headers, .after 1 report.completion⟩, memory) := by
    intro memory
    refine ⟨⟨item, ?_⟩, rfl⟩
    exact ⟨Future.yields_after 1 _, Future.yields_after 1 _, Future.yields_after 1 _⟩
  have streaming : ∀ memory : Memory, StreamingCall.Answered report memory
      (⟨.ofScript script, .after 1 report.headers, .after 1 report.completion⟩, memory) := by
    intro memory
    refine ⟨⟨Future.yields_after 1 _, Stream.keepsCaptures_ofScript script, ?_⟩, rfl⟩
    exact Future.yields_after 1 _
  exact ⟨fun _ _ => single, fun _ _ => single, fun _ _ => streaming, fun _ _ => streaming⟩

/-- A context that captures what is reported. -/
def capturing : CallContext := .client .default (some 0)

/-- A call of the sample method that streams both ways. -/
def duplexCall (script : List (Poll Outcome)) (report : CallReport) : ContextCall where
  method :=
    .ofShape
      ⟨⟨"Shapes.AllShapes", "Duplex", .duplexStreaming, "duplex"⟩, .message .ping, .message .pong⟩
      ⟨.duplexStreaming, .unifiedContext, .streamed, false, ping, pong⟩
  takes_context := rfl
  request := .wrapped .streamReader ping.valueType (.ofItems [] true)
  takes_request := ⟨_, rfl⟩
  transport := scriptedTransport (.ok (pongOf 7 "slow").val) script report
  report := report
  reports := scriptedTransport_reports _ script report
  form := .responseStream
  argument := pong.valueType

/-- What is reported of a call whose server goes away. -/
def goneReport : CallReport :=
  ⟨.ok (Metadata.empty.add "x-served" "first"),
    ⟨⟨.unavailable, "gone"⟩, Metadata.empty.add "x-call" "first"⟩⟩

/-- The error with which the responses of such a call end. -/
def gone : RpcError := .status goneReport.completion.status

/-- A call whose only response comes in time. -/
def promptDuplex : ContextCall := duplexCall [.ready (.ok (pongOf 7 "slow").val)] goneReport

/-- The response is read, and then the status with which the server went away. -/
theorem promptDuplex_read :
    promptDuplex.method.form.callKind.streamsResponses = true ∧
      promptDuplex.form = .responseStream ∧
      goneReport.headers = .ok (Metadata.empty.add "x-served" "first") ∧
      ∃ relayed after, promptDuplex.issue capturing [] .fresh = (.streaming relayed, after) ∧
        let moment := ((relayed.downcast pong.valueType).start after).run (List.replicate 4 .poll)
        moment.isOver = true ∧
          moment.memory.responseStatus capturing = .ok goneReport.completion.status ∧
          moment.memory.responseTrailers capturing = .ok goneReport.completion.trailers := by
  have polled : ∀ relayed after,
      promptDuplex.issue capturing [] .fresh = (.streaming relayed, after) →
        (((relayed.downcast pong.valueType).start after).run (List.replicate 4 .poll)).isOver =
            true ∧
          ((relayed.start after).run (List.replicate 4 .poll)).items =
            [.ok (pongOf 7 "slow").val] := by
    intro relayed after issued_eq
    cases issued_eq
    exact ⟨rfl, rfl⟩
  obtain ⟨issued, after, issued_eq, -, read⟩ := ContextCall.completion_read promptDuplex rfl rfl
    .default 0 [] .fresh rfl
  obtain ⟨isOver, items_eq⟩ := polled _ after issued_eq
  have marks : issued.responses.Marks fun _ _ => True := fun _ => trivial
  have concluded := (read (List.replicate 4 .poll)).2 isOver rfl _ marks
  refine ⟨rfl, rfl, rfl, _, after, issued_eq, isOver, concluded.read_of_fine fun error seen => ?_⟩
  rw [items_eq] at seen
  cases List.mem_singleton.mp seen

/-- A call whose server goes away after one response. -/
def brokenDuplex : ContextCall :=
  duplexCall [.ready (.ok (pongOf 7 "slow").val), .ready (.error gone)] goneReport

/-- A call for a single response, which is the error of a server that goes away. -/
def failedPing : ContextCall :=
  { contextCall goneReport with
    transport := scriptedTransport (.error gone) [] goneReport
    reports := scriptedTransport_reports _ _ goneReport }

/-- After the error the stream is over, and neither the status nor the trailers of the call can be
read. They can be read after a single response that is the same error. -/
theorem brokenDuplex_unread :
    (∃ relayed after, brokenDuplex.issue capturing [] .fresh = (.streaming relayed, after) ∧
      let moment := ((relayed.downcast pong.valueType).start after).run (List.replicate 4 .poll)
      moment.isOver = true ∧ moment.history.hasFired capturing.clientOptions.token = false ∧
        moment.memory.responseHeaders capturing = goneReport.headers ∧
        moment.memory.responseStatus capturing =
          .error (.invalidOperation "Status is not yet available") ∧
        moment.memory.responseTrailers capturing =
          .error (.invalidOperation "Trailers are not yet available") ∧
        moment.memory.responseStatus capturing ≠ .ok goneReport.completion.status) ∧
    ∃ task after, failedPing.issue capturing [] .fresh = (.pending task, after) ∧
      let moment := (task.start after).run (List.replicate 4 .poll)
      moment.result = some (.error gone) ∧
        moment.memory.responseStatus capturing = .ok goneReport.completion.status ∧
        moment.memory.responseTrailers capturing = .ok goneReport.completion.trailers := by
  refine ⟨⟨_, _, rfl, rfl, rfl, rfl, rfl, rfl, ?_⟩, _, _, rfl, rfl, rfl, rfl⟩
  intro same
  cases same

end Sample
end RpcContracts
