import RpcContracts.Proofs.Client.Captures
import RpcContracts.Proofs.Client.SingleResponse

/-!
# Runs of a response stream that is captured

The stream waits for the headers, then for one response after another, and after the last one for
the completion; a token may interrupt any of these waits. What has been seen of the responses and
what has been captured go together at every moment: nothing comes before the headers, and the
completion comes after everything else.
-/

namespace RpcContracts

/-- Every poll that finds an item or the end leads to a state that is marked by it. -/
def Stream.Marks {α : Type} (stream : Stream α) (marked : Option α → stream.State → Prop) : Prop :=
  ∀ {state after : stream.State} {history : History} {memory memoryAfter : Memory}
    {found : Option α}, stream.next state history memory = (.ready found, after, memoryAfter) →
      marked found after

/-- An error as a caller sees it: a failure in normal form, or the cancellation of a token that has
fired. -/
inductive ErrorSeen (failed : RpcError → Prop) (fired : Bool) : RpcError → Prop where
  | failed {failure : RpcError} : failed failure → ErrorSeen failed fired failure.normalize
  | cancelled : fired = true → ErrorSeen failed fired .cancelled

theorem ErrorSeen.mono {failed : RpcError → Prop} {fired later : Bool} {error : RpcError}
    (stays : fired = true → later = true) (seen : ErrorSeen failed fired error) :
    ErrorSeen failed later error := by
  cases seen with
  | failed isFailed => exact .failed isFailed
  | cancelled isFired => exact .cancelled (stays isFired)

/-- A script knows nothing of capture buffers. -/
theorem Stream.keepsCaptures_ofScript {α : Type} (script : List (Poll α)) :
    (Stream.ofScript script).next.KeepsCaptures := by
  rintro (_ | ⟨_ | item, left⟩) after history memory memoryAfter answer polled <;>
    cases polled <;> rfl

namespace StreamingCall

/-- The wait for the headers, in the stages in which it has not ended: whether they have been polled
for, and how far they have come. -/
def Stage.headersWait? {call : StreamingCall} : call.Stage → Option (Bool × call.headers.State)
  | .fresh => some (false, call.headers.state)
  | .headers state => some (true, state)
  | _ => none

/-- Whether the next response has been polled for, in the stages in which it is read. -/
def Stage.itemWait? {call : StreamingCall} : call.Stage → Option Bool
  | .idle => some false
  | .reading => some true
  | _ => none

/-! ## What is seen and what is captured -/

section

variable (call : StreamingCall) (report : CallReport)
  (marked : Option Outcome → call.responses.State → Prop) (fired : Bool)

/-- What has been seen and captured fits what the stream waits for. -/
inductive Captured :
    call.Stage → call.responses.State → List Outcome → Bool → Capture → Prop where
  | awaitsHeaders {stage : call.Stage} {responses : call.responses.State} {begun : Bool}
      {headers : call.headers.State} : stage.headersWait? = some (begun, headers) →
      Captured stage responses [] false .empty
  | refused {responses : call.responses.State} {error : RpcError} {isOver : Bool} :
      ErrorSeen (fun failure => report.headers = .error failure) fired error →
      Captured .finished responses [.error error] isOver .empty
  | reads {stage : call.Stage} {responses : call.responses.State} {begun : Bool}
      {values : List Payload} {headers : Metadata} : report.headers = .ok headers →
      stage.itemWait? = some begun →
      Captured stage responses (values.map .ok) false (Capture.empty.setHeaders headers)
  | failed {responses : call.responses.State} {values : List Payload} {error : RpcError}
      {isOver : Bool} {headers : Metadata} : report.headers = .ok headers →
      ErrorSeen (fun failure => marked (some (.error failure)) responses) fired error →
      Captured .finished responses (values.map .ok ++ [.error error]) isOver
        (Capture.empty.setHeaders headers)
  | awaitsCompletion {completion : call.completion.State} {responses : call.responses.State}
      {values : List Payload} {headers : Metadata} : report.headers = .ok headers →
      marked none responses →
      Captured (.completion completion) responses (values.map .ok) false
        (Capture.empty.setHeaders headers)
  | interrupted {responses : call.responses.State} {values : List Payload} {headers : Metadata} :
      report.headers = .ok headers → fired = true →
      Captured .finished responses (values.map .ok) true (Capture.empty.setHeaders headers)
  | completed {responses : call.responses.State} {values : List Payload} {headers : Metadata} :
      report.headers = .ok headers → marked none responses →
      Captured .finished responses (values.map .ok) true
        ((Capture.empty.setHeaders headers).setCompletion report.completion)

end

namespace Captured

variable {call : StreamingCall} {report : CallReport}
  {marked : Option Outcome → call.responses.State → Prop} {fired isOver : Bool}
  {stage : call.Stage} {responses : call.responses.State} {items : List Outcome}
  {capture : Capture}

theorem mono {later : Bool} (stays : fired = true → later = true)
    (captured : Captured call report marked fired stage responses items isOver capture) :
    Captured call report marked later stage responses items isOver capture := by
  cases captured with
  | awaitsHeaders waits => exact .awaitsHeaders waits
  | refused seen => exact .refused (seen.mono stays)
  | reads headers_eq waits => exact .reads headers_eq waits
  | failed headers_eq seen => exact .failed headers_eq (seen.mono stays)
  | awaitsCompletion headers_eq ended => exact .awaitsCompletion headers_eq ended
  | interrupted headers_eq isFired => exact .interrupted headers_eq (stays isFired)
  | completed headers_eq ended => exact .completed headers_eq ended

theorem eq_of_headersWait {wait : Bool × call.headers.State}
    (captured : Captured call report marked fired stage responses items isOver capture)
    (waits : stage.headersWait? = some wait) :
    items = [] ∧ isOver = false ∧ capture = .empty := by
  cases captured with
  | awaitsHeaders => exact ⟨rfl, rfl, rfl⟩
  | @reads stage _ _ _ _ _ reading => cases stage <;> cases reading <;> cases waits
  | _ => cases waits

theorem headers_of_value
    (captured : Captured call report marked fired stage responses items isOver capture)
    {value : Payload} (seen : .ok value ∈ items) :
    ∃ headers, report.headers = .ok headers ∧ capture.headers = some headers := by
  cases captured with
  | awaitsHeaders => simp at seen
  | refused => simp at seen
  | reads headers_eq => exact ⟨_, headers_eq, rfl⟩
  | failed headers_eq => exact ⟨_, headers_eq, rfl⟩
  | awaitsCompletion headers_eq => exact ⟨_, headers_eq, rfl⟩
  | interrupted headers_eq => exact ⟨_, headers_eq, rfl⟩
  | completed headers_eq => exact ⟨_, headers_eq, rfl⟩

theorem inOrder
    (captured : Captured call report marked fired stage responses items isOver capture) :
    capture.InOrder := by
  cases captured with
  | completed => exact ⟨rfl, fun _ => rfl⟩
  | _ => exact ⟨rfl, nofun⟩

theorem marked_of_status
    (captured : Captured call report marked fired stage responses items isOver capture)
    (status : capture.status.isSome = true) : marked none responses := by
  cases captured with
  | completed _ ended => exact ended
  | _ => cases status

theorem complete_of_over
    (captured : Captured call report marked false stage responses items true capture)
    (fine : ∀ error, .error error ∉ items) :
    ∃ headers, report.headers = .ok headers ∧ capture =
      ⟨some headers, some report.completion.trailers, some report.completion.status⟩ := by
  cases captured with
  | refused => exact absurd (List.mem_singleton_self _) (fine _)
  | failed => exact absurd (List.mem_append_right _ (List.mem_singleton_self _)) (fine _)
  | interrupted _ isFired => cases isFired
  | completed headers_eq => exact ⟨_, headers_eq, rfl⟩

end Captured

section

variable {call : StreamingCall} {report : CallReport}
  {marked : Option Outcome → call.responses.State → Prop} {number : Nat} {token : Token}
  {history : History} {memory : Memory}

/-- What a poll finds is added to what has been seen, and fits the stage and the buffer it leads
to. -/
def Proceeds (report : CallReport) (marked : Option Outcome → call.responses.State → Prop)
    (number : Nat) (fired : Bool) (items : List Outcome) (polled : call.ResponsePoll) : Prop :=
  Captured call report marked fired polled.2.1.1 polled.2.1.2 (items ++ polled.1.item?.toList)
    polled.1.isEnd (polled.2.2.captures number)

section

variable {fired : Bool} {items : List Outcome} {stage : call.Stage}
  {responses : call.responses.State}

theorem proceeds_pending :
    Proceeds report marked number fired items (.pending, (stage, responses), memory) ↔
      Captured call report marked fired stage responses items false (memory.captures number) := by
  simp [Proceeds, Poll.item?, Poll.isEnd]

theorem proceeds_end :
    Proceeds report marked number fired items (.ready none, (stage, responses), memory) ↔
      Captured call report marked fired stage responses items true (memory.captures number) := by
  simp [Proceeds, Poll.item?, Poll.isEnd]

theorem proceeds_item {item : Outcome} :
    Proceeds report marked number fired items (.ready (some item), (stage, responses), memory) ↔
      Captured call report marked fired stage responses (items ++ [item]) false
        (memory.captures number) := Iff.rfl

end

variable (reports : call.Reports report) (marks : call.responses.Marks marked)

include reports

theorem pollCompletion_proceeds {headers : Metadata} (headers_eq : report.headers = .ok headers)
    {responses : call.responses.State} (ended : marked none responses) (values : List Payload)
    (captured : memory.captures number = Capture.empty.setHeaders headers) (begun : Bool)
    (completion : call.completion.State) :
    Proceeds report marked number (history.hasFired token) (values.map .ok)
      (call.pollCompletion token number begun completion responses history memory) := by
  unfold pollCompletion
  rcases raced_eq : PollStep.race call.completion.poll token begun completion history memory
    with ⟨answer, after, memoryAfter⟩
  have kept := PollStep.KeepsCaptures.race reports.completion.keeps token begun raced_eq
  rcases answer with _ | _ | value
  · simp only [proceeds_pending, kept, captured]
    exact .awaitsCompletion headers_eq ended
  · simp only [proceeds_end, kept, captured]
    exact .interrupted headers_eq (PollStep.fired_of_race_none raced_eq)
  · obtain rfl := reports.completion.value_eq (PollStep.race_some raced_eq)
    simp only [proceeds_end, Memory.captures_captureCompletion_same, kept, captured]
    exact .completed headers_eq ended

include marks

theorem pollItem_proceeds {headers : Metadata} (headers_eq : report.headers = .ok headers)
    (values : List Payload) (captured : memory.captures number = Capture.empty.setHeaders headers)
    (begun : Bool) (responses : call.responses.State) :
    Proceeds report marked number (history.hasFired token) (values.map .ok)
      (call.pollItem (some number) token begun responses history memory) := by
  unfold pollItem
  rcases raced_eq : PollStep.race call.responses.next token begun responses history memory
    with ⟨answer, after, memoryAfter⟩
  have kept := PollStep.KeepsCaptures.race reports.responses token begun raced_eq
  rcases answer with _ | _ | _ | _ | item
  · simp only [proceeds_pending, kept, captured]
    exact .reads headers_eq rfl
  · simp only [proceeds_item, kept, captured]
    exact .failed headers_eq (.cancelled (PollStep.fired_of_race_none raced_eq))
  · have ended := marks (PollStep.race_some raced_eq)
    have captured_after := (congrFun kept number).trans captured
    exact pollCompletion_proceeds reports headers_eq ended values captured_after false _
  · simp only [proceeds_item, kept, captured]
    exact .failed headers_eq (.failed (marks (PollStep.race_some raced_eq)))
  · simp only [proceeds_item, kept, captured]
    rw [← List.map_singleton, ← List.map_append]
    exact .reads headers_eq rfl

omit marks in
/-- What the wait for the headers comes to is what the transport reports, if the token does not
interrupt it. -/
theorem raceResult_headers {begun : Bool} {headers after : call.headers.State}
    {memoryAfter : Memory} {raced : Option (Except RpcError Metadata)}
    (raced_eq : PollStep.race call.headers.poll token begun headers history memory =
      (.ready raced, after, memoryAfter)) :
    (∀ error, raceResult raced = .error error →
        ErrorSeen (fun failure => report.headers = .error failure) (history.hasFired token)
          error) ∧
      ∀ value, raceResult raced = .ok value → report.headers = .ok value := by
  cases raced with
  | none =>
      refine ⟨?_, by rintro value ⟨⟩⟩
      rintro _ ⟨⟩
      exact .cancelled (PollStep.fired_of_race_none raced_eq)
  | some found =>
      have found_eq := reports.headers.value_eq (PollStep.race_some raced_eq)
      cases found with
      | error error =>
          refine ⟨?_, by rintro value ⟨⟩⟩
          rintro _ ⟨⟩
          exact .failed found_eq.symm
      | ok value =>
          refine ⟨by rintro error ⟨⟩, ?_⟩
          rintro _ ⟨⟩
          exact found_eq.symm

theorem pollHeaders_proceeds (captured : memory.captures number = .empty) (begun : Bool)
    (headers : call.headers.State) (responses : call.responses.State) :
    Proceeds report marked number (history.hasFired token) []
      (call.pollHeaders (some number) token number begun headers responses history memory) := by
  unfold pollHeaders
  rcases raced_eq : PollStep.race call.headers.poll token begun headers history memory
    with ⟨answer, after, memoryAfter⟩
  have kept := PollStep.KeepsCaptures.race reports.headers.keeps token begun raced_eq
  rcases answer with _ | raced
  · simp only [proceeds_pending, kept, captured]
    exact .awaitsHeaders rfl
  · obtain ⟨refused, answered⟩ := raceResult_headers reports raced_eq
    cases result : raceResult raced with
    | error error =>
        simp only [result, proceeds_item, kept, captured]
        exact .refused (refused error result)
    | ok value =>
        simp only [result]
        refine pollItem_proceeds reports marks (answered value result) [] ?_ false responses
        rw [Memory.captures_captureHeaders_same, kept, captured]

/-- One poll of the stream. -/
theorem pollNext_proceeds {stage : call.Stage} {responses : call.responses.State}
    {items : List Outcome} {isOver : Bool}
    (captured : Captured call report marked (history.hasFired token) stage responses items isOver
      (memory.captures number)) :
    Proceeds report marked number (history.hasFired token) items
      (call.pollNext (some number) token (stage, responses) history memory) := by
  generalize capture_eq : memory.captures number = capture at captured
  cases captured with
  | awaitsHeaders waits =>
      cases stage <;> cases waits
      · exact pollHeaders_proceeds reports marks capture_eq false _ responses
      · exact pollHeaders_proceeds reports marks capture_eq true _ responses
  | reads headers_eq waits =>
      cases stage <;> cases waits
      · exact pollItem_proceeds reports marks headers_eq _ capture_eq false responses
      · exact pollItem_proceeds reports marks headers_eq _ capture_eq true responses
  | awaitsCompletion headers_eq ended =>
      exact pollCompletion_proceeds reports headers_eq ended _ capture_eq true _
  | refused seen =>
      simp only [pollNext, proceeds_end, capture_eq]
      exact .refused seen
  | failed headers_eq seen =>
      simp only [pollNext, proceeds_end, capture_eq]
      exact .failed headers_eq seen
  | interrupted headers_eq fired =>
      simp only [pollNext, proceeds_end, capture_eq]
      exact .interrupted headers_eq fired
  | completed headers_eq ended =>
      simp only [pollNext, proceeds_end, capture_eq]
      exact .completed headers_eq ended

end

/-! ## Runs -/

section

variable {call : StreamingCall} {report : CallReport} {number : Nat} {token : Token}

/-- What the stream waits for. -/
def stageAt (moment : (call.results (some number) token).Moment) : call.Stage :=
  (moment.state : call.Stage × call.responses.State).1

/-- How far the stream of the transport has come. -/
def responsesAt (moment : (call.results (some number) token).Moment) : call.responses.State :=
  (moment.state : call.Stage × call.responses.State).2

/-- What has been seen and captured at a moment of a run fits what the stream waits for. -/
def CapturedAt (report : CallReport) (marked : Option Outcome → call.responses.State → Prop)
    (moment : (call.results (some number) token).Moment) : Prop :=
  Captured call report marked (moment.history.hasFired token) (stageAt moment)
    (responsesAt moment) moment.items moment.isOver (moment.memory.captures number)

theorem capturedAt_run (reports : call.Reports report)
    {marked : Option Outcome → call.responses.State → Prop} (marks : call.responses.Marks marked)
    {memory : Memory} (fresh : memory.captures number = .empty) (turns : List Turn) :
    CapturedAt report marked (((call.results (some number) token).start memory).run turns) := by
  refine Stream.Moment.run_induction ?_ ?_ ?_ turns
  · show Captured call report marked _ .fresh _ [] false (memory.captures number)
    rw [fresh]
    exact .awaitsHeaders rfl
  · intro moment event _ captured
    exact captured.mono (History.hasFired_append [event])
  · intro moment _ captured
    have proceeds := pollNext_proceeds reports marks captured
    rcases next_eq : (call.results (some number) token).next moment.state moment.history
      moment.memory with ⟨answer, after, memory⟩
    have polled_eq : call.pollNext (some number) token (stageAt moment, responsesAt moment)
        moment.history moment.memory = (answer, after, memory) := next_eq
    rw [polled_eq] at proceeds
    rw [CapturedAt, Stream.Moment.items_polled next_eq, Stream.Moment.polled_eq next_eq]
    exact proceeds

/-- A stream that has nothing left to wait for is over after one more poll, and nothing else
changes. -/
theorem run_of_finished {moment : (call.results (some number) token).Moment}
    (finished : stageAt moment = .finished) (turns : List Turn) :
    (moment.run turns).items = moment.items ∧ (moment.run turns).memory = moment.memory ∧
      (moment.run turns).isOver = (moment.isOver || decide (0 < Turn.polls turns)) := by
  induction turns generalizing moment with
  | nil => exact ⟨rfl, rfl, by simp [Stream.Moment.run, Turn.polls]⟩
  | cons turn turns ih =>
      cases isOver : moment.isOver with
      | true =>
          rw [Stream.Moment.run_of_isOver isOver]
          exact ⟨rfl, rfl, by simp [isOver]⟩
      | false =>
          cases turn with
          | outside event =>
              rw [Stream.Moment.run_outside isOver, ← isOver]
              exact @ih { moment with history := moment.history ++ [event] } finished
          | poll =>
              have next_eq : (call.results (some number) token).next moment.state moment.history
                  moment.memory = (.ready none, moment.state, moment.memory) := by
                obtain ⟨⟨stage, responses⟩, history, memory, found, isOver⟩ := moment
                obtain rfl : stage = .finished := finished
                rfl
              have polled_eq := Stream.Moment.polled_eq next_eq
              have ended : moment.polled.isOver = true := by rw [polled_eq]; rfl
              rw [Stream.Moment.run_poll isOver, Stream.Moment.run_of_isOver ended,
                Stream.Moment.items_polled next_eq, polled_eq]
              exact ⟨List.append_nil _, rfl, by simp [Poll.isEnd, Turn.polls]⟩

/-! ## Failed headers -/

/-- The next poll ends the wait for the headers with an error. -/
def HeadersFail (moment : (call.results (some number) token).Moment) (error : RpcError) : Prop :=
  ∃ begun headers after memory raced,
    (stageAt moment).headersWait? = some (begun, headers) ∧
      PollStep.race call.headers.poll token begun headers moment.history moment.memory =
        (.ready raced, after, memory) ∧ raceResult raced = .error error

theorem next_of_headersFail {moment : (call.results (some number) token).Moment}
    {error : RpcError} (fails : HeadersFail moment error) (reports : call.Reports report) :
    ErrorSeen (fun failure => report.headers = .error failure) (moment.history.hasFired token)
        error ∧
      ∃ memory, memory.captures = moment.memory.captures ∧
        (call.results (some number) token).next moment.state moment.history moment.memory =
          (.ready (some (.error error)), (.finished, responsesAt moment), memory) := by
  obtain ⟨⟨stage, responses⟩, history, memory, found, isOver⟩ := moment
  obtain ⟨begun, headers, after, memoryAfter, raced, waits, raced_eq, failed⟩ := fails
  refine ⟨(raceResult_headers reports raced_eq).1 error failed, memoryAfter,
    PollStep.KeepsCaptures.race reports.headers.keeps token begun raced_eq, ?_⟩
  have next_eq : call.pollNext (some number) token (stage, responses) history memory =
      call.pollHeaders (some number) token number begun headers responses history memory := by
    cases stage <;> cases waits <;> rfl
  refine next_eq.trans ?_
  simp only [pollHeaders, raced_eq, failed]
  rfl

/-- After the headers failed only the error is seen, and nothing is captured. -/
theorem run_of_headersFail {moment : (call.results (some number) token).Moment} {error : RpcError}
    (fails : HeadersFail moment error) (reports : call.Reports report)
    {marked : Option Outcome → call.responses.State → Prop}
    (captured : CapturedAt report marked moment) (later : List Turn) :
    (moment.run (.poll :: later)).items = [.error error] ∧
      (moment.run (.poll :: later)).memory.captures number = .empty ∧
      (moment.run (.poll :: later)).isOver = decide (0 < Turn.polls later) := by
  obtain ⟨-, memory, kept, next_eq⟩ := next_of_headersFail fails reports
  obtain ⟨begun, headers, after, memoryAfter, raced, waits, -⟩ := fails
  obtain ⟨items_eq, isOpen, capture_eq⟩ := captured.eq_of_headersWait waits
  have polled_eq := Stream.Moment.polled_eq next_eq
  have finished : stageAt moment.polled = .finished := by rw [polled_eq]; rfl
  obtain ⟨last_items, last_memory, last_isOver⟩ := run_of_finished finished later
  rw [Stream.Moment.run_poll isOpen, last_items, last_memory, last_isOver,
    Stream.Moment.items_polled next_eq, items_eq, polled_eq]
  exact ⟨rfl, (congrFun kept number).trans capture_eq, rfl⟩

end

/-! ## Main result -/

/-- What holds at a moment of a run. -/
structure CapturesInOrder {call : StreamingCall} {number : Nat} {token : Token}
    (report : CallReport) (moment : (call.results (some number) token).Moment) : Prop where
  /-- No value is seen before the headers are captured. -/
  headers_first : ∀ value, .ok value ∈ moment.items →
    ∃ headers, report.headers = .ok headers ∧
      (moment.memory.captures number).headers = some headers
  /-- Failed headers are all that is seen, and nothing is captured. -/
  headers_fail : ∀ error, HeadersFail moment error →
    ErrorSeen (fun failure => report.headers = .error failure) (moment.history.hasFired token)
        error ∧
      ∀ later, (moment.run (.poll :: later)).items = [.error error] ∧
        (moment.run (.poll :: later)).memory.captures number = .empty ∧
        (moment.run (.poll :: later)).isOver = decide (0 < Turn.polls later)
  in_order : (moment.memory.captures number).InOrder
  /-- The completion is not captured before the transport has reported the end of its stream. -/
  end_first : ∀ marked, call.responses.Marks marked →
    (moment.memory.captures number).status.isSome = true → marked none (responsesAt moment)
  /-- A stream that ends by itself leaves everything captured. -/
  complete : moment.isOver = true → (∀ error, .error error ∉ moment.items) →
    moment.history.hasFired token = false →
    ∃ headers, report.headers = .ok headers ∧ moment.memory.captures number =
      ⟨some headers, some report.completion.trailers, some report.completion.status⟩

/-- A captured stream keeps the headers first and the completion last, whatever the transport
reports, whatever happens outside and whenever it is polled. -/
theorem results_captured {call : StreamingCall} {report : CallReport}
    (reports : call.Reports report) (number : Nat) (token : Token) {memory : Memory}
    (fresh : memory.captures number = .empty) (turns : List Turn) :
    CapturesInOrder report (((call.results (some number) token).start memory).run turns) := by
  have capturedAt : ∀ marked, call.responses.Marks marked → CapturedAt report marked
      (((call.results (some number) token).start memory).run turns) :=
    fun marked marks => capturedAt_run reports marks fresh turns
  generalize ((call.results (some number) token).start memory).run turns = moment at capturedAt ⊢
  have captured := capturedAt (fun _ _ => True) (fun _ => trivial)
  refine ⟨fun _ => captured.headers_of_value, ?_, captured.inOrder, ?_, ?_⟩
  · intro error fails
    exact ⟨(next_of_headersFail fails reports).1, run_of_headersFail fails reports captured⟩
  · intro marked marks
    exact (capturedAt marked marks).marked_of_status
  · intro isOver fine unfired
    rw [CapturedAt, isOver, unfired] at captured
    exact captured.complete_of_over fine

end StreamingCall

namespace Sample

/-- A call whose headers, response and completion each take one more poll. -/
def slowPongs : StreamingCall where
  responses := .ofScript [.pending, .ready (.ok (pongOf 7 "slow").val)]
  headers := .after 1 pongReport.headers
  completion := .after 1 pongReport.completion

/-- Five polls bring the response and the end, and then everything is captured. -/
theorem slowPongs_captured :
    slowPongs.Reports pongReport ∧ Memory.fresh.captures 0 = .empty ∧
      let moment := ((slowPongs.results (some 0) (.named "stop")).start .fresh).run
        (List.replicate 5 .poll)
      moment.items = [.ok (pongOf 7 "slow").val] ∧ moment.isOver = true ∧
        ∃ headers, pongReport.headers = .ok headers ∧
          moment.memory.captures 0 = ⟨some headers, some .empty, some .ok⟩ := by
  have reports : slowPongs.Reports pongReport :=
    ⟨Future.yields_after 1 _, Stream.keepsCaptures_ofScript _, Future.yields_after 1 _⟩
  have fresh : Memory.fresh.captures 0 = .empty := rfl
  have captures := StreamingCall.results_captured reports 0 (.named "stop") fresh
    (List.replicate 5 .poll)
  refine ⟨reports, fresh, rfl, rfl, captures.complete rfl ?_ rfl⟩
  intro error seen
  have items_eq : (((slowPongs.results (some 0) (.named "stop")).start .fresh).run
    (List.replicate 5 .poll)).items = [.ok (pongOf 7 "slow").val] := rfl
  rw [items_eq] at seen
  cases List.mem_singleton.mp seen

end Sample
end RpcContracts
