import RpcContracts.Proofs.Async.Findings
import RpcContracts.Proofs.Client.Completions

/-!
# The first error of a response stream

The responses of a call end at the first error of the transport, or at the cancellation. A caller
reads them at the type that the method returns: a response of another type becomes an error in its
place, and such an error ends nothing. So what a caller sees goes on after an error exactly where a
response of another type stands.
-/

namespace RpcContracts

/-! ## Streams that end at an error -/

/-- The first error that was found is the last item, and the next poll finds the end. -/
structure Stream.Moment.EndsAtError {α : Type} {stream : ItemStream α} (moment : stream.Moment) :
    Prop where
  error_last : ∀ values error rest, moment.items = values ++ .error error :: rest → rest = []
  then_over : ∀ error, .error error ∈ moment.items → (moment.turn .poll).isOver = true

namespace ItemStream

variable {α : Type} {stream : ItemStream α} {stopped : stream.State → Prop}

/-- Every error leads to a state in which only the end is found. -/
structure StopsAt (stream : ItemStream α) (stopped : stream.State → Prop) : Prop where
  marks : stream.Marks fun found state => ∀ error, found = some (.error error) → stopped state
  ends : ∀ state history memory, stopped state →
    stream.next state history memory = (.ready none, state, memory)

/-- Nothing but values was found, or one error after them, which has stopped the stream. -/
inductive Found (stopped : stream.State → Prop) (state : stream.State) :
    List (Except RpcError α) → Prop where
  | values (values : List α) : Found stopped state (values.map .ok)
  | failed (values : List α) (error : RpcError) : stopped state →
      Found stopped state (values.map .ok ++ [.error error])

theorem Found.next {state : stream.State} {items : List (Except RpcError α)}
    (stops : stream.StopsAt stopped) (found : Found stopped state items) {history : History}
    {memory memoryAfter : Memory} {answer : Poll (Option (Except RpcError α))}
    {after : stream.State}
    (next_eq : stream.next state history memory = (answer, after, memoryAfter)) :
    Found stopped after (items ++ answer.item?.toList) := by
  cases found with
  | failed values error isStopped =>
      rw [stops.ends state history memory isStopped] at next_eq
      cases next_eq
      rw [Poll.item?, Option.toList_none, List.append_nil]
      exact .failed values error isStopped
  | values values =>
      rcases answer with _ | _ | error | value
      · exact (List.append_nil _).symm ▸ .values values
      · exact (List.append_nil _).symm ▸ .values values
      · exact .failed values error (stops.marks next_eq error rfl)
      · show Found stopped after (values.map .ok ++ [.ok value])
        rw [← List.map_singleton, ← List.map_append]
        exact .values (values ++ [value])

theorem nil_of_error_last {values : List α} {error last : RpcError}
    {front rest : List (Except RpcError α)}
    (items_eq : values.map .ok ++ [.error last] = front ++ .error error :: rest) : rest = [] := by
  induction front generalizing values with
  | nil =>
      cases values with
      | nil => exact (List.cons.inj items_eq).2.symm
      | cons value values => cases (List.cons.inj items_eq).1
  | cons first front ih =>
      cases values with
      | nil => simp at items_eq
      | cons value values => exact ih (List.cons.inj items_eq).2

theorem not_error_mem_map_ok (values : List α) (error : RpcError) :
    (.error error : Except RpcError α) ∉ values.map .ok := by simp

/-- Whatever happens and whenever it is polled, a stream that stops at errors ends at the first. -/
theorem StopsAt.endsAtError_run (stops : stream.StopsAt stopped) {moment : stream.Moment}
    (fresh : moment.items = []) (turns : List Turn) : (moment.run turns).EndsAtError := by
  let sound (moment : stream.Moment) : Prop := Found stopped moment.state moment.items
  have found : sound (moment.run turns) := by
    refine Stream.Moment.run_induction ?_ (fun moment event _ found => found) ?_ turns
    · show Found stopped moment.state moment.items
      rw [fresh]
      exact .values []
    · intro moment _ found
      show Found stopped moment.polled.state moment.polled.items
      rcases next_eq : stream.next moment.state moment.history moment.memory
        with ⟨answer, after, memory⟩
      rw [Stream.Moment.items_polled next_eq, Stream.Moment.polled_eq next_eq]
      exact found.next stops next_eq
  have found : Found stopped (moment.run turns).state (moment.run turns).items := found
  generalize moment.run turns = reached at found
  constructor
  · intro front error rest items_eq
    generalize reached.items = items at found items_eq
    cases found with
    | values values =>
        refine absurd ?_ (not_error_mem_map_ok values error)
        rw [items_eq]
        exact List.mem_append_right _ List.mem_cons_self
    | failed values last => exact nil_of_error_last items_eq
  · intro error mem
    generalize reached.items = items at found mem
    cases found with
    | values values => exact absurd mem (not_error_mem_map_ok values error)
    | failed values last isStopped =>
        cases isOver : reached.isOver with
        | true => simp only [Stream.Moment.turn, isOver]
        | false =>
            have next_eq := stops.ends reached.state reached.history reached.memory isStopped
            simp only [Stream.Moment.turn, isOver, Stream.Moment.polled_eq next_eq, Poll.isEnd]

end ItemStream

/-! ## Responses of a call -/

namespace StreamingCall

variable {call : StreamingCall} {capture : Option Nat} {token : Token}

theorem finished_of_pollItem {begun : Bool} {responses : call.responses.State} {history : History}
    {memory memoryAfter : Memory} {error : RpcError} {after : call.Stage × call.responses.State}
    (polled : call.pollItem capture token begun responses history memory =
      (.ready (some (.error error)), after, memoryAfter)) : after.1 = .finished := by
  unfold pollItem at polled
  split at polled
  · cases polled
  · cases polled
    rfl
  · cases polled
  · cases polled
    rfl
  · split at polled
    · cases polled
    · exact absurd polled (call.pollCompletion_ne_item token)

theorem finished_of_pollHeaders {number : Nat} {begun : Bool} {headers : call.headers.State}
    {responses : call.responses.State} {history : History} {memory memoryAfter : Memory}
    {error : RpcError} {after : call.Stage × call.responses.State}
    (polled : call.pollHeaders capture token number begun headers responses history memory =
      (.ready (some (.error error)), after, memoryAfter)) : after.1 = .finished := by
  unfold pollHeaders at polled
  split at polled
  · cases polled
  · split at polled
    · cases polled
      rfl
    · exact finished_of_pollItem polled

/-- Every error is the last item, from whichever wait it comes. -/
theorem results_stopsAt (call : StreamingCall) (capture : Option Nat) (token : Token) :
    (call.results capture token).StopsAt fun state => state.1 = .finished where
  marks := by
    rintro state after history memory memoryAfter _ polled error rfl
    have polled : call.pollNext capture token state history memory =
      (.ready (some (.error error)), after, memoryAfter) := polled
    unfold pollNext at polled
    split at polled
    · cases polled
    · exact finished_of_pollHeaders polled
    · exact finished_of_pollItem polled
    · exact finished_of_pollHeaders polled
    · exact finished_of_pollItem polled
    · exact finished_of_pollItem polled
    · exact finished_of_pollItem polled
    · exact absurd polled (call.pollCompletion_ne_item token)
    · cases polled
  ends := by
    rintro ⟨stage, responses⟩ history memory rfl
    cases capture <;> rfl

end StreamingCall

/-! ## Known items -/

namespace Stream

variable {α β : Type}

/-- A stream as it is handed back, after what has happened before. -/
def startAfter (stream : Stream α) (history : History) (memory : Memory) : stream.Moment :=
  ⟨stream.state, history, memory, [], false⟩

theorem Moment.run_concat {stream : Stream α} (moment : stream.Moment) (turns : List Turn)
    (turn : Turn) : moment.run (turns ++ [turn]) = (moment.run turns).turn turn :=
  List.foldl_append

/-- What a stream of known items has still to give. -/
def Moment.left {known : List α} {isOpen : Bool} (moment : (ofItems known isOpen).Moment) :
    List α :=
  moment.state

theorem ofItems_next {known left after : List α} {isOpen : Bool} {history : History}
    {memory memoryAfter : Memory} {answer : Poll (Option α)}
    (next_eq : (ofItems known isOpen).next left history memory = (answer, after, memoryAfter)) :
    answer.item?.toList ++ after = left := by
  cases left with
  | nil => cases isOpen <;> cases next_eq <;> rfl
  | cons item rest =>
      cases next_eq
      rfl

/-- What has been found and what is left are the known items, in order. -/
theorem Moment.items_append_left (known : List α) (isOpen : Bool) (history : History)
    (memory : Memory) (turns : List Turn) :
    (((ofItems known isOpen).startAfter history memory).run turns).items ++
      (((ofItems known isOpen).startAfter history memory).run turns).left = known := by
  let whole (moment : (ofItems known isOpen).Moment) : Prop := moment.items ++ moment.left = known
  have kept : whole (((ofItems known isOpen).startAfter history memory).run turns) := by
    refine Moment.run_induction ?_ (fun moment event _ before => ?_) ?_ turns
    · exact List.nil_append known
    · exact before
    · intro moment _ before
      rcases next_eq : (ofItems known isOpen).next moment.state moment.history moment.memory
        with ⟨answer, after, memory⟩
      show moment.polled.items ++ moment.polled.left = known
      rw [Moment.items_polled next_eq, Moment.polled_eq next_eq, List.append_assoc]
      exact (congrArg (moment.items ++ ·) (ofItems_next next_eq)).trans before
  exact kept

/-- Mapping known items is knowing the mapped ones. -/
def Mirror.ofItems (known : List α) (isOpen : Bool) (function : α → β) :
    Mirror ((Stream.ofItems known isOpen).map function)
      (Stream.ofItems (known.map function) isOpen) where
  image := List.map function
  state_eq := rfl
  next_eq := by
    intro left history memory
    cases left with
    | nil => cases isOpen <;> rfl
    | cons item rest => rfl

protected def Mirror.refl (stream : Stream α) : Mirror stream stream where
  image := id
  state_eq := rfl
  next_eq := by
    intro state history memory
    show stream.next state history memory = _
    rcases stream.next state history memory with ⟨_ | found, after, memoryAfter⟩ <;> rfl

/-- A stream of one known error ends after it. -/
theorem failed_endsAtError {α : Type} (error : RpcError) (history : History) (memory : Memory)
    (turns : List Turn) :
    (((ofItems [(.error error : Except RpcError α)] false).startAfter history memory).run
      turns).EndsAtError := by
  have whole := Moment.items_append_left [(.error error : Except RpcError α)] false history memory
    turns
  generalize ((ofItems [(.error error : Except RpcError α)] false).startAfter history memory).run
    turns = moment at whole
  have cases_eq := List.append_eq_singleton_iff.mp whole
  constructor
  · intro front last rest items_eq
    rw [items_eq] at cases_eq
    rcases cases_eq with ⟨nil, -⟩ | ⟨one, -⟩
    · exact absurd nil (by simp)
    · exact @ItemStream.nil_of_error_last _ [] last error front rest one.symm
  · intro last mem
    rcases cases_eq with ⟨nil, -⟩ | ⟨-, spent⟩
    · simp [nil] at mem
    · obtain ⟨left, history, memory, found, isOver⟩ := moment
      obtain rfl : left = [] := spent
      cases isOver <;> rfl

end Stream

namespace CallOutcome

/-- The responses of an outcome before they are read at a type. -/
def relayed : CallOutcome → ItemStream Payload
  | completed (.error error) => .ofItems [.error error] false
  | completed (.ok _) => .ofItems [.error singleMismatch] false
  | pending _ => .ofItems [.error singleMismatch] false
  | streaming responses => responses
  | blocked => .ofItems [] true

/-- A caller reads every item that is relayed at the type. -/
def readAt (outcome : CallOutcome) (argument : ValueType) :
    (outcome.relayed.downcast argument).Mirror (outcome.toResponses argument) :=
  match outcome with
  | completed (.error error) => .ofItems [Except.error error] false (Outcome.downcast argument)
  | completed (.ok _) => .ofItems [Except.error singleMismatch] false (Outcome.downcast argument)
  | pending _ => .ofItems [Except.error singleMismatch] false (Outcome.downcast argument)
  | streaming responses => .refl (responses.downcast argument)
  | blocked => .ofItems [] true (Outcome.downcast argument)

/-- What a run of the responses finds is what a run of the relayed ones finds, read at the type. -/
theorem run_toResponses (outcome : CallOutcome) (argument : ValueType) (history : History)
    (memory : Memory) (turns : List Turn) :
    let relay := (outcome.relayed.startAfter history memory).run turns
    let moment := ((outcome.toResponses argument).startAfter history memory).run turns
    moment.found = relay.found.map (Poll.map (Option.map (Outcome.downcast argument))) ∧
      moment.items = relay.items.map (Outcome.downcast argument) ∧
      moment.isOver = relay.isOver := by
  have mirrored := (outcome.readAt argument).run_eq
    ((outcome.relayed.startAfter history memory).mapped (Outcome.downcast argument)) turns
  have mapped := Stream.Moment.run_mapped (Outcome.downcast argument)
    (outcome.relayed.startAfter history memory) turns
  have run_eq : ((outcome.toResponses argument).startAfter history memory).run turns =
      (outcome.readAt argument).moment (((outcome.relayed.startAfter history memory).run
        turns).mapped (Outcome.downcast argument)) := by
    rw [← mapped]
    refine Eq.trans ?_ mirrored
    rw [Stream.startAfter, (outcome.readAt argument).state_eq]
    rfl
  intro relay moment
  have moment_eq : moment = (outcome.readAt argument).moment
    (relay.mapped (Outcome.downcast argument)) := run_eq
  rw [moment_eq]
  exact ⟨rfl, Stream.Moment.items_mapped (Outcome.downcast argument) relay, rfl⟩

/-- What a caller sees of a failed call, whose responses it reads at a type. -/
structure EndsAtFailure {argument : ValueType} {relayed : ItemStream Payload}
    {responses : ItemStream (PayloadOf argument)} (relay : relayed.Moment)
    (moment : responses.Moment) : Prop where
  /-- Every poll finds what is relayed, read at the type. -/
  found_eq : moment.found = relay.found.map (Poll.map (Option.map (Outcome.downcast argument)))
  isOver_eq : moment.isOver = relay.isOver
  /-- The first failure of the call is the last item. -/
  relay_ends : relay.EndsAtError
  /-- An error that is seen is such a failure, which ends what is seen, or it stands for a response
  of another type. -/
  error_seen : ∀ front error rest, moment.items = front ++ .error error :: rest →
    (rest = [] ∧ (moment.turn .poll).isOver = true) ∨
      ∃ payload, relay.items[front.length]? = some (.ok payload) ∧ payload.type ≠ argument ∧
        error = .typeMismatch argument.qualifiedName
  /-- If all responses are of the type, the first error ends what is seen. -/
  typed_ends : (∀ payload, .ok payload ∈ relay.items → payload.type = argument) →
    moment.EndsAtError

end CallOutcome

theorem Outcome.eq_of_downcast_error {argument : ValueType} {outcome : Outcome} {error : RpcError}
    (read : outcome.downcast argument = .error error) :
    outcome = .error error ∨ ∃ payload, outcome = .ok payload ∧ payload.type ≠ argument ∧
      error = .typeMismatch argument.qualifiedName := by
  cases outcome with
  | error other =>
      cases read
      exact .inl rfl
  | ok payload =>
      by_cases same : payload.type = argument
      · simp [downcast, Payload.downcast, same] at read
      · simp only [downcast, Payload.downcast, same] at read
        cases read
        exact .inr ⟨payload, rfl, same, rfl⟩

namespace CallOutcome

theorem endsAtFailure {outcome : CallOutcome} {history : History} {memory : Memory}
    (ends : ∀ turns, ((outcome.relayed.startAfter history memory).run turns).EndsAtError)
    (argument : ValueType) (turns : List Turn) :
    EndsAtFailure ((outcome.relayed.startAfter history memory).run turns)
      (((outcome.toResponses argument).startAfter history memory).run turns) := by
  have read := outcome.run_toResponses argument history memory
  have over_eq := (read (turns ++ [.poll])).2.2
  simp only [Stream.Moment.run_concat] at over_eq
  obtain ⟨found_eq, items_eq, isOver_eq⟩ := read turns
  have relay_ends := ends turns
  generalize (outcome.relayed.startAfter history memory).run turns = relay at *
  generalize ((outcome.toResponses argument).startAfter history memory).run turns = moment at *
  have error_seen : ∀ front error rest, moment.items = front ++ .error error :: rest →
      (rest = [] ∧ (moment.turn .poll).isOver = true) ∨
        ∃ payload, relay.items[front.length]? = some (.ok payload) ∧ payload.type ≠ argument ∧
          error = .typeMismatch argument.qualifiedName := by
    intro front error rest seen
    rw [items_eq] at seen
    obtain ⟨before, others, relay_eq, rfl, others_eq⟩ := List.map_eq_append_iff.mp seen
    obtain ⟨item, after, rfl, item_eq, rfl⟩ := List.map_eq_cons_iff.mp others_eq
    rcases Outcome.eq_of_downcast_error item_eq with rfl | ⟨payload, rfl, other, error_eq⟩
    · obtain rfl := relay_ends.error_last before error after relay_eq
      refine .inl ⟨rfl, over_eq.trans (relay_ends.then_over error ?_)⟩
      rw [relay_eq]
      exact List.mem_append_right _ List.mem_cons_self
    · refine .inr ⟨payload, ?_, other, error_eq⟩
      rw [relay_eq, List.length_map]
      simp
  refine ⟨found_eq, isOver_eq, relay_ends, error_seen, ?_⟩
  intro typed
  have ended : ∀ front error rest, moment.items = front ++ .error error :: rest →
      rest = [] ∧ (moment.turn .poll).isOver = true := by
    intro front error rest seen
    refine (error_seen front error rest seen).resolve_right ?_
    rintro ⟨payload, found, other, -⟩
    exact other (typed payload (List.mem_of_getElem? found))
  refine ⟨fun front error rest seen => (ended front error rest seen).1, ?_⟩
  intro error mem
  obtain ⟨front, rest, seen⟩ := List.append_of_mem mem
  exact (ended front error rest seen).2

/-- Outcomes that a call can come to. -/
inductive OfCall : CallOutcome → Prop where
  | streaming (call : StreamingCall) (capture : Option Nat) (token : Token) :
      OfCall (.streaming (call.results capture token))
  | completed (result : Outcome) : OfCall (.completed result)
  | pending (task : Task Payload) : OfCall (.pending task)
  | blocked : OfCall .blocked

theorem OfCall.relay_ends {outcome : CallOutcome} (called : outcome.OfCall) (history : History)
    (memory : Memory) (turns : List Turn) :
    ((outcome.relayed.startAfter history memory).run turns).EndsAtError := by
  cases called with
  | streaming call capture token =>
      exact (call.results_stopsAt capture token).endsAtError_run rfl turns
  | completed result => cases result <;> exact Stream.failed_endsAtError _ history memory turns
  | pending task => exact Stream.failed_endsAtError _ history memory turns
  | blocked =>
      have nothing := (List.append_eq_nil_iff.mp
        (Stream.Moment.items_append_left ([] : List Outcome) true history memory turns)).1
      constructor
      · intro front error rest items_eq
        exact absurd (items_eq.symm.trans nothing) (by simp)
      · intro error mem
        exact absurd (nothing ▸ mem) List.not_mem_nil

end CallOutcome

theorem SingleCall.outcome_ofCall (call : SingleCall) (shape : ResponseShape) (capture : Option Nat)
    (token : Token) (history : History) (memory : Memory) :
    (call.outcome shape capture token history memory).1.OfCall := by
  cases shape with
  | sync =>
      unfold outcome
      rcases (call.result capture token).block history memory with ⟨_ | result, after⟩
      · exact .blocked
      · exact .completed result
  | deferred => exact .pending _
  | lightDeferred => exact .pending _
  | streamed => exact .completed _

theorem ClientEntry.call_ofCall (entry : ClientEntry) (transport : Transport Id)
    (arguments : List Value) (history : History) (memory : Memory) :
    (entry.call (m := Id) transport arguments history memory).1.OfCall := by
  cases entry with
  | unsupported reason => exact .completed _
  | bound method =>
      show (method.call (m := Id) transport arguments history memory).1.OfCall
      rw [method.call_eq]
      cases method.prepared arguments with
      | error error => exact .completed _
      | ok prepared =>
          obtain ⟨issued, capture⟩ := prepared
          cases issued with
          | unary head request => exact SingleCall.outcome_ofCall ..
          | clientStreaming head requests => exact SingleCall.outcome_ofCall ..
          | serverStreaming head request => exact .streaming ..
          | duplexStreaming head requests => exact .streaming ..

/-- A method has handed back a stream of responses. However its caller polls it, and whatever
happens outside, the first failure of the call or the cancellation ends the stream. A response of
another type is an error in its place, after which the stream goes on. -/
theorem ClientEntry.failures_end (entry : ClientEntry) (transport : Transport Id)
    (arguments : List Value) (argument : ValueType) (history : History) (memory : Memory)
    {outcome : CallOutcome} {after handed : Memory} {responses : ItemStream (PayloadOf argument)}
    (called : entry.call (m := Id) transport arguments history memory = (outcome, after))
    (returned : outcome.returned .responseStream argument history after =
      (.responses responses, handed)) (turns : List Turn) :
    CallOutcome.EndsAtFailure ((outcome.relayed.startAfter history handed).run turns)
      ((responses.startAfter history handed).run turns) := by
  have ofCall := entry.call_ofCall transport arguments history memory
  rw [called] at ofCall
  have same : responses = outcome.toResponses argument ∧ handed = after := by
    cases outcome <;> cases returned <;> exact ⟨rfl, rfl⟩
  obtain ⟨rfl, rfl⟩ := same
  exact CallOutcome.endsAtFailure (ofCall.relay_ends history handed) argument turns

namespace Sample

/-- Every response of a call whose server goes away is a pong, so the failure is the last item. -/
theorem brokenDuplex_ends :
    ∃ relayed after responses,
      ClientEntry.call (m := Id) (.bound brokenDuplex.method) brokenDuplex.transport
        [brokenDuplex.request, .payload (.callContext capturing)] [] .fresh =
          (.streaming relayed, after) ∧
      (CallOutcome.streaming relayed).returned .responseStream pong.valueType [] after =
        (.responses responses, after) ∧
      let moment := (responses.startAfter [] after).run (List.replicate 4 .poll)
      moment.items = [.ok (pongOf 7 "slow"), .error gone] ∧ moment.EndsAtError := by
  refine ⟨_, _, _, rfl, rfl, rfl, ?_⟩
  have ends := ClientEntry.failures_end (.bound brokenDuplex.method) brokenDuplex.transport
    [brokenDuplex.request, .payload (.callContext capturing)] pong.valueType [] .fresh rfl rfl
    (List.replicate 4 .poll)
  refine ends.typed_ends fun payload mem => ?_
  cases mem with
  | head => rfl
  | tail _ mem => cases List.mem_singleton.mp mem

/-- A call whose first response is of another type. -/
def mixedDuplex : ContextCall :=
  duplexCall [.ready (.ok (.message (.ping 1 "first"))), .ready (.ok (pongOf 7 "slow").val)]
    goneReport

/-- After the error for the response of another type the next response is still seen. -/
theorem mixedDuplex_goes_on :
    ∃ relayed after responses,
      ClientEntry.call (m := Id) (.bound mixedDuplex.method) mixedDuplex.transport
        [mixedDuplex.request, .payload (.callContext capturing)] [] .fresh =
          (.streaming relayed, after) ∧
      (CallOutcome.streaming relayed).returned .responseStream pong.valueType [] after =
        (.responses responses, after) ∧
      let moment := (responses.startAfter [] after).run (List.replicate 4 .poll)
      moment.items =
          [.error (.typeMismatch pong.valueType.qualifiedName), .ok (pongOf 7 "slow")] ∧
        ¬ moment.EndsAtError := by
  refine ⟨_, _, _, rfl, rfl, rfl, ?_⟩
  intro ends
  cases ends.error_last [] (.typeMismatch pong.valueType.qualifiedName) [.ok (pongOf 7 "slow")] rfl

end Sample
end RpcContracts
