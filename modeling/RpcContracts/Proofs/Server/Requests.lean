import Mathlib.Data.List.Forall2
import RpcContracts.Proofs.Server.Serving

/-!
# Runs of a request reader

A method that takes a stream of requests reads them through a reader which recovers each one at the
declared type and which the token of the call interrupts. What has been read and what is left always
make up all that the transport sends, errors included, until a cancellation cuts it off. As long as
the token has not fired, the polls of the reader are those of the transport, one by one; a firing
leaves at most one item to be read.
-/

namespace RpcContracts

/-- The requests of a transport, which follow a script, as a method that takes a type reads them. -/
abbrev requestReader (type : ValueType) (script : List (Poll Outcome)) (token : Token) :
    ItemStream (PayloadOf type) := ItemStream.downcast type (.cancellable token (.ofScript script))

/-- The items of a script as they are read at a type. -/
def Poll.requestItems (type : ValueType) (script : List (Poll Outcome)) : List (OutcomeOf type) :=
  (readyItems script).map (Outcome.downcast type)

/-- The polls of a script and the end after them, as they are read at a type. -/
def Poll.requestPolls (type : ValueType) (script : List (Poll Outcome)) :
    List (Poll (Option (OutcomeOf type))) :=
  script.map (Poll.map fun item => some (Outcome.downcast type item)) ++ [.ready none]

/-! ## One poll -/

/-- What a poll of a reader that is not over comes to, by the first poll that is left of the script.
-/
inductive ReadsRequest (type : ValueType) (begun fired : Bool) : List (Poll Outcome) →
    Poll (Option (OutcomeOf type)) × (Stream.ReadStage × List (Poll Outcome)) × Memory → Prop where
  | pause {left : List (Poll Outcome)} {memory : Memory} : fired = false →
      ReadsRequest type begun fired (.pending :: left) (.pending, (.reading, left), memory)
  | item {item : Outcome} {left : List (Poll Outcome)} {memory : Memory} :
      begun = true ∨ fired = false →
      ReadsRequest type begun fired (.ready item :: left)
        (.ready (some (Outcome.downcast type item)), (.idle, left), memory)
  | ended {memory : Memory} : begun = true ∨ fired = false →
      ReadsRequest type begun fired [] (.ready none, (.finished, []), memory)
  | prevented {left : List (Poll Outcome)} {memory : Memory} : begun = false → fired = true →
      ReadsRequest type begun fired left
        (.ready (some (.error .cancelled)), (.finished, left), memory)
  | interrupted {left : List (Poll Outcome)} {memory : Memory} : begun = true → fired = true →
      ReadsRequest type begun fired (.pending :: left)
        (.ready (some (.error .cancelled)), (.finished, left), memory)

theorem readsRequest_next {type : ValueType} {script : List (Poll Outcome)} {token : Token}
    {history : History} {memory : Memory} {stage : Stream.ReadStage} {left : List (Poll Outcome)}
    {polled : Poll (Option (OutcomeOf type)) × (Stream.ReadStage × List (Poll Outcome)) × Memory}
    (going : stage ≠ .finished)
    (next_eq : (requestReader type script token).next (stage, left) history memory = polled) :
    ReadsRequest type (stage = .reading) (history.hasFired token) left polled := by
  subst next_eq
  have raced := PollStep.raced (Stream.ofScript script).next token (stage = .reading) left history
    memory
  simp only [requestReader, ItemStream.downcast, Stream.map, Stream.cancellable, if_neg going]
  generalize PollStep.race (Stream.ofScript script).next token (stage = .reading) left history
    memory = answer at raced
  cases raced with
  | prevented fresh fired => exact .prevented fresh fired
  | waiting unfired polled =>
      rcases left with _ | ⟨_ | item, rest⟩ <;> cases polled
      exact .pause unfired
  | interrupted begun fired polled =>
      rcases left with _ | ⟨_ | item, rest⟩ <;> cases polled
      exact .interrupted begun fired
  | finished order polled =>
      rcases left with _ | ⟨_ | item, rest⟩ <;> cases polled
      · exact .ended order
      · exact .item order

/-! ## What is read -/

/-- What is read when all items are given: the first of them, and then possibly a cancellation. -/
inductive ReadSoFar {type : ValueType} (all : List (OutcomeOf type)) (fired : Bool) :
    List (OutcomeOf type) → Prop where
  | first {items : List (OutcomeOf type)} : items <+: all → ReadSoFar all fired items
  | cancelled {items : List (OutcomeOf type)} : fired = true → items <+: all →
      ReadSoFar all fired (items ++ [.error .cancelled])

/-- The answers of all polls after a firing, when some items have been read. -/
inductive LastReads {type : ValueType} (all items : List (OutcomeOf type)) :
    List (Poll (Option (OutcomeOf type))) → Prop where
  | interrupted : LastReads all items [.ready (some (.error .cancelled)), .ready none]
  | oneMore {item : OutcomeOf type} : items ++ [item] <+: all →
      LastReads all items
        [.ready (some item), .ready (some (.error .cancelled)), .ready none]
  | ended : items = all → LastReads all items [.ready none]

/-- What has been read and what is left make up all items, unless a cancellation came between. -/
inductive Reading {type : ValueType} (all : List (OutcomeOf type)) (fired : Bool) :
    Stream.ReadStage → List (Poll Outcome) → List (OutcomeOf type) → Prop where
  | reads {stage : Stream.ReadStage} {left : List (Poll Outcome)} {items : List (OutcomeOf type)} :
      stage ≠ .finished → items ++ Poll.requestItems type left = all →
      Reading all fired stage left items
  | complete {left : List (Poll Outcome)} : Reading all fired .finished left all
  | cancelled {left : List (Poll Outcome)} {items : List (OutcomeOf type)} : fired = true →
      items <+: all → Reading all fired .finished left (items ++ [.error .cancelled])

namespace Reading

variable {type : ValueType} {all items : List (OutcomeOf type)} {fired : Bool}
  {stage : Stream.ReadStage} {left : List (Poll Outcome)}

theorem readSoFar (reading : Reading all fired stage left items) : ReadSoFar all fired items := by
  cases reading with
  | reads _ parts => exact .first ⟨_, parts⟩
  | complete => exact .first List.prefix_rfl
  | cancelled isFired leads => exact .cancelled isFired leads

theorem mono {later : Bool} (stays : fired = true → later = true)
    (reading : Reading all fired stage left items) : Reading all later stage left items := by
  cases reading with
  | reads going parts => exact .reads going parts
  | complete => exact .complete
  | cancelled isFired leads => exact .cancelled (stays isFired) leads

/-- What a poll finds goes from what is left to what has been read. -/
theorem next {begun : Bool} (parts : items ++ Poll.requestItems type left = all)
    {polled : Poll (Option (OutcomeOf type)) × (Stream.ReadStage × List (Poll Outcome)) × Memory}
    (reads : ReadsRequest type begun fired left polled) :
    Reading all fired polled.2.1.1 polled.2.1.2 (items ++ polled.1.item?.toList) := by
  have leads : items <+: all := ⟨_, parts⟩
  cases reads with
  | @pause rest _ _ =>
      have rest_eq : Poll.requestItems type (.pending :: rest) = Poll.requestItems type rest := rfl
      refine .reads nofun ?_
      rw [← parts, rest_eq]
      simp [Poll.item?]
  | @item found rest _ _ =>
      have rest_eq : Poll.requestItems type (.ready found :: rest) =
          Outcome.downcast type found :: Poll.requestItems type rest := rfl
      refine .reads nofun ?_
      rw [← parts, rest_eq]
      simp [Poll.item?]
  | ended =>
      have items_eq : items ++ [] = all := parts
      show Reading all fired .finished [] (items ++ [])
      rw [items_eq]
      exact .complete
  | prevented _ isFired => exact .cancelled isFired leads
  | interrupted _ isFired => exact .cancelled isFired leads

/-- One poll of a reader. -/
theorem poll {script : List (Poll Outcome)} {token : Token} {history : History} {memory : Memory}
    (reading : Reading all (history.hasFired token) stage left items)
    {polled : Poll (Option (OutcomeOf type)) × (Stream.ReadStage × List (Poll Outcome)) × Memory}
    (next_eq : (requestReader type script token).next (stage, left) history memory = polled) :
    Reading all (history.hasFired token) polled.2.1.1 polled.2.1.2
      (items ++ polled.1.item?.toList) := by
  cases reading with
  | reads going parts => exact next parts (readsRequest_next going next_eq)
  | complete =>
      subst next_eq
      show Reading all _ .finished left (all ++ [])
      rw [List.append_nil]
      exact .complete
  | @cancelled _ shown fired leads =>
      subst next_eq
      show Reading all _ .finished left (shown ++ [.error .cancelled] ++ [])
      rw [List.append_nil]
      exact .cancelled fired leads

end Reading

section

variable {type : ValueType} {script : List (Poll Outcome)} {token : Token}

theorem finished_of_isEnd {stage : Stream.ReadStage} {left : List (Poll Outcome)}
    {history : History} {memory : Memory}
    {polled : Poll (Option (OutcomeOf type)) × (Stream.ReadStage × List (Poll Outcome)) × Memory}
    (next_eq : (requestReader type script token).next (stage, left) history memory = polled)
    (ended : polled.1.isEnd = true) : polled.2.1.1 = .finished := by
  by_cases going : stage = .finished
  · subst going next_eq
    rfl
  · have reads := readsRequest_next going next_eq
    cases reads with
    | ended => rfl
    | _ => cases ended

/-- What has been read and what is left fit together at a moment of a run. -/
structure ReadingAt (moment : (requestReader type script token).Moment) : Prop where
  reading : Reading (Poll.requestItems type script) (moment.history.hasFired token)
    (moment.state : Stream.ReadStage × List (Poll Outcome)).1 moment.state.2 moment.items
  finished : moment.isOver = true →
    (moment.state : Stream.ReadStage × List (Poll Outcome)).1 = .finished

theorem readingAt_run (memory : Memory) (turns : List Turn) :
    ReadingAt (((requestReader type script token).start memory).run turns) := by
  refine Stream.Moment.run_induction ?_ ?_ ?_ turns
  · refine ⟨?_, nofun⟩
    show Reading (Poll.requestItems type script) _ .idle script []
    exact .reads nofun rfl
  · intro moment event _ holds
    exact ⟨holds.reading.mono (History.hasFired_append [event]), holds.finished⟩
  · intro moment _ holds
    rcases next_eq : (requestReader type script token).next moment.state moment.history
      moment.memory with ⟨answer, after, memory⟩
    have items_eq := Stream.Moment.items_polled next_eq
    have polled_eq := Stream.Moment.polled_eq next_eq
    constructor
    · rw [items_eq, polled_eq]
      exact holds.reading.poll next_eq
    · rw [polled_eq]
      exact finished_of_isEnd next_eq

/-! ## What the polls find -/

/-- The answers of all polls of a reader while the token has not fired. -/
def relayedReads (type : ValueType) :
    Stream.ReadStage × List (Poll Outcome) → List (Poll (Option (OutcomeOf type)))
  | (.finished, _) => [.ready none]
  | (_, left) => Poll.requestPolls type left

/-- The answers of all polls of a reader after a firing. Only an item that was being read at that
time can still come. -/
def lastReads (type : ValueType) :
    Stream.ReadStage × List (Poll Outcome) → List (Poll (Option (OutcomeOf type)))
  | (.finished, _) => [.ready none]
  | (.reading, []) => [.ready none]
  | (.reading, .ready item :: _) =>
      [.ready (some (Outcome.downcast type item)), .ready (some (.error .cancelled)), .ready none]
  | _ => [.ready (some (.error .cancelled)), .ready none]

theorem relayedReads_of_going {stage : Stream.ReadStage} (going : stage ≠ .finished)
    (left : List (Poll Outcome)) :
    relayedReads type (stage, left) = Poll.requestPolls type left := by
  cases stage with
  | finished => exact absurd rfl going
  | _ => rfl

theorem relayedReads_foretold (state : Stream.ReadStage × List (Poll Outcome)) (history : History)
    (memory : Memory) (unfired : history.hasFired token = false) :
    @Stream.Moment.Foretold _ (requestReader type script token) (relayedReads type)
      (relayedReads type state)
      ((requestReader type script token).next state history memory) := by
  obtain ⟨stage, left⟩ := state
  by_cases going : stage = .finished
  · subst going
    rfl
  · generalize next_eq :
      (requestReader type script token).next (stage, left) history memory = polled
    have reads := readsRequest_next going next_eq
    rw [unfired] at reads
    rw [relayedReads_of_going going]
    cases reads with
    | prevented _ fired => cases fired
    | interrupted _ fired => cases fired
    | _ => rfl

theorem lastReads_foretold (state : Stream.ReadStage × List (Poll Outcome)) (history : History)
    (memory : Memory) (fired : history.hasFired token = true) :
    @Stream.Moment.Foretold _ (requestReader type script token) (lastReads type)
      (lastReads type state) ((requestReader type script token).next state history memory) := by
  obtain ⟨stage, left⟩ := state
  by_cases going : stage = .finished
  · subst going
    rfl
  · generalize next_eq :
      (requestReader type script token).next (stage, left) history memory = polled
    have reads := readsRequest_next going next_eq
    rw [fired] at reads
    cases reads with
    | pause unfired => cases unfired
    | item order =>
        obtain rfl : stage = .reading := by simpa using order
        rfl
    | ended order =>
        obtain rfl : stage = .reading := by simpa using order
        rfl
    | prevented fresh _ =>
        cases stage with
        | idle => rfl
        | reading => cases fresh
        | finished => exact absurd rfl going
    | interrupted begun _ =>
        obtain rfl : stage = .reading := by simpa using begun
        rfl

/-- What has been read when the token fires decides which answers can still come. -/
theorem Reading.lastReads {all items : List (OutcomeOf type)} {stage : Stream.ReadStage}
    {left : List (Poll Outcome)} (reading : Reading all false stage left items) :
    LastReads all items (RpcContracts.lastReads type (stage, left)) := by
  cases reading with
  | reads going parts =>
      cases stage with
      | idle => exact .interrupted
      | reading =>
          rcases left with _ | ⟨_ | item, rest⟩
          · exact .ended ((List.append_nil _).symm.trans parts)
          · exact .interrupted
          · refine .oneMore ⟨Poll.requestItems type rest, ?_⟩
            rw [← parts]
            simp [Poll.requestItems, Poll.readyItems]
      | finished => exact absurd rfl going
  | complete => exact .ended rfl
  | cancelled fired _ => cases fired

end

/-! ## Whole runs -/

/-- How an item of a transport is read at a type. -/
inductive ReadAs (type : ValueType) : Outcome → OutcomeOf type → Prop where
  | value (payload : PayloadOf type) : ReadAs type (.ok payload.val) (.ok payload)
  | mismatch {payload : Payload} : payload.type ≠ type →
      ReadAs type (.ok payload) (.error (.typeMismatch type.qualifiedName))
  | failure (error : RpcError) : ReadAs type (.error error) (.error error)

theorem readAs_downcast (type : ValueType) (item : Outcome) :
    ReadAs type item (Outcome.downcast type item) := by
  cases item with
  | error error => exact .failure error
  | ok payload =>
      by_cases same : payload.type = type
      · have read_eq : Outcome.downcast type (.ok payload) = .ok ⟨payload, same⟩ := by
          simp [Outcome.downcast, Payload.downcast, same]
        rw [read_eq]
        exact .value ⟨payload, same⟩
      · have read_eq : Outcome.downcast type (.ok payload) =
            .error (.typeMismatch type.qualifiedName) := by
          simp [Outcome.downcast, Payload.downcast, same]
        rw [read_eq]
        exact .mismatch same

/-- What holds of a request reader that has been run for some turns. -/
structure RequestsRead (type : ValueType) (script : List (Poll Outcome)) (token : Token)
    (turns : List Turn) (moment : (requestReader type script token).Moment) : Prop where
  in_order : ReadSoFar (Poll.requestItems type script) (moment.history.hasFired token) moment.items
  before_firing : moment.history.hasFired token = false →
    moment.found = (Poll.requestPolls type script).take (Turn.polls turns)
  after_firing : ∀ event, moment.isOver = false → moment.history.hasFired token = false →
    (moment.history ++ [event]).hasFired token = true →
    ∃ answers, LastReads (Poll.requestItems type script) moment.items answers ∧
      ∀ later, (moment.run (.outside event :: later)).found =
        moment.found ++ answers.take (Turn.polls later)
  at_end : moment.isOver = true → ∀ history memory,
    ((requestReader type script token).next moment.state history memory).1 = .ready none

theorem requestReader_run (type : ValueType) (script : List (Poll Outcome)) (token : Token)
    (memory : Memory) (turns : List Turn) :
    RequestsRead type script token turns
      (((requestReader type script token).start memory).run turns) := by
  generalize start_eq : (requestReader type script token).start memory = start
  have holds : ReadingAt (start.run turns) := start_eq ▸ readingAt_run memory turns
  refine ⟨holds.reading.readSoFar, ?_, ?_, ?_⟩
  · intro unfired
    have isOpen : start.isOver = false := by
      rw [← start_eq]
      rfl
    rw [Stream.Moment.found_before_firing relayedReads_foretold isOpen unfired, ← start_eq]
    rfl
  · intro event isOpen unfired fired
    have reading := holds.reading
    rw [unfired] at reading
    exact ⟨_, reading.lastReads,
      Stream.Moment.found_after_firing lastReads_foretold isOpen fired⟩
  · intro isOver history memory
    have finished := holds.finished isOver
    generalize (start.run turns).state = state at finished
    obtain ⟨stage, left⟩ := state
    obtain rfl : stage = .finished := finished
    rfl

/-! ## Handlers -/

theorem eq_ok_of_bind {ε α β : Type} {first : Except ε α} {next : α → Except ε β} {result : β}
    (bound : first >>= next = .ok result) :
    ∃ value, first = .ok value ∧ next value = .ok result := by
  cases first with
  | error error => cases bound
  | ok value => exact ⟨value, rfl, bound⟩

/-- The handler of calls that stream their requests has a reader of the declared type. -/
theorem HandlerForm.reader_of_ok {operation : Operation} {form : HandlerForm}
    (form_eq : HandlerForm.of operation = .ok form)
    (streams : form.callKind.streamsRequests = true) :
    ∃ request, operation.method.readerArgument = .ok request ∧
      ((∃ conclusion, form = .clientStreaming request conclusion) ∨
        ∃ responder, form = .duplexStreaming request responder) := by
  unfold HandlerForm.of at form_eq
  cases kind : operation.shape.callKind with
  | unary =>
      rw [kind] at form_eq
      obtain ⟨conclusion, -, rfl⟩ := eq_ok_of_map form_eq
      cases streams
  | clientStreaming =>
      rw [kind] at form_eq
      obtain ⟨conclusion, -, form_eq⟩ := eq_ok_of_bind form_eq
      obtain ⟨request, request_eq, form_eq⟩ := eq_ok_of_bind form_eq
      cases form_eq
      exact ⟨request, request_eq, .inl ⟨conclusion, rfl⟩⟩
  | serverStreaming =>
      rw [kind] at form_eq
      obtain ⟨responder, -, rfl⟩ := eq_ok_of_map form_eq
      cases streams
  | duplexStreaming =>
      rw [kind] at form_eq
      obtain ⟨responder, -, form_eq⟩ := eq_ok_of_bind form_eq
      obtain ⟨request, request_eq, form_eq⟩ := eq_ok_of_bind form_eq
      cases form_eq
      exact ⟨request, request_eq, .inr ⟨responder, rfl⟩⟩

theorem Signature.head_of_readerArgument {method : Signature} {argument : ValueType}
    (argument_eq : method.readerArgument = .ok argument) :
    ∃ request : DeclaredType, request.valueType = argument ∧
      method.params.head? = some (.wrapped .streamReader request) := by
  unfold readerArgument at argument_eq
  split at argument_eq
  · next request first_eq =>
      cases argument_eq
      exact ⟨request, rfl, first_eq⟩
  · cases argument_eq

namespace ServerHandler

/-- A method that takes a stream of requests gets a reader of their declared type. -/
theorem reader_argument {operation : Operation} {invoker : Invoker} {handler : ServerHandler}
    (handler_eq : ServerHandler.of operation invoker = .ok handler)
    (streams : handler.callKind.streamsRequests = true) :
    ∃ request : DeclaredType,
      operation.method.params.head? = some (.wrapped .streamReader request) ∧
        ∀ call, (handler.arguments call).head? = some (call.reader request.valueType) := by
  obtain ⟨argument, argument_eq, form⟩ := HandlerForm.reader_of_ok (form_of_ok handler_eq).1 streams
  obtain ⟨request, rfl, first_eq⟩ := Signature.head_of_readerArgument argument_eq
  refine ⟨request, first_eq, fun call => ?_⟩
  obtain ⟨conclusion, form_eq⟩ | ⟨_ | _, form_eq⟩ := form <;>
    simp [arguments, payloadArguments, form_eq]

/-- A method that takes a stream of requests reads what the transport sends, item by item and each
at the declared type, until the stream ends or the token of the call fires. -/
theorem requests_read {operation : Operation} {invoker : Invoker} {handler : ServerHandler}
    (handler_eq : ServerHandler.of operation invoker = .ok handler)
    (streams : handler.callKind.streamsRequests = true) :
    ∃ request : DeclaredType,
      operation.method.params.head? = some (.wrapped .streamReader request) ∧
        ∀ (call : IncomingCall) (script : List (Poll Outcome)),
          let type := request.valueType
          let token := call.context.token
          (handler.arguments { call with requests := .ofScript script }).head? =
              some (.wrapped .streamReader type (requestReader type script token)) ∧
            List.Forall₂ (ReadAs type) (Poll.readyItems script) (Poll.requestItems type script) ∧
            ∀ memory turns, RequestsRead type script token turns
              (((requestReader type script token).start memory).run turns) := by
  obtain ⟨request, first_eq, argument_eq⟩ := reader_argument handler_eq streams
  refine ⟨request, first_eq, fun call script => ⟨argument_eq _, ?_, ?_⟩⟩
  · rw [Poll.requestItems, List.forall₂_map_right_iff]
    exact List.forall₂_same.mpr fun item _ => readAs_downcast _ item
  · exact requestReader_run _ script _

end ServerHandler

namespace Sample

/-- The operation of the sample method that takes pings. -/
def collectedPings : Operation where
  name := "ClientStreaming"
  shape := ⟨.clientStreaming, .none, .deferred, false, ping, pong⟩
  method := clientStreaming

/-- A function of the sample method that leaves the pings unread. -/
def pingCollector : ServiceFunction where
  params := clientStreaming.params
  returns := clientStreaming.returns
  run := fun _ => Future.ready (.ok (pongOf 0 ""))

/-- A call of the sample method whose token can fire. -/
def pingsCall : IncomingCall where
  request := .payload .unit
  requests := .ofItems [] false
  responses := 0
  context :=
    ⟨"/Shapes.AllShapes/ClientStreaming", "ipv4:127.0.0.1:1", .empty, none, .named "stop", none⟩

/-- A pong among pings. -/
def mixedScript : List (Poll Outcome) :=
  [.ready (.ok (.message (.ping 1 "first"))), .pending, .ready (.ok (pongOf 2 "second").val),
    .ready (.ok (.message (.ping 3 "third"))), .pending, .pending]

/-- The token fires while a read waits after three items. -/
def stoppedReads : List Turn :=
  [.poll, .poll, .poll, .poll, .poll, .outside (.fired "stop"), .poll, .poll]

theorem collectedPings_read :
    ∃ handler, ServerHandler.of collectedPings pingCollector.invoker = .ok handler ∧
      handler.callKind.streamsRequests = true ∧
      let token := pingsCall.context.token
      let moment :=
        ((requestReader ping.valueType mixedScript token).start .fresh).run stoppedReads
      moment.items =
          [.ok ⟨.message (.ping 1 "first"), rfl⟩,
            .error (.typeMismatch "example_protocall_service_definition::messages::Ping"),
            .ok ⟨.message (.ping 3 "third"), rfl⟩, .error .cancelled] ∧
        RequestsRead ping.valueType mixedScript token stoppedReads moment := by
  obtain ⟨handler, handler_eq⟩ : ∃ handler,
      ServerHandler.of collectedPings pingCollector.invoker = .ok handler := ⟨_, rfl⟩
  have streams : handler.callKind.streamsRequests = true := by
    cases handler_eq
    rfl
  obtain ⟨request, first_eq, read⟩ := ServerHandler.requests_read handler_eq streams
  obtain rfl : request = ping := by
    cases first_eq
    rfl
  exact ⟨handler, handler_eq, streams, by decide +kernel,
    (read pingsCall mixedScript).2.2 .fresh stoppedReads⟩

end Sample

/-! ## Statuses -/

/-- An item that was read is the one sent in its place, or the cancellation. -/
theorem ReadSoFar.getElem?_eq {type : ValueType} {all items : List (OutcomeOf type)} {fired : Bool}
    (read : ReadSoFar all fired items) {index : Nat} {item : OutcomeOf type}
    (item_eq : items[index]? = some item) :
    all[index]? = some item ∨ fired = true ∧ item = .error .cancelled := by
  obtain ⟨bound, -⟩ := List.getElem?_eq_some_iff.mp item_eq
  cases read with
  | first leads =>
      obtain ⟨rest, rfl⟩ := leads
      rw [List.getElem?_append_left bound]
      exact .inl item_eq
  | @cancelled shown isFired leads =>
      obtain ⟨rest, rfl⟩ := leads
      by_cases early : index < shown.length
      · rw [List.getElem?_append_left early] at item_eq ⊢
        exact .inl item_eq
      · have last : index = shown.length := by
          rw [List.length_append, List.length_singleton] at bound
          omega
        subst last
        rw [List.getElem?_concat_length] at item_eq
        exact .inr ⟨isFired, (Option.some.inj item_eq).symm⟩

/-- What holds of the statuses that a reader comes across, whatever their codes. -/
structure StatusesRead (type : ValueType) (script : List (Poll Outcome)) (token : Token)
    (moment : (requestReader type script token).Moment) : Prop where
  /-- A status is read only in the place in which the transport sends it. -/
  sent : ∀ (index : Nat) (status : Status), moment.items[index]? = some (.error (.status status)) →
    (Poll.readyItems script)[index]? = some (.error (.status status))
  /-- A status that the transport sends is read unless the token ends the reader there. -/
  passed : ∀ (index : Nat) (status : Status),
    (Poll.readyItems script)[index]? = some (.error (.status status)) →
    ∀ read ∈ moment.items[index]?, read = .error (.status status) ∨
      moment.history.hasFired token = true ∧ read = .error .cancelled

theorem ReadSoFar.statusesRead {type : ValueType} {script : List (Poll Outcome)} {token : Token}
    {moment : (requestReader type script token).Moment}
    (inOrder : ReadSoFar (Poll.requestItems type script) (moment.history.hasFired token)
      moment.items) : StatusesRead type script token moment := by
  have sent_eq : ∀ index : Nat, (Poll.requestItems type script)[index]? =
      ((Poll.readyItems script)[index]?).map (Outcome.downcast type) := fun _ => List.getElem?_map
  constructor
  · intro index status status_eq
    obtain relayed | ⟨-, cancelled⟩ := inOrder.getElem?_eq status_eq
    · rw [sent_eq] at relayed
      obtain ⟨item, item_eq, read_eq⟩ := Option.map_eq_some_iff.mp relayed
      rw [item_eq, Outcome.eq_of_downcast_status read_eq]
    · cases cancelled
  · intro index status status_eq read read_eq
    obtain relayed | interrupted := inOrder.getElem?_eq (Option.mem_def.mp read_eq)
    · rw [sent_eq, status_eq] at relayed
      exact .inl (Option.some.inj relayed).symm
    · exact .inr interrupted

namespace ServerHandler

/-- A method that takes a stream of requests reads every status of the transport as it was sent,
also one that says that the call was cancelled. -/
theorem statuses_read {operation : Operation} {invoker : Invoker} {handler : ServerHandler}
    (handler_eq : ServerHandler.of operation invoker = .ok handler)
    (streams : handler.callKind.streamsRequests = true) :
    ∃ request : DeclaredType,
      operation.method.params.head? = some (.wrapped .streamReader request) ∧
        ∀ (call : IncomingCall) (script : List (Poll Outcome)),
          let reader := requestReader request.valueType script call.context.token
          (handler.arguments { call with requests := .ofScript script }).head? =
              some (.wrapped .streamReader request.valueType reader) ∧
            ∀ memory turns, StatusesRead request.valueType script call.context.token
              ((reader.start memory).run turns) := by
  obtain ⟨request, first_eq, argument_eq⟩ := reader_argument handler_eq streams
  refine ⟨request, first_eq, fun call script => ⟨argument_eq _, fun memory turns => ?_⟩⟩
  exact (requestReader_run _ script call.context.token memory turns).in_order.statusesRead

end ServerHandler

namespace Sample

/-- The status of a transport whose client has gone. -/
def clientAway : Status := .cancelled "client went away"

/-- The requests of a client that has gone. -/
def awayScript : List (Poll Outcome) := [.ready (.error (.status clientAway))]

theorem collectedPings_statuses :
    ∃ handler, ServerHandler.of collectedPings pingCollector.invoker = .ok handler ∧
      handler.callKind.streamsRequests = true ∧
      let moment := ((requestReader ping.valueType awayScript
        pingsCall.context.token).start .fresh).run [.poll]
      moment.items[0]? = some (.error (.status clientAway)) ∧
        (Poll.readyItems awayScript)[0]? = some (.error (.status clientAway)) := by
  obtain ⟨handler, handler_eq⟩ : ∃ handler,
      ServerHandler.of collectedPings pingCollector.invoker = .ok handler := ⟨_, rfl⟩
  have streams : handler.callKind.streamsRequests = true := by
    cases handler_eq
    rfl
  obtain ⟨request, first_eq, read⟩ := ServerHandler.statuses_read handler_eq streams
  obtain rfl : request = ping := by
    cases first_eq
    rfl
  have read_eq : (((requestReader ping.valueType awayScript
      pingsCall.context.token).start .fresh).run [.poll]).items[0]? =
      some (.error (.status clientAway)) := rfl
  exact ⟨handler, handler_eq, streams, read_eq,
    ((read pingsCall awayScript).2 .fresh [.poll]).sent 0 clientAway read_eq⟩

/-- The method reads the cancelled status of its transport, although its token has not fired. -/
theorem clientAway_read :
    ∃ handler, ServerHandler.of collectedPings pingCollector.invoker = .ok handler ∧
      handler.callKind = .clientStreaming ∧
      let call := { pingsCall with requests := Stream.ofScript awayScript }
      ∃ reader : ItemStream (PayloadOf ping.valueType),
        handler.arguments call = [.wrapped .streamReader ping.valueType reader] ∧
          let moment := (reader.start .fresh).run [.poll]
          moment.history = [] ∧ moment.items = [.error (.status clientAway)] ∧
            clientAway.code = .cancelled :=
  ⟨_, rfl, rfl, _, rfl, rfl, rfl, rfl⟩

end Sample

end RpcContracts
