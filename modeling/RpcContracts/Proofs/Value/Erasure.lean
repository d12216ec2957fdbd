import RpcContracts.Client.Table
import RpcContracts.Proofs.Async.Stages
import RpcContracts.Proofs.Server.Requests

/-!
# Erased and recovered streams

A caller erases the items of a reader or of returned responses, and the other side recovers them
at a type. Erasing and recovering are inverse to each other, poll by poll. Of erased items of any
types, those of the type are recovered as they are, and each of the others becomes an error in its
place.
-/

namespace RpcContracts

/-! ## Adapters -/

namespace Value

/-- The items of a reader of a type, erased. -/
def unwrapReader (type : ValueType) (value : Value) : Except RpcError (ItemStream Payload) :=
  (value.downcast (.wrapped .streamReader type)).map fun reader => ItemStream.erase reader

/-- A reader of a type over erased items. -/
def wrapReader (type : ValueType) (items : ItemStream Payload) : Value :=
  .wrapped .streamReader type (ItemStream.downcast type items)

/-- Returned responses of a type, erased. -/
def eraseResponses (type : ValueType) (value : Value) : Except RpcError (ItemStream Payload) :=
  (value.downcast (.wrapped .responseStream type)).map fun responses => ItemStream.erase responses

theorem unwrapReader_reader (type : ValueType) (items : ItemStream (PayloadOf type)) :
    unwrapReader type (.wrapped .streamReader type items) = .ok (ItemStream.erase items) :=
  congrArg (Except.map _) (downcast_ofCarrier (.wrapped .streamReader type) items)

theorem downcast_wrapReader (type : ValueType) (items : ItemStream Payload) :
    (wrapReader type items).downcast (.wrapped .streamReader type) =
      .ok (ItemStream.downcast type items) :=
  downcast_ofCarrier (.wrapped .streamReader type) (ItemStream.downcast type items)

theorem eraseResponses_responses (type : ValueType) (items : ItemStream (PayloadOf type)) :
    eraseResponses type (.wrapped .responseStream type items) = .ok (ItemStream.erase items) :=
  congrArg (Except.map _) (downcast_ofCarrier (.wrapped .responseStream type) items)

end Value

/-- A client hands on the items of the reader that it is called with. -/
theorem ClientMethod.takeStream_cons (method : ClientMethod) (type : ValueType) (value : Value)
    (rest : List Value) :
    method.takeStream type (value :: rest) =
      (value.unwrapReader type).bind fun requests =>
        (takeOptions method.contextKind rest).map fun input => ⟨requests, input.1, input.2⟩ := by
  simp only [takeStream, takeTyped, takeAny, Value.unwrapReader]
  cases value.downcast (.wrapped .streamReader type) <;> rfl

/-- A server calls its method with a reader of what the transport sends. -/
theorem IncomingCall.reader_eq (call : IncomingCall) (type : ValueType) :
    call.reader type =
      Value.wrapReader type (Stream.cancellable call.context.token call.requests) := rfl

/-- A server pumps the responses that its method returns. -/
theorem ServerHandler.deliver_responses (type : ValueType) (call : IncomingCall)
    (returned : Except RpcError Value) :
    deliver (.stream type) call returned =
      (returned.bind (Value.eraseResponses type)).map fun responses =>
        ItemStream.pump responses call.context.token (.direct call.responses) := by
  cases returned with
  | error error => rfl
  | ok value =>
      simp only [deliver, Except.bind, Value.eraseResponses, bind]
      cases value.downcast (.wrapped .responseStream type) <;> rfl

/-! ## Answers -/

/-- How what a poll of erased items finds is found at a type. -/
inductive FoundAs (type : ValueType) :
    Poll (Option Outcome) → Poll (Option (OutcomeOf type)) → Prop where
  | pending : FoundAs type .pending .pending
  | ended : FoundAs type (.ready none) (.ready none)
  | item {item : Outcome} {read : OutcomeOf type} : ReadAs type item read →
      FoundAs type (.ready (some item)) (.ready (some read))

theorem foundAs_downcast (type : ValueType) (found : Poll (Option Outcome)) :
    FoundAs type found (found.map (Option.map (Outcome.downcast type))) := by
  rcases found with _ | _ | item
  · exact .pending
  · exact .ended
  · exact .item (readAs_downcast type item)

namespace ItemStream

/-- Every poll of recovered items finds what the poll of the erased ones finds, at the type. -/
theorem answers_downcast (type : ValueType) (items : ItemStream Payload) (views : List View) :
    List.Forall₂ (fun erased read => FoundAs type erased.1 read.1 ∧ read.2 = erased.2)
      (items.answers views) ((downcast type items).answers views) := by
  rw [downcast, Stream.answers_map, List.forall₂_map_right_iff, List.forall₂_same]
  exact fun answered _ => ⟨foundAs_downcast type answered.1, rfl⟩

theorem answers_downcast_erase {type : ValueType} (items : ItemStream (PayloadOf type))
    (views : List View) : (downcast type (erase items)).answers views = items.answers views :=
  (Stream.Mirror.ofLeftInverse Outcome.downcast_ofTyped items).answers_eq views

/-- Recovering every value in a stage of its own comes to the same. -/
theorem answers_andThen_downcast (type : ValueType) (items : ItemStream Payload)
    (views : List View) :
    (items.andThen fun payload => .ready (payload.downcast type)).answers views =
      (downcast type items).answers views := by
  have read_eq : Outcome.downcast type = fun item => item.bind (Payload.downcast type) := by
    funext item
    cases item <;> rfl
  rw [downcast, read_eq]
  exact (items.andThen_ready (Payload.downcast type)).answers_eq views

end ItemStream

/-- Streams of a type keep their answers when they are erased and recovered, and erased streams
lose nothing but the values of other types. -/
structure ValueType.RecoversStreams (type : ValueType) : Prop where
  /-- What a client hands on of the reader that it is called with. -/
  taken : ∀ (method : ClientMethod) (value : Value) (rest : List Value),
    method.takeStream type (value :: rest) =
      (value.unwrapReader type).bind fun requests =>
        (ClientMethod.takeOptions method.contextKind rest).map fun input =>
          ⟨requests, input.1, input.2⟩
  /-- The reader that a server calls its method with. -/
  handed : ∀ call : IncomingCall, call.reader type =
    Value.wrapReader type (Stream.cancellable call.context.token call.requests)
  /-- What a server pumps of the responses that its method returns. -/
  pumped : ∀ (call : IncomingCall) (returned : Except RpcError Value),
    ServerHandler.deliver (.stream type) call returned =
      (returned.bind (Value.eraseResponses type)).map fun responses =>
        ItemStream.pump responses call.context.token (.direct call.responses)
  /-- A reader that is unwrapped and wrapped again answers every poll as before. -/
  reader : ∀ items : ItemStream (PayloadOf type), ∃ erased recovered,
    Value.unwrapReader type (.wrapped .streamReader type items) = .ok erased ∧
      (Value.wrapReader type erased).downcast (.wrapped .streamReader type) = .ok recovered ∧
      ∀ views, Stream.answers recovered views = items.answers views
  /-- Responses that are erased and returned by a client answer every poll as before. -/
  responses : ∀ items : ItemStream (PayloadOf type), ∃ erased,
    Value.eraseResponses type (.wrapped .responseStream type items) = .ok erased ∧
      ∀ views, ((CallOutcome.streaming erased).toResponses type).answers views =
        items.answers views
  /-- A reader of erased items of any types answers as they do, with each item read at the type. -/
  mixed : ∀ items : ItemStream Payload, ∃ recovered,
    (Value.wrapReader type items).downcast (.wrapped .streamReader type) = .ok recovered ∧
      ∀ views, List.Forall₂ (fun erased read => FoundAs type erased.1 read.1 ∧ read.2 = erased.2)
        (items.answers views) (Stream.answers recovered views)
  /-- A stage for each value, which might hold it for a while, answers as the recovered items. -/
  staged : ∀ (items : ItemStream Payload) (views : List View),
    (items.andThen fun payload => .ready (payload.downcast type)).answers views =
      (ItemStream.downcast type items).answers views

/-- Erasing and recovering the items of a stream is the identity, poll by poll. -/
theorem ValueType.streams_recovered (type : ValueType) : type.RecoversStreams where
  taken method value rest := method.takeStream_cons type value rest
  handed call := call.reader_eq type
  pumped call returned := ServerHandler.deliver_responses type call returned
  reader items :=
    ⟨_, _, Value.unwrapReader_reader type items, Value.downcast_wrapReader type _,
      items.answers_downcast_erase⟩
  responses items :=
    ⟨_, Value.eraseResponses_responses type items, items.answers_downcast_erase⟩
  mixed items := ⟨_, Value.downcast_wrapReader type items, items.answers_downcast type⟩
  staged items views := items.answers_andThen_downcast type views

/-- A ping among pongs is an error in its place, and the pause after it stays where it is. -/
example : ((ItemStream.downcast (.message .pong) (Stream.ofScript
      [.ready (.ok (.message (.ping 1 "first"))), .pending,
        .ready (.ok (.message (.pong 2 "second")))])).answers (List.replicate 4 ⟨[], .fresh⟩)).map
      (fun answered => answered.1.map (Option.map Outcome.ofTyped)) =
    [.ready (some (.error (.typeMismatch (ValueType.message .pong).qualifiedName))), .pending,
      .ready (some (.ok (.message (.pong 2 "second")))), .ready none] := rfl

end RpcContracts
