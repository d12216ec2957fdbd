import RpcContracts.Session.Serve

/-!
# Sessions on a handler made by hand

A handler is built for an operation of any description, over a function that gives up all of its
arguments and always returns the same.
-/

namespace RpcContracts

/-- What the function returns. -/
inductive KnownReturn where
  /-- The function fails. -/
  | failure (error : RpcError)
  | payload (payload : Payload)
  /-- A wrapper with known content: one outcome, or the items of a stream. -/
  | wrapped (wrapper : Wrapper) (argument : ValueType) (outcomes : List Outcome)

namespace KnownReturn

/-- The content of a wrapper. -/
def content (argument : ValueType) (outcomes : List (OutcomeOf argument)) :
    (wrapper : Wrapper) → wrapper.Carrier argument
  | .task => Future.ready (single outcomes)
  | .valueTask => .inline (some (single outcomes))
  | .fallible => ⟨single outcomes⟩
  | .streamReader => Stream.ofItems outcomes false
  | .streamWriter => ⟨.typed ServeInput.responseChannel none⟩
  | .responseStream => Stream.ofItems outcomes false
where
  /-- The one outcome. -/
  single (outcomes : List (OutcomeOf argument)) : OutcomeOf argument :=
    outcomes.headD (.error (.invalidOperation "no result"))

/-- The returned value. -/
def value : KnownReturn → Except RpcError Value
  | failure error => .error error
  | payload data => .ok (.payload data)
  | wrapped wrapper argument outcomes =>
      .ok (.wrapped wrapper argument
        (content argument (outcomes.map (Outcome.downcast argument)) wrapper))

end KnownReturn

/-- Give up values: the channels of writers among them are shut. -/
def Memory.giveUp (memory : Memory) (values : List Value) : Memory :=
  values.foldl
    (fun memory value =>
      match value with
      | .wrapped .streamWriter _ writer => writer.down.drop memory
      | _ => memory)
    memory

/-- The arguments that the function of a handler gets, and the answers of steps on the handled call.
-/
def ServerHandler.session (handler : ServerHandler) (input : ServeInput)
    (steps : List ServeStep) : List Payload × List Answer :=
  match (handler.serveWith handler.invoker.recorded input.incoming input.memory).run [] with
  | ((call, memory), calls) =>
      let arguments := calls.flatten
      (arguments.map Value.toPayload,
        runSteps ServeSession.answer
          (ServeSession.ofCall input call (memory.giveUp arguments)) steps)

end RpcContracts
