import RpcContracts.Async.Stream

/-!
# Cancellation

Work is raced against a token. If the token has fired before the first poll, the work is not polled
at all. Otherwise every poll polls the work first, and only work that is still pending is
interrupted by a token that has fired.
-/

namespace RpcContracts

/-- Poll work against a token. `begun` tells whether the work has been polled before, and no value
stands for an interruption. -/
def PollStep.race {State : Type} {α : Type u} (poll : PollStep State α) (token : Token)
    (begun : Bool) : PollStep State (Option α) := fun state history memory =>
  if !begun && history.hasFired token then (.ready none, state, memory)
  else
    match poll state history memory with
    | (.ready value, state, memory) => (.ready (some value), state, memory)
    | (.pending, state, memory) =>
        (if history.hasFired token then .ready none else .pending, state, memory)

theorem PollStep.race_some {State : Type} {α : Type u} {poll : PollStep State α} {token : Token}
    {begun : Bool} {state after : State} {history : History} {memory memoryAfter : Memory}
    {value : α}
    (raced : PollStep.race poll token begun state history memory =
      (.ready (some value), after, memoryAfter)) :
    poll state history memory = (.ready value, after, memoryAfter) := by
  unfold PollStep.race at raced
  split at raced
  · simp at raced
  · split at raced
    · next polled =>
        simp only [Prod.mk.injEq, Poll.ready.injEq, Option.some.injEq] at raced
        obtain ⟨rfl, rfl, rfl⟩ := raced
        exact polled
    · split at raced <;> simp at raced

/-- The result of raced work: an interruption is a cancellation, and a cancelled status is too. -/
def raceResult {α : Type} : Option (Except RpcError α) → Except RpcError α
  | none => .error .cancelled
  | some (.ok value) => .ok value
  | some (.error error) => .error error.normalize

namespace Future

/-- A task that a token cancels. -/
def cancellable {α : Type} (token : Token) (task : Task α) : Task α where
  State := Bool × task.State
  state := (false, task.state)
  poll := fun (begun, state) history memory =>
    match PollStep.race task.poll token begun state history memory with
    | (poll, state, memory) => (poll.map raceResult, (true, state), memory)
  waits := fun (_, state) => task.waits state

end Future

namespace Stream

/-- How far a stream that a token cancels has come. -/
inductive ReadStage where
  /-- No read is in progress. -/
  | idle
  /-- A read has been polled and was pending. -/
  | reading
  /-- The stream is over. -/
  | finished
  deriving DecidableEq

/-- A stream that a token ends with one cancellation. Items, also failed ones, pass unchanged. -/
def cancellable {α : Type} (token : Token) (stream : ItemStream α) : ItemStream α where
  State := ReadStage × stream.State
  state := (.idle, stream.state)
  next := fun (stage, state) history memory =>
    if stage = .finished then (.ready none, (.finished, state), memory)
    else
      match PollStep.race stream.next token (stage = .reading) state history memory with
      | (.pending, state, memory) => (.pending, (.reading, state), memory)
      | (.ready (some (some item)), state, memory) => (.ready (some item), (.idle, state), memory)
      | (.ready (some none), state, memory) => (.ready none, (.finished, state), memory)
      | (.ready none, state, memory) =>
          (.ready (some (.error .cancelled)), (.finished, state), memory)
  budget := fun (stage, state) history =>
    if stage = .finished then 0 else stream.budget state history + 1
  budget_lt := by
    rintro ⟨stage, state⟩ history memory item ⟨stageAfter, stateAfter⟩ memoryAfter polled
    by_cases isOver : stage = .finished
    · simp [isOver] at polled
    · simp only [isOver, if_false] at polled ⊢
      split at polled
      · simp at polled
      · next raced =>
          simp only [Prod.mk.injEq] at polled
          obtain ⟨-, ⟨rfl, rfl⟩, -⟩ := polled
          simpa using stream.budget_lt (PollStep.race_some raced)
      · simp at polled
      · simp only [Prod.mk.injEq] at polled
        obtain ⟨-, ⟨rfl, -⟩, -⟩ := polled
        simp

end Stream
end RpcContracts
