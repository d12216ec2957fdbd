import RpcContracts.Proofs.Async.Findings

/-!
# Streams poll by poll

What a stream answers to any sequence of polls, each of which sees a history and a memory of its
own, also after the end. Mapping the items maps the answers one by one. A stage that works on the
values of a stream holds a value while the work on it is pending; if all work is over at once, the
stage answers as a map does.
-/

namespace RpcContracts

/-- What one poll sees. -/
structure View where
  /-- What has happened outside. -/
  history : History
  memory : Memory

namespace Stream

variable {α β : Type}

/-- What polls find one after another, and the memory that each of them leaves. -/
def answers (stream : Stream α) : List View → List (Poll (Option α) × Memory)
  | [] => []
  | view :: views =>
      match stream.step view.history view.memory with
      | (answer, stream, memory) => (answer, memory) :: stream.answers views

theorem answers_cons {stream : Stream α} {view : View} {answer : Poll (Option α)}
    {after : stream.State} {memory : Memory}
    (next_eq : stream.next stream.state view.history view.memory = (answer, after, memory))
    (views : List View) :
    stream.answers (view :: views) =
      (answer, memory) :: ({ stream with state := after } : Stream α).answers views := by
  simp only [answers, step, next_eq]

/-- If every poll of one stream finds the image of what a poll of another finds, so does every
sequence of polls. -/
theorem answers_carry {stream : Stream α} {other : Stream β} {image : stream.State → other.State}
    {values : Option α → Option β}
    (carries : ∀ state history memory,
      other.next (image state) history memory =
        PollStep.carry image values (stream.next state history memory))
    (state : stream.State) (views : List View) :
    ({ other with state := image state } : Stream β).answers views =
      (({ stream with state := state } : Stream α).answers views).map fun answered =>
        (answered.1.map values, answered.2) := by
  induction views generalizing state with
  | nil => rfl
  | cons view views ih =>
      have other_eq := carries state view.history view.memory
      rcases next_eq : stream.next state view.history view.memory with ⟨answer, after, memory⟩
      rw [next_eq] at other_eq
      rw [@answers_cons α { stream with state := state } _ _ _ _ next_eq,
        @answers_cons β { other with state := image state } _ _ _ _ other_eq, List.map_cons]
      exact congrArg _ (ih after)

/-- Mapping the items maps the answers, each in its place. -/
theorem answers_map (function : α → β) (stream : Stream α) (views : List View) :
    (stream.map function).answers views =
      (stream.answers views).map fun answered =>
        (answered.1.map (Option.map function), answered.2) :=
  @answers_carry α β stream (stream.map function) id (Option.map function) (fun _ _ _ => rfl)
    stream.state views

namespace Mirror

/-- No sequence of polls tells the two streams apart. -/
theorem answers_eq {stream other : Stream α} (mirror : Mirror stream other) (views : List View) :
    other.answers views = stream.answers views := by
  have carried := answers_carry mirror.next_eq stream.state views
  rw [← mirror.state_eq] at carried
  refine carried.trans ((List.map_congr_left fun answered _ => ?_).trans (List.map_id _))
  rcases answered with ⟨_ | found, memory⟩ <;> rfl

/-- Items that are mapped and mapped back. -/
def ofLeftInverse {function : α → β} {back : β → α} (inverse : Function.LeftInverse back function)
    (stream : Stream α) : Mirror stream ((stream.map function).map back) where
  image := id
  state_eq := rfl
  next_eq := by
    intro state history memory
    have values_eq : Option.map back ∘ Option.map function = id := by
      rw [Option.map_comp_map, Function.LeftInverse.id inverse, Option.map_id]
    refine (PollStep.carry_carry id id (Option.map function) (Option.map back)
      (stream.next state history memory)).trans ?_
    rw [values_eq]
    rfl

end Mirror
end Stream

/-! ## Stages -/

namespace ItemStream

variable {α β : Type}

/-- The states of a stage: the stream and, if one is held, a value with the work on it. -/
abbrev StageState (stream : ItemStream α) (work : α → Task β) : Type :=
  stream.State × Option (Σ value : α, (work value).State)

/-- Poll the work on a value, which is held for as long as the work is pending. -/
def pollWork (stream : ItemStream α) (work : α → Task β) (state : stream.State) (value : α)
    (working : (work value).State) (history : History) (memory : Memory) :
    Poll (Option (Except RpcError β)) × stream.StageState work × Memory :=
  match (work value).poll working history memory with
  | (.pending, working, memory) => (.pending, (state, some ⟨value, working⟩), memory)
  | (.ready result, _, memory) => (.ready (some result), (state, none), memory)

/-- Poll the work on the value that is held, or else read the next one. -/
def pollStage (stream : ItemStream α) (work : α → Task β) :
    PollStep (stream.StageState work) (Option (Except RpcError β)) := fun stage history memory =>
  match stage with
  | (state, some ⟨value, working⟩) => stream.pollWork work state value working history memory
  | (state, none) =>
      match stream.next state history memory with
      | (.pending, state, memory) => (.pending, (state, none), memory)
      | (.ready none, state, memory) => (.ready none, (state, none), memory)
      | (.ready (some (.error error)), state, memory) =>
          (.ready (some (.error error)), (state, none), memory)
      | (.ready (some (.ok value)), state, memory) =>
          stream.pollWork work state value (work value).state history memory

theorem eq_none_of_pollWork {stream : ItemStream α} {work : α → Task β} {state : stream.State}
    {value : α} {working : (work value).State} {history : History} {memory memoryAfter : Memory}
    {item : Except RpcError β} {after : stream.StageState work}
    (polled : stream.pollWork work state value working history memory =
      (.ready (some item), after, memoryAfter)) : after = (state, none) := by
  unfold pollWork at polled
  split at polled
  · cases polled
  · cases polled
    rfl

/-- A stream whose values are worked on, one after another. Errors pass. -/
def andThen (stream : ItemStream α) (work : α → Task β) : ItemStream β where
  State := stream.StageState work
  state := (stream.state, none)
  next := stream.pollStage work
  budget := fun stage history => stream.budget stage.1 history + stage.2.elim 0 fun _ => 1
  budget_lt := by
    rintro ⟨state, _ | ⟨value, working⟩⟩ history memory item after memoryAfter polled
    · unfold pollStage at polled
      simp only at polled
      split at polled
      · cases polled
      · cases polled
      · next polledInner =>
          cases polled
          exact stream.budget_lt polledInner
      · next polledInner =>
          rw [eq_none_of_pollWork polled]
          exact stream.budget_lt polledInner
    · rw [eq_none_of_pollWork polled]
      exact Nat.lt_succ_self _

/-- If all work is over at once, nothing is ever held. -/
def andThen_ready (stream : ItemStream α) (function : α → Except RpcError β) :
    Stream.Mirror (stream.map fun item => item.bind function)
      (stream.andThen fun value => .ready (function value)) where
  image := fun state => (state, none)
  state_eq := rfl
  next_eq := by
    intro state history memory
    rcases next_eq : stream.next state history memory
      with ⟨_ | _ | error | value, after, memoryAfter⟩ <;>
      simp only [Stream.map, andThen, pollStage, next_eq] <;> rfl

end ItemStream
end RpcContracts
