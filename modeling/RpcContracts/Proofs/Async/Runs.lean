import RpcContracts.Async.Cancellation

/-!
# Runs of polled work

A run is a sequence of turns: in some of them something happens outside, in the others the work is
polled. It ends with the work, at the value of a future or at the end of a stream. What one turn
preserves, a whole run preserves.
-/

namespace RpcContracts

inductive Turn where
  | outside (event : Event)
  | poll

/-- The number of polls among some turns. -/
def Turn.polls : List Turn → Nat
  | [] => 0
  | .outside _ :: turns => polls turns
  | .poll :: turns => polls turns + 1

theorem History.not_hasFired_of_append {history later : History} {token : Token}
    (unfired : (history ++ later).hasFired token = false) : history.hasFired token = false := by
  rw [Bool.eq_false_iff] at unfired ⊢
  exact fun fired => unfired (History.hasFired_append later fired)

/-! ## Races -/

namespace PollStep

variable {State : Type} {α : Type u}

/-- What a poll of work that is raced against a token comes to. -/
inductive Raced (poll : PollStep State α) (token : Token) (begun : Bool) (state : State)
    (history : History) (memory : Memory) : Poll (Option α) × State × Memory → Prop where
  /-- The token had fired before the first poll. -/
  | prevented : begun = false → history.hasFired token = true →
      Raced poll token begun state history memory (.ready none, state, memory)
  | finished {value : α} {after : State} {memoryAfter : Memory} :
      (begun = true ∨ history.hasFired token = false) →
      poll state history memory = (.ready value, after, memoryAfter) →
      Raced poll token begun state history memory (.ready (some value), after, memoryAfter)
  | interrupted {after : State} {memoryAfter : Memory} : begun = true →
      history.hasFired token = true →
      poll state history memory = (.pending, after, memoryAfter) →
      Raced poll token begun state history memory (.ready none, after, memoryAfter)
  | waiting {after : State} {memoryAfter : Memory} : history.hasFired token = false →
      poll state history memory = (.pending, after, memoryAfter) →
      Raced poll token begun state history memory (.pending, after, memoryAfter)

theorem raced (poll : PollStep State α) (token : Token) (begun : Bool) (state : State)
    (history : History) (memory : Memory) :
    Raced poll token begun state history memory (race poll token begun state history memory) := by
  cases fired : history.hasFired token with
  | false =>
      rcases polled : poll state history memory with ⟨_ | value, after, memoryAfter⟩
      · simpa [race, fired, polled] using Raced.waiting fired polled
      · simpa [race, fired, polled] using Raced.finished (.inr fired) polled
  | true =>
      cases begun with
      | false => simpa [race, fired] using Raced.prevented rfl fired
      | true =>
          rcases polled : poll state history memory with ⟨_ | value, after, memoryAfter⟩
          · simpa [race, fired, polled] using Raced.interrupted rfl fired polled
          · simpa [race, fired, polled] using Raced.finished (.inl rfl) polled

theorem unfired_of_race_pending {poll : PollStep State α} {token : Token} {begun : Bool}
    {state after : State} {history : History} {memory memoryAfter : Memory}
    (raced_eq : race poll token begun state history memory = (.pending, after, memoryAfter)) :
    history.hasFired token = false := by
  have raced := raced poll token begun state history memory
  rw [raced_eq] at raced
  cases raced with
  | waiting unfired => exact unfired

theorem fired_of_race_none {poll : PollStep State α} {token : Token} {begun : Bool}
    {state after : State} {history : History} {memory memoryAfter : Memory}
    (raced_eq : race poll token begun state history memory = (.ready none, after, memoryAfter)) :
    history.hasFired token = true := by
  have raced := raced poll token begun state history memory
  rw [raced_eq] at raced
  cases raced with
  | prevented _ fired => exact fired
  | interrupted _ fired _ => exact fired

theorem begun_of_race_some {poll : PollStep State α} {token : Token} {begun : Bool}
    {state after : State} {history : History} {memory memoryAfter : Memory} {value : α}
    (raced_eq : race poll token begun state history memory =
      (.ready (some value), after, memoryAfter)) (fired : history.hasFired token = true) :
    begun = true := by
  have raced := raced poll token begun state history memory
  rw [raced_eq] at raced
  cases raced with
  | finished order _ => exact order.resolve_right (by simp [fired])

/-- Every poll relates the memory before it to the memory after it. -/
def Relates (poll : PollStep State α) (relation : Memory → Memory → Prop) : Prop :=
  ∀ state history memory, relation memory (poll state history memory).2.2

/-- A race polls the work once at most. -/
theorem Relates.race {poll : PollStep State α} {relation : Memory → Memory → Prop}
    (relates : poll.Relates relation) (refl : ∀ memory, relation memory memory) (token : Token)
    (begun : Bool) : (PollStep.race poll token begun).Relates relation := by
  intro state history memory
  have related := relates state history memory
  have raced := raced poll token begun state history memory
  generalize PollStep.race poll token begun state history memory = answer at raced
  cases raced with
  | prevented => exact refl memory
  | finished _ polled => rwa [polled] at related
  | interrupted _ _ polled => rwa [polled] at related
  | waiting _ polled => rwa [polled] at related

end PollStep

/-! ## Futures -/

namespace Future

variable {α : Type} {future : Future α}

theorem relates_cancellable {task : Task α} {relation : Memory → Memory → Prop}
    (relates : task.poll.Relates relation) (refl : ∀ memory, relation memory memory)
    (token : Token) : (task.cancellable token).poll.Relates relation :=
  fun (begun, state) history memory => relates.race refl token begun state history memory

/-- A caller that blocks polls the work, and nothing else. -/
theorem relates_runFor {relation : Memory → Memory → Prop} (relates : future.poll.Relates relation)
    (trans : ∀ {before between after}, relation before between → relation between after →
      relation before after) (polls : Nat) (history : History) (memory : Memory) :
    relation memory (runFor polls future history memory).2 := by
  induction polls generalizing future memory with
  | zero =>
      have related := relates future.state history memory
      unfold runFor step
      generalize future.poll future.state history memory = polled at related
      rcases polled with ⟨_ | value, state, memory⟩ <;> exact related
  | succ polls ih =>
      have related := relates future.state history memory
      unfold runFor step
      generalize future.poll future.state history memory = polled at related
      rcases polled with ⟨_ | value, state, memory⟩
      · exact trans related (@ih { future with state := state } relates memory)
      · exact related

/-- A future in a run. -/
structure Moment (future : Future α) where
  state : future.State
  /-- What has happened outside since the run began. -/
  history : History
  memory : Memory
  /-- The value, once a poll has found it. -/
  result : Option α

def start (future : Future α) (memory : Memory) : future.Moment := ⟨future.state, [], memory, none⟩

namespace Moment

/-- The moment after one more poll. -/
def polled (moment : future.Moment) : future.Moment :=
  match future.poll moment.state moment.history moment.memory with
  | (.pending, state, memory) => ⟨state, moment.history, memory, none⟩
  | (.ready value, state, memory) => ⟨state, moment.history, memory, some value⟩

/-- The moment after one turn. -/
def turn (moment : future.Moment) (turn : Turn) : future.Moment :=
  match moment.result, turn with
  | some _, _ => moment
  | none, .outside event => { moment with history := moment.history ++ [event] }
  | none, .poll => moment.polled

/-- After the value nothing more happens. -/
theorem turn_of_result {moment : future.Moment} {value : α} (ended : moment.result = some value)
    (turn : Turn) : moment.turn turn = moment := by
  simp only [Moment.turn, ended]

theorem turn_outside {moment : future.Moment} (going : moment.result = none) (event : Event) :
    moment.turn (.outside event) = { moment with history := moment.history ++ [event] } := by
  simp only [Moment.turn, going]

theorem turn_poll {moment : future.Moment} (going : moment.result = none) :
    moment.turn .poll = moment.polled := by
  simp only [Moment.turn, going]

theorem history_polled (moment : future.Moment) : moment.polled.history = moment.history := by
  unfold polled
  split <;> rfl

theorem history_turn (moment : future.Moment) (turn : Turn) :
    ∃ later, (moment.turn turn).history = moment.history ++ later := by
  cases going : moment.result with
  | some value => exact ⟨[], by rw [turn_of_result going, List.append_nil]⟩
  | none =>
      cases turn with
      | outside event => exact ⟨[event], by rw [turn_outside going]⟩
      | poll => exact ⟨[], by rw [turn_poll going, history_polled, List.append_nil]⟩

def run (moment : future.Moment) (turns : List Turn) : future.Moment :=
  turns.foldl Moment.turn moment

theorem run_of_result {moment : future.Moment} {value : α} (ended : moment.result = some value)
    (turns : List Turn) : moment.run turns = moment := by
  induction turns with
  | nil => rfl
  | cons turn turns ih =>
      rw [run, List.foldl_cons, turn_of_result ended]
      exact ih

theorem run_outside {moment : future.Moment} (going : moment.result = none) (event : Event)
    (turns : List Turn) : moment.run (.outside event :: turns) =
      run { moment with history := moment.history ++ [event] } turns := by
  rw [run, List.foldl_cons, turn_outside going]
  rfl

theorem run_poll {moment : future.Moment} (going : moment.result = none) (turns : List Turn) :
    moment.run (.poll :: turns) = moment.polled.run turns := by
  rw [run, List.foldl_cons, turn_poll going]
  rfl

/-- What every event and every poll preserves holds throughout a run. -/
theorem run_induction {holds : future.Moment → Prop} {moment : future.Moment}
    (first : holds moment)
    (outside : ∀ (moment : future.Moment) (event : Event), moment.result = none → holds moment →
      holds { moment with history := moment.history ++ [event] })
    (polled : ∀ moment : future.Moment, moment.result = none → holds moment → holds moment.polled)
    (turns : List Turn) : holds (moment.run turns) := by
  induction turns generalizing moment with
  | nil => exact first
  | cons turn turns ih =>
      apply ih
      unfold Moment.turn
      split
      · exact first
      · exact outside _ _ (by assumption) first
      · exact polled _ (by assumption) first

end Moment

/-- Once its token has fired, cancellable work is over after one more poll. -/
theorem cancellable_ready {task : Task α} {token : Token}
    {moment : (task.cancellable token).Moment} (fired : moment.history.hasFired token = true) :
    (moment.turn .poll).result.isSome = true := by
  obtain ⟨⟨begun, state⟩, history, memory, _ | value⟩ := moment
  · have raced := PollStep.raced task.poll token begun state history memory
    simp only [Moment.turn, Moment.polled, cancellable]
    generalize PollStep.race task.poll token begun state history memory = answer at raced
    cases raced with
    | waiting unfired => cases unfired.symm.trans fired
    | _ => rfl
  · rfl

end Future

/-! ## Streams -/

/-- The item that a poll of a stream found. -/
def Poll.item? {α : Type} : Poll (Option α) → Option α
  | pending => none
  | ready item => item

/-- Whether a poll of a stream found the end. -/
def Poll.isEnd {α : Type} : Poll (Option α) → Bool
  | ready none => true
  | _ => false

namespace Stream

variable {α : Type} {stream : Stream α}

/-- A stream in a run. -/
structure Moment (stream : Stream α) where
  state : stream.State
  /-- What has happened outside since the run began. -/
  history : History
  memory : Memory
  /-- What the polls have found, oldest first. -/
  found : List (Poll (Option α))
  /-- Whether a poll has found the end. -/
  isOver : Bool

def start (stream : Stream α) (memory : Memory) : stream.Moment :=
  ⟨stream.state, [], memory, [], false⟩

namespace Moment

/-- The items that the polls have found. -/
def items (moment : stream.Moment) : List α := moment.found.filterMap Poll.item?

def polled (moment : stream.Moment) : stream.Moment :=
  match stream.next moment.state moment.history moment.memory with
  | (poll, state, memory) => ⟨state, moment.history, memory, moment.found ++ [poll], poll.isEnd⟩

theorem polled_eq {moment : stream.Moment} {answer : Poll (Option α)} {state : stream.State}
    {memory : Memory}
    (next_eq : stream.next moment.state moment.history moment.memory = (answer, state, memory)) :
    moment.polled = ⟨state, moment.history, memory, moment.found ++ [answer], answer.isEnd⟩ := by
  rw [polled, next_eq]

theorem items_polled {moment : stream.Moment} {answer : Poll (Option α)} {state : stream.State}
    {memory : Memory}
    (next_eq : stream.next moment.state moment.history moment.memory = (answer, state, memory)) :
    moment.polled.items = moment.items ++ answer.item?.toList := by
  rw [items, items, polled_eq next_eq, List.filterMap_append]
  cases answer with
  | pending => rfl
  | ready item => cases item <;> rfl

/-- The moment after one turn. -/
def turn (moment : stream.Moment) (turn : Turn) : stream.Moment :=
  match moment.isOver, turn with
  | true, _ => moment
  | false, .outside event => { moment with history := moment.history ++ [event] }
  | false, .poll => moment.polled

def run (moment : stream.Moment) (turns : List Turn) : stream.Moment :=
  turns.foldl Moment.turn moment

/-- After the end nothing more happens. -/
theorem run_of_isOver {moment : stream.Moment} (isOver : moment.isOver = true)
    (turns : List Turn) : moment.run turns = moment := by
  induction turns with
  | nil => rfl
  | cons turn turns ih =>
      have turn_eq : moment.turn turn = moment := by simp only [Moment.turn, isOver]
      rw [run, List.foldl_cons, turn_eq]
      exact ih

theorem run_outside {moment : stream.Moment} (isOpen : moment.isOver = false) (event : Event)
    (turns : List Turn) : moment.run (.outside event :: turns) =
      run { moment with history := moment.history ++ [event] } turns := by
  simp only [run, List.foldl_cons, Moment.turn, isOpen]

theorem run_poll {moment : stream.Moment} (isOpen : moment.isOver = false) (turns : List Turn) :
    moment.run (.poll :: turns) = moment.polled.run turns := by
  simp only [run, List.foldl_cons, Moment.turn, isOpen]

/-- What every event and every poll preserves holds throughout a run. -/
theorem run_induction {holds : stream.Moment → Prop} {moment : stream.Moment}
    (first : holds moment)
    (outside : ∀ (moment : stream.Moment) (event : Event), moment.isOver = false → holds moment →
      holds { moment with history := moment.history ++ [event] })
    (polled : ∀ moment : stream.Moment, moment.isOver = false → holds moment →
      holds moment.polled)
    (turns : List Turn) : holds (moment.run turns) := by
  induction turns generalizing moment with
  | nil => exact first
  | cons turn turns ih =>
      apply ih
      unfold Moment.turn
      split
      · exact first
      · exact outside _ _ (by assumption) first
      · exact polled _ (by assumption) first

theorem history_run (moment : stream.Moment) (turns : List Turn) :
    ∃ later, (moment.run turns).history = moment.history ++ later := by
  let grown (reached : stream.Moment) : Prop := moment.history <+: reached.history
  have grows : grown (moment.run turns) := by
    refine run_induction List.prefix_rfl ?_ (fun reached _ grows => grows) turns
    intro reached event _ grows
    exact grows.trans (List.prefix_append reached.history [event])
  obtain ⟨later, history_eq⟩ := grows
  exact ⟨later, history_eq.symm⟩

theorem hasFired_run {token : Token} {moment : stream.Moment}
    (fired : moment.history.hasFired token = true) (turns : List Turn) :
    (moment.run turns).history.hasFired token = true := by
  obtain ⟨later, history_eq⟩ := moment.history_run turns
  rw [history_eq]
  exact History.hasFired_append later fired

/-- A token that has not fired at the end of a run had not fired before. -/
theorem not_hasFired_front {token : Token} {moment : stream.Moment} {turns front : List Turn}
    (unfired : (moment.run turns).history.hasFired token = false) (leads : front <+: turns) :
    (moment.run front).history.hasFired token = false := by
  obtain ⟨back, rfl⟩ := leads
  obtain ⟨later, history_eq⟩ := (moment.run front).history_run back
  have run_eq : moment.run (front ++ back) = (moment.run front).run back := List.foldl_append
  rw [run_eq, history_eq] at unfired
  exact History.not_hasFired_of_append unfired

/-- A poll gives the first of the answers foretold, and the others are foretold by the state it
leads to. -/
def Foretold (answers : stream.State → List (Poll (Option α))) (all : List (Poll (Option α)))
    (polled : Poll (Option α) × stream.State × Memory) : Prop :=
  all = polled.1 :: if polled.1.isEnd then [] else answers polled.2.1

/-- If the state foretells the answers of all polls during a run, each poll takes the first of them
and nothing else shortens them. -/
theorem found_of_foretold {answers : stream.State → List (Poll (Option α))}
    {during : History → Prop}
    (foretold : ∀ state history memory, during history →
      Foretold answers (answers state) (stream.next state history memory))
    {moment : stream.Moment} (isOpen : moment.isOver = false) (turns : List Turn)
    (throughout : ∀ front, front <+: turns → during (moment.run front).history) :
    (moment.run turns).found = moment.found ++ (answers moment.state).take (Turn.polls turns) := by
  induction turns generalizing moment with
  | nil => simp [run, Turn.polls]
  | cons turn turns ih =>
      cases turn with
      | outside event =>
          have later : ∀ front, front <+: turns →
              during (run { moment with history := moment.history ++ [event] } front).history := by
            intro front leads
            rw [← run_outside isOpen]
            exact throughout _ (List.cons_prefix_cons.mpr ⟨rfl, leads⟩)
          rw [run_outside isOpen]
          exact ih isOpen later
      | poll =>
          have polled := foretold moment.state moment.history moment.memory
            (throughout [] List.nil_prefix)
          rcases next_eq : stream.next moment.state moment.history moment.memory
            with ⟨answer, after, memory⟩
          have polled_eq := Moment.polled_eq next_eq
          rw [next_eq] at polled
          rw [run_poll isOpen, polled]
          cases ended : answer.isEnd with
          | true =>
              have isOver : moment.polled.isOver = true := by rw [polled_eq, ended]
              rw [run_of_isOver isOver, polled_eq]
              simp [Turn.polls]
          | false =>
              have stillOpen : moment.polled.isOver = false := by rw [polled_eq, ended]
              have later : ∀ front, front <+: turns → during (moment.polled.run front).history := by
                intro front leads
                rw [← run_poll isOpen]
                exact throughout _ (List.cons_prefix_cons.mpr ⟨rfl, leads⟩)
              rw [ih stillOpen later, polled_eq]
              simp [Turn.polls]

/-- Answers that are foretold as long as a token has not fired are given until it fires. -/
theorem found_before_firing {token : Token} {answers : stream.State → List (Poll (Option α))}
    (foretold : ∀ state history memory, history.hasFired token = false →
      Foretold answers (answers state) (stream.next state history memory))
    {moment : stream.Moment} (isOpen : moment.isOver = false) {turns : List Turn}
    (unfired : (moment.run turns).history.hasFired token = false) :
    (moment.run turns).found = moment.found ++ (answers moment.state).take (Turn.polls turns) :=
  found_of_foretold foretold isOpen turns fun _ leads => not_hasFired_front unfired leads

/-- Answers that are foretold once a token has fired are given from the firing on. -/
theorem found_after_firing {token : Token} {answers : stream.State → List (Poll (Option α))}
    (foretold : ∀ state history memory, history.hasFired token = true →
      Foretold answers (answers state) (stream.next state history memory))
    {moment : stream.Moment} (isOpen : moment.isOver = false) {event : Event}
    (fired : (moment.history ++ [event]).hasFired token = true) (later : List Turn) :
    (moment.run (.outside event :: later)).found =
      moment.found ++ (answers moment.state).take (Turn.polls later) := by
  let fromNow : stream.Moment := { moment with history := moment.history ++ [event] }
  have openNow : fromNow.isOver = false := isOpen
  rw [run_outside isOpen]
  exact found_of_foretold foretold openNow later fun front _ => hasFired_run fired front

/-! ### Mapped streams -/

variable {β : Type} (function : α → β)

/-- The moment at which the items are mapped. -/
def mapped (moment : stream.Moment) : (stream.map function).Moment where
  state := moment.state
  history := moment.history
  memory := moment.memory
  found := moment.found.map (Poll.map (Option.map function))
  isOver := moment.isOver

theorem items_mapped (moment : stream.Moment) :
    (moment.mapped function).items = moment.items.map function := by
  rw [items, items, mapped, List.filterMap_map, List.map_filterMap]
  congr
  funext answer
  cases answer with
  | pending => rfl
  | ready item => cases item <;> rfl

theorem polled_mapped (moment : stream.Moment) :
    (moment.mapped function).polled = moment.polled.mapped function := by
  rcases next_eq : stream.next moment.state moment.history moment.memory
    with ⟨answer, after, memory⟩
  have mapped_eq : (stream.map function).next (moment.mapped function).state moment.history
      moment.memory = (answer.map (Option.map function), after, memory) := by
    simp only [Stream.map, mapped, next_eq]
  have isEnd_eq : (answer.map (Option.map function)).isEnd = answer.isEnd := by
    cases answer with
    | pending => rfl
    | ready item => cases item <;> rfl
  rw [polled_eq next_eq, polled_eq mapped_eq, isEnd_eq]
  simp [mapped]

/-- A mapped stream runs as the stream does. -/
theorem run_mapped (moment : stream.Moment) (turns : List Turn) :
    (moment.mapped function).run turns = (moment.run turns).mapped function := by
  induction turns generalizing moment with
  | nil => rfl
  | cons turn turns ih =>
      cases isOver : moment.isOver with
      | true =>
          have mapped_isOver : (moment.mapped function).isOver = true := isOver
          rw [run_of_isOver isOver, run_of_isOver mapped_isOver]
      | false =>
          have mapped_isOpen : (moment.mapped function).isOver = false := isOver
          cases turn with
          | outside event =>
              rw [run_outside isOver, run_outside mapped_isOpen]
              exact ih { moment with history := moment.history ++ [event] }
          | poll =>
              rw [run_poll isOver, run_poll mapped_isOpen, polled_mapped]
              exact ih moment.polled

end Moment

/-- A stream whose polls go through a script of pauses and items and then find the end. -/
@[reducible]
def ofScript (script : List (Poll α)) : Stream α where
  State := List (Poll α)
  state := script
  next := fun left _ memory =>
    match left with
    | [] => (.ready none, [], memory)
    | .pending :: rest => (.pending, rest, memory)
    | .ready item :: rest => (.ready (some item), rest, memory)
  budget := fun left _ => left.length
  budget_lt := by
    intro left history memory item after memoryAfter polled
    match left with
    | [] => simp at polled
    | .pending :: rest => simp at polled
    | .ready first :: rest =>
        simp only [Prod.mk.injEq] at polled
        simp [← polled.2.1]

end Stream

/-- The items of a script. -/
def Poll.readyItems {α : Type} (script : List (Poll α)) : List α :=
  script.filterMap fun
    | pending => none
    | ready item => some item

end RpcContracts
