import RpcContracts.Async.Transform
import RpcContracts.Async.ValueTask
import RpcContracts.Proofs.Async.Runs

/-!
# What polls find

What a run, a blocking caller or a machine made from others finds, polls of the machine itself have
found on the way, one after another, with the history growing between them and the memory passed on.
Two machines whose polls find the same, along a map of their states, cannot be told apart by any
run.
-/

namespace RpcContracts

/-! ## Answers carried along maps -/

namespace PollStep

/-- An answer with its value and its state mapped. -/
def carry {State Other : Type} {α β : Type u} (image : State → Other) (values : α → β)
    (polled : Poll α × State × Memory) : Poll β × Other × Memory :=
  (polled.1.map values, image polled.2.1, polled.2.2)

theorem carry_carry {State Other Third : Type} {α β γ : Type u} (image : State → Other)
    (next : Other → Third) (values : α → β) (others : β → γ) (polled : Poll α × State × Memory) :
    carry next others (carry image values polled) =
      carry (next ∘ image) (others ∘ values) polled := by
  rcases polled with ⟨_ | value, state, memory⟩ <;> rfl

/-- What a poll finds may be mapped before or after its state is. -/
theorem carry_values {State Other : Type} {α β : Type u} {image : State → Other} (values : α → β)
    {polled : Poll α × State × Memory} {other : Poll α × Other × Memory}
    (carried : other = carry image id polled) :
    carry id values other = carry image id (carry id values polled) := by
  rw [carried, carry_carry, carry_carry]
  rfl

theorem race_carry {State Other : Type} {α β : Type u} {poll : PollStep State α}
    {other : PollStep Other β} {image : State → Other} {values : α → β}
    (carries : ∀ state history memory,
      other (image state) history memory = carry image values (poll state history memory))
    (token : Token) (begun : Bool) (state : State) (history : History) (memory : Memory) :
    race other token begun (image state) history memory =
      carry image (Option.map values) (race poll token begun state history memory) := by
  unfold race
  split
  · rfl
  · rw [carries]
    rcases poll state history memory with ⟨_ | value, after, memoryAfter⟩
    · simp only [carry, Poll.map_pending]
      split <;> rfl
    · rfl

end PollStep

/-! ## Values that are found -/

/-- What happens outside in some turns. -/
def Turn.events : List Turn → History
  | [] => []
  | .outside event :: turns => event :: events turns
  | .poll :: turns => events turns

/-- Something that comes before all of a history has come about. -/
def Within (happened : History) : History → Memory → Prop := fun history _ => history <+: happened

namespace PollStep

variable {State : Type} {α : Type u}

/-- From a state, a history and a memory on, polls find a value, perhaps after other answers and
after more has happened outside; what comes next starts where the value was found. -/
inductive Finds (poll : PollStep State α) (value : α) (next : History → Memory → Prop) :
    State → History → Memory → Prop where
  | outside {state : State} {history : History} {memory : Memory} (event : Event) :
      Finds poll value next state (history ++ [event]) memory →
      Finds poll value next state history memory
  | later {state after : State} {history : History} {memory memoryAfter : Memory}
      {answer : Poll α} : poll state history memory = (answer, after, memoryAfter) →
      Finds poll value next after history memoryAfter → Finds poll value next state history memory
  | now {state after : State} {history : History} {memory memoryAfter : Memory} :
      poll state history memory = (.ready value, after, memoryAfter) → next history memoryAfter →
      Finds poll value next state history memory

variable {poll : PollStep State α} {token : Token} {begun : Bool} {state after : State}
  {happened history : History} {memory memoryAfter : Memory} {value : α}
  {next : History → Memory → Prop}

theorem Finds.reached (finds : Finds poll value (Within happened) state history memory) :
    history <+: happened := by
  induction finds with
  | outside event _ ih => exact (List.prefix_append _ _).trans ih
  | later _ _ ih => exact ih
  | now _ reached => exact reached

/-- What follows from what comes next can be told before. -/
theorem Finds.deduce {rest : History → Memory → Prop} {fact : Prop}
    (deduced : ∀ history memory, next history memory → fact ∧ rest history memory)
    (finds : Finds poll value next state history memory) :
    fact ∧ Finds poll value rest state history memory := by
  induction finds with
  | outside event _ ih => exact ⟨ih.1, .outside event ih.2⟩
  | later polled _ ih => exact ⟨ih.1, .later polled ih.2⟩
  | now polled goesOn =>
      obtain ⟨known, goesOn⟩ := deduced _ _ goesOn
      exact ⟨known, .now polled goesOn⟩

/-- A race polls the work once or not at all. -/
theorem Finds.of_race {answer : Poll (Option α)}
    (raced_eq : race poll token begun state history memory = (answer, after, memoryAfter))
    (finds : Finds poll value next after history memoryAfter) :
    Finds poll value next state history memory := by
  have raced := raced poll token begun state history memory
  rw [raced_eq] at raced
  cases raced with
  | prevented => exact finds
  | finished _ polled => exact .later polled finds
  | interrupted _ _ polled => exact .later polled finds
  | waiting _ polled => exact .later polled finds

/-- What is found among mapped values is the image of what is found. -/
theorem finds_carry {β : Type u} {values : α → β} {mapped : PollStep State β}
    (carries : ∀ state history memory,
      mapped state history memory = carry id values (poll state history memory)) {image : β}
    (finds : Finds mapped image next state history memory) :
    ∃ source, Finds poll source next state history memory ∧ image = values source := by
  induction finds with
  | outside event _ ih =>
      obtain ⟨source, finds, image_eq⟩ := ih
      exact ⟨source, .outside event finds, image_eq⟩
  | @later state after history memory memoryAfter answer polled _ ih =>
      obtain ⟨source, finds, image_eq⟩ := ih
      rw [carries] at polled
      rcases inner : poll state history memory with ⟨found, afterInner, memoryInner⟩
      rw [inner] at polled
      cases polled
      exact ⟨source, .later inner finds, image_eq⟩
  | @now state after history memory memoryAfter polled goesOn =>
      rw [carries] at polled
      rcases inner : poll state history memory with ⟨_ | source, afterInner, memoryInner⟩ <;>
        rw [inner] at polled <;> cases polled
      exact ⟨source, .now inner goesOn, rfl⟩

end PollStep

namespace Future

variable {α β : Type} {future : Future α} {happened history : History} {memory : Memory}
  {next : History → Memory → Prop}

/-- A future is found to have a value. -/
def Finds (future : Future α) (value : α) (next : History → Memory → Prop) (history : History)
    (memory : Memory) : Prop :=
  future.poll.Finds value next future.state history memory

theorem finds_ready {known value : α}
    (finds : (Future.ready known).Finds value next history memory) : value = known := by
  unfold Finds at finds
  generalize (Future.ready known).state = state at finds
  induction finds with
  | outside _ _ ih => exact ih
  | later _ _ ih => exact ih
  | now polled _ =>
      cases polled
      rfl

theorem finds_map {function : α → β} {value : β}
    (finds : (future.map function).Finds value next history memory) :
    ∃ source, future.Finds source next history memory ∧ value = function source :=
  PollStep.finds_carry (fun _ _ _ => rfl) finds

/-- A token only adds the cancellation to what a task can end with. -/
theorem finds_cancellable {task : Task α} {token : Token} {result : Except RpcError α}
    (finds : (task.cancellable token).Finds result next history memory) :
    result = .error .cancelled ∨
      ∃ value, task.Finds value next history memory ∧ result = raceResult (some value) := by
  unfold Finds at finds ⊢
  have state_eq : task.state = (task.cancellable token).state.2 := rfl
  rw [state_eq]
  generalize (task.cancellable token).state = state at finds
  induction finds with
  | outside event _ ih =>
      obtain cancelled | ⟨value, finds, result_eq⟩ := ih
      · exact .inl cancelled
      · exact .inr ⟨value, .outside event finds, result_eq⟩
  | @later state after history memory memoryAfter answer polled _ ih =>
      obtain cancelled | ⟨value, finds, result_eq⟩ := ih
      · exact .inl cancelled
      · rcases raced_eq : PollStep.race task.poll token state.1 state.2 history memory
          with ⟨found, afterRace, memoryRace⟩
        simp only [cancellable, raced_eq] at polled
        cases polled
        exact .inr ⟨value, finds.of_race raced_eq, result_eq⟩
  | @now state after history memory memoryAfter polled goesOn =>
      rcases raced_eq : PollStep.race task.poll token state.1 state.2 history memory
        with ⟨_ | _ | value, afterRace, memoryRace⟩ <;>
        simp only [cancellable, raced_eq] at polled <;> cases polled
      · exact .inl rfl
      · exact .inr ⟨value, .now (PollStep.race_some raced_eq) goesOn, rfl⟩

/-- A blocking caller polls until the value is found. -/
theorem finds_of_block {value : α} (reached : history <+: happened)
    (found : (future.block history memory).1 = some value) :
    future.Finds value (Within happened) history memory := by
  unfold block at found
  generalize future.waits future.state = polls at found
  induction polls generalizing future memory with
  | zero =>
      rcases polled : future.poll future.state history memory
        with ⟨_ | result, after, memoryAfter⟩ <;>
        simp only [runFor, step, polled] at found <;> cases found
      exact .now polled reached
  | succ polls ih =>
      rcases polled : future.poll future.state history memory
        with ⟨_ | result, after, memoryAfter⟩ <;> simp only [runFor, step, polled] at found
      · exact .later polled (ih found)
      · cases found
        exact .now polled reached

/-- The turns of a run are those in which the value is found. -/
theorem finds_of_run {moment : future.Moment} {turns : List Turn} {value : α}
    (going : moment.result = none) (reached : moment.history ++ Turn.events turns <+: happened)
    (found : (moment.run turns).result = some value) :
    future.poll.Finds value (Within happened) moment.state moment.history moment.memory := by
  induction turns generalizing moment with
  | nil => cases going.symm.trans found
  | cons turn turns ih =>
      cases turn with
      | outside event =>
          rw [Moment.run_outside going] at found
          have rest : moment.history ++ [event] ++ Turn.events turns <+: happened := by
            rw [List.append_assoc]
            exact reached
          exact .outside event
            (@ih { moment with history := moment.history ++ [event] } going rest found)
      | poll =>
          rw [Moment.run_poll going] at found
          rcases polled : future.poll moment.state moment.history moment.memory
            with ⟨_ | result, after, memoryAfter⟩ <;> simp only [Moment.polled, polled] at found
          · exact .later polled (@ih ⟨after, moment.history, memoryAfter, none⟩ rfl reached found)
          · rw [Moment.run_of_result rfl] at found
            cases found
            exact .now polled ((List.prefix_append _ _).trans reached)

end Future

theorem Poll.eq_of_item? {α : Type} {answer : Poll (Option α)} {item : α}
    (item_eq : answer.item? = some item) : answer = .ready (some item) := by
  cases answer with
  | pending => cases item_eq
  | ready found => rw [← item_eq]; rfl

namespace Stream

variable {α β : Type} {stream : Stream α} {happened history : History} {memory : Memory}
  {next : History → Memory → Prop}

/-- A stream is found to yield an item. -/
def Finds (stream : Stream α) (item : α) (next : History → Memory → Prop) (history : History)
    (memory : Memory) : Prop :=
  stream.next.Finds (some item) next stream.state history memory

theorem finds_map {function : α → β} {item : β}
    (finds : (stream.map function).Finds item next history memory) :
    ∃ source, stream.Finds source next history memory ∧ item = function source := by
  have carries : ∀ state history memory, (stream.map function).next state history memory =
      PollStep.carry id (Option.map function) (stream.next state history memory) :=
    fun _ _ _ => rfl
  obtain ⟨found, inner, item_eq⟩ := PollStep.finds_carry carries finds
  obtain ⟨source, rfl, rfl⟩ := Option.map_eq_some_iff.mp item_eq.symm
  exact ⟨source, inner, rfl⟩

theorem finds_ofItems {items : List α} {staysOpen : Bool} {item : α}
    (finds : (Stream.ofItems items staysOpen).Finds item next history memory) : item ∈ items := by
  have found_in : ∀ (left : List α) (history : History) (memory : Memory),
      (Stream.ofItems items staysOpen).next.Finds (some item) next left history memory →
        item ∈ left := by
    intro left history memory finds
    induction finds with
    | outside _ _ ih => exact ih
    | @later left after history memory memoryAfter answer polled _ ih =>
        cases left with
        | nil =>
            cases polled
            exact ih
        | cons first rest =>
            cases polled
            exact List.mem_cons_of_mem first ih
    | @now left after history memory memoryAfter polled _ =>
        cases left with
        | nil => cases staysOpen <;> cases polled
        | cons first rest =>
            cases polled
            exact List.mem_cons_self
  exact found_in items history memory finds

/-- The turns of a run are those in which its items are found. -/
theorem finds_of_run {moment : stream.Moment} {turns : List Turn} {item : α}
    (reached : moment.history ++ Turn.events turns <+: happened)
    (found : item ∈ (moment.run turns).items) :
    item ∈ moment.items ∨
      stream.next.Finds (some item) (Within happened) moment.state moment.history
        moment.memory := by
  induction turns generalizing moment with
  | nil => exact .inl found
  | cons turn turns ih =>
      cases isOver : moment.isOver with
      | true =>
          rw [Moment.run_of_isOver isOver] at found
          exact .inl found
      | false =>
          cases turn with
          | outside event =>
              rw [Moment.run_outside isOver] at found
              have rest : moment.history ++ [event] ++ Turn.events turns <+: happened := by
                rw [List.append_assoc]
                exact reached
              exact (@ih { moment with history := moment.history ++ [event] } rest found).imp id
                (.outside event)
          | poll =>
              rw [Moment.run_poll isOver] at found
              rcases polled : stream.next moment.state moment.history moment.memory
                with ⟨answer, after, memoryAfter⟩
              have items_eq := Moment.items_polled polled
              rw [Moment.polled_eq polled] at items_eq found
              obtain earlier | finds := @ih ⟨after, moment.history, memoryAfter,
                moment.found ++ [answer], answer.isEnd⟩ reached found
              · rw [items_eq] at earlier
                obtain earlier | latest := List.mem_append.mp earlier
                · exact .inl earlier
                · obtain rfl := Poll.eq_of_item? (Option.mem_toList.mp latest)
                  exact .inr (.now polled ((List.prefix_append _ _).trans reached))
              · exact .inr (.later polled finds)

end Stream

/-! ## Machines that find the same -/

theorem Future.map_map {α β γ : Type} (future : Future α) (function : α → β) (other : β → γ) :
    (future.map function).map other = future.map (other ∘ function) := by
  unfold map
  congr 1
  funext state history memory
  exact PollStep.carry_carry id id function other (future.poll state history memory)

/-- A map of states along which the polls of two futures find the same. -/
structure Future.Mirror {α : Type} (future other : Future α) where
  image : future.State → other.State
  state_eq : other.state = image future.state
  waits_eq : ∀ state, other.waits (image state) = future.waits state
  poll_eq : ∀ state history memory,
    other.poll (image state) history memory =
      PollStep.carry image id (future.poll state history memory)

namespace Future.Mirror

variable {α β : Type} {future other : Future α}

/-- The mirror of a future that has been polled. -/
def moved (mirror : Mirror future other) (state : future.State) :
    Mirror { future with state := state } { other with state := mirror.image state } :=
  ⟨mirror.image, rfl, mirror.waits_eq, mirror.poll_eq⟩

protected def map (mirror : Mirror future other) (function : α → β) :
    Mirror (future.map function) (other.map function) where
  image := mirror.image
  state_eq := mirror.state_eq
  waits_eq := mirror.waits_eq
  poll_eq := fun state history memory =>
    PollStep.carry_values function (mirror.poll_eq state history memory)

/-- The mirror of a future that changes the memory when it is over. -/
protected def whenOver (mirror : Mirror future other) (finish : Memory → Memory) :
    Mirror (future.whenOver finish) (other.whenOver finish) where
  image := mirror.image
  state_eq := mirror.state_eq
  waits_eq := mirror.waits_eq
  poll_eq := by
    intro state history memory
    have polled := mirror.poll_eq state history memory
    simp only [whenOver]
    rw [polled]
    rcases future.poll state history memory with ⟨_ | value, after, memoryAfter⟩ <;> rfl

theorem runFor_eq (mirror : Mirror future other) (polls : Nat) (history : History)
    (memory : Memory) : runFor polls other history memory = runFor polls future history memory := by
  induction polls generalizing future other memory with
  | zero =>
      unfold runFor step
      rw [mirror.state_eq, mirror.poll_eq]
      rcases future.poll future.state history memory with ⟨_ | value, after, memoryAfter⟩ <;> rfl
  | succ polls ih =>
      unfold runFor step
      rw [mirror.state_eq, mirror.poll_eq]
      rcases future.poll future.state history memory with ⟨_ | value, after, memoryAfter⟩
      · exact ih (mirror.moved after) memoryAfter
      · rfl

theorem block_eq (mirror : Mirror future other) (history : History) (memory : Memory) :
    other.block history memory = future.block history memory := by
  unfold block
  rw [mirror.state_eq, mirror.waits_eq]
  exact mirror.runFor_eq _ history memory

/-- A moment with the mirrored state. -/
def moment (mirror : Mirror future other) (moment : future.Moment) : other.Moment :=
  ⟨mirror.image moment.state, moment.history, moment.memory, moment.result⟩

theorem polled_eq (mirror : Mirror future other) (moment : future.Moment) :
    (mirror.moment moment).polled = mirror.moment moment.polled := by
  have polled := mirror.poll_eq moment.state moment.history moment.memory
  unfold Moment.polled
  simp only [Mirror.moment]
  rw [polled]
  rcases future.poll moment.state moment.history moment.memory with ⟨_ | value, after, memory⟩ <;>
    rfl

theorem turn_eq (mirror : Mirror future other) (moment : future.Moment) (turn : Turn) :
    (mirror.moment moment).turn turn = mirror.moment (moment.turn turn) := by
  cases going : moment.result with
  | some value =>
      have ended : (mirror.moment moment).result = some value := going
      rw [Moment.turn_of_result going, Moment.turn_of_result ended]
  | none =>
      have open_yet : (mirror.moment moment).result = none := going
      cases turn with
      | outside event =>
          rw [Moment.turn_outside going, Moment.turn_outside open_yet]
          rfl
      | poll =>
          rw [Moment.turn_poll going, Moment.turn_poll open_yet]
          exact mirror.polled_eq moment

/-- No run tells the two futures apart. -/
theorem run_eq (mirror : Mirror future other) (moment : future.Moment) (turns : List Turn) :
    (mirror.moment moment).run turns = mirror.moment (moment.run turns) := by
  induction turns generalizing moment with
  | nil => rfl
  | cons turn turns ih =>
      exact (congrArg (Moment.run · turns) (mirror.turn_eq moment turn)).trans (ih _)

theorem result_eq (mirror : Mirror future other) (history : History) (memory : Memory)
    (turns : List Turn) :
    (Moment.run ⟨other.state, history, memory, none⟩ turns : other.Moment).result =
      (Moment.run ⟨future.state, history, memory, none⟩ turns : future.Moment).result := by
  have moments_eq := mirror.run_eq ⟨future.state, history, memory, none⟩ turns
  rw [mirror.state_eq]
  exact congrArg Moment.result moments_eq

end Future.Mirror

/-- A map of states along which the polls of two streams find the same. -/
structure Stream.Mirror {α : Type} (stream other : Stream α) where
  image : stream.State → other.State
  state_eq : other.state = image stream.state
  next_eq : ∀ state history memory,
    other.next (image state) history memory =
      PollStep.carry image id (stream.next state history memory)

namespace Stream.Mirror

variable {α β : Type} {stream other : Stream α}

protected def map (mirror : Mirror stream other) (function : α → β) :
    Mirror (stream.map function) (other.map function) where
  image := mirror.image
  state_eq := mirror.state_eq
  next_eq := fun state history memory =>
    PollStep.carry_values (Option.map function) (mirror.next_eq state history memory)

/-- A moment with the mirrored state. -/
def moment (mirror : Mirror stream other) (moment : stream.Moment) : other.Moment :=
  ⟨mirror.image moment.state, moment.history, moment.memory, moment.found, moment.isOver⟩

theorem polled_eq (mirror : Mirror stream other) (moment : stream.Moment) :
    (mirror.moment moment).polled = mirror.moment moment.polled := by
  have polled := mirror.next_eq moment.state moment.history moment.memory
  rcases next_eq : stream.next moment.state moment.history moment.memory
    with ⟨_ | item, after, memory⟩ <;> rw [next_eq] at polled
  · rw [Moment.polled_eq next_eq, Moment.polled_eq polled]
    rfl
  · rw [Moment.polled_eq next_eq, Moment.polled_eq polled]
    rfl

/-- No run tells the two streams apart. -/
theorem run_eq (mirror : Mirror stream other) (moment : stream.Moment) (turns : List Turn) :
    (mirror.moment moment).run turns = mirror.moment (moment.run turns) := by
  induction turns generalizing moment with
  | nil => rfl
  | cons turn turns ih =>
      cases isOver : moment.isOver with
      | true =>
          have ended : (mirror.moment moment).isOver = true := isOver
          rw [Moment.run_of_isOver isOver, Moment.run_of_isOver ended]
      | false =>
          have open_yet : (mirror.moment moment).isOver = false := isOver
          cases turn with
          | outside event =>
              rw [Moment.run_outside isOver, Moment.run_outside open_yet]
              exact ih { moment with history := moment.history ++ [event] }
          | poll =>
              rw [Moment.run_poll isOver, Moment.run_poll open_yet, mirror.polled_eq]
              exact ih moment.polled

theorem items_eq (mirror : Mirror stream other) (history : History) (memory : Memory)
    (turns : List Turn) :
    (Moment.run ⟨other.state, history, memory, [], false⟩ turns : other.Moment).items =
      (Moment.run ⟨stream.state, history, memory, [], false⟩ turns : stream.Moment).items := by
  have moments_eq := mirror.run_eq ⟨stream.state, history, memory, [], false⟩ turns
  rw [mirror.state_eq]
  exact congrArg Moment.items moments_eq

end Stream.Mirror

end RpcContracts
