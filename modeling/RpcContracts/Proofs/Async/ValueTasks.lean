import RpcContracts.Async.ValueTask

/-!
# Results that are delivered once

A caller holds a task or a value task, polls it and converts one into the other, while the source of
the result gives it or not. Whatever the caller holds, the first poll after the source has the
result finds it. Later polls, if there can be any, find only the error of a value task whose result
was taken.
-/

namespace RpcContracts

variable {α : Type}

/-! ## What a caller holds -/

/-- A task or a value task. -/
inductive Deferred (α : Type) : Type 1 where
  | task (work : Task α)
  | valueTask (work : ValueTask α)

namespace Deferred

/-- Whether a value task says that its result can be taken; tasks do not say so. -/
def isCompleted : Deferred α → Bool
  | task _ => false
  | valueTask work => work.isCompleted

/-- Poll what is held. Only a value task with an inline slot is kept when the poll is ready. -/
def poll (held : Deferred α) (history : History) (memory : Memory) :
    Poll (Except RpcError α) × Option (Deferred α) × Memory :=
  match held with
  | task work =>
      match work.step history memory with
      | (.pending, work, memory) => (.pending, some (task work), memory)
      | (.ready result, _, memory) => (.ready result, none, memory)
  | valueTask work =>
      match work.step history memory with
      | (.pending, work, memory) => (.pending, some (valueTask work), memory)
      | (.ready result, .inline slot, memory) =>
          (.ready result, some (valueTask (.inline slot)), memory)
      | (.ready result, .backed _, memory) => (.ready result, none, memory)

/-- Convert a value task. -/
def intoTask : Deferred α → Deferred α
  | task work => task work
  | valueTask work => task work.toTask

/-- Convert a task. -/
def intoValueTask : Deferred α → Deferred α
  | task work => valueTask (.backed work)
  | valueTask work => valueTask work

end Deferred

/-- Something outside that gives a result at some time, and then goes on to give the same. -/
structure ResultSource (α : Type) where
  /-- The result, once it is there. -/
  result? : History → Option (Except RpcError α)
  /-- The result stays. -/
  stays : ∀ {history : History} {result : Except RpcError α} (later : History),
    result? history = some result → result? (history ++ later) = some result

namespace ResultSource

/-- The source with a number, which is resolved with an outcome. A source that is abandoned is
resolved with an error. -/
def numbered (number : Nat) (read : Outcome → Except RpcError α) : ResultSource α where
  result? history := (history.outcome? number).map read
  stays := by
    intro history result later found
    obtain ⟨outcome, outcome_eq, rfl⟩ := Option.map_eq_some_iff.mp found
    have appended : (history ++ later).outcome? number = some outcome := by
      rw [History.outcome?, List.findSome?_append, ← History.outcome?, outcome_eq, Option.some_or]
    rw [appended, Option.map_some]

end ResultSource

/-- The ways to make a task or a value task. -/
inductive DeferredOrigin (α : Type) where
  /-- A value task with an inline result. -/
  | inline (result : Except RpcError α)
  /-- A finished task. -/
  | finished (result : Except RpcError α)
  /-- A value task backed by a finished task. -/
  | backed (result : Except RpcError α)
  /-- A task whose result comes from a source. -/
  | waiting (source : ResultSource α)
  /-- A value task backed by a task whose result comes from a source. -/
  | backedWaiting (source : ResultSource α)

namespace DeferredOrigin

def make : DeferredOrigin α → Deferred α
  | inline result => .valueTask (.inline (some result))
  | finished result => .task (.ready result)
  | backed result => .valueTask (.backed (.ready result))
  | waiting source => .task (.awaiting source.result?)
  | backedWaiting source => .valueTask (.backed (.awaiting source.result?))

/-- The result, once it is there. -/
def result? : DeferredOrigin α → History → Option (Except RpcError α)
  | inline result, _ => some result
  | finished result, _ => some result
  | backed result, _ => some result
  | waiting source, history => source.result? history
  | backedWaiting source, history => source.result? history

theorem result?_append {origin : DeferredOrigin α} {history : History}
    {result : Except RpcError α} (found : origin.result? history = some result)
    (later : History) : origin.result? (history ++ later) = some result := by
  cases origin with
  | inline => exact found
  | finished => exact found
  | backed => exact found
  | waiting source => exact source.stays later found
  | backedWaiting source => exact source.stays later found

end DeferredOrigin

/-! ## What a poll comes to -/

/-- The result that a task or a value task gives is read off the history. -/
inductive Deferred.Gives : Deferred α → (History → Option (Except RpcError α)) → Prop where
  | task (read : History → Option (Except RpcError α)) : Gives (.task (.awaiting read)) read
  | backed (read : History → Option (Except RpcError α)) :
      Gives (.valueTask (.backed (.awaiting read))) read
  | inline (result : Except RpcError α) :
      Gives (.valueTask (.inline (some result))) fun _ => some result
  | taken : Gives (.valueTask (.inline none)) fun _ => some (.error polledAfterCompletion)

theorem DeferredOrigin.make_gives (origin : DeferredOrigin α) :
    origin.make.Gives origin.result? := by
  cases origin with
  | inline result => exact .inline result
  | finished result => exact .task fun _ => some result
  | backed result => exact .backed fun _ => some result
  | waiting source => exact .task source.result?
  | backedWaiting source => exact .backed source.result?

namespace Deferred.Gives

variable {held : Deferred α} {read : History → Option (Except RpcError α)}

/-- No conversion changes the result. -/
theorem intoTask (gives : held.Gives read) : held.intoTask.Gives read := by
  cases gives with
  | task => exact .task read
  | backed => exact .task read
  | inline result => exact .task fun _ => some result
  | taken => exact .task fun _ => some (.error polledAfterCompletion)

theorem intoValueTask (gives : held.Gives read) : held.intoValueTask.Gives read := by
  cases gives with
  | task => exact .backed read
  | backed => exact .backed read
  | inline => exact .inline _
  | taken => exact .taken

/-- A value task that says it is completed has its result inline. -/
theorem of_isCompleted (gives : held.Gives read) (completed : held.isCompleted = true) :
    ∃ result, held = .valueTask (.inline (some result)) ∧ read = fun _ => some result := by
  cases gives with
  | inline result => exact ⟨result, rfl, rfl⟩
  | task => cases completed
  | backed => cases completed
  | taken => cases completed

theorem poll_pending (gives : held.Gives read) {history : History}
    (none_eq : read history = none) (memory : Memory) :
    held.poll history memory = (.pending, some held, memory) := by
  cases gives with
  | task => simp [Deferred.poll, Future.step, Future.awaiting, none_eq]
  | backed => simp [Deferred.poll, ValueTask.step, Future.step, Future.awaiting, none_eq]
  | inline => cases none_eq
  | taken => cases none_eq

/-- A poll that finds the result leaves nothing to be polled, or a value task without it. -/
theorem poll_ready (gives : held.Gives read) {history : History} {result : Except RpcError α}
    (some_eq : read history = some result) (memory : Memory) :
    ∃ left, held.poll history memory = (.ready result, left, memory) ∧
      ∀ rest ∈ left, rest = .valueTask (.inline none) := by
  cases gives with
  | task => exact ⟨none, by simp [Deferred.poll, Future.step, Future.awaiting, some_eq], by simp⟩
  | backed =>
      exact ⟨none, by simp [Deferred.poll, ValueTask.step, Future.step, Future.awaiting, some_eq],
        by simp⟩
  | inline =>
      cases some_eq
      exact ⟨_, rfl, fun rest mem => (Option.some.inj mem).symm⟩
  | taken =>
      cases some_eq
      exact ⟨_, rfl, fun rest mem => (Option.some.inj mem).symm⟩

end Deferred.Gives

/-- A value task whose result was taken, or what it was converted to. -/
inductive Deferred.Spent : Deferred α → Prop where
  | taken : Spent (.valueTask (.inline none))
  | task : Spent (.task (.ready (.error polledAfterCompletion)))
  | backed : Spent (.valueTask (.backed (.ready (.error polledAfterCompletion))))

namespace Deferred.Spent

variable {held : Deferred α}

theorem intoTask (spent : held.Spent) : held.intoTask.Spent := by cases spent <;> exact .task

theorem intoValueTask (spent : held.Spent) : held.intoValueTask.Spent := by
  cases spent with
  | taken => exact .taken
  | task => exact .backed
  | backed => exact .backed

theorem gives (spent : held.Spent) : held.Gives fun _ => some (.error polledAfterCompletion) := by
  cases spent with
  | taken => exact .taken
  | task => exact .task fun _ => some (.error polledAfterCompletion)
  | backed => exact .backed fun _ => some (.error polledAfterCompletion)

theorem not_isCompleted (spent : held.Spent) : held.isCompleted = false := by
  cases spent <;> rfl

end Deferred.Spent

/-! ## Runs -/

/-- What is done with a task or a value task in one turn. Asking whether it is completed changes
nothing and is possible at every moment. -/
inductive DeferredTurn where
  | outside (event : Event)
  | poll
  | intoTask
  | intoValueTask

/-- A task or a value task in a run. -/
structure DeferredMoment (α : Type) where
  /-- What is held, unless its last poll has found a result and it must not be polled again. -/
  held : Option (Deferred α)
  /-- What has happened outside since the run began. -/
  history : History
  memory : Memory
  /-- The results that polls have found, oldest first. -/
  found : List (Except RpcError α)

def DeferredOrigin.start (origin : DeferredOrigin α) (memory : Memory) : DeferredMoment α :=
  ⟨some origin.make, [], memory, []⟩

namespace DeferredMoment

/-- Poll what is held, if something is. -/
def poll? (moment : DeferredMoment α) : Option (Poll (Except RpcError α)) :=
  moment.held.map fun held => (held.poll moment.history moment.memory).1

/-- Whether what is held says that it is completed. -/
def isCompleted (moment : DeferredMoment α) : Bool := moment.held.any Deferred.isCompleted

/-- The moment after a poll of what is held. -/
def polled (moment : DeferredMoment α) (held : Deferred α) : DeferredMoment α :=
  match held.poll moment.history moment.memory with
  | (.pending, held, memory) => ⟨held, moment.history, memory, moment.found⟩
  | (.ready result, held, memory) => ⟨held, moment.history, memory, moment.found ++ [result]⟩

/-- The moment after one turn. -/
def turn (moment : DeferredMoment α) : DeferredTurn → DeferredMoment α
  | .outside event => { moment with history := moment.history ++ [event] }
  | .intoTask => { moment with held := moment.held.map Deferred.intoTask }
  | .intoValueTask => { moment with held := moment.held.map Deferred.intoValueTask }
  | .poll =>
      match moment.held with
      | some held => moment.polled held
      | none => moment

def run (moment : DeferredMoment α) (turns : List DeferredTurn) : DeferredMoment α :=
  turns.foldl turn moment

end DeferredMoment

/-- What can be found first is the result, and what is found after it is the error of a result that
was taken. -/
inductive Delivering (origin : DeferredOrigin α) (history : History) :
    Option (Deferred α) → List (Except RpcError α) → Prop where
  | due {held : Deferred α} : held.Gives origin.result? →
      Delivering origin history (some held) []
  | delivered {held : Option (Deferred α)} {result : Except RpcError α} (polls : Nat) :
      origin.result? history = some result → (∀ rest ∈ held, rest.Spent) →
      Delivering origin history held
        (result :: List.replicate polls (.error polledAfterCompletion))

namespace DeferredMoment

variable {origin : DeferredOrigin α} {moment : DeferredMoment α}

/-- What is held and what was found go together at a moment of a run. -/
def Delivers (origin : DeferredOrigin α) (moment : DeferredMoment α) : Prop :=
  Delivering origin moment.history moment.held moment.found

theorem Delivers.convert {convert : Deferred α → Deferred α}
    (gives : ∀ {held read}, held.Gives read → (convert held).Gives read)
    (spent : ∀ {held}, held.Spent → (convert held).Spent) (delivers : moment.Delivers origin) :
    Delivers origin { moment with held := moment.held.map convert } := by
  obtain ⟨held, history, memory, found⟩ := moment
  cases delivers with
  | due due => exact .due (gives due)
  | delivered polls result_eq rest =>
      refine .delivered polls result_eq fun left mem => ?_
      obtain ⟨before, before_mem, rfl⟩ := Option.map_eq_some_iff.mp mem
      exact spent (rest before before_mem)

theorem Delivers.polled {held : Deferred α} (held_eq : moment.held = some held)
    (delivers : moment.Delivers origin) : (moment.polled held).Delivers origin := by
  obtain ⟨before, history, memory, found⟩ := moment
  cases held_eq
  cases delivers with
  | due gives =>
      cases result_eq : origin.result? history with
      | none =>
          simp only [DeferredMoment.polled, gives.poll_pending result_eq memory]
          exact .due gives
      | some result =>
          obtain ⟨left, polled_eq, left_taken⟩ := gives.poll_ready result_eq memory
          simp only [DeferredMoment.polled, polled_eq]
          exact .delivered 0 result_eq fun rest mem => left_taken rest mem ▸ .taken
  | @delivered _ result polls result_eq rest =>
      have spent : held.Spent := rest held rfl
      obtain ⟨left, polled_eq, left_taken⟩ :=
        @Deferred.Gives.poll_ready _ _ _ spent.gives history _ rfl memory
      simp only [DeferredMoment.polled, polled_eq, List.cons_append, ← List.replicate_succ']
      exact .delivered (polls + 1) result_eq fun rest mem => left_taken rest mem ▸ .taken

theorem Delivers.turn (delivers : moment.Delivers origin) (turn : DeferredTurn) :
    (moment.turn turn).Delivers origin := by
  cases turn with
  | outside event =>
      obtain ⟨held, history, memory, found⟩ := moment
      cases delivers with
      | due gives => exact .due gives
      | delivered polls result_eq rest =>
          exact .delivered polls (DeferredOrigin.result?_append result_eq [event]) rest
  | poll =>
      cases held_eq : moment.held with
      | none =>
          simp only [DeferredMoment.turn, held_eq]
          exact delivers
      | some held =>
          simp only [DeferredMoment.turn, held_eq]
          exact delivers.polled held_eq
  | intoTask => exact delivers.convert Deferred.Gives.intoTask Deferred.Spent.intoTask
  | intoValueTask =>
      exact delivers.convert Deferred.Gives.intoValueTask Deferred.Spent.intoValueTask

theorem Delivers.run (delivers : moment.Delivers origin) (turns : List DeferredTurn) :
    (moment.run turns).Delivers origin := by
  induction turns generalizing moment with
  | nil => exact delivers
  | cons turn turns ih => exact ih (delivers.turn turn)

/-- Turns without a poll find nothing and take nothing away. -/
theorem run_unpolled {turns : List DeferredTurn} (unpolled : .poll ∉ turns) :
    (moment.run turns).found = moment.found ∧
      (moment.run turns).held.isSome = moment.held.isSome := by
  induction turns generalizing moment with
  | nil => exact ⟨rfl, rfl⟩
  | cons turn turns ih =>
      rw [List.mem_cons, not_or] at unpolled
      obtain ⟨apart, later⟩ := unpolled
      obtain ⟨found_eq, held_eq⟩ := @ih (moment.turn turn) later
      cases turn with
      | poll => exact absurd rfl apart
      | outside event => exact ⟨found_eq, held_eq⟩
      | intoTask => exact ⟨found_eq, held_eq.trans Option.isSome_map⟩
      | intoValueTask => exact ⟨found_eq, held_eq.trans Option.isSome_map⟩

theorem poll?_eq {held : Deferred α} (held_eq : moment.held = some held)
    {answer : Poll (Except RpcError α)} {left : Option (Deferred α)} {memory : Memory}
    (polled_eq : held.poll moment.history moment.memory = (answer, left, memory)) :
    moment.poll? = some answer := by
  rw [poll?, held_eq, Option.map_some, polled_eq]

/-- As long as nothing was found, the next poll finds what the source gives. -/
theorem Delivers.poll?_due (delivers : moment.Delivers origin) (nothing : moment.found = []) :
    (origin.result? moment.history = none → moment.poll? = some .pending) ∧
      ∀ result, origin.result? moment.history = some result →
        moment.poll? = some (.ready result) := by
  obtain ⟨held, history, memory, found⟩ := moment
  cases delivers with
  | due gives =>
      refine ⟨fun none_eq => poll?_eq rfl (gives.poll_pending none_eq memory), ?_⟩
      intro result some_eq
      obtain ⟨left, polled_eq, -⟩ := gives.poll_ready some_eq memory
      exact poll?_eq rfl polled_eq
  | delivered => cases nothing

/-- Once something was found, whatever is still held is spent. -/
theorem Delivers.poll?_spent (delivers : moment.Delivers origin) (something : moment.found ≠ [])
    {held : Deferred α} (held_eq : moment.held = some held) :
    moment.poll? = some (.ready (.error polledAfterCompletion)) := by
  obtain ⟨before, history, memory, found⟩ := moment
  cases delivers with
  | due => exact absurd rfl something
  | delivered polls _ rest =>
      have spent : held.Spent := rest held held_eq
      obtain ⟨left, polled_eq, -⟩ :=
        @Deferred.Gives.poll_ready _ _ _ spent.gives history _ rfl memory
      exact poll?_eq held_eq polled_eq

/-- A value task that says it is completed holds the result, and nobody has found it yet. -/
theorem Delivers.of_isCompleted (delivers : moment.Delivers origin)
    (completed : moment.isCompleted = true) :
    moment.found = [] ∧ ∃ result, moment.held = some (.valueTask (.inline (some result))) ∧
      origin.result? = fun _ => some result := by
  obtain ⟨before, history, memory, found⟩ := moment
  cases delivers with
  | due gives =>
      obtain ⟨result, rfl, result_eq⟩ := gives.of_isCompleted completed
      exact ⟨rfl, result, rfl, result_eq⟩
  | delivered polls _ rest =>
      cases before with
      | none => cases completed
      | some held => cases (rest held rfl).not_isCompleted.symm.trans completed

/-- What holds of a task or a value task at a moment of a run. -/
structure DeliveredOnce (origin : DeferredOrigin α) (moment : DeferredMoment α) : Prop where
  waits : moment.found = [] → origin.result? moment.history = none →
    moment.poll? = some .pending
  delivers : moment.found = [] → ∀ result, origin.result? moment.history = some result →
    moment.poll? = some (.ready result)
  /-- The first result that was found is the one of the source. -/
  first : ∀ result rest, moment.found = result :: rest →
    origin.result? moment.history = some result ∧
      ∀ later ∈ rest, later = .error (.invalidOperation "ValueTask polled after completion")
  again : moment.found ≠ [] → ∀ answer, moment.poll? = some answer →
    answer = .ready (.error (.invalidOperation "ValueTask polled after completion"))
  /-- The result of a value task that says it is completed is found by the next poll. -/
  completed : moment.isCompleted = true → ∃ result,
    origin.result? moment.history = some result ∧
      ∀ between, .poll ∉ between → (moment.run between).poll? = some (.ready result)
  /-- After that poll its result is gone, whether it is polled again or converted. -/
  taken : moment.isCompleted = true → ∀ between, .poll ∉ between →
    ((moment.turn .poll).run between).poll? =
      some (.ready (.error (.invalidOperation "ValueTask polled after completion")))

end DeferredMoment

/-- A task or a value task delivers its result once, however it is made, polled and converted, and
whenever its source gives the result. -/
theorem DeferredOrigin.delivered_once (origin : DeferredOrigin α) (memory : Memory)
    (turns : List DeferredTurn) :
    DeferredMoment.DeliveredOnce origin ((origin.start memory).run turns) := by
  have started : (origin.start memory).Delivers origin := .due origin.make_gives
  have delivers := started.run turns
  generalize (origin.start memory).run turns = moment at delivers
  refine ⟨fun nothing => (delivers.poll?_due nothing).1,
    fun nothing => (delivers.poll?_due nothing).2, ?_, ?_, ?_, ?_⟩
  · intro result rest found_eq
    obtain ⟨held, history, memory, found⟩ := moment
    cases delivers with
    | due => cases found_eq
    | delivered polls result_eq =>
        cases found_eq
        exact ⟨result_eq, fun later mem => List.eq_of_mem_replicate mem⟩
  · intro something answer answer_eq
    cases held_eq : moment.held with
    | none => simp [DeferredMoment.poll?, held_eq] at answer_eq
    | some held =>
        rw [delivers.poll?_spent something held_eq] at answer_eq
        exact (Option.some.inj answer_eq).symm
  · intro completed
    obtain ⟨nothing, result, -, result_eq⟩ := delivers.of_isCompleted completed
    refine ⟨result, congrFun result_eq _, fun between unpolled => ?_⟩
    have still_nothing := (DeferredMoment.run_unpolled unpolled).1.trans nothing
    exact ((delivers.run between).poll?_due still_nothing).2 result (congrFun result_eq _)
  · intro completed between unpolled
    obtain ⟨-, result, held_eq, -⟩ := delivers.of_isCompleted completed
    have polled_eq : moment.turn .poll =
        ⟨some (.valueTask (.inline none)), moment.history, moment.memory,
          moment.found ++ [result]⟩ := by
      simp only [DeferredMoment.turn, held_eq]
      rfl
    obtain ⟨found_eq, kept⟩ := @DeferredMoment.run_unpolled _ (moment.turn .poll) _ unpolled
    have something : ((moment.turn .poll).run between).found ≠ [] := by
      rw [found_eq, polled_eq]
      simp
    have still_held : (moment.turn .poll).held.isSome = true := by
      rw [polled_eq]
      rfl
    obtain ⟨held, held_eq⟩ := Option.isSome_iff_exists.mp (kept.trans still_held)
    exact ((delivers.turn .poll).run between).poll?_spent something held_eq

/-- A value task that waits is converted to a task before its source is resolved, and back again
before it is polled. -/
example : ((DeferredOrigin.backedWaiting (.numbered 3 id)).start .fresh).run
      [.poll, .intoTask, .outside (.resolved 3 (.ok .unit)), .intoValueTask, .poll, .poll] =
    ⟨none, [.resolved 3 (.ok .unit)], .fresh, [.ok .unit]⟩ := rfl

end RpcContracts
