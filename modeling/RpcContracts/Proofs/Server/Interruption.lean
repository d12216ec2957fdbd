import RpcContracts.Proofs.Server.Pumping

/-!
# Interrupted pumps

A token interrupts a pump that waits for an item, or is about to ask for one, but not a pump that
waits for room. After a firing a poll of the pump is therefore pending exactly if it leaves the
channel of the responses full. The pump is over as soon as it is polled after a receive.
-/

namespace RpcContracts

/-! ## Streams apart from a channel -/

/-- No poll touches a channel. -/
def PollStep.LeavesChannel {State : Type} {α : Type u} (poll : PollStep State α) (number : Nat) :
    Prop :=
  ∀ {state after : State} {history : History} {memory memoryAfter : Memory} {answer : Poll α},
    poll state history memory = (answer, after, memoryAfter) →
      memoryAfter.channels number = memory.channels number

theorem PollStep.LeavesChannel.raced {State : Type} {α : Type u} {poll : PollStep State α}
    {number : Nat} (leaves : poll.LeavesChannel number) {token : Token} {begun : Bool}
    {state after : State} {history : History} {memory memoryAfter : Memory}
    {answer : Poll (Option α)}
    (raced_eq : PollStep.race poll token begun state history memory =
      (answer, after, memoryAfter)) :
    memoryAfter.channels number = memory.channels number := by
  have raced := PollStep.raced poll token begun state history memory
  rw [raced_eq] at raced
  cases raced with
  | prevented => rfl
  | finished _ polled => exact leaves polled
  | interrupted _ _ polled => exact leaves polled
  | waiting _ polled => exact leaves polled

theorem ItemStream.leavesChannel_erase {type : ValueType} {responses : ItemStream (PayloadOf type)}
    {number : Nat} (leaves : responses.next.LeavesChannel number) :
    (ItemStream.erase responses).next.LeavesChannel number := by
  intro state after history memory memoryAfter answer polled
  rcases next_eq : responses.next state history memory with ⟨found, stateAfter, memoryNext⟩
  have polled_eq : (ItemStream.erase responses).next state history memory =
      (found.map (Option.map Outcome.ofTyped), stateAfter, memoryNext) := by
    simp only [erase, Stream.map, next_eq]
  rw [polled_eq] at polled
  cases polled
  exact leaves next_eq

theorem Stream.leavesChannel_ofScript {α : Type} (script : List (Poll α)) (number : Nat) :
    (Stream.ofScript script).next.LeavesChannel number := by
  rintro (_ | ⟨_ | item, left⟩) after history memory memoryAfter answer polled <;> cases polled <;>
    rfl

/-! ## One write -/

/-- What a write into a channel with room comes to: the sender is parked if the item fills it. -/
inductive Writer.Parks (number capacity : Nat) (queue : List Payload) :
    Poll (Except RpcError Unit) × List Payload × Writer × Memory → Prop where
  | full {memory : Memory} : queue.length = capacity + 1 →
      memory.channels number = .holding capacity queue →
      Parks number capacity queue (.pending, [], .direct number, memory)
  | passes {memory : Memory} : queue.length ≤ capacity →
      memory.channels number = .holding capacity queue →
      Parks number capacity queue (.ready (.ok ()), [], .direct number, memory)

theorem Writer.sendAll_item_parks {number capacity : Nat} {queue : List Payload} {memory : Memory}
    (holds : memory.channels number = .holding capacity queue) (room : queue.length ≤ capacity)
    (item : Payload) :
    Writer.Parks number capacity (queue ++ [item])
      ((Writer.direct number).sendAll [item] memory) := by
  have length_eq : (queue ++ [item]).length = queue.length + 1 := by
    rw [List.length_append, List.length_singleton]
  have held := Memory.channels_setChannel_same memory number (.holding capacity (queue ++ [item]))
  rw [Writer.sendAll_item_holding holds room]
  by_cases isFull : capacity < queue.length + 1
  · rw [if_pos isFull]
    exact .full (by omega) held
  · rw [if_neg isFull]
    exact .passes (by omega) held

/-! ## One poll -/

/-- Whether an item has been asked for and was pending. -/
def PumpStage.isWaiting : PumpStage → Bool
  | .waiting => true
  | _ => false

/-- The result of a pump whose stream a poll finds at its end or at an error. -/
inductive StreamResult {State : Type} (polled : Poll (Option Outcome) × State × Memory) :
    Except RpcError Unit → Prop where
  | ended : polled.1 = .ready none → StreamResult polled (.ok ())
  | failed {error : RpcError} : polled.1 = .ready (some (.error error)) →
      StreamResult polled (.error error)

/-- The queue of a pump that goes on. A pump that reads has room in it. -/
inductive PumpHolds (capacity : Nat) (queue : List Payload) : PumpStage → Prop where
  | reading {stage : PumpStage} : stage = .idle ∨ stage = .waiting → queue.length ≤ capacity →
      PumpHolds capacity queue stage
  | writing : queue.length ≤ capacity + 1 → PumpHolds capacity queue (.writing [])

theorem PumpHolds.receive {capacity : Nat} {queue : List Payload} {stage : PumpStage}
    (allowed : PumpHolds capacity queue stage) : PumpHolds capacity queue.tail stage := by
  have shorter : queue.tail.length ≤ queue.length := by simp
  cases allowed with
  | reading reads room => exact .reading reads (Nat.le_trans shorter room)
  | writing bounded => exact .writing (Nat.le_trans shorter bounded)

theorem PumpHolds.bounded {capacity : Nat} {queue : List Payload} {stage : PumpStage}
    (allowed : PumpHolds capacity queue stage) : queue.length ≤ capacity + 1 := by
  cases allowed with
  | reading _ room => exact Nat.le_succ_of_le room
  | writing bounded => exact bounded

/-- What a poll of a pump comes to, by whether the token has fired, whether the pump was waiting for
an item and what the stream has for it. -/
inductive PumpPolls {State : Type} (capacity number : Nat) (fired begun : Bool)
    (item : Poll (Option Outcome) × State × Memory) :
    Poll (Except RpcError Unit) × (PumpStage × State × Writer) × Memory → Prop where
  | waits {queue : List Payload} {state : State} {memory : Memory} : fired = false →
      queue.length ≤ capacity → memory.channels number = .holding capacity queue →
      PumpPolls capacity number fired begun item
        (.pending, (.waiting, state, .direct number), memory)
  | blocked {queue : List Payload} {state : State} {memory : Memory} :
      queue.length = capacity + 1 → memory.channels number = .holding capacity queue →
      PumpPolls capacity number fired begun item
        (.pending, (.writing [], state, .direct number), memory)
  | ends {queue : List Payload} {result : Except RpcError Unit} {stage : PumpStage} {state : State}
      {writer : Writer} {memory : Memory} :
      (fired = true → result = .error .cancelled ∨ begun = true ∧ StreamResult item result) →
      queue.length ≤ capacity → memory.channels number = .holding capacity queue →
      PumpPolls capacity number fired begun item (.ready result, (stage, state, writer), memory)

section

variable {stream : ItemStream Payload} {token : Token} {history : History} {capacity number : Nat}

/-- A pump that would ask for an item does not get to it after a firing. -/
theorem ItemStream.pumpItems_prevented (fired : history.hasFired token = true)
    (state : stream.State) (writer : Writer) (memory : Memory) :
    pumpItems token stream false state writer history memory =
      (.ready (.error .cancelled), (.idle, state, writer), memory) := by
  have raced_eq : PollStep.race stream.next token false state history memory =
      (.ready none, state, memory) := by
    simp [PollStep.race, fired]
  unfold pumpItems
  split <;> simp_all

/-- One poll reads item after item while there is room; after a firing it reads one at most. -/
theorem ItemStream.pumpItems_polls (leaves : stream.next.LeavesChannel number) {begun : Bool}
    {state : stream.State} {memory : Memory} {queue : List Payload} (room : queue.length ≤ capacity)
    (holds : memory.channels number = .holding capacity queue) :
    PumpPolls capacity number (history.hasFired token) begun (stream.next state history memory)
      (pumpItems token stream begun state (.direct number) history memory) := by
  generalize writer_eq : Writer.direct number = writer
  fun_induction pumpItems token stream begun state writer history memory generalizing queue with
  | case1 begun state writer memory after memoryAfter raced_eq =>
      subst writer_eq
      have unfired := PollStep.unfired_of_race_pending raced_eq
      exact .waits unfired room ((leaves.raced raced_eq).trans holds)
  | case2 begun state writer memory after memoryAfter raced_eq =>
      exact .ends (fun _ => .inl rfl) room ((leaves.raced raced_eq).trans holds)
  | case3 begun state writer memory after memoryAfter raced_eq =>
      have ended := congrArg Prod.fst (PollStep.race_some raced_eq)
      refine .ends (fun fired => .inr ?_) room ((leaves.raced raced_eq).trans holds)
      exact ⟨PollStep.begun_of_race_some raced_eq fired, .ended ended⟩
  | case4 begun state writer memory error after memoryAfter raced_eq =>
      have failed := congrArg Prod.fst (PollStep.race_some raced_eq)
      refine .ends (fun fired => .inr ?_) room ((leaves.raced raced_eq).trans holds)
      exact ⟨PollStep.begun_of_race_some raced_eq fired, .failed failed⟩
  | case5 begun state writer memory item after memoryAfter raced_eq rest sender memoryLast sent =>
      subst writer_eq
      have parks := Writer.sendAll_item_parks ((leaves.raced raced_eq).trans holds) room item
      rw [sent] at parks
      cases parks with
      | full length_eq held => exact .blocked length_eq held
  | case6 begun state writer memory item after memoryAfter raced_eq error rest sender memoryLast
      sent =>
      subst writer_eq
      have parks := Writer.sendAll_item_parks ((leaves.raced raced_eq).trans holds) room item
      rw [sent] at parks
      cases parks
  | case7 begun state writer memory item after memoryAfter raced_eq rest sender memoryLast sent
      ih =>
      subst writer_eq
      have parks := Writer.sendAll_item_parks ((leaves.raced raced_eq).trans holds) room item
      rw [sent] at parks
      obtain ⟨rfl, stillRoom, stillHeld⟩ : sender = .direct number ∧
          (queue ++ [item]).length ≤ capacity ∧
            memoryLast.channels number = .holding capacity (queue ++ [item]) := by
        cases parks with
        | passes room held => exact ⟨rfl, room, held⟩
      cases fired : history.hasFired token with
      | true =>
          rw [pumpItems_prevented fired]
          exact .ends (fun _ => .inl rfl) stillRoom stillHeld
      | false =>
          have polls := ih stillRoom stillHeld rfl
          rw [fired] at polls
          generalize pumpItems token stream false after (.direct number) history memoryLast = polled
            at polls ⊢
          cases polls with
          | waits _ room held => exact .waits rfl room held
          | blocked full held => exact .blocked full held
          | ends _ room held => exact .ends (absurd · Bool.false_ne_true) room held

/-- One poll of a pump that goes on. -/
theorem ItemStream.pollPump_polls (leaves : stream.next.LeavesChannel number) {stage : PumpStage}
    {state : stream.State} {memory : Memory} {queue : List Payload}
    (holds : memory.channels number = .holding capacity queue)
    (allowed : PumpHolds capacity queue stage) :
    PumpPolls capacity number (history.hasFired token) stage.isWaiting
      (stream.next state history memory)
      (pollPump token stream (stage, state, .direct number) history memory) := by
  cases allowed with
  | reading reads room =>
      obtain rfl | rfl := reads <;> exact pumpItems_polls leaves room holds
  | writing bounded =>
      have sent := Writer.sendAll_nil_holding holds
      unfold pollPump
      simp only [sent]
      by_cases full : capacity < queue.length
      · rw [if_pos full]
        exact .blocked (by omega) holds
      · rw [if_neg full]
        exact pumpItems_polls leaves (by omega) holds

/-- A pump that has room again does not ask for another item after a firing. -/
theorem ItemStream.pollPump_released (fired : history.hasFired token = true) {state : stream.State}
    {memory : Memory} {queue : List Payload}
    (holds : memory.channels number = .holding capacity queue)
    (room : queue.length ≤ capacity) :
    pollPump token stream (.writing [], state, .direct number) history memory =
      (.ready (.error .cancelled), (.idle, state, .direct number), memory) := by
  have sent := Writer.sendAll_nil_holding holds
  rw [if_neg (by omega)] at sent
  unfold pollPump
  simp only [sent]
  exact pumpItems_prevented fired state _ memory

end

/-! ## Runs -/

/-- The pumping of a stream into the channel of a call. -/
abbrev PumpingRun (call : IncomingCall) (stream : ItemStream Payload) :=
  Served (call.pumping stream)

namespace PumpingRun

variable {call : IncomingCall} {stream : ItemStream Payload} {capacity : Nat}

/-- What the pump does at a moment. -/
def stage (served : PumpingRun call stream) : PumpStage :=
  (served.moment.state : PumpStage × stream.State × Writer).1

/-- What the stream has for the next poll. -/
def nextItem (served : PumpingRun call stream) : Poll (Option Outcome) × stream.State × Memory :=
  stream.next (served.moment.state : PumpStage × stream.State × Writer).2.1 served.moment.history
    served.moment.memory

/-- The moment after one more poll of the pump. -/
def polled (served : PumpingRun call stream) : PumpingRun call stream :=
  served.turn call.responses (.work .poll)

/-- Whether the token of the call has fired. -/
def hasFired (served : PumpingRun call stream) : Bool :=
  served.moment.history.hasFired call.context.token

/-- A pump that goes on is in some stage, and its channel holds some items. -/
structure Stands (capacity : Nat) (stage : PumpStage) (queue : List Payload)
    (served : PumpingRun call stream) : Prop where
  going : served.moment.result = none
  writer_eq : (served.moment.state : PumpStage × stream.State × Writer).2.2 =
    .direct call.responses
  stage_eq : served.stage = stage
  channel_eq : served.channel call.responses = .holding capacity queue

/-- What a poll of a pump that goes on leads to. -/
inductive PolledTo (capacity : Nat) (served after : PumpingRun call stream) : Prop where
  | waits {queue : List Payload} : served.hasFired = false → queue.length ≤ capacity →
      after.Stands capacity .waiting queue → PolledTo capacity served after
  | blocked {queue : List Payload} : queue.length = capacity + 1 →
      after.Stands capacity (.writing []) queue → PolledTo capacity served after
  | ends {result : Except RpcError Unit} : after.moment.result = some result →
      (served.hasFired = true → result = .error .cancelled ∨
        served.stage.isWaiting = true ∧ StreamResult served.nextItem result) →
      (after.channel call.responses).queue.length ≤ capacity → PolledTo capacity served after

theorem polled_eq {served : PumpingRun call stream} (going : served.moment.result = none) :
    served.polled =
      match ItemStream.pollPump call.context.token stream served.moment.state served.moment.history
        served.moment.memory with
      | (.pending, state, memory) =>
          ⟨⟨state, served.moment.history, memory, none⟩, served.received⟩
      | (.ready result, state, memory) =>
          ⟨⟨state, served.moment.history, memory.closeChannel call.responses, some result⟩,
            served.received⟩ := by
  rw [polled, Served.turn, Future.Moment.turn_poll going, Future.Moment.polled]
  simp only [IncomingCall.pumping, ItemStream.pump, Future.whenOver]
  generalize ItemStream.pollPump call.context.token stream served.moment.state
    served.moment.history served.moment.memory = answer
  obtain ⟨_ | result, state, memory⟩ := answer <;> rfl

theorem polledTo {served : PumpingRun call stream}
    (leaves : stream.next.LeavesChannel call.responses) {stage : PumpStage} {queue : List Payload}
    (stands : served.Stands capacity stage queue) (allowed : PumpHolds capacity queue stage) :
    PolledTo capacity served served.polled := by
  rw [polled_eq stands.going]
  obtain ⟨⟨⟨stage, state, writer⟩, history, memory, result⟩, received⟩ := served
  obtain ⟨rfl, rfl, rfl, holds⟩ := stands
  have polls : PumpPolls capacity call.responses (history.hasFired call.context.token)
      stage.isWaiting (stream.next state history memory)
      (ItemStream.pollPump call.context.token stream (stage, state, .direct call.responses) history
        memory) := ItemStream.pollPump_polls leaves holds allowed
  simp only
  generalize ItemStream.pollPump call.context.token stream (stage, state, .direct call.responses)
    history memory = answer at polls ⊢
  cases polls with
  | waits unfired room held => exact .waits unfired room ⟨rfl, rfl, rfl, held⟩
  | blocked full held => exact .blocked full ⟨rfl, rfl, rfl, held⟩
  | @ends queue result stage state writer memory gives room held =>
      refine .ends rfl gives ?_
      have shut_eq : (memory.closeChannel call.responses).channels call.responses =
          (Channel.holding capacity queue).close := by
        rw [Memory.closeChannel, Memory.channels_setChannel_same, held]
      show ((memory.closeChannel call.responses).channels call.responses).queue.length ≤ capacity
      rw [shut_eq]
      exact room

theorem polled_released {served : PumpingRun call stream} {queue : List Payload}
    (fired : served.hasFired = true) (stands : served.Stands capacity (.writing []) queue)
    (room : queue.length ≤ capacity) : served.polled.moment.result = some (.error .cancelled) := by
  rw [polled_eq stands.going]
  obtain ⟨⟨⟨stage, state, writer⟩, history, memory, result⟩, received⟩ := served
  obtain ⟨rfl, rfl, rfl, holds⟩ := stands
  have released : ItemStream.pollPump call.context.token stream
      (.writing [], state, .direct call.responses) history memory =
      (.ready (.error .cancelled), (.idle, state, .direct call.responses), memory) :=
    ItemStream.pollPump_released fired holds room
  simp only [released]

/-- Until it is over, a pump can go on. -/
def Proceeds (capacity : Nat) (served : PumpingRun call stream) : Prop :=
  served.moment.result = none → ∃ stage queue,
    served.Stands capacity stage queue ∧ PumpHolds capacity queue stage

theorem PolledTo.proceeds {served after : PumpingRun call stream}
    (polledTo : PolledTo capacity served after) : after.Proceeds capacity := by
  intro going
  cases polledTo with
  | waits _ room stands => exact ⟨_, _, stands, .reading (.inr rfl) room⟩
  | blocked full stands => exact ⟨_, _, stands, .writing (by omega)⟩
  | ends ended => cases going.symm.trans ended

theorem Stands.receive {served : PumpingRun call stream} {stage : PumpStage} {queue : List Payload}
    (stands : served.Stands capacity stage queue) (bounded : queue.length ≤ capacity + 1) :
    PumpingRun.Stands capacity stage queue.tail (served.turn call.responses .receive) := by
  refine ⟨stands.going, stands.writer_eq, stands.stage_eq, ?_⟩
  rw [Served.channel_receive, stands.channel_eq, Channel.receive_holding bounded]

theorem proceeds_turn (leaves : stream.next.LeavesChannel call.responses) {capacity : Nat}
    {served : PumpingRun call stream} (proceeds : served.Proceeds capacity) (turn : ServedTurn) :
    PumpingRun.Proceeds capacity (served.turn call.responses turn) := by
  have turned := served.turned call.responses turn
  generalize served.turn call.responses turn = after at turned ⊢
  cases turned with
  | receive =>
      intro going
      obtain ⟨stage, queue, stands, allowed⟩ := proceeds going
      exact ⟨stage, queue.tail, stands.receive allowed.bounded, allowed.receive⟩
  | ended => exact proceeds
  | outside going =>
      obtain ⟨stage, queue, stands, allowed⟩ := proceeds going
      exact fun _ => ⟨stage, queue, ⟨going, stands.writer_eq, stands.stage_eq, stands.channel_eq⟩,
        allowed⟩
  | polled going =>
      obtain ⟨stage, queue, stands, allowed⟩ := proceeds going
      have proceeds := (polledTo leaves stands allowed).proceeds
      rwa [PumpingRun.polled, Served.turn, Future.Moment.turn_poll going] at proceeds

theorem proceeds_run (leaves : stream.next.LeavesChannel call.responses) {capacity : Nat}
    {served : PumpingRun call stream} (proceeds : served.Proceeds capacity)
    (turns : List ServedTurn) :
    PumpingRun.Proceeds capacity (served.run call.responses turns) := by
  induction turns generalizing served with
  | nil => exact proceeds
  | cons turn turns ih => exact ih (proceeds_turn leaves proceeds turn)

theorem proceeds_start {memory : Memory}
    (fresh : memory.channels call.responses = .create capacity) :
    PumpingRun.Proceeds capacity (Served.start (call.pumping stream) memory) := by
  have empty : Channel.create capacity = Channel.holding capacity ([] : List Payload) := by
    simp [Channel.create, Channel.holding]
  exact fun _ =>
    ⟨.idle, [], ⟨rfl, rfl, rfl, fresh.trans empty⟩, .reading (.inl rfl) (Nat.zero_le _)⟩

/-! ## After a firing -/

/-- A pump whose token has fired is over, or it waits for room. -/
inductive Stuck (capacity bound : Nat) (served : PumpingRun call stream) : Prop where
  | ended : served.moment.result.isSome = true → Stuck capacity bound served
  | blocked {queue : List Payload} : served.hasFired = true →
      served.Stands capacity (.writing []) queue → queue.length ≤ bound →
      Stuck capacity bound served

theorem hasFired_turn {served : PumpingRun call stream} (fired : served.hasFired = true)
    (turn : ServedTurn) : PumpingRun.hasFired (served.turn call.responses turn) = true := by
  obtain ⟨later, history_eq⟩ := served.history_turn call.responses turn
  rw [hasFired, history_eq]
  exact History.hasFired_append later fired

theorem Stuck.turn (leaves : stream.next.LeavesChannel call.responses) {bound : Nat}
    (tight : bound ≤ capacity + 1) {served : PumpingRun call stream}
    (stuck : Stuck capacity bound served) (turn : ServedTurn) :
    Stuck capacity bound (served.turn call.responses turn) := by
  cases stuck with
  | ended ended =>
      obtain ⟨result, result_eq⟩ := Option.isSome_iff_exists.mp ended
      cases turn with
      | receive => exact .ended ended
      | work turn =>
          rw [Served.turn_over call.responses result_eq]
          exact .ended ended
  | @blocked queue fired stands few =>
      have stillFired := hasFired_turn fired turn
      cases turn with
      | receive =>
          refine .blocked stillFired (stands.receive (Nat.le_trans few tight)) ?_
          rw [List.length_tail]
          omega
      | work turn =>
          cases turn with
          | outside event =>
              rw [Served.turn, Future.Moment.turn_outside stands.going] at stillFired ⊢
              exact .blocked stillFired
                ⟨stands.going, stands.writer_eq, stands.stage_eq, stands.channel_eq⟩ few
          | poll =>
              by_cases room : queue.length ≤ capacity
              · have released := polled_released fired stands room
                exact .ended (by rw [← polled, released]; rfl)
              · have polledTo := polledTo leaves stands (.writing (Nat.le_trans few tight))
                cases polledTo with
                | waits unfired => cases unfired.symm.trans fired
                | blocked full stands => exact .blocked stillFired stands (by omega)
                | ends ended => exact .ended (by rw [← polled, ended]; rfl)

theorem Stuck.run (leaves : stream.next.LeavesChannel call.responses) {bound : Nat}
    (tight : bound ≤ capacity + 1) {served : PumpingRun call stream}
    (stuck : Stuck capacity bound served) (turns : List ServedTurn) :
    Stuck capacity bound (served.run call.responses turns) := by
  induction turns generalizing served with
  | nil => exact stuck
  | cons turn turns ih => exact ih (stuck.turn leaves tight turn)

/-- A receive makes room. -/
theorem Stuck.receive {served : PumpingRun call stream}
    (stuck : Stuck capacity (capacity + 1) served) :
    Stuck capacity capacity (served.turn call.responses .receive) := by
  cases stuck with
  | ended ended => exact .ended ended
  | blocked fired stands few =>
      refine .blocked (hasFired_turn fired .receive) (stands.receive few) ?_
      rw [List.length_tail]
      omega

theorem Stuck.released (leaves : stream.next.LeavesChannel call.responses)
    {served : PumpingRun call stream} (stuck : Stuck capacity (capacity + 1) served)
    {turns : List ServedTurn} (receives : 0 < ServedTurn.receives turns) :
    Stuck capacity capacity (served.run call.responses turns) := by
  induction turns generalizing served with
  | nil => cases receives
  | cons turn turns ih =>
      cases turn with
      | receive => exact stuck.receive.run leaves (Nat.le_succ _) turns
      | work turn => exact ih (stuck.turn leaves (Nat.le_refl _) (.work turn)) receives

theorem Stuck.over_polled {served : PumpingRun call stream}
    (stuck : Stuck capacity capacity served) :
    served.polled.moment.result.isSome = true := by
  cases stuck with
  | ended ended =>
      obtain ⟨result, result_eq⟩ := Option.isSome_iff_exists.mp ended
      rw [polled, Served.turn_over call.responses result_eq]
      exact ended
  | blocked fired stands room => rw [polled_released fired stands room]; rfl

/-- What holds of a pump that goes on although its token has fired. -/
structure Interrupted (capacity : Nat) (served : PumpingRun call stream) : Prop where
  /-- The next poll is pending exactly if it leaves the channel full. -/
  pending_iff : served.polled.moment.result = none ↔
    capacity < (served.polled.channel call.responses).queue.length
  /-- The pump ends with the cancellation, or with what the stream has for it just then. -/
  ends_with : ∀ result ∈ served.polled.moment.result, result = .error .cancelled ∨
    served.stage.isWaiting = true ∧ StreamResult served.nextItem result
  /-- A receive is enough for the pump to be over at the poll after it. -/
  released : ∀ later, 0 < ServedTurn.receives later →
    (PumpingRun.polled (served.polled.run call.responses later)).moment.result.isSome = true

theorem Proceeds.interrupted (leaves : stream.next.LeavesChannel call.responses)
    {served : PumpingRun call stream} (proceeds : served.Proceeds capacity)
    (going : served.moment.result = none) (fired : served.hasFired = true) :
    Interrupted capacity served := by
  obtain ⟨stage, queue, stands, allowed⟩ := proceeds going
  have stillFired : served.polled.hasFired = true := hasFired_turn fired (.work .poll)
  cases polledTo leaves stands allowed with
  | waits unfired => cases unfired.symm.trans fired
  | blocked full stands =>
      have pending := stands.going
      refine ⟨⟨fun _ => ?_, fun _ => pending⟩, ?_, fun later receives => ?_⟩
      · rw [stands.channel_eq, Channel.holding, full]
        exact Nat.lt_succ_self capacity
      · intro found found_eq
        cases found_eq.symm.trans pending
      · have stuck : Stuck capacity (capacity + 1) served.polled :=
          .blocked stillFired stands (Nat.le_of_eq full)
        exact (stuck.released leaves receives).over_polled
  | @ends result ended gives room =>
      refine ⟨⟨fun pending => ?_, fun full => absurd room (Nat.not_le_of_lt full)⟩, ?_, ?_⟩
      · cases pending.symm.trans ended
      · intro found found_eq
        cases (Option.mem_def.mp found_eq).symm.trans ended
        exact gives fired
      · intro later receives
        have stuck : Stuck capacity (capacity + 1) served.polled := .ended (by rw [ended]; rfl)
        exact (stuck.released leaves receives).over_polled

end PumpingRun

namespace ServerHandler

/-- A method that returns a stream of responses has it pumped until the token of the call fires. A
poll after that is pending only while the channel of the responses is full. -/
theorem serve_interrupted {operation : Operation}
    (classified : operation.method.shape? = some operation.shape) {response : DeclaredType}
    (returns_eq : operation.method.returns = .wrapped .responseStream response)
    {invoker : Invoker} {handler : ServerHandler}
    (handler_eq : ServerHandler.of operation invoker = .ok handler) {call : IncomingCall}
    {responses : ItemStream (PayloadOf response.valueType)}
    (returned : invoker (handler.arguments call) =
      .ok (.wrapped .responseStream response.valueType responses))
    (leaves : responses.next.LeavesChannel call.responses) {capacity : Nat} {memory : Memory}
    (fresh : memory.channels call.responses = .create capacity) :
    handler.serve call memory = (.streaming (call.pumping responses.erase), memory) ∧
      ∀ turns,
        let served : PumpingRun call responses.erase :=
          (Served.start _ memory).run call.responses turns
        served.moment.result = none → served.hasFired = true → served.Interrupted capacity := by
  obtain ⟨form_eq, invoker_eq⟩ := form_of_ok handler_eq
  refine ⟨serve_stream (form_of_stream classified returns_eq form_eq) ?_ memory, ?_⟩
  · rw [invoker_eq]
    exact returned
  · intro turns served going fired
    have apart : (ItemStream.erase responses).next.LeavesChannel call.responses :=
      ItemStream.leavesChannel_erase leaves
    have proceeds := PumpingRun.proceeds_run apart (PumpingRun.proceeds_start fresh) turns
    exact proceeds.interrupted apart going fired

end ServerHandler

namespace Sample

/-- A call of the sample method whose token can fire. -/
def stoppableCall : IncomingCall :=
  { pingCall with context := { pingCall.context with token := .named "stop" } }

/-- The token fires while the first pong waits for room, and nothing is received. -/
def stoppedTurns : List ServedTurn :=
  [.work .poll, .work (.outside (.fired "stop"))]

theorem streamedPongs_interrupted :
    streamedPongs.method.shape? = some streamedPongs.shape ∧
      ∃ handler, ServerHandler.of streamedPongs pongStreamer.invoker = .ok handler ∧
        pongStreamer.invoker (handler.arguments stoppableCall) =
          .ok (.wrapped .responseStream pong.valueType (Stream.ofScript pongScript)) ∧
        unbuffered.channels stoppableCall.responses = .create 0 ∧
        let served : PumpingRun stoppableCall (ItemStream.erase (Stream.ofScript pongScript)) :=
          (Served.start _ unbuffered).run stoppableCall.responses stoppedTurns
        served.moment.result = none ∧ served.hasFired = true ∧ served.Interrupted 0 := by
  have classified : streamedPongs.method.shape? = some streamedPongs.shape := rfl
  obtain ⟨handler, handler_eq⟩ : ∃ handler,
      ServerHandler.of streamedPongs pongStreamer.invoker = .ok handler := ⟨_, rfl⟩
  have returned : pongStreamer.invoker (handler.arguments stoppableCall) =
      .ok (.wrapped .responseStream pong.valueType (Stream.ofScript pongScript)) := by
    cases handler_eq
    rfl
  have fresh : unbuffered.channels stoppableCall.responses = .create 0 := rfl
  obtain ⟨-, interrupted⟩ := ServerHandler.serve_interrupted classified rfl handler_eq returned
    (Stream.leavesChannel_ofScript pongScript _) fresh
  have going : ((Served.start
      (stoppableCall.pumping (ItemStream.erase (Stream.ofScript pongScript))) unbuffered).run
        stoppableCall.responses stoppedTurns).moment.result = none := by
    decide +kernel
  have fired : PumpingRun.hasFired ((Served.start
      (stoppableCall.pumping (ItemStream.erase (Stream.ofScript pongScript))) unbuffered).run
        stoppableCall.responses stoppedTurns) = true := by
    decide +kernel
  exact ⟨classified, handler, handler_eq, returned, fresh, going, fired,
    interrupted stoppedTurns going fired⟩

/-- The pump is polled after the token has fired, and it is not over. -/
theorem fullChannel_outlasts_token :
    ∃ handler, ServerHandler.of streamedPongs pongStreamer.invoker = .ok handler ∧
      ∃ work, handler.serve stoppableCall unbuffered = (.streaming work, unbuffered) ∧
        let served :=
          (Served.start work unbuffered).run stoppableCall.responses (stoppedTurns ++ [.work .poll])
        served.moment.history.hasFired stoppableCall.context.token = true ∧
          served.moment.result = none :=
  ⟨_, rfl, _, rfl, by decide +kernel, by decide +kernel⟩

end Sample

end RpcContracts
