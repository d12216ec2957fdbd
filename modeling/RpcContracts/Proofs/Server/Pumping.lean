import RpcContracts.Proofs.Server.Serving

/-!
# Pumped responses

A method that returns a stream of responses leaves it to the handler to pump them into a channel,
which a runtime receives from. What has been received, what is queued and what is left of the stream
always make up the stream: nothing is lost between the two ends, and the queue never holds more than
one item beyond its capacity.
-/

namespace RpcContracts

/-! ## Channels that stay open -/

/-- An open channel that holds some items. Its sender is parked while these are too many. -/
def Channel.holding {α : Type} (capacity : Nat) (queue : List α) : Channel α :=
  ⟨capacity, queue, capacity < queue.length, true⟩

theorem Channel.receive_holding {α : Type} {capacity : Nat} {queue : List α}
    (bounded : queue.length ≤ capacity + 1) :
    (holding capacity queue).receive.2 = holding capacity queue.tail := by
  cases queue with
  | nil => rfl
  | cons item rest =>
      have unparked : ¬capacity < rest.length := by
        rw [List.length_cons] at bounded
        omega
      simp [holding, receive, unparked]

section

variable {number capacity : Nat} {queue : List Payload} {memory : Memory}
  (holds : memory.channels number = .holding capacity queue)

include holds

theorem Writer.sendAll_nil_holding :
    (Writer.direct number).sendAll [] memory =
      (if capacity < queue.length then .pending else .ready (.ok ()), [], .direct number,
        memory) := by
  simp [sendAll, pollFlush, askChannel, passOn, channel, emptied, holds, Channel.pollFlush,
    Channel.holding]

/-- While there is room, a written item is queued, and then the write waits for room again. -/
theorem Writer.sendAll_item_holding (room : queue.length ≤ capacity) (item : Payload) :
    (Writer.direct number).sendAll [item] memory =
      (if capacity < queue.length + 1 then .pending else .ready (.ok ()), [], .direct number,
        memory.setChannel number (.holding capacity (queue ++ [item]))) := by
  have unparked : ¬capacity < queue.length := by omega
  have ready_eq : (Writer.direct number).pollReady memory =
      (.ready (.ok ()), .direct number, memory) := by
    simp [pollReady, askChannel, passOn, channel, emptied, holds, Channel.pollReady,
      Channel.holding, unparked]
  have send_eq : (Writer.direct number).send item memory =
      (.ok (), .direct number,
        memory.setChannel number (.holding capacity (queue ++ [item]))) := by
    simp [send, holds, Channel.send, Channel.holding, unparked]
  rw [sendAll]
  simp only [ready_eq, send_eq]
  rw [sendAll_nil_holding (Memory.channels_setChannel_same ..), List.length_append,
    List.length_singleton]

end

/-! ## Scripts -/

/-- The items that a script gives to a pump. -/
def Poll.outcomes {type : ValueType} (script : List (Poll (OutcomeOf type))) : List Outcome :=
  (readyItems script).map Outcome.ofTyped

/-- The values before the first error. -/
def valuesBeforeError : List Outcome → List Payload
  | .ok value :: rest => value :: valuesBeforeError rest
  | _ => []

/-- The first error, if there is one. -/
def firstError : List Outcome → Except RpcError Unit
  | [] => .ok ()
  | .ok _ :: rest => firstError rest
  | .error error :: _ => .error error

theorem valuesBeforeError_ok_append (values : List Payload) (rest : List Outcome) :
    valuesBeforeError (values.map .ok ++ rest) = values ++ valuesBeforeError rest := by
  induction values with
  | nil => rfl
  | cons value values ih => simp [valuesBeforeError, ih]

theorem firstError_ok_append (values : List Payload) (rest : List Outcome) :
    firstError (values.map .ok ++ rest) = firstError rest := by
  induction values with
  | nil => rfl
  | cons value values ih => simp [firstError, ih]

/-- What was read of a script before a rest is left: some values, and then a last item or none. -/
def Gives {type : ValueType} (script left : List (Poll (OutcomeOf type))) (values : List Payload)
    (last : List Outcome) : Prop :=
  ∃ read, script = read ++ left ∧ Poll.outcomes read = values.map .ok ++ last

namespace Gives

variable {type : ValueType} {script rest : List (Poll (OutcomeOf type))} {values : List Payload}

theorem pause (gives : Gives script (.pending :: rest) values []) :
    Gives script rest values [] := by
  obtain ⟨read, rfl, outcomes_eq⟩ := gives
  refine ⟨read ++ [.pending], by simp, ?_⟩
  rw [← outcomes_eq]
  simp [Poll.outcomes, Poll.readyItems]

theorem item {outcome : OutcomeOf type} (gives : Gives script (.ready outcome :: rest) values []) :
    Gives script rest values [Outcome.ofTyped outcome] := by
  obtain ⟨read, rfl, outcomes_eq⟩ := gives
  refine ⟨read ++ [.ready outcome], by simp, ?_⟩
  have split_eq : Poll.outcomes (read ++ [.ready outcome]) =
      Poll.outcomes read ++ [Outcome.ofTyped outcome] := by simp [Poll.outcomes, Poll.readyItems]
  rw [split_eq, outcomes_eq, List.append_nil]

theorem value {payload : Payload} (gives : Gives script rest values [.ok payload]) :
    Gives script rest (values ++ [payload]) [] := by
  obtain ⟨read, script_eq, outcomes_eq⟩ := gives
  exact ⟨read, script_eq, by simp [outcomes_eq]⟩

variable {last : List Outcome}

theorem outcomes_eq (gives : Gives script rest values last) :
    Poll.outcomes script = values.map .ok ++ (last ++ Poll.outcomes rest) := by
  obtain ⟨read, rfl, read_eq⟩ := gives
  rw [← List.append_assoc, ← read_eq]
  simp [Poll.outcomes, Poll.readyItems]

/-- What was read is what is no longer left. -/
theorem taken_eq (gives : Gives script rest values last) :
    Poll.outcomes (script.take (script.length - rest.length)) = values.map .ok ++ last := by
  obtain ⟨read, rfl, read_eq⟩ := gives
  rw [← read_eq, List.length_append, Nat.add_sub_cancel, List.take_left]

end Gives

/-! ## Polls of the pump -/

/-- What a poll of the next item comes to. -/
inductive ReadsScript {type : ValueType} : List (Poll (OutcomeOf type)) →
    Poll (Option (Option Outcome)) → List (Poll (OutcomeOf type)) → Prop where
  | ended : ReadsScript [] (.ready (some none)) []
  | pause {rest : List (Poll (OutcomeOf type))} : ReadsScript (.pending :: rest) .pending rest
  | item {outcome : OutcomeOf type} {rest : List (Poll (OutcomeOf type))} :
      ReadsScript (.ready outcome :: rest) (.ready (some (some (Outcome.ofTyped outcome)))) rest

/-- An item that was read is the first of the script. -/
theorem ReadsScript.exists_item {type : ValueType} {left after : List (Poll (OutcomeOf type))}
    {item : Outcome} (reads : ReadsScript left (.ready (some (some item))) after) :
    ∃ outcome, left = .ready outcome :: after ∧ Outcome.ofTyped outcome = item := by
  generalize answer_eq : Poll.ready (some (some item)) = answer at reads
  cases reads with
  | item =>
      cases answer_eq
      exact ⟨_, rfl, rfl⟩
  | _ => cases answer_eq

/-- A value that is read is one more value given. -/
theorem ReadsScript.gives {type : ValueType} {script left after : List (Poll (OutcomeOf type))}
    {item : Outcome} {values : List Payload}
    (reads : ReadsScript left (.ready (some (some item))) after)
    (given : Gives script left values []) : Gives script after values [item] := by
  cases reads
  exact given.item

theorem ReadsScript.gives_value {type : ValueType}
    {script left after : List (Poll (OutcomeOf type))} {item : Payload}
    {received queue : List Payload}
    (reads : ReadsScript left (.ready (some (some (.ok item)))) after)
    (given : Gives script left (received ++ queue) []) :
    Gives script after (received ++ (queue ++ [item])) [] := by
  rw [← List.append_assoc]
  exact (reads.gives given).value

theorem readsScript_of_race {type : ValueType} {script : List (Poll (OutcomeOf type))}
    {token : Token} {begun : Bool} {left after : List (Poll (OutcomeOf type))} {history : History}
    {memory memoryAfter : Memory} {answer : Poll (Option (Option Outcome))}
    (unfired : history.hasFired token = false)
    (raced_eq : PollStep.race (ItemStream.erase (Stream.ofScript script)).next token begun left
      history memory = (answer, after, memoryAfter)) :
    memoryAfter = memory ∧ ReadsScript left answer after := by
  have raced := PollStep.raced (ItemStream.erase (Stream.ofScript script)).next token begun left
    history memory
  rw [raced_eq] at raced
  cases raced with
  | prevented _ fired => cases unfired.symm.trans fired
  | interrupted _ fired => cases unfired.symm.trans fired
  | finished _ polled =>
      rcases left with _ | ⟨_ | item, rest⟩ <;> cases polled
      · exact ⟨rfl, .ended⟩
      · exact ⟨rfl, .item⟩
  | waiting _ polled =>
      rcases left with _ | ⟨_ | item, rest⟩ <;> cases polled
      exact ⟨rfl, .pause⟩

/-- How a pump ended: with the stream, or at its first error. -/
inductive PumpEnd {type : ValueType} :
    Except RpcError Unit → List Outcome → List (Poll (OutcomeOf type)) → Prop where
  | ended : PumpEnd (.ok ()) [] []
  | failed {error : RpcError} {left : List (Poll (OutcomeOf type))} :
      PumpEnd (.error error) [.error error] left

/-- The values that end a script are followed by the error that the pump ended with. -/
theorem PumpEnd.outcomes {type : ValueType} {result : Except RpcError Unit} {last : List Outcome}
    {left : List (Poll (OutcomeOf type))} (pumpEnd : PumpEnd result last left) :
    valuesBeforeError (last ++ Poll.outcomes left) = [] ∧
      firstError (last ++ Poll.outcomes left) = result := by
  cases pumpEnd <;> exact ⟨rfl, rfl⟩

/-- The values that were read are those received and those queued. A pump that reads on has room in
the channel, and one that is over has shut it. -/
inductive Flows {type : ValueType} (capacity : Nat) (script : List (Poll (OutcomeOf type)))
    (received : List Payload) :
    Option (Except RpcError Unit) → PumpStage → List (Poll (OutcomeOf type)) → Channel Payload →
      Prop where
  | reading {stage : PumpStage} {left : List (Poll (OutcomeOf type))} {queue : List Payload} :
      stage = .idle ∨ stage = .waiting → Gives script left (received ++ queue) [] →
      queue.length ≤ capacity →
      Flows capacity script received none stage left (.holding capacity queue)
  | writing {left : List (Poll (OutcomeOf type))} {queue : List Payload} :
      Gives script left (received ++ queue) [] → queue.length ≤ capacity + 1 →
      Flows capacity script received none (.writing []) left (.holding capacity queue)
  | ended {result : Except RpcError Unit} {last : List Outcome} {stage : PumpStage}
      {left : List (Poll (OutcomeOf type))} {channel : Channel Payload} :
      Gives script left (received ++ channel.queue) last → PumpEnd result last left →
      channel.isOpen = false → channel.queue.length ≤ capacity + 1 →
      Flows capacity script received (some result) stage left channel

/-- What a poll of the pump comes to. -/
inductive Pumps {type : ValueType} (capacity : Nat) (script : List (Poll (OutcomeOf type)))
    (received : List Payload) (number : Nat) :
    Poll (Except RpcError Unit) × (PumpStage × List (Poll (OutcomeOf type)) × Writer) × Memory →
      Prop where
  | goesOn {stage : PumpStage} {left : List (Poll (OutcomeOf type))} {memory : Memory} :
      Flows capacity script received none stage left (memory.channels number) →
      Pumps capacity script received number (.pending, (stage, left, .direct number), memory)
  | ends {result : Except RpcError Unit} {stage : PumpStage}
      {left : List (Poll (OutcomeOf type))} {writer : Writer} {memory : Memory} :
      Flows capacity script received (some result) stage left (memory.channels number).close →
      Pumps capacity script received number (.ready result, (stage, left, writer), memory)

section

variable {type : ValueType} {script : List (Poll (OutcomeOf type))} {token : Token}
  {history : History} {capacity number : Nat} {received : List Payload}
  (unfired : history.hasFired token = false)

include unfired

/-- One poll reads item after item while there is room, and queues one more than that at most. -/
theorem pumpItems_pumps {begun : Bool} {left : List (Poll (OutcomeOf type))} {memory : Memory}
    {queue : List Payload} (gives : Gives script left (received ++ queue) [])
    (room : queue.length ≤ capacity)
    (holds : memory.channels number = .holding capacity queue) :
    Pumps capacity script received number
      (ItemStream.pumpItems token (ItemStream.erase (Stream.ofScript script)) begun left
        (.direct number) history memory) := by
  generalize writer_eq : Writer.direct number = writer
  fun_induction ItemStream.pumpItems token (ItemStream.erase (Stream.ofScript script)) begun left
    writer history memory generalizing queue with
  | case1 begun left writer memory after memoryAfter raced_eq =>
      subst writer_eq
      obtain ⟨rfl, reads⟩ := readsScript_of_race unfired raced_eq
      cases reads
      refine .goesOn ?_
      rw [holds]
      exact .reading (.inr rfl) gives.pause room
  | case2 begun left writer memory after memoryAfter raced_eq =>
      obtain ⟨-, reads⟩ := readsScript_of_race unfired raced_eq
      cases reads
  | case3 begun left writer memory after memoryAfter raced_eq =>
      obtain ⟨rfl, reads⟩ := readsScript_of_race unfired raced_eq
      cases reads
      refine .ends ?_
      rw [holds]
      exact .ended gives .ended rfl (Nat.le_succ_of_le room)
  | case4 begun left writer memory error after memoryAfter raced_eq =>
      obtain ⟨rfl, reads⟩ := readsScript_of_race unfired raced_eq
      refine .ends ?_
      rw [holds]
      exact .ended (reads.gives gives) .failed rfl (Nat.le_succ_of_le room)
  | case5 begun left writer memory item after memoryAfter raced_eq rest sender memoryLast sent =>
      subst writer_eq
      obtain ⟨rfl, reads⟩ := readsScript_of_race unfired raced_eq
      rw [Writer.sendAll_item_holding holds room] at sent
      obtain ⟨-, rfl, rfl, rfl⟩ : _ ∧ _ ∧ _ ∧ _ := by simpa only [Prod.mk.injEq] using sent
      refine .goesOn ?_
      rw [Memory.channels_setChannel_same]
      exact .writing (reads.gives_value gives) (by simpa using room)
  | case6 begun left writer memory item after memoryAfter raced_eq error rest sender memoryLast
      sent =>
      subst writer_eq
      obtain ⟨rfl, -⟩ := readsScript_of_race unfired raced_eq
      rw [Writer.sendAll_item_holding holds room] at sent
      have answer_eq := congrArg Prod.fst sent
      split at answer_eq <;> cases answer_eq
  | case7 begun left writer memory item after memoryAfter raced_eq rest sender memoryLast sent ih =>
      subst writer_eq
      obtain ⟨rfl, reads⟩ := readsScript_of_race unfired raced_eq
      rw [Writer.sendAll_item_holding holds room] at sent
      obtain ⟨answer_eq, rfl, rfl, rfl⟩ : _ ∧ _ ∧ _ ∧ _ := by
        simpa only [Prod.mk.injEq] using sent
      have stillRoom : (queue ++ [item]).length ≤ capacity := by
        split at answer_eq
        · cases answer_eq
        · rw [List.length_append, List.length_singleton]
          omega
      exact ih (reads.gives_value gives) stillRoom (Memory.channels_setChannel_same ..) rfl

/-- One poll of a pump that goes on. -/
theorem pollPump_pumps {stage : PumpStage} {left : List (Poll (OutcomeOf type))} {memory : Memory}
    (flows : Flows capacity script received none stage left (memory.channels number)) :
    Pumps capacity script received number
      (ItemStream.pollPump token (ItemStream.erase (Stream.ofScript script))
        (stage, left, .direct number) history memory) := by
  generalize holds : memory.channels number = channel at flows
  cases flows with
  | reading reads gives room =>
      obtain rfl | rfl := reads <;> exact pumpItems_pumps unfired gives room holds
  | @writing _ queue gives bounded =>
      have sent := Writer.sendAll_nil_holding holds
      unfold ItemStream.pollPump
      simp only [sent]
      by_cases full : capacity < queue.length
      · rw [if_pos full]
        refine .goesOn ?_
        rw [holds]
        exact .writing gives bounded
      · rw [if_neg full]
        exact pumpItems_pumps unfired gives (by omega) holds

end

section

variable {type : ValueType} {script : List (Poll (OutcomeOf type))} {call : IncomingCall}
  {capacity : Nat}

/-- The pumping of a script into a channel. -/
abbrev PumpRun (call : IncomingCall) (script : List (Poll (OutcomeOf type))) :=
  Served (call.pumping (ItemStream.erase (Stream.ofScript script)))

/-- What the pump has left of the script. -/
def PumpRun.left (served : PumpRun call script) : List (Poll (OutcomeOf type)) :=
  (served.moment.state : PumpStage × List (Poll (OutcomeOf type)) × Writer).2.1

/-- The values that the pump has pulled off the script. -/
def PumpRun.pulled (served : PumpRun call script) : List Payload :=
  (Poll.outcomes (script.take (script.length - served.left.length))).filterMap Except.toOption

/-- The responses flow at a moment of a run. -/
structure PumpRun.Flowing (capacity : Nat) (served : PumpRun call script) : Prop where
  flows : Flows capacity script served.received served.moment.result
    (served.moment.state : PumpStage × List (Poll (OutcomeOf type)) × Writer).1 served.left
    (served.channel call.responses)
  writer_eq : served.moment.result = none →
    (served.moment.state : PumpStage × List (Poll (OutcomeOf type)) × Writer).2.2 =
      .direct call.responses

theorem Flows.receive {received : List Payload} {result : Option (Except RpcError Unit)}
    {stage : PumpStage} {left : List (Poll (OutcomeOf type))} {channel : Channel Payload}
    (flows : Flows capacity script received result stage left channel) :
    Flows capacity script (received ++ channel.receive.1.item?.toList) result stage left
      channel.receive.2 := by
  have parts : received ++ channel.receive.1.item?.toList ++ channel.queue.tail =
      received ++ channel.queue := by rw [List.append_assoc, channel.receive_conserves]
  have shorter : channel.queue.tail.length ≤ channel.queue.length := by simp
  cases flows with
  | reading reads gives room =>
      rw [Channel.receive_holding (Nat.le_succ_of_le room)]
      exact .reading reads (parts.symm ▸ gives) (Nat.le_trans shorter room)
  | writing gives bounded =>
      rw [Channel.receive_holding bounded]
      exact .writing (parts.symm ▸ gives) (Nat.le_trans shorter bounded)
  | ended gives pumpEnd shut bounded =>
      rw [← channel.receive_queue] at parts shorter
      exact .ended (parts.symm ▸ gives) pumpEnd (channel.receive_isOpen.trans shut)
        (Nat.le_trans shorter bounded)

theorem PumpRun.flowing_polled {served : PumpRun call script}
    (unfired : served.moment.history.hasFired call.context.token = false)
    (going : served.moment.result = none) (flowing : served.Flowing capacity) :
    PumpRun.Flowing capacity { served with moment := served.moment.polled } := by
  obtain ⟨⟨⟨stage, left, writer⟩, history, memory, result⟩, received⟩ := served
  obtain ⟨flows, writer_eq⟩ := flowing
  obtain rfl : result = none := going
  obtain rfl : writer = .direct call.responses := writer_eq rfl
  have pumps : Pumps capacity script received call.responses
      (ItemStream.pollPump call.context.token (ItemStream.erase (Stream.ofScript script))
        (stage, left, .direct call.responses) history memory) := pollPump_pumps unfired flows
  unfold Future.Moment.polled
  simp only [IncomingCall.pumping, ItemStream.pump, Future.whenOver]
  generalize ItemStream.pollPump call.context.token (ItemStream.erase (Stream.ofScript script))
    (stage, left, .direct call.responses) history memory = answer at pumps
  cases pumps with
  | goesOn flows => exact ⟨flows, fun _ => rfl⟩
  | @ends result stage left writer memory flows =>
      refine ⟨?_, fun going => by cases going⟩
      show Flows capacity script received (some result) stage left
        ((memory.closeChannel call.responses).channels call.responses)
      rw [Memory.closeChannel, Memory.channels_setChannel_same]
      exact flows

theorem PumpRun.flowing_turn {served : PumpRun call script} (turn : ServedTurn)
    (unfired : (served.turn call.responses turn).moment.history.hasFired call.context.token = false)
    (flowing : served.Flowing capacity) :
    PumpRun.Flowing capacity (served.turn call.responses turn) := by
  have turned := served.turned call.responses turn
  generalize served.turn call.responses turn = after at turned unfired ⊢
  cases turned with
  | receive =>
      refine ⟨?_, flowing.writer_eq⟩
      have flows := flowing.flows.receive
      rw [Served.turn, Memory.receive]
      show Flows _ _ _ _ _ _ ((Memory.setChannel _ _ _).channels _)
      rw [Memory.channels_setChannel_same]
      exact flows
  | ended => exact flowing
  | outside => exact ⟨flowing.flows, flowing.writer_eq⟩
  | polled going =>
      rw [Future.Moment.history_polled] at unfired
      exact flowing_polled unfired going flowing

theorem PumpRun.flowing_run {served : PumpRun call script} (turns : List ServedTurn)
    (unfired :
      (served.run call.responses turns).moment.history.hasFired call.context.token = false)
    (flowing : served.Flowing capacity) :
    PumpRun.Flowing capacity (served.run call.responses turns) := by
  induction turns generalizing served with
  | nil => exact flowing
  | cons turn turns ih =>
      exact ih unfired (flowing_turn turn (Served.unfired_turn unfired) flowing)

theorem Flows.given {received : List Payload} {result : Option (Except RpcError Unit)}
    {stage : PumpStage} {left : List (Poll (OutcomeOf type))} {channel : Channel Payload}
    (flows : Flows capacity script received result stage left channel) :
    channel.queue.length ≤ capacity + 1 ∧
      ∃ last, Gives script left (received ++ channel.queue) last ∧
        last.filterMap Except.toOption = [] := by
  cases flows with
  | reading _ gives room => exact ⟨Nat.le_succ_of_le room, [], gives, rfl⟩
  | writing gives bounded => exact ⟨bounded, [], gives, rfl⟩
  | ended gives pumpEnd _ bounded =>
      refine ⟨bounded, _, gives, ?_⟩
      cases pumpEnd <;> rfl

/-- Work delivers some values and ends with a result: the runtime receives the values in order, and
once the work is over it can receive all of them and then finds the end. -/
structure Served.Delivers {work : Task Unit} (served : Served work) (number : Nat)
    (values : List Payload) (final : Except RpcError Unit) : Prop where
  received_first : served.received <+: values
  resolved : ∀ result ∈ served.moment.result, result = final ∧
    ∀ later, (served.channel number).queue.length ≤ ServedTurn.receives later →
      (served.run number later).received = values ∧
        (served.run number later).poll number = .ready none

/-- Work whose responses flow as those of a pump delivers what is pumped. -/
theorem Flows.delivers {work : Task Unit} {served : Served work} {number : Nat} {stage : PumpStage}
    {left : List (Poll (OutcomeOf type))}
    (flows : Flows capacity script served.received served.moment.result stage left
      (served.channel number)) :
    served.Delivers number (valuesBeforeError (Poll.outcomes script))
      (firstError (Poll.outcomes script)) := by
  obtain ⟨-, last, gives, -⟩ := flows.given
  refine ⟨?_, ?_⟩
  · rw [gives.outcomes_eq, valuesBeforeError_ok_append, List.append_assoc]
    exact List.prefix_append _ _
  · intro result ended
    rw [Option.mem_def.mp ended] at flows
    cases flows with
    | ended gives pumpEnd shut _ =>
        obtain ⟨noValue, error_eq⟩ := pumpEnd.outcomes
        rw [gives.outcomes_eq, valuesBeforeError_ok_append, firstError_ok_append, noValue, error_eq,
          List.append_nil]
        refine ⟨rfl, fun later enough => ?_⟩
        obtain ⟨isOpen_eq, queue_eq, parts_eq⟩ :=
          Served.run_over number served (Option.mem_def.mp ended) later
        rw [List.drop_eq_nil_of_le enough] at queue_eq
        rw [queue_eq, List.append_nil] at parts_eq
        exact ⟨parts_eq, Channel.receive_shut queue_eq (isOpen_eq.symm.trans shut)⟩

/-- What holds of a pumped call at a moment of a run. -/
structure Pumped (capacity : Nat) (served : PumpRun call script) : Prop where
  received_first : served.received <+: valuesBeforeError (Poll.outcomes script)
  bounded : served.pulled.length ≤ served.received.length + capacity + 1
  resolved : ∀ result ∈ served.moment.result, result = firstError (Poll.outcomes script) ∧
    ∀ later, (served.channel call.responses).queue.length ≤ ServedTurn.receives later →
      (served.run call.responses later).received = valuesBeforeError (Poll.outcomes script) ∧
        (served.run call.responses later).poll call.responses = .ready none

theorem PumpRun.Flowing.pumped {served : PumpRun call script} (flowing : served.Flowing capacity) :
    Pumped capacity served := by
  obtain ⟨bounded, last, gives, noValue⟩ := flowing.flows.given
  obtain ⟨received_first, resolved⟩ := flowing.flows.delivers
  refine ⟨received_first, ?_, resolved⟩
  have pulled_eq : served.pulled = served.received ++ (served.channel call.responses).queue := by
    rw [PumpRun.pulled, gives.taken_eq, List.filterMap_append, noValue, List.append_nil,
      List.filterMap_map]
    exact List.filterMap_some
  rw [pulled_eq, List.length_append]
  omega

theorem PumpRun.flowing_start {memory : Memory}
    (fresh : memory.channels call.responses = .create capacity) :
    PumpRun.Flowing capacity
      (Served.start (call.pumping (ItemStream.erase (Stream.ofScript script))) memory) := by
  refine ⟨?_, fun _ => rfl⟩
  show Flows capacity script [] none .idle script (memory.channels call.responses)
  have empty : Channel.create capacity = Channel.holding capacity ([] : List Payload) := by
    simp [Channel.create, Channel.holding]
  rw [fresh, empty]
  exact .reading (.inl rfl) ⟨[], rfl, rfl⟩ (Nat.zero_le _)

end

namespace ServerHandler

/-- A method that returns a stream of responses has it pumped to the runtime without loss, and
without reading ahead further than the channel of the responses allows. -/
theorem serve_pumped {operation : Operation}
    (classified : operation.method.shape? = some operation.shape) {response : DeclaredType}
    (returns_eq : operation.method.returns = .wrapped .responseStream response)
    {invoker : Invoker} {handler : ServerHandler}
    (handler_eq : ServerHandler.of operation invoker = .ok handler) {call : IncomingCall}
    {script : List (Poll (OutcomeOf response.valueType))}
    (returned : invoker (handler.arguments call) =
      .ok (.wrapped .responseStream response.valueType (Stream.ofScript script)))
    {capacity : Nat} {memory : Memory}
    (fresh : memory.channels call.responses = .create capacity) :
    handler.serve call memory =
        (.streaming (call.pumping (ItemStream.erase (Stream.ofScript script))), memory) ∧
      ∀ turns,
        let served : PumpRun call script := (Served.start _ memory).run call.responses turns
        served.moment.history.hasFired call.context.token = false → Pumped capacity served := by
  obtain ⟨form_eq, invoker_eq⟩ := form_of_ok handler_eq
  refine ⟨serve_stream (form_of_stream classified returns_eq form_eq) ?_ memory, ?_⟩
  · rw [invoker_eq]
    exact returned
  · intro turns served unfired
    exact (PumpRun.flowing_run turns unfired (PumpRun.flowing_start fresh)).pumped

end ServerHandler

namespace Sample

/-- The operation of the sample method that returns its pongs. -/
def streamedPongs : Operation where
  name := "ServerStreaming"
  shape := ⟨.serverStreaming, .none, .streamed, false, ping, pong⟩
  method := serverStreaming

/-- A pong, a pause and another pong. -/
def pongScript : List (Poll (OutcomeOf pong.valueType)) :=
  [.ready (.ok (pongOf 1 "first")), .pending, .ready (.ok (pongOf 2 "second"))]

/-- A function of the sample method that yields the script. -/
def pongStreamer : ServiceFunction where
  params := serverStreaming.params
  returns := serverStreaming.returns
  run := fun _ => Stream.ofScript pongScript

/-- A call of the sample method. -/
def pingCall : IncomingCall where
  request := .payload (.message (.ping 7 "all"))
  requests := .ofItems [] false
  responses := 0
  context :=
    ⟨"/Shapes.AllShapes/ServerStreaming", "ipv4:127.0.0.1:1", .empty, none, .detached, none⟩

/-- A memory in which the responses of the call go to a channel without a buffer. -/
def unbuffered : Memory := Memory.fresh.setChannel pingCall.responses (.create 0)

/-- The runtime receives after every item, and polls on until the work is over. -/
def receivingTurns : List ServedTurn :=
  [.work .poll, .receive, .work .poll, .work .poll, .receive, .work .poll]

theorem streamedPongs_pumped :
    streamedPongs.method.shape? = some streamedPongs.shape ∧
      ∃ handler, ServerHandler.of streamedPongs pongStreamer.invoker = .ok handler ∧
        pongStreamer.invoker (handler.arguments pingCall) =
          .ok (.wrapped .responseStream pong.valueType (Stream.ofScript pongScript)) ∧
        unbuffered.channels pingCall.responses = .create 0 ∧
        let served : PumpRun pingCall pongScript :=
          (Served.start _ unbuffered).run pingCall.responses receivingTurns
        handler.serve pingCall unbuffered =
            (.streaming (pingCall.pumping (ItemStream.erase (Stream.ofScript pongScript))),
              unbuffered) ∧
          served.moment.result.isSome = true ∧
          served.received = [(pongOf 1 "first").val, (pongOf 2 "second").val] ∧
          Pumped 0 served := by
  have classified : streamedPongs.method.shape? = some streamedPongs.shape := rfl
  obtain ⟨handler, handler_eq⟩ : ∃ handler,
      ServerHandler.of streamedPongs pongStreamer.invoker = .ok handler := ⟨_, rfl⟩
  have returned : pongStreamer.invoker (handler.arguments pingCall) =
      .ok (.wrapped .responseStream pong.valueType (Stream.ofScript pongScript)) := by
    cases handler_eq
    rfl
  have fresh : unbuffered.channels pingCall.responses = .create 0 := rfl
  obtain ⟨served_eq, pumped⟩ :=
    ServerHandler.serve_pumped classified rfl handler_eq returned fresh
  exact ⟨classified, handler, handler_eq, returned, fresh, served_eq, by decide +kernel,
    by decide +kernel, pumped receivingTurns rfl⟩

end Sample

end RpcContracts
