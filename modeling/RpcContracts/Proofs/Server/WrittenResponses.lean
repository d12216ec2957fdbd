import RpcContracts.Proofs.Server.PumpProgress

/-!
# Written responses and streamed ones

A method can write its responses one by one, or return a stream of them that is pumped. Written ones
go through a writer that holds each of them back until it is flushed, pumped ones go to the channel
directly. Nevertheless the two keep step with each other poll by poll, so that neither the runtime
nor the result of the call tells them apart.
-/

namespace RpcContracts

/-! ## Writing by a script -/

namespace Writer

/-- What is left of a script of writes: the rest of the write in progress, if there is one, and the
writes and pauses after it. -/
abbrev WriteState := Option (List Payload) × List (Poll Payload) × Writer

/-- Write items one by one, flushing after each and pausing where the script does, and end with a
result unless writing fails. -/
def writeOn (final : Except RpcError Unit) :
    List (Poll Payload) → Writer → Memory → Poll (Except RpcError Unit) × WriteState × Memory
  | [], writer, memory => (.ready final, (none, [], writer), memory)
  | .pending :: rest, writer, memory => (.pending, (none, rest, writer), memory)
  | .ready item :: rest, writer, memory =>
      match writer.sendAll [item] memory with
      | (.pending, left, writer, memory) => (.pending, (some left, rest, writer), memory)
      | (.ready (.error error), _, writer, memory) =>
          (.ready (.error error), (none, rest, writer), memory)
      | (.ready (.ok ()), _, writer, memory) => writeOn final rest writer memory

/-- One poll of a script of writes: a write in progress is finished first. -/
def pollWrites (final : Except RpcError Unit) : PollStep WriteState (Except RpcError Unit) :=
  fun (current, rest, writer) _ memory =>
    match current with
    | none => writeOn final rest writer memory
    | some left =>
        match writer.sendAll left memory with
        | (.pending, left, writer, memory) => (.pending, (some left, rest, writer), memory)
        | (.ready (.error error), _, writer, memory) =>
            (.ready (.error error), (none, rest, writer), memory)
        | (.ready (.ok ()), _, writer, memory) => writeOn final rest writer memory

/-- The task that goes through a script of writes and pauses and ends with a result. -/
def writing (writer : Writer) (script : List (Poll Payload)) (final : Except RpcError Unit) :
    Task Unit where
  State := WriteState
  state := (none, script, writer)
  poll := pollWrites final
  waits := fun _ => 0

/-! ### Writing without pauses -/

theorem advanceEach_cons (final : Except RpcError Unit) (item : Payload) (rest : List Payload)
    (writer : Writer) (memory : Memory) :
    advanceEach final none (item :: rest) writer memory =
      advanceEach final (some [item]) rest writer memory := by
  generalize started : advanceEach final (some [item]) rest writer memory = answer
  rw [advanceEach, started]

theorem advanceEach_some (final : Except RpcError Unit) (current rest : List Payload)
    (writer : Writer) (memory : Memory) :
    advanceEach final (some current) rest writer memory =
      match sendAll current writer memory with
      | (.pending, current, writer, memory) => (.pending, (some current, rest, writer), memory)
      | (.ready (.error error), _, writer, memory) =>
          (.ready (.error error), (none, rest, writer), memory)
      | (.ready (.ok ()), _, writer, memory) => advanceEach final none rest writer memory := by
  rw [advanceEach]
  rcases sendAll current writer memory with ⟨_ | _ | _, left, sender, memoryAfter⟩
  · rfl
  · rfl
  · cases rest with
    | nil => simp only [advanceEach]
    | cons item rest =>
        exact (advanceEach_cons final item rest sender memoryAfter).symm

theorem writeOn_ready (final : Except RpcError Unit) (items : List Payload) (writer : Writer)
    (memory : Memory) :
    writeOn final (items.map .ready) writer memory =
      PollStep.carry (fun (current, rest, writer) => (current, rest.map .ready, writer)) id
        (advanceEach final none items writer memory) := by
  induction items generalizing writer memory with
  | nil =>
      rw [advanceEach]
      rfl
  | cons item items ih =>
      rw [advanceEach_cons, advanceEach_some, List.map_cons, writeOn]
      rcases sendAll [item] writer memory with ⟨_ | _ | _, left, sender, memoryAfter⟩
      · rfl
      · rfl
      · exact ih sender memoryAfter

/-- A method that writes items without pauses goes through a script of them. -/
def writeEach_mirror (writer : Writer) (items : List Payload) (final : Except RpcError Unit) :
    (writer.writeEach items final).Mirror (writer.writing (items.map .ready) final) where
  image := fun (current, rest, writer) => (current, rest.map .ready, writer)
  state_eq := rfl
  waits_eq := fun _ => rfl
  poll_eq := by
    rintro ⟨_ | left, rest, writer⟩ history memory
    · exact writeOn_ready final rest writer memory
    · simp only [writing, pollWrites, writeEach, advanceEach_some]
      rcases sendAll left writer memory with ⟨_ | _ | _, left, sender, memoryAfter⟩
      · rfl
      · rfl
      · exact writeOn_ready final rest sender memoryAfter

/-! ### Writers that hold an item -/

/-- A channel that is ready takes an item. -/
theorem send_of_ready {channel : Channel Payload} (ready : channel.pollReady = .ready (.ok ()))
    (item : Payload) : ∃ after, channel.send item = (.ok (), after) := by
  obtain ⟨buffer, queue, parked, isOpen⟩ := channel
  cases isOpen with
  | false => cases ready
  | true =>
      cases parked with
      | true => cases ready
      | false => exact ⟨_, rfl⟩

/-- A writer that holds an item until it is flushed leaves the channel as one that sends at once. -/
theorem sendAll_typed {number : Nat} {items left : List Payload} {memory memoryAfter : Memory}
    {answer : Poll (Except RpcError Unit)} {sender : Writer} (few : items.length ≤ 1)
    (sent : (direct number).sendAll items memory = (answer, left, sender, memoryAfter)) :
    sender = direct number ∧ left.length ≤ 1 ∧
      (typed number none).sendAll items memory =
        (answer, left, typed number none, memoryAfter) := by
  match items, few with
  | [], _ =>
      cases sent
      exact ⟨rfl, Nat.zero_le _, rfl⟩
  | [item], _ =>
      have direct_ready : (direct number).pollReady memory =
        ((memory.channels number).pollReady, direct number, memory) := rfl
      have typed_ready : (typed number none).pollReady memory =
        ((memory.channels number).pollReady, typed number none, memory) := rfl
      rw [sendAll, direct_ready] at sent
      rw [sendAll, typed_ready]
      cases ready : (memory.channels number).pollReady with
      | pending =>
          rw [ready] at sent
          cases sent
          exact ⟨rfl, Nat.le_refl _, rfl⟩
      | ready result =>
          rw [ready] at sent
          cases result with
          | error error =>
              cases sent
              exact ⟨rfl, Nat.le_refl _, rfl⟩
          | ok value =>
              obtain ⟨channel, send_eq⟩ := send_of_ready ready item
              simp only [send, send_eq] at sent
              cases sent
              refine ⟨rfl, Nat.zero_le _, ?_⟩
              simp only [send, sendAll, pollFlush, askChannel, passOn, send_eq]
              rfl

end Writer

/-! ## The same responses in a stream -/

section

variable {type : ValueType}

/-- A stream yields what a method writes, with the same pauses, and ends with the error that is the
result of the method. What it would yield after the error is never asked for. -/
inductive Streams : List (Poll (PayloadOf type)) → Except RpcError Unit →
    List (Poll (OutcomeOf type)) → Prop where
  | ended : Streams [] (.ok ()) []
  | failed {error : RpcError} {more : List (Poll (OutcomeOf type))} :
      Streams [] (.error error) (.ready (.error error) :: more)
  | pause {writes : List (Poll (PayloadOf type))} {final : Except RpcError Unit}
      {script : List (Poll (OutcomeOf type))} :
      Streams writes final script → Streams (.pending :: writes) final (.pending :: script)
  | value {value : PayloadOf type} {writes : List (Poll (PayloadOf type))}
      {final : Except RpcError Unit} {script : List (Poll (OutcomeOf type))} :
      Streams writes final script →
      Streams (.ready value :: writes) final (.ready (.ok value) :: script)

/-- A script of writes, as the writer sees it. -/
def Poll.erased (writes : List (Poll (PayloadOf type))) : List (Poll Payload) :=
  writes.map (Poll.map Subtype.val)

end

/-! ## Steps -/

/-- A method that writes and a pump that streams are at the same point: between two responses, or in
the middle of writing one. -/
inductive Aligned {type : ValueType} (number : Nat) (final : Except RpcError Unit) :
    Writer.WriteState → PumpStage × List (Poll (OutcomeOf type)) × Writer → Prop where
  | between {writes : List (Poll (PayloadOf type))} {left : List (Poll (OutcomeOf type))}
      {stage : PumpStage} : stage = .idle ∨ stage = .waiting → Streams writes final left →
      Aligned number final (none, Poll.erased writes, .typed number none)
        (stage, left, .direct number)
  | within {writes : List (Poll (PayloadOf type))} {left : List (Poll (OutcomeOf type))}
      {items : List Payload} : items.length ≤ 1 → Streams writes final left →
      Aligned number final (some items, Poll.erased writes, .typed number none)
        (.writing items, left, .direct number)

/-- Two polls after which the same has happened. -/
inductive PolledAlike {type : ValueType} (number : Nat) (final : Except RpcError Unit) :
    Poll (Except RpcError Unit) × Writer.WriteState × Memory →
    Poll (Except RpcError Unit) × (PumpStage × List (Poll (OutcomeOf type)) × Writer) × Memory →
      Prop where
  | goesOn {written : Writer.WriteState}
      {pumped : PumpStage × List (Poll (OutcomeOf type)) × Writer} {memory : Memory} :
      Aligned number final written pumped →
      PolledAlike number final (.pending, written, memory) (.pending, pumped, memory)
  | ends {result : Except RpcError Unit} {written : Writer.WriteState}
      {pumped : PumpStage × List (Poll (OutcomeOf type)) × Writer} {memory : Memory} :
      PolledAlike number final (.ready result, written, memory) (.ready result, pumped, memory)

/-- A value that is read is the one that is written. -/
theorem Streams.of_value {type : ValueType} {writes : List (Poll (PayloadOf type))}
    {final : Except RpcError Unit} {left after : List (Poll (OutcomeOf type))} {item : Payload}
    (streams : Streams writes final left)
    (reads : ReadsScript left (.ready (some (some (.ok item)))) after) :
    ∃ rest, Poll.erased writes = .ready item :: Poll.erased rest ∧ Streams rest final after := by
  obtain ⟨outcome, rfl, item_eq⟩ := reads.exists_item
  cases streams with
  | failed => cases item_eq
  | value streams =>
      cases item_eq
      exact ⟨_, rfl, streams⟩

section

variable {type : ValueType} {script : List (Poll (OutcomeOf type))} {token : Token}
  {history : History} {number : Nat} {final : Except RpcError Unit}
  (unfired : history.hasFired token = false)

include unfired

/-- One poll goes from response to response until one of the two is held up, and then both are. -/
theorem writeOn_agree {writes : List (Poll (PayloadOf type))} {left : List (Poll (OutcomeOf type))}
    (streams : Streams writes final left) (begun : Bool) (memory : Memory) :
    PolledAlike number final
      (Writer.writeOn final (Poll.erased writes) (.typed number none) memory)
      (ItemStream.pumpItems token (ItemStream.erase (Stream.ofScript script)) begun left
        (.direct number) history memory) := by
  generalize writer_eq : Writer.direct number = writer
  fun_induction ItemStream.pumpItems token (ItemStream.erase (Stream.ofScript script)) begun left
    writer history memory generalizing writes with
  | case1 begun left writer memory after memoryAfter raced_eq =>
      subst writer_eq
      obtain ⟨rfl, reads⟩ := readsScript_of_race unfired raced_eq
      cases reads
      cases streams with
      | pause streams => exact .goesOn (.between (.inr rfl) streams)
  | case2 begun left writer memory after memoryAfter raced_eq =>
      obtain ⟨-, reads⟩ := readsScript_of_race unfired raced_eq
      cases reads
  | case3 begun left writer memory after memoryAfter raced_eq =>
      obtain ⟨rfl, reads⟩ := readsScript_of_race unfired raced_eq
      cases reads
      cases streams
      exact .ends
  | case4 begun left writer memory error after memoryAfter raced_eq =>
      obtain ⟨rfl, reads⟩ := readsScript_of_race unfired raced_eq
      obtain ⟨outcome, rfl, item_eq⟩ := reads.exists_item
      cases streams with
      | failed =>
          cases item_eq
          exact .ends
      | value => cases item_eq
  | case5 begun left writer memory item after memoryAfter raced_eq items sender memoryLast sent =>
      subst writer_eq
      obtain ⟨rfl, reads⟩ := readsScript_of_race unfired raced_eq
      obtain ⟨rest, written_eq, streams⟩ := streams.of_value reads
      obtain ⟨rfl, few, typed_eq⟩ := Writer.sendAll_typed (Nat.le_refl _) sent
      simp only [written_eq, Writer.writeOn, typed_eq]
      exact .goesOn (.within few streams)
  | case6 begun left writer memory item after memoryAfter raced_eq error items sender memoryLast
      sent =>
      subst writer_eq
      obtain ⟨rfl, reads⟩ := readsScript_of_race unfired raced_eq
      obtain ⟨rest, written_eq, streams⟩ := streams.of_value reads
      obtain ⟨rfl, few, typed_eq⟩ := Writer.sendAll_typed (Nat.le_refl _) sent
      simp only [written_eq, Writer.writeOn, typed_eq]
      exact .ends
  | case7 begun left writer memory item after memoryAfter raced_eq items sender memoryLast sent
      ih =>
      subst writer_eq
      obtain ⟨rfl, reads⟩ := readsScript_of_race unfired raced_eq
      obtain ⟨rest, written_eq, streams⟩ := streams.of_value reads
      obtain ⟨rfl, few, typed_eq⟩ := Writer.sendAll_typed (Nat.le_refl _) sent
      simp only [written_eq, Writer.writeOn, typed_eq]
      exact ih streams rfl

/-- One poll of each keeps the two at the same point. -/
theorem pollWrites_agree {written : Writer.WriteState}
    {pumped : PumpStage × List (Poll (OutcomeOf type)) × Writer}
    (aligned : Aligned number final written pumped) (memory : Memory) :
    PolledAlike number final (Writer.pollWrites final written history memory)
      (ItemStream.pollPump token (ItemStream.erase (Stream.ofScript script)) pumped history
        memory) := by
  cases aligned with
  | between reads streams =>
      obtain rfl | rfl := reads <;> exact writeOn_agree unfired streams _ memory
  | @within writes left items few streams =>
      rcases sent : (Writer.direct number).sendAll items memory with ⟨answer, rest, sender, after⟩
      obtain ⟨rfl, few, typed_eq⟩ := Writer.sendAll_typed few sent
      unfold ItemStream.pollPump
      simp only [Writer.pollWrites, sent, typed_eq]
      cases answer with
      | pending => exact .goesOn (.within few streams)
      | ready answer =>
          cases answer with
          | error error => exact .ends
          | ok => exact writeOn_agree unfired streams false after

end

/-! ## Runs -/

/-- Two kinds of work of which the runtime has seen the same. -/
structure Served.Alike {work other : Task Unit} (served : Served work) (also : Served other) :
    Prop where
  received_eq : served.received = also.received
  history_eq : served.moment.history = also.moment.history
  memory_eq : served.moment.memory = also.moment.memory
  result_eq : served.moment.result = also.moment.result

namespace Future.Mirror

variable {work other : Task Unit} (mirror : Mirror work other)

/-- A moment of a served run, of the mirrored work. -/
def served (served : Served work) : Served other := ⟨mirror.moment served.moment, served.received⟩

theorem served_run (number : Nat) (served : Served work) (turns : List ServedTurn) :
    (mirror.served served).run number turns = mirror.served (served.run number turns) := by
  induction turns generalizing served with
  | nil => rfl
  | cons turn turns ih =>
      have turn_eq : (mirror.served served).turn number turn =
          mirror.served (served.turn number turn) := by
        cases turn with
        | receive => rfl
        | work turn =>
            exact congrArg (Served.mk · served.received) (mirror.turn_eq served.moment turn)
      rw [Served.run_cons, Served.run_cons, turn_eq]
      exact ih _

theorem served_start (memory : Memory) :
    Served.start other memory = mirror.served (Served.start work memory) := by
  rw [Served.start, Future.start, mirror.state_eq]
  rfl

end Future.Mirror

section

variable {type : ValueType} {call : IncomingCall} {writes : List (Poll (PayloadOf type))}
  {final : Except RpcError Unit} {script : List (Poll (OutcomeOf type))}

/-- The writing of a script to the channel of a call. -/
def IncomingCall.writing (call : IncomingCall) (writes : List (Poll (PayloadOf type)))
    (final : Except RpcError Unit) : Task Unit :=
  (Writer.writing (.typed call.responses none) (Poll.erased writes) final).whenOver fun memory =>
    memory.closeChannel call.responses

/-- Writing and streaming are at the same point of the responses. -/
structure Lockstep (written : Served (call.writing writes final)) (streamed : PumpRun call script) :
    Prop extends written.Alike streamed where
  aligned : streamed.moment.result = none →
    Aligned call.responses final (written.moment.state : Writer.WriteState)
      (streamed.moment.state : PumpStage × List (Poll (OutcomeOf type)) × Writer)

namespace Lockstep

variable {written : Served (call.writing writes final)} {streamed : PumpRun call script}

theorem polled (lockstep : Lockstep written streamed)
    (unfired : written.moment.history.hasFired call.context.token = false)
    (going : streamed.moment.result = none) :
    Lockstep { written with moment := written.moment.polled }
      { streamed with moment := streamed.moment.polled } := by
  obtain ⟨⟨state, history, memory, result⟩, received⟩ := written
  obtain ⟨⟨pumpState, _, _, _⟩, _⟩ := streamed
  obtain ⟨⟨rfl, rfl, rfl, rfl⟩, aligned⟩ := lockstep
  obtain rfl : result = none := going
  have agree : PolledAlike call.responses final (Writer.pollWrites final state history memory)
      (ItemStream.pollPump call.context.token (ItemStream.erase (Stream.ofScript script)) pumpState
        history memory) := pollWrites_agree unfired (aligned rfl) memory
  unfold Future.Moment.polled
  simp only [IncomingCall.writing, IncomingCall.pumping, Writer.writing, ItemStream.pump,
    Future.whenOver]
  generalize Writer.pollWrites final state history memory = written at agree
  generalize ItemStream.pollPump call.context.token (ItemStream.erase (Stream.ofScript script))
    pumpState history memory = pumped at agree
  cases agree with
  | goesOn aligned => exact ⟨⟨rfl, rfl, rfl, rfl⟩, fun _ => aligned⟩
  | ends => exact ⟨⟨rfl, rfl, rfl, rfl⟩, fun going => by cases going⟩

theorem turn (lockstep : Lockstep written streamed) (turn : ServedTurn)
    (unfired : (written.turn call.responses turn).moment.history.hasFired
      call.context.token = false) :
    Lockstep (written.turn call.responses turn) (streamed.turn call.responses turn) := by
  obtain ⟨⟨received_eq, history_eq, memory_eq, result_eq⟩, aligned⟩ := lockstep
  have turned := streamed.turned call.responses turn
  generalize streamed.turn call.responses turn = after at turned ⊢
  cases turned with
  | receive =>
      refine ⟨⟨?_, history_eq, ?_, result_eq⟩, aligned⟩
      · simp only [Served.turn, Served.poll, received_eq, memory_eq]
      · simp only [Served.turn, memory_eq]
  | ended ended =>
      rw [Served.turn_over call.responses (result_eq.trans ended)]
      exact ⟨⟨received_eq, history_eq, memory_eq, result_eq⟩, aligned⟩
  | @outside event going =>
      rw [Served.turn, Future.Moment.turn_outside (result_eq.trans going)]
      exact ⟨⟨received_eq, congrArg (· ++ [event]) history_eq, memory_eq, result_eq⟩, aligned⟩
  | polled going =>
      rw [Served.turn, Future.Moment.turn_poll (result_eq.trans going)] at unfired ⊢
      rw [Future.Moment.history_polled] at unfired
      exact polled ⟨⟨received_eq, history_eq, memory_eq, result_eq⟩, aligned⟩ unfired going

theorem run (lockstep : Lockstep written streamed) (turns : List ServedTurn)
    (unfired : (written.run call.responses turns).moment.history.hasFired
      call.context.token = false) :
    Lockstep (written.run call.responses turns) (streamed.run call.responses turns) := by
  induction turns generalizing written streamed with
  | nil => exact lockstep
  | cons next turns ih =>
      exact ih (lockstep.turn next (Served.unfired_turn unfired)) unfired

theorem start (streams : Streams writes final script) (memory : Memory) :
    Lockstep (Served.start (call.writing writes final) memory)
      (Served.start (call.pumping (ItemStream.erase (Stream.ofScript script))) memory) :=
  ⟨⟨rfl, rfl, rfl, rfl⟩, fun _ => .between (.inl rfl) streams⟩

end Lockstep

/-- No run tells a method that writes its responses from a pump that streams them. -/
theorem alike_run {task : Task (PayloadOf (.plain .unit))}
    (mirror : (task.map (Except.map fun _ => ())).Mirror
      (Writer.writing (.typed call.responses none) (Poll.erased writes) final))
    (streams : Streams writes final script) {memory : Memory} {turns : List ServedTurn}
    (unfired : ((Served.start (call.delivering task) memory).run call.responses
      turns).moment.history.hasFired call.context.token = false) :
    ((Served.start (call.delivering task) memory).run call.responses turns).Alike
      ((Served.start (call.pumping (ItemStream.erase (Stream.ofScript script))) memory).run
        call.responses turns) := by
  have mirrors : (call.delivering task).Mirror (call.writing writes final) := mirror.whenOver _
  have written_eq := mirrors.served_run call.responses (Served.start _ memory) turns
  rw [← mirrors.served_start] at written_eq
  have lockstep := (Lockstep.start streams memory).run turns (by rw [written_eq]; exact unfired)
  rw [written_eq] at lockstep
  exact ⟨lockstep.received_eq, lockstep.history_eq, lockstep.memory_eq, lockstep.result_eq⟩

end

/-! ## What the runtime gets -/

section

variable {type : ValueType}

/-- The item that ends a stream: an error is one, a success none. -/
def lastItem : Except RpcError Unit → List (OutcomeOf type)
  | .ok () => []
  | .error error => [.error error]

/-- What a pump makes of values with such an end. -/
theorem outcomes_of_readyItems {script : List (Poll (OutcomeOf type))}
    {values : List (PayloadOf type)} {final : Except RpcError Unit}
    (items_eq : Poll.readyItems script = values.map .ok ++ lastItem final) :
    valuesBeforeError (Poll.outcomes script) = values.map Subtype.val ∧
      firstError (Poll.outcomes script) = final := by
  have mapped : (values.map (.ok : PayloadOf type → OutcomeOf type)).map Outcome.ofTyped =
      (values.map Subtype.val).map .ok := by
    rw [List.map_map, List.map_map]
    rfl
  have last_eq : valuesBeforeError ((lastItem final : List (OutcomeOf type)).map Outcome.ofTyped) =
        [] ∧
      firstError ((lastItem final : List (OutcomeOf type)).map Outcome.ofTyped) = final := by
    rcases final with error | _ <;> exact ⟨rfl, rfl⟩
  rw [Poll.outcomes, items_eq, List.map_append, mapped, valuesBeforeError_ok_append,
    firstError_ok_append, last_eq.1, last_eq.2, List.append_nil]
  exact ⟨rfl, rfl⟩

/-- Some stream yields what a method writes, with the same pauses. -/
theorem exists_streams (writes : List (Poll (PayloadOf type))) (final : Except RpcError Unit) :
    ∃ script, Streams writes final script ∧ script.length ≤ writes.length + 1 ∧
      Poll.readyItems script = (Poll.readyItems writes).map .ok ++ lastItem final := by
  induction writes with
  | nil =>
      rcases final with error | _
      · exact ⟨[.ready (.error error)], .failed, Nat.le_refl _, rfl⟩
      · exact ⟨[], .ended, Nat.zero_le _, rfl⟩
  | cons write writes ih =>
      obtain ⟨script, streams, length_le, items_eq⟩ := ih
      cases write with
      | pending => exact ⟨.pending :: script, streams.pause, Nat.succ_le_succ length_le, items_eq⟩
      | ready value =>
          exact ⟨.ready (.ok value) :: script, streams.value, Nat.succ_le_succ length_le,
            congrArg (List.cons (Except.ok value)) items_eq⟩

end

/-- Work on a call transmits some values and ends with a result, however it is polled while the
token of the call is not fired, and it does end: more freed polls than some number suffice. -/
structure IncomingCall.Transmits (call : IncomingCall) (work : Task Unit) (memory : Memory)
    (values : List Payload) (final : Except RpcError Unit) (polls : Nat) : Prop where
  delivers : ∀ turns,
    ((Served.start work memory).run call.responses turns).moment.history.hasFired
      call.context.token = false →
    ((Served.start work memory).run call.responses turns).Delivers call.responses values final
  ends : ∀ turns,
    ((Served.start work memory).run call.responses turns).moment.history.hasFired
      call.context.token = false →
    polls < ServedTurn.freedPolls true turns →
    ((Served.start work memory).run call.responses turns).moment.result = some final

section

variable {type : ValueType} {call : IncomingCall} {capacity : Nat} {memory : Memory}
  {final : Except RpcError Unit}
  (fresh : memory.channels call.responses = .create capacity)

include fresh

/-- Pumping transmits the values of the script. -/
theorem transmits_pumping {script : List (Poll (OutcomeOf type))} {values : List (PayloadOf type)}
    (items_eq : Poll.readyItems script = values.map .ok ++ lastItem final) :
    call.Transmits (call.pumping (ItemStream.erase (Stream.ofScript script))) memory
      (values.map Subtype.val) final script.length := by
  obtain ⟨values_eq, final_eq⟩ := outcomes_of_readyItems items_eq
  have room : (memory.channels call.responses).queue.length ≤ capacity := by
    rw [fresh]
    exact Nat.zero_le _
  refine ⟨fun turns unfired => ?_, fun turns unfired enough => ?_⟩
  · have flowing := PumpRun.flowing_run turns unfired (PumpRun.flowing_start fresh)
    rw [← values_eq, ← final_eq]
    exact flowing.flows.delivers
  · have flowing := PumpRun.flowing_run turns unfired (PumpRun.flowing_start fresh)
    obtain ⟨result, ended⟩ :=
      PumpRun.resolved_run (PumpRun.flowing_start fresh) (fun _ => room) turns unfired enough
    rw [ended, (flowing.flows.delivers.resolved result ended).1, final_eq]

/-- So does a method that writes them. -/
theorem transmits_delivering {writes : List (Poll (PayloadOf type))}
    {task : Task (PayloadOf (.plain .unit))}
    (mirror : (task.map (Except.map fun _ => ())).Mirror
      (Writer.writing (.typed call.responses none) (Poll.erased writes) final)) :
    call.Transmits (call.delivering task) memory ((Poll.readyItems writes).map Subtype.val) final
      (writes.length + 1) := by
  obtain ⟨script, streams, length_le, items_eq⟩ := exists_streams writes final
  obtain ⟨values_eq, final_eq⟩ := outcomes_of_readyItems items_eq
  refine ⟨fun turns unfired => ?_, fun turns unfired enough => ?_⟩
  · have alike := alike_run mirror streams unfired
    rw [alike.history_eq] at unfired
    have flows := (PumpRun.flowing_run turns unfired (PumpRun.flowing_start fresh)).flows
    rw [← alike.received_eq, ← alike.result_eq, Served.channel, ← alike.memory_eq] at flows
    rw [← values_eq, ← final_eq]
    exact flows.delivers
  · have alike := alike_run mirror streams unfired
    rw [alike.history_eq] at unfired
    rw [alike.result_eq]
    exact (transmits_pumping fresh items_eq).ends turns unfired
      (Nat.lt_of_le_of_lt length_le enough)

end

namespace ServerHandler

/-- Methods that write their responses and methods that return a stream of them are
interchangeable. Whatever pauses they make and however they are polled and received from, both
transmit the values in order and end with the result, and both do end; with the same pauses, no run
tells them apart. -/
theorem serve_alike {written streamed : Operation}
    (written_classified : written.method.shape? = some written.shape)
    (streamed_classified : streamed.method.shape? = some streamed.shape)
    (writes_eq : written.shape.responseWriter = true) {response : DeclaredType}
    (response_eq : written.shape.responseType = response)
    (returns_eq : streamed.method.returns = .wrapped .responseStream response)
    {writer streamer : Invoker} {writing pumping : ServerHandler}
    (writing_eq : ServerHandler.of written writer = .ok writing)
    (pumping_eq : ServerHandler.of streamed streamer = .ok pumping)
    {values : List (PayloadOf response.valueType)} {final : Except RpcError Unit}
    {writes : List (Poll (PayloadOf response.valueType))}
    (writes_values : Poll.readyItems writes = values)
    {script : List (Poll (OutcomeOf response.valueType))}
    (streams_values : Poll.readyItems script = values.map .ok ++ lastItem final)
    {call : IncomingCall} {task : Task (PayloadOf (.plain .unit))}
    (mirror : (task.map (Except.map fun _ => ())).Mirror
      (Writer.writing (.typed call.responses none) (Poll.erased writes) final))
    (wrote : writer (writing.arguments call) = .ok (.wrapped .task (.plain .unit) task))
    (returned : streamer (pumping.arguments call) =
      .ok (.wrapped .responseStream response.valueType (Stream.ofScript script)))
    {capacity : Nat} {memory : Memory}
    (fresh : memory.channels call.responses = .create capacity) :
    (writing.arguments call)[1]? = some (call.writer response.valueType) ∧
      writing.serve call memory = (.streaming (call.delivering task), memory) ∧
      pumping.serve call memory =
        (.streaming (call.pumping (ItemStream.erase (Stream.ofScript script))), memory) ∧
      call.Transmits (call.delivering task) memory (values.map Subtype.val) final
        (writes.length + 1) ∧
      call.Transmits (call.pumping (ItemStream.erase (Stream.ofScript script))) memory
        (values.map Subtype.val) final script.length ∧
      (Streams writes final script → ∀ turns,
        ((Served.start (call.delivering task) memory).run call.responses
          turns).moment.history.hasFired call.context.token = false →
        ((Served.start (call.delivering task) memory).run call.responses turns).Alike
          ((Served.start (call.pumping (ItemStream.erase (Stream.ofScript script))) memory).run
            call.responses turns)) := by
  subst response_eq writes_values
  obtain ⟨written_form, rfl⟩ := form_of_ok writing_eq
  obtain ⟨streamed_form, rfl⟩ := form_of_ok pumping_eq
  have writes_form := form_of_writer written_classified writes_eq written_form
  have streams_form := form_of_stream streamed_classified returns_eq streamed_form
  exact ⟨writer_argument writes_form call, serve_writer writes_form wrote memory,
    serve_stream streams_form returned memory, transmits_delivering fresh mirror,
    transmits_pumping fresh streams_values, fun streams _ => alike_run mirror streams⟩

end ServerHandler

namespace Sample

/-- The task of a method that yields nothing but its end goes as the work in it. -/
def unitTask_mirror {work other : Task Unit} (mirror : work.Mirror other) :
    ((unitTask work).map (Except.map fun _ => ())).Mirror other where
  image := mirror.image
  state_eq := mirror.state_eq
  waits_eq := mirror.waits_eq
  poll_eq := by
    intro state history memory
    refine (mirror.poll_eq state history memory).trans ?_
    show PollStep.carry mirror.image id (work.poll state history memory) =
      PollStep.carry mirror.image id
        (PollStep.carry id (Except.map fun _ => ())
          (PollStep.carry id (Except.map fun _ => unitPayload) (work.poll state history memory)))
    rcases work.poll state history memory with ⟨_ | _ | _, after, memoryAfter⟩ <;> rfl

/-- Two pongs. -/
def twoPongs : List (PayloadOf pong.valueType) := [pongOf 1 "first", pongOf 2 "second"]

/-- The error after the pongs. -/
def brokenOff : RpcError := .status ⟨.unavailable, "broken off"⟩

/-- A function of the sample method that writes the pongs and fails. -/
def brokenWriter : ServiceFunction where
  params := serverStreamingWriter.params
  returns := serverStreamingWriter.returns
  run := fun (_, responses, _) =>
    unitTask (responses.down.writeEach (twoPongs.map Subtype.val) (.error brokenOff))

/-- Its task in the sample call. -/
def brokenTask : Task (PayloadOf (.plain .unit)) :=
  unitTask ((Writer.typed pingCall.responses none).writeEach (twoPongs.map Subtype.val)
    (.error brokenOff))

/-- The pongs and the error in a stream. -/
def brokenScript : List (Poll (OutcomeOf pong.valueType)) :=
  (twoPongs.map fun pong => .ready (.ok pong)) ++ [.ready (.error brokenOff)]

/-- A function of the other sample method that yields the pongs and the error. -/
def brokenStreamer : ServiceFunction where
  params := serverStreaming.params
  returns := serverStreaming.returns
  run := fun _ => Stream.ofScript brokenScript

/-- The runtime receives after every poll. -/
def alternatingTurns : List ServedTurn := (List.replicate 4 [.work .poll, .receive]).flatten

theorem brokenPongs_alike :
    writtenPongs.method.shape? = some writtenPongs.shape ∧
      streamedPongs.method.shape? = some streamedPongs.shape ∧
      ∃ writing pumping,
        ServerHandler.of writtenPongs brokenWriter.invoker = .ok writing ∧
        ServerHandler.of streamedPongs brokenStreamer.invoker = .ok pumping ∧
        brokenWriter.invoker (writing.arguments pingCall) =
          .ok (.wrapped .task (.plain .unit) brokenTask) ∧
        brokenStreamer.invoker (pumping.arguments pingCall) =
          .ok (.wrapped .responseStream pong.valueType (Stream.ofScript brokenScript)) ∧
        unbuffered.channels pingCall.responses = .create 0 ∧
        writing.serve pingCall unbuffered =
          (.streaming (pingCall.delivering brokenTask), unbuffered) ∧
        pumping.serve pingCall unbuffered =
          (.streaming (pingCall.pumping (ItemStream.erase (Stream.ofScript brokenScript))),
            unbuffered) ∧
        let written := (Served.start (pingCall.delivering brokenTask) unbuffered).run
          pingCall.responses alternatingTurns
        let streamed : PumpRun pingCall brokenScript :=
          (Served.start _ unbuffered).run pingCall.responses alternatingTurns
        written.Alike streamed ∧ written.received = twoPongs.map Subtype.val ∧
          written.moment.result = some (.error brokenOff) ∧
          written.Delivers pingCall.responses (twoPongs.map Subtype.val) (.error brokenOff) ∧
          streamed.Delivers pingCall.responses (twoPongs.map Subtype.val) (.error brokenOff) := by
  have written_classified : writtenPongs.method.shape? = some writtenPongs.shape := rfl
  have streamed_classified : streamedPongs.method.shape? = some streamedPongs.shape := rfl
  obtain ⟨writing, writing_eq⟩ : ∃ handler,
      ServerHandler.of writtenPongs brokenWriter.invoker = .ok handler := ⟨_, rfl⟩
  obtain ⟨pumping, pumping_eq⟩ : ∃ handler,
      ServerHandler.of streamedPongs brokenStreamer.invoker = .ok handler := ⟨_, rfl⟩
  have wrote : brokenWriter.invoker (writing.arguments pingCall) =
      .ok (.wrapped .task (.plain .unit) brokenTask) := by
    cases writing_eq
    rfl
  have returned : brokenStreamer.invoker (pumping.arguments pingCall) =
      .ok (.wrapped .responseStream pong.valueType (Stream.ofScript brokenScript)) := by
    cases pumping_eq
    rfl
  have fresh : unbuffered.channels pingCall.responses = .create 0 := rfl
  have written_values : Poll.readyItems (twoPongs.map Poll.ready) = twoPongs := rfl
  have streamed_values :
      Poll.readyItems brokenScript = twoPongs.map .ok ++ lastItem (.error brokenOff) := rfl
  have mirror : (brokenTask.map (Except.map fun _ => ())).Mirror
      (Writer.writing (.typed pingCall.responses none) (Poll.erased (twoPongs.map Poll.ready))
        (.error brokenOff)) :=
    unitTask_mirror (Writer.writeEach_mirror _ (twoPongs.map Subtype.val) _)
  obtain ⟨-, writing_serves, pumping_serves, writing_transmits, pumping_transmits, alike⟩ :=
    ServerHandler.serve_alike written_classified streamed_classified rfl rfl rfl writing_eq
      pumping_eq written_values streamed_values mirror wrote returned fresh
  have streams : Streams (twoPongs.map .ready) (.error brokenOff) brokenScript :=
    .value (.value .failed)
  have ran_alike := alike streams alternatingTurns rfl
  exact ⟨written_classified, streamed_classified, writing, pumping, writing_eq, pumping_eq, wrote,
    returned, fresh, writing_serves, pumping_serves, ran_alike,
    ran_alike.received_eq.trans (by decide +kernel),
    writing_transmits.ends alternatingTurns rfl (by decide),
    writing_transmits.delivers alternatingTurns rfl,
    pumping_transmits.delivers alternatingTurns rfl⟩

end Sample

end RpcContracts
