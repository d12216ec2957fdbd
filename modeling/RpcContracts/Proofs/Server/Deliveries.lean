import RpcContracts.Proofs.Server.Writers
import RpcContracts.Session.Channel

/-!
# Deliveries through a channel

The two ends of a channel are used in any order. What was received is at any moment the beginning of
what was given to the writer, and the channel never holds more than one item beyond its capacity.
Once either end has shut the channel no write gets anything through, and what the channel still
holds is received before the end.
-/

namespace RpcContracts

/-! ## Records of sessions -/

/-- Whether a step did what it was asked to. -/
def Answer.isDone : Answer → Bool
  | remark text => text == "ok"
  | _ => false

/-- Whether a step leaves the sending of items to whole writes. -/
def ChannelStep.isWhole : ChannelStep → Bool
  | startSend _ => false
  | _ => true

namespace ChannelSession

/-- The items that a step starts to write. -/
def started (session : ChannelSession) (step : ChannelStep) : List Payload :=
  match step, session.writer with
  | .write items, .idle _ => items
  | _, _ => []

/-- Whether a step polls a write and finds that it has ended well. -/
def endsWrite (session : ChannelSession) (step : ChannelStep) : Bool :=
  match step with
  | .write _ => (session.answer step).1.isDone
  | .pollWrite => (session.answer step).1.isDone
  | _ => false

/-- The items that a step receives. -/
def takes (session : ChannelSession) (step : ChannelStep) : List Payload :=
  match step, (session.answer step).1 with
  | .receive, .item (.ok item) => [item]
  | _, _ => []

end ChannelSession

/-- A session with what has happened in it. -/
structure ChannelRecord where
  session : ChannelSession
  /-- The items of the writes that were started, in order. -/
  given : List Payload
  /-- The items of the writes that ended well. -/
  written : List Payload
  /-- The items of a write that was started and has not ended well. -/
  current : List Payload
  received : List Payload

namespace ChannelRecord

/-- A new channel with a writer that is used directly, or with a typed one over it. -/
def start (capacity : Nat) (isTyped : Bool) : ChannelRecord where
  session :=
    { ChannelSession.start capacity with
      writer := .idle (if isTyped then .typed 0 none else .direct 0) }
  given := []
  written := []
  current := []
  received := []

/-- The channel between the two ends. -/
def channel (record : ChannelRecord) : Channel Payload := record.session.memory.channels 0

theorem channel_mk (session : ChannelSession) (given written current received : List Payload) :
    channel ⟨session, given, written, current, received⟩ = session.memory.channels 0 := rfl

def turn (record : ChannelRecord) (step : ChannelStep) : ChannelRecord :=
  let current := record.current ++ record.session.started step
  let ended := record.session.endsWrite step
  { session := (record.session.answer step).2
    given := record.given ++ record.session.started step
    written := if ended then record.written ++ current else record.written
    current := if ended then [] else current
    received := record.received ++ record.session.takes step }

def run (record : ChannelRecord) (steps : List ChannelStep) : ChannelRecord :=
  steps.foldl turn record

/-- What the writer of a session is about, and what of its items has not been sent. -/
inductive Stands (record : ChannelRecord) : WriterState → Prop where
  | idle {writer : Writer} : writer.AtRest → writer.channel = 0 → record.current = [] →
      (record.session.hasReceiver = true →
        record.received ++ record.channel.queue = record.given) →
      Stands record (.idle writer)
  | writing {left : List Payload} {writer : Writer} : writer.AtRest → writer.channel = 0 →
      (record.session.hasReceiver = true →
        record.received ++ record.channel.queue ++ left = record.given) →
      Stands record (.writing left writer)
  | unusable : Stands record .unusable

/-- What holds at every moment of a session. -/
structure Sound (capacity : Nat) (record : ChannelRecord) : Prop where
  receiver : record.channel.isOpen = true → record.session.hasReceiver = true
  held : record.channel.isOpen = true →
    record.channel = .holding capacity record.channel.queue
  bounded : record.channel.queue.length ≤ capacity + 1
  parts : record.written ++ record.current = record.given
  in_order : record.received ++ record.channel.queue <+: record.given
  written_sent : record.session.hasReceiver = true →
    record.written <+: record.received ++ record.channel.queue
  stands : record.Stands record.session.writer

theorem sound_start (capacity : Nat) (isTyped : Bool) :
    (start capacity isTyped).Sound capacity where
  receiver := fun _ => rfl
  held := fun _ => by simp [start, channel, ChannelSession.start, Channel.create, Channel.holding]
  bounded := Nat.zero_le _
  parts := rfl
  in_order := List.prefix_rfl
  written_sent := fun _ => List.prefix_rfl
  stands := by
    cases isTyped
    · exact .idle rfl rfl rfl fun _ => rfl
    · exact .idle rfl rfl rfl fun _ => rfl

end ChannelRecord

/-! ## Steps -/

namespace ChannelSession

variable {session : ChannelSession} {left : List Payload} {writer after : Writer} {memory : Memory}

theorem continueWriting_of_pending {rest : List Payload}
    (sent : writer.sendAll left session.memory = (.pending, rest, after, memory)) :
    session.continueWriting left writer =
      (.pending, { session with memory := memory, writer := .writing rest after }) := by
  simp only [continueWriting, sent]

theorem continueWriting_of_ok {rest : List Payload}
    (sent : writer.sendAll left session.memory = (.ready (.ok ()), rest, after, memory)) :
    session.continueWriting left writer =
      (.done, { session with memory := memory, writer := .idle after }) := by
  simp only [continueWriting, sent, afterAsking]
  rfl

theorem continueWriting_of_error {rest : List Payload} {error : RpcError}
    (sent : writer.sendAll left session.memory = (.ready (.error error), rest, after, memory)) :
    session.continueWriting left writer =
      (.failure error, { session with memory := memory, writer := .unusable }) := by
  simp only [continueWriting, sent, afterAsking]

/-- A session after a step in which at most the writer failed or the channel was shut. -/
structure Quiet (session after : ChannelSession) : Prop where
  queue_eq : (after.memory.channels 0).queue = (session.memory.channels 0).queue
  open_eq : (after.memory.channels 0).isOpen = true →
    after.memory.channels 0 = session.memory.channels 0
  receiver_eq : after.hasReceiver = session.hasReceiver
  writer_eq : after.writer = session.writer ∨ after.writer = .unusable

theorem Quiet.refl (session : ChannelSession) : session.Quiet session :=
  ⟨rfl, fun _ => rfl, rfl, .inl rfl⟩

theorem Quiet.failed (session : ChannelSession) :
    session.Quiet { session with writer := .unusable } :=
  ⟨rfl, fun _ => rfl, rfl, .inr rfl⟩

theorem Quiet.shut {session : ChannelSession} {state : WriterState}
    (writer_eq : state = session.writer ∨ state = .unusable) :
    session.Quiet { session with memory := session.memory.closeChannel 0, writer := state } := by
  have closed : (session.memory.closeChannel 0).channels 0 = (session.memory.channels 0).close :=
    Memory.channels_setChannel_same ..
  have queue_eq := congrArg Channel.queue closed
  refine ⟨queue_eq, fun isOpen => ?_, rfl, writer_eq⟩
  rw [closed] at isOpen
  cases isOpen

theorem Quiet.withWriter {action : Writer → Answer × ChannelSession}
    (quiet : ∀ writer, session.writer = .idle writer → session.Quiet (action writer).2) :
    session.Quiet (session.withWriter action).2 := by
  unfold ChannelSession.withWriter
  split
  · exact quiet _ (by assumption)
  · exact .refl session

/-- Asking a writer that holds nothing changes nothing but for an error, after which the writer is
not used again. -/
theorem Quiet.asked {writer : Writer} (idle : session.writer = .idle writer)
    (poll : Poll (Except RpcError Unit)) :
    session.Quiet (session.afterAsking (poll, writer, session.memory)).2 := by
  have same : { session with writer := .idle writer } = session := by rw [← idle]
  rcases poll with _ | error | _
  · exact same.symm ▸ Quiet.refl session
  · exact .failed session
  · exact same.symm ▸ Quiet.refl session

theorem Quiet.closed {writer : Writer} (idle : session.writer = .idle writer)
    (rests : writer.AtRest) (own : writer.channel = 0) :
    session.Quiet (session.afterAsking (writer.pollClose session.memory)).2 := by
  rw [Writer.pollClose_of_atRest rests, own]
  exact .shut (.inl idle.symm)

end ChannelSession

namespace ChannelRecord

variable {capacity : Nat} {record : ChannelRecord}

/-- A step that starts no write, polls none and receives nothing changes only the session. -/
theorem turn_of_quiet {step : ChannelStep} (starts : record.session.started step = [])
    (unended : record.session.endsWrite step = false) (takes : record.session.takes step = []) :
    record.turn step = { record with session := (record.session.answer step).2 } := by
  simp only [turn, starts, unended, takes, List.append_nil]
  rfl

/-- The record of a write that was started and not yet polled. -/
def begun (record : ChannelRecord) (items : List Payload) (writer : Writer) : ChannelRecord :=
  { record with
    session := { record.session with writer := .writing items writer }
    given := record.given ++ items
    current := record.current ++ items }

/-- To start a write is to poll it for the first time. -/
theorem turn_write {writer : Writer} (idle : record.session.writer = .idle writer)
    (items : List Payload) :
    record.turn (.write items) = (record.begun items writer).turn .pollWrite := by
  have answer_eq : record.session.answer (.write items) =
      (record.begun items writer).session.answer .pollWrite := by
    simp only [ChannelSession.answer, ChannelSession.withWriter, idle, begun,
      ChannelSession.continueWriting, ChannelSession.afterAsking]
  simp only [turn, ChannelSession.endsWrite, answer_eq, ChannelSession.started,
    ChannelSession.takes, idle, begun, List.append_nil]

/-- The record after a poll of the write in flight. -/
def polled (record : ChannelRecord) (answer : Answer × ChannelSession) : ChannelRecord :=
  { record with
    session := answer.2
    written := if answer.1.isDone then record.written ++ record.current else record.written
    current := if answer.1.isDone then [] else record.current }

theorem turn_pollWrite {left : List Payload} {writer : Writer}
    (writing : record.session.writer = .writing left writer) :
    record.turn .pollWrite = record.polled (record.session.continueWriting left writer) := by
  simp only [turn, ChannelSession.endsWrite, ChannelSession.answer, ChannelSession.started,
    ChannelSession.takes, writing, polled, List.append_nil]

/-- The same is left to be sent if what was received and what is queued have only shifted. -/
theorem Stands.shift {after : ChannelRecord} {state : WriterState} (stands : record.Stands state)
    (given_eq : after.given = record.given) (current_eq : after.current = record.current)
    (shifted : after.session.hasReceiver = true → record.session.hasReceiver = true ∧
      after.received ++ after.channel.queue = record.received ++ record.channel.queue) :
    after.Stands state := by
  cases stands with
  | idle rests own nothing complete =>
      refine .idle rests own (current_eq.trans nothing) fun hasReceiver => ?_
      obtain ⟨before, parts_eq⟩ := shifted hasReceiver
      rw [parts_eq, given_eq]
      exact complete before
  | writing rests own complete =>
      refine .writing rests own fun hasReceiver => ?_
      obtain ⟨before, parts_eq⟩ := shifted hasReceiver
      rw [parts_eq, given_eq]
      exact complete before
  | unusable => exact .unusable

namespace Sound

variable (sound : record.Sound capacity)

include sound

theorem quiet {session : ChannelSession} (quiet : record.session.Quiet session) :
    Sound capacity { record with session := session } := by
  obtain ⟨queue_eq, open_eq, receiver_eq, writer_eq⟩ := quiet
  have queue_eq : (session.memory.channels 0).queue = record.channel.queue := queue_eq
  have open_eq : (session.memory.channels 0).isOpen = true →
      session.memory.channels 0 = record.channel := open_eq
  have channel_eq : channel { record with session := session } = session.memory.channels 0 := rfl
  have parts_eq : record.received ++ (session.memory.channels 0).queue =
      record.received ++ record.channel.queue := congrArg _ queue_eq
  have stands : Stands { record with session := session } session.writer := by
    rcases writer_eq with writer_eq | writer_eq
    · rw [writer_eq]
      exact sound.stands.shift rfl rfl fun hasReceiver =>
        ⟨receiver_eq.symm.trans hasReceiver, parts_eq⟩
    · rw [writer_eq]
      exact .unusable
  refine ⟨?_, ?_, ?_, sound.parts, ?_, ?_, stands⟩
  · intro isOpen
    rw [channel_eq, open_eq isOpen] at isOpen
    exact receiver_eq.trans (sound.receiver isOpen)
  · intro isOpen
    have same := open_eq isOpen
    rw [channel_eq, same] at isOpen ⊢
    exact sound.held isOpen
  · rw [channel_eq, queue_eq]
    exact sound.bounded
  · rw [channel_eq, queue_eq]
    exact sound.in_order
  · intro hasReceiver
    rw [channel_eq, queue_eq]
    exact sound.written_sent (receiver_eq.symm.trans hasReceiver)

theorem begun {writer : Writer} (idle : record.session.writer = .idle writer)
    (items : List Payload) : (record.begun items writer).Sound capacity where
  receiver := sound.receiver
  held := sound.held
  bounded := sound.bounded
  parts := by
    show record.written ++ (record.current ++ items) = record.given ++ items
    rw [← List.append_assoc, sound.parts]
  in_order := sound.in_order.trans (List.prefix_append record.given items)
  written_sent := sound.written_sent
  stands := by
    have stands := sound.stands
    rw [idle] at stands
    cases stands with
    | idle rests own _ complete =>
        exact .writing rests own fun hasReceiver => congrArg (· ++ items) (complete hasReceiver)

/-- An open channel has accepted the first items that a write had left. -/
theorem accepts {accepted left : List Payload} {writer : Writer} {memory : Memory}
    (isOpen : record.channel.isOpen = true) (rests : writer.AtRest) (own : writer.channel = 0)
    (complete : record.received ++ record.channel.queue ++ (accepted ++ left) = record.given)
    (after_eq : memory.channels 0 = .holding capacity (record.channel.queue ++ accepted))
    (bounded : (record.channel.queue ++ accepted).length ≤ capacity + 1) :
    Sound capacity { record with
      session := { record.session with memory := memory, writer := .writing left writer } } := by
  let session : ChannelSession :=
    { record.session with memory := memory, writer := .writing left writer }
  have queue_eq : (channel { record with session := session }).queue =
      record.channel.queue ++ accepted := congrArg Channel.queue after_eq
  have given_eq : record.received ++ (record.channel.queue ++ accepted) ++ left =
      record.given := by simpa only [List.append_assoc] using complete
  refine ⟨fun _ => sound.receiver isOpen, ?_, ?_, sound.parts, ?_, ?_, ?_⟩
  · intro _
    rw [queue_eq]
    exact after_eq
  · rw [queue_eq]
    exact bounded
  · rw [queue_eq, ← given_eq]
    exact List.prefix_append ..
  · intro hasReceiver
    rw [queue_eq, ← List.append_assoc]
    exact (sound.written_sent hasReceiver).trans (List.prefix_append ..)
  · refine .writing rests own fun _ => ?_
    rw [queue_eq]
    exact given_eq

/-- A write that has nothing left ends well. -/
theorem finishes {writer : Writer} (writing : record.session.writer = .writing [] writer) :
    Sound capacity { record with
      session := { record.session with writer := .idle writer }
      written := record.written ++ record.current
      current := [] } := by
  have stands := sound.stands
  rw [writing] at stands
  cases stands with
  | writing rests own complete =>
      refine ⟨sound.receiver, sound.held, sound.bounded, ?_, sound.in_order, ?_, ?_⟩
      · exact (List.append_nil _).trans sound.parts
      · intro hasReceiver
        have complete := complete hasReceiver
        rw [List.append_nil] at complete
        have sent : record.written ++ record.current = record.received ++ record.channel.queue :=
          sound.parts.trans complete.symm
        exact sent ▸ List.prefix_rfl
      · refine .idle rests own rfl fun hasReceiver => ?_
        exact (List.append_nil _).symm.trans (complete hasReceiver)

theorem continued {left : List Payload} {writer : Writer}
    (writing : record.session.writer = .writing left writer) :
    (record.polled (record.session.continueWriting left writer)).Sound capacity := by
  have stands := sound.stands
  rw [writing] at stands
  cases stands with
  | writing rests own complete =>
      cases isOpen : record.channel.isOpen with
      | true =>
          have complete := complete (sound.receiver isOpen)
          have holds : record.session.memory.channels writer.channel =
              .holding capacity record.channel.queue := by
            rw [own]
            exact sound.held isOpen
          have wrote := Writer.wrote_sendAll rests holds sound.bounded left
          rcases sent : writer.sendAll left record.session.memory with ⟨answer, rest, _, memory⟩
          rw [sent] at wrote
          cases wrote with
          | waits after_eq bounded =>
              rw [own] at after_eq
              rw [ChannelSession.continueWriting_of_pending sent]
              exact sound.accepts isOpen rests own complete after_eq bounded
          | finished after_eq bounded =>
              rw [own] at after_eq
              rw [ChannelSession.continueWriting_of_ok sent]
              rw [← List.append_nil left] at complete
              exact (sound.accepts isOpen rests own complete after_eq bounded).finishes rfl
      | false =>
          have shut : (record.session.memory.channels writer.channel).isOpen = false := by
            rw [own]
            exact isOpen
          cases left with
          | nil =>
              rw [ChannelSession.continueWriting_of_ok (Writer.sendAll_nil_shut rests shut)]
              exact sound.finishes writing
          | cons item rest =>
              rw [ChannelSession.continueWriting_of_error
                (Writer.sendAll_cons_shut rests shut item rest)]
              exact sound.quiet (.failed record.session)

/-- An item that is received moves from the channel to what was received. -/
theorem receives {item : Payload} {rest : List Payload} {memory : Memory}
    (queue_eq : record.channel.queue = item :: rest)
    (after_eq : memory.channels 0 = record.channel.receive.2) :
    Sound capacity { record with
      session := { record.session with memory := memory }
      received := record.received ++ [item] } := by
  have left_eq : (memory.channels 0).queue = rest := by
    rw [after_eq, Channel.receive_queue, queue_eq]
    rfl
  have open_eq : (memory.channels 0).isOpen = record.channel.isOpen := by
    rw [after_eq, Channel.receive_isOpen]
  have moved : record.received ++ [item] ++ rest = record.received ++ record.channel.queue := by
    rw [queue_eq, List.append_assoc]
    rfl
  refine ⟨fun isOpen => sound.receiver (open_eq.symm.trans isOpen), fun isOpen => ?_, ?_,
    sound.parts, ?_, fun hasReceiver => ?_, ?_⟩
  · have held := sound.held (open_eq.symm.trans isOpen)
    rw [channel_mk, left_eq, after_eq, held, Channel.receive_holding sound.bounded, queue_eq]
    rfl
  · have bounded := sound.bounded
    rw [queue_eq, List.length_cons] at bounded
    rw [channel_mk, left_eq]
    omega
  · rw [channel_mk, left_eq, moved]
    exact sound.in_order
  · rw [channel_mk, left_eq, moved]
    exact sound.written_sent hasReceiver
  · refine sound.stands.shift rfl rfl fun hasReceiver => ⟨hasReceiver, ?_⟩
    rw [channel_mk, left_eq, moved]

/-- A receiver that is dropped takes the queue with it. -/
theorem drops {memory : Memory} (shut_eq : memory.channels 0 = record.channel.dropReceiver) :
    Sound capacity { record with
      session := { record.session with memory := memory, hasReceiver := false } } := by
  refine ⟨fun isOpen => ?_, fun isOpen => ?_, ?_, sound.parts, ?_, nofun, ?_⟩
  · rw [channel_mk, shut_eq] at isOpen
    cases isOpen
  · rw [channel_mk, shut_eq] at isOpen
    cases isOpen
  · rw [channel_mk, shut_eq]
    exact Nat.zero_le _
  · rw [channel_mk, shut_eq]
    show record.received ++ [] <+: record.given
    rw [List.append_nil]
    exact (List.prefix_append record.received record.channel.queue).trans sound.in_order
  · exact sound.stands.shift rfl rfl nofun

end Sound

/-! ### Turns -/

theorem Stands.rests_of_idle {writer : Writer} (stands : record.Stands record.session.writer)
    (idle : record.session.writer = .idle writer) : writer.AtRest ∧ writer.channel = 0 := by
  rw [idle] at stands
  cases stands with
  | idle rests own => exact ⟨rests, own⟩

/-- All that a turn can come to. -/
inductive Turned (record : ChannelRecord) : ChannelRecord → Prop where
  | quiet {session : ChannelSession} : record.session.Quiet session →
      Turned record { record with session := session }
  | wrote {items : List Payload} {writer : Writer} : record.session.writer = .idle writer →
      Turned record ((record.begun items writer).polled
        ((record.begun items writer).session.continueWriting items writer))
  | polled {left : List Payload} {writer : Writer} :
      record.session.writer = .writing left writer →
      Turned record (record.polled (record.session.continueWriting left writer))
  | received {item : Payload} {rest : List Payload} {memory : Memory} :
      record.channel.queue = item :: rest → memory.channels 0 = record.channel.receive.2 →
      Turned record { record with
        session := { record.session with memory := memory }
        received := record.received ++ [item] }
  | dropped {memory : Memory} : memory.channels 0 = record.channel.dropReceiver →
      Turned record { record with
        session := { record.session with memory := memory, hasReceiver := false } }

theorem turned_of_quiet {step : ChannelStep} (starts : record.session.started step = [])
    (unended : record.session.endsWrite step = false) (takes : record.session.takes step = [])
    (quiet : record.session.Quiet (record.session.answer step).2) :
    record.Turned (record.turn step) := by
  rw [turn_of_quiet starts unended takes]
  exact .quiet quiet

theorem turned_unavailable {step : ChannelStep} (starts : record.session.started step = [])
    (answer_eq : record.session.answer step = (.unavailable, record.session)) :
    record.Turned (record.turn step) := by
  refine turned_of_quiet starts ?_ ?_ ?_
  · unfold ChannelSession.endsWrite
    rw [answer_eq]
    cases step <;> rfl
  · unfold ChannelSession.takes
    rw [answer_eq]
    cases step <;> rfl
  · rw [answer_eq]
    exact .refl record.session

theorem answer_receive (hasReceiver : record.session.hasReceiver = true) :
    record.session.answer .receive =
      (match record.channel.receive.1 with
        | .pending => .pending
        | .ready none => .ended
        | .ready (some item) => .item (.ok item),
      { record.session with
        memory := record.session.memory.setChannel 0 record.channel.receive.2 }) := by
  simp only [ChannelSession.answer, hasReceiver, if_true, Memory.receive, channel]
  rcases (record.session.memory.channels 0).receive with ⟨_ | _ | item, after⟩ <;> rfl

theorem turn_receive {item : Payload} {rest : List Payload}
    (hasReceiver : record.session.hasReceiver = true)
    (queue_eq : record.channel.queue = item :: rest) :
    record.turn .receive = { record with
      session := { record.session with
        memory := record.session.memory.setChannel 0 record.channel.receive.2 }
      received := record.received ++ [item] } := by
  have answer_eq := answer_receive hasReceiver
  have found_eq : record.channel.receive.1 = .ready (some item) := by
    simp [Channel.receive, queue_eq]
  rw [found_eq] at answer_eq
  simp [turn, ChannelSession.started, ChannelSession.endsWrite, ChannelSession.takes, answer_eq]

theorem turned_receive : record.Turned (record.turn .receive) := by
  cases hasReceiver : record.session.hasReceiver with
  | false =>
      refine turned_unavailable rfl ?_
      simp [ChannelSession.answer, hasReceiver]
  | true =>
      have after_eq := Memory.channels_setChannel_same record.session.memory 0
        record.channel.receive.2
      cases queue_eq : record.channel.queue with
      | cons item rest =>
          rw [turn_receive hasReceiver queue_eq]
          exact .received queue_eq after_eq
      | nil =>
          have same : record.channel.receive.2 = record.channel := by
            cases isOpen : record.channel.isOpen <;> simp [Channel.receive, queue_eq, isOpen]
          have answer_eq := answer_receive hasReceiver
          have takes : record.session.takes .receive = [] := by
            unfold ChannelSession.takes
            rw [answer_eq]
            cases isOpen : record.channel.isOpen <;>
              simp [Channel.receive, queue_eq, isOpen] <;> rfl
          refine turned_of_quiet rfl rfl takes ?_
          rw [answer_eq, same]
          rw [same] at after_eq
          have queue_same := congrArg Channel.queue after_eq
          exact ⟨queue_same, fun _ => after_eq, rfl, .inl rfl⟩

theorem turned (stands : record.Stands record.session.writer) {step : ChannelStep}
    (whole : step.isWhole = true) : record.Turned (record.turn step) := by
  have rests : ∀ writer, record.session.writer = .idle writer →
      writer.AtRest ∧ writer.channel = 0 := fun _ => stands.rests_of_idle
  have asked : ∀ ask, record.session.Quiet (record.session.withWriter fun writer =>
      record.session.afterAsking (Writer.askChannel ask writer record.session.memory)).2 := by
    intro ask
    refine .withWriter fun writer idle => ?_
    rw [Writer.askChannel_of_atRest (rests writer idle).1]
    exact .asked idle _
  have closed : record.session.Quiet (record.session.withWriter fun writer =>
      record.session.afterAsking (writer.pollClose record.session.memory)).2 :=
    .withWriter fun writer idle => .closed idle (rests writer idle).1 (rests writer idle).2
  cases step with
  | write items =>
      rcases state : record.session.writer with writer | ⟨left, writer⟩ | _
      · rw [turn_write state, turn_pollWrite rfl]
        exact .wrote state
      · exact turned_unavailable (by simp only [ChannelSession.started, state])
          (by simp only [ChannelSession.answer, ChannelSession.withWriter, state])
      · exact turned_unavailable (by simp only [ChannelSession.started, state])
          (by simp only [ChannelSession.answer, ChannelSession.withWriter, state])
  | pollWrite =>
      rcases state : record.session.writer with writer | ⟨left, writer⟩ | _
      · exact turned_unavailable rfl (by simp only [ChannelSession.answer, state])
      · rw [turn_pollWrite state]
        exact .polled state
      · exact turned_unavailable rfl (by simp only [ChannelSession.answer, state])
  | startSend item => cases whole
  | receive => exact turned_receive
  | dropReceiver =>
      rw [turn_of_quiet rfl rfl rfl]
      exact .dropped (Memory.channels_setChannel_same ..)
  | close => exact turned_of_quiet rfl rfl rfl closed
  | pollClose => exact turned_of_quiet rfl rfl rfl closed
  | pollReady => exact turned_of_quiet rfl rfl rfl (asked Channel.pollReady)
  | pollFlush => exact turned_of_quiet rfl rfl rfl (asked Channel.pollFlush)
  | dropWriter => exact turned_of_quiet rfl rfl rfl (.shut (.inr rfl))
  | closeReceiver => exact turned_of_quiet rfl rfl rfl (.shut (.inl rfl))
  | describe =>
      exact turned_of_quiet rfl rfl rfl (.withWriter fun writer _ => .refl record.session)

theorem Sound.turn (sound : record.Sound capacity) {step : ChannelStep}
    (whole : step.isWhole = true) : (record.turn step).Sound capacity := by
  have turned := turned sound.stands whole
  generalize record.turn step = after at turned
  cases turned with
  | quiet changed => exact sound.quiet changed
  | wrote idle => exact (sound.begun idle _).continued rfl
  | polled writing => exact sound.continued writing
  | received queue_eq after_eq => exact sound.receives queue_eq after_eq
  | dropped shut_eq => exact sound.drops shut_eq

theorem Sound.run (sound : record.Sound capacity) {steps : List ChannelStep}
    (whole : ∀ step ∈ steps, step.isWhole = true) : (record.run steps).Sound capacity := by
  induction steps generalizing record with
  | nil => exact sound
  | cons step steps ih =>
      exact ih (sound.turn (whole step List.mem_cons_self))
        fun later mem => whole later (List.mem_cons_of_mem step mem)

end ChannelRecord

/-! ## Shut channels -/

namespace ChannelSession

variable {session : ChannelSession}

/-- The steps that shut the channel: either end goes away, or the writer is closed. -/
inductive Shuts (session : ChannelSession) : ChannelStep → Prop where
  | close {writer : Writer} : session.writer = .idle writer → Shuts session .close
  | pollClose {writer : Writer} : session.writer = .idle writer → Shuts session .pollClose
  | dropWriter : Shuts session .dropWriter
  | closeReceiver : Shuts session .closeReceiver
  | dropReceiver : Shuts session .dropReceiver

theorem Shuts.isWhole {step : ChannelStep} (shuts : session.Shuts step) :
    step.isWhole = true := by
  cases shuts <;> rfl

variable {writer : Writer} (rests : writer.AtRest)
  (shut : (session.memory.channels writer.channel).isOpen = false)

include rests shut

/-- A poll of a write into a shut channel leaves the channel as it is. -/
theorem continueWriting_memory (left : List Payload) :
    (session.continueWriting left writer).2.memory = session.memory := by
  cases left with
  | nil => rw [continueWriting_of_ok (Writer.sendAll_nil_shut rests shut)]
  | cons item rest =>
      rw [continueWriting_of_error (Writer.sendAll_cons_shut rests shut item rest)]

theorem answer_write_shut (idle : session.writer = .idle writer) (item : Payload)
    (rest : List Payload) :
    session.answer (.write (item :: rest)) =
      (.failure streamClosed, { session with writer := .unusable }) := by
  simp only [answer, withWriter, idle]
  exact continueWriting_of_error (Writer.sendAll_cons_shut rests shut item rest)

end ChannelSession

namespace ChannelRecord

variable {capacity : Nat} {record : ChannelRecord}

theorem turn_shuts (stands : record.Stands record.session.writer) {step : ChannelStep}
    (shuts : record.session.Shuts step) : (record.turn step).channel.isOpen = false := by
  have closed : (record.session.memory.closeChannel 0).channels 0 = record.channel.close :=
    Memory.channels_setChannel_same ..
  have dropped : (record.session.memory.setChannel 0 record.channel.dropReceiver).channels 0 =
      record.channel.dropReceiver := Memory.channels_setChannel_same ..
  have close_eq : ∀ {writer}, record.session.writer = .idle writer →
      record.session.answer .close = (.done, { record.session with
        memory := record.session.memory.closeChannel 0, writer := .idle writer }) := by
    intro writer idle
    obtain ⟨rests, own⟩ := stands.rests_of_idle idle
    simp only [ChannelSession.answer, ChannelSession.withWriter, idle]
    rw [Writer.pollClose_of_atRest rests, own]
    rfl
  cases shuts with
  | close idle =>
      rw [turn_of_quiet rfl rfl rfl, close_eq idle]
      exact congrArg Channel.isOpen closed
  | pollClose idle =>
      have poll_eq : record.session.answer .pollClose = record.session.answer .close := rfl
      rw [turn_of_quiet rfl rfl rfl, poll_eq, close_eq idle]
      exact congrArg Channel.isOpen closed
  | dropWriter =>
      rw [turn_of_quiet rfl rfl rfl]
      exact congrArg Channel.isOpen closed
  | closeReceiver =>
      rw [turn_of_quiet rfl rfl rfl]
      exact congrArg Channel.isOpen closed
  | dropReceiver =>
      rw [turn_of_quiet rfl rfl rfl]
      exact congrArg Channel.isOpen dropped

theorem polled_shut {writer : Writer} (rests : writer.AtRest) (own : writer.channel = 0)
    (shut : record.channel.isOpen = false) (left : List Payload) :
    (record.polled (record.session.continueWriting left writer)).channel = record.channel := by
  have memory_eq := ChannelSession.continueWriting_memory rests (by rwa [own]) left
  exact congrFun (congrArg Memory.channels memory_eq) 0

/-- A shut channel stays shut, and nothing is added to what was received and can be received. -/
theorem Turned.shut {after : ChannelRecord} (turned : record.Turned after)
    (stands : record.Stands record.session.writer) (shut : record.channel.isOpen = false) :
    after.channel.isOpen = false ∧
      after.received ++ after.channel.queue <+: record.received ++ record.channel.queue := by
  cases turned with
  | @quiet session changed =>
      have shut_after : (session.memory.channels 0).isOpen = false := by
        rw [Bool.eq_false_iff]
        intro isOpen
        rw [changed.open_eq isOpen] at isOpen
        exact absurd (isOpen.symm.trans shut) (by decide)
      refine ⟨shut_after, ?_⟩
      rw [channel_mk, changed.queue_eq]
      exact List.prefix_rfl
  | @wrote items writer idle =>
      obtain ⟨rests, own⟩ := stands.rests_of_idle idle
      have shut_begun : (record.begun items writer).channel.isOpen = false := shut
      rw [polled_shut rests own shut_begun]
      exact ⟨shut, List.prefix_rfl⟩
  | @polled left writer writing =>
      rw [writing] at stands
      cases stands with
      | writing rests own =>
          rw [polled_shut rests own shut]
          exact ⟨shut, List.prefix_rfl⟩
  | received queue_eq after_eq =>
      rw [channel_mk, after_eq, Channel.receive_isOpen, Channel.receive_queue, queue_eq,
        List.append_assoc]
      exact ⟨shut, List.prefix_rfl⟩
  | dropped shut_eq =>
      rw [channel_mk, shut_eq]
      refine ⟨rfl, ?_⟩
      show record.received ++ [] <+: _
      rw [List.append_nil]
      exact List.prefix_append record.received record.channel.queue

theorem Sound.run_shut (sound : record.Sound capacity) (shut : record.channel.isOpen = false)
    {steps : List ChannelStep} (whole : ∀ step ∈ steps, step.isWhole = true) :
    (record.run steps).channel.isOpen = false ∧
      (record.run steps).received ++ (record.run steps).channel.queue <+:
        record.received ++ record.channel.queue := by
  induction steps generalizing record with
  | nil => exact ⟨shut, List.prefix_rfl⟩
  | cons step steps ih =>
      have whole_step := whole step List.mem_cons_self
      obtain ⟨shut_after, shorter⟩ := (turned sound.stands whole_step).shut sound.stands shut
      obtain ⟨shut_last, shortest⟩ := ih (sound.turn whole_step) shut_after
        fun later mem => whole later (List.mem_cons_of_mem step mem)
      exact ⟨shut_last, shortest.trans shorter⟩

/-- Receiving goes on until everything that a shut channel holds was received. -/
theorem run_receives (hasReceiver : record.session.hasReceiver = true)
    (shut : record.channel.isOpen = false) :
    let last := record.run (List.replicate record.channel.queue.length .receive)
    last.received = record.received ++ record.channel.queue ∧
      (last.session.answer .receive).1 = .ended := by
  generalize queue_eq : record.channel.queue = queue
  induction queue generalizing record with
  | nil =>
      refine ⟨(List.append_nil _).symm, ?_⟩
      show (record.session.answer .receive).1 = .ended
      rw [answer_receive hasReceiver, Channel.receive_shut queue_eq shut]
  | cons item rest ih =>
      have turn_eq := turn_receive hasReceiver queue_eq
      have after_eq : (record.turn .receive).channel = record.channel.receive.2 := by
        rw [turn_eq, channel_mk]
        exact Memory.channels_setChannel_same ..
      have receiver_after : (record.turn .receive).session.hasReceiver = true := by
        rw [turn_eq]
        exact hasReceiver
      have shut_after : (record.turn .receive).channel.isOpen = false := by
        rw [after_eq, Channel.receive_isOpen]
        exact shut
      have rest_eq : (record.turn .receive).channel.queue = rest := by
        rw [after_eq, Channel.receive_queue, queue_eq]
        rfl
      obtain ⟨received_eq, ended⟩ := ih receiver_after shut_after rest_eq
      refine ⟨received_eq.trans ?_, ended⟩
      rw [turn_eq, List.append_assoc]
      rfl

/-- A receiver finds the end of a channel that is shut and holds nothing. -/
theorem of_ended (ended : (record.session.answer .receive).1 = .ended) :
    record.session.hasReceiver = true ∧ record.channel.isOpen = false ∧
      record.channel.queue = [] := by
  cases hasReceiver : record.session.hasReceiver with
  | false =>
      simp [ChannelSession.answer, hasReceiver, Answer.unavailable, Answer.ended] at ended
  | true =>
      rw [answer_receive hasReceiver] at ended
      cases queue_eq : record.channel.queue with
      | cons item rest => simp [Channel.receive, queue_eq, Answer.ended] at ended
      | nil =>
          cases isOpen : record.channel.isOpen with
          | true =>
              simp [Channel.receive, queue_eq, isOpen, Answer.pending, Answer.ended] at ended
          | false => exact ⟨rfl, rfl, rfl⟩

/-- The items of writes are delivered: in order, each once, and nothing else. -/
structure Delivers (capacity : Nat) (record : ChannelRecord) : Prop where
  received_given : record.received <+: record.given
  written_given : record.written <+: record.given
  bounded : record.channel.queue.length ≤ capacity + 1
  /-- A receiver finds the end only when it has received all items of the writes that ended well. -/
  end_found : (record.session.answer .receive).1 = .ended →
    record.channel.isOpen = false ∧ record.written <+: record.received
  /-- It does find it, once the channel is shut and unless it was dropped. -/
  drained : record.channel.isOpen = false → record.session.hasReceiver = true →
    let last := record.run (List.replicate record.channel.queue.length .receive)
    record.written <+: last.received ∧ (last.session.answer .receive).1 = .ended
  /-- Once the channel was shut from either end, a write of any item fails, and what is received
  later was in the channel before. A write of nothing is a flush, which succeeds. -/
  refused : ∀ step, record.session.Shuts step →
    ∀ later : List ChannelStep, (∀ step ∈ later, step.isWhole = true) →
      let shut := (record.turn step).run later
      ∀ writer, shut.session.writer = .idle writer → ∀ item rest,
        shut.session.answer (.write (item :: rest)) =
            (.failure streamClosed, { shut.session with writer := .unusable }) ∧
          ∀ further : List ChannelStep, (∀ step ∈ further, step.isWhole = true) →
            ((shut.turn (.write (item :: rest))).run further).received <+:
              shut.received ++ shut.channel.queue

theorem Sound.delivers (sound : record.Sound capacity) : record.Delivers capacity where
  received_given := (List.prefix_append ..).trans sound.in_order
  written_given := ⟨record.current, sound.parts⟩
  bounded := sound.bounded
  end_found := by
    intro ended
    obtain ⟨hasReceiver, shut, nothing⟩ := of_ended ended
    have sent := sound.written_sent hasReceiver
    rw [nothing, List.append_nil] at sent
    exact ⟨shut, sent⟩
  drained := by
    intro shut hasReceiver
    obtain ⟨received_eq, ended⟩ := run_receives hasReceiver shut
    exact ⟨received_eq ▸ sound.written_sent hasReceiver, ended⟩
  refused := by
    intro step shuts later whole shut writer idle item rest
    have sound_turn := sound.turn shuts.isWhole
    obtain ⟨isShut, -⟩ := sound_turn.run_shut (turn_shuts sound.stands shuts) whole
    have sound_shut : shut.Sound capacity := sound_turn.run whole
    have isShut : shut.channel.isOpen = false := isShut
    obtain ⟨rests, own⟩ := sound_shut.stands.rests_of_idle idle
    have shut_own : (shut.session.memory.channels writer.channel).isOpen = false := by
      rw [own]
      exact isShut
    refine ⟨ChannelSession.answer_write_shut rests shut_own idle item rest, ?_⟩
    intro further whole_further
    have whole_all : ∀ step ∈ ChannelStep.write (item :: rest) :: further,
        step.isWhole = true := by
      intro step mem
      cases mem with
      | head => rfl
      | tail _ mem => exact whole_further step mem
    exact (List.prefix_append ..).trans (sound_shut.run_shut isShut whole_all).2

/-- However the two ends of a channel are used, by a writer or by a typed one over it, what is
written is delivered. -/
theorem writes_delivered (capacity : Nat) (isTyped : Bool) {steps : List ChannelStep}
    (whole : ∀ step ∈ steps, step.isWhole = true) :
    ((start capacity isTyped).run steps).Delivers capacity :=
  ((sound_start capacity isTyped).run whole).delivers

end ChannelRecord

namespace Sample

/-- Three items through a channel that holds one at a time, and a fourth after it was closed. -/
def typedWrites : List ChannelStep :=
  [.write [(pongOf 1 "a").val, (pongOf 2 "b").val], .receive, .pollWrite, .receive, .pollWrite,
    .write [(pongOf 3 "c").val], .receive, .pollWrite, .close, .write [(pongOf 4 "d").val],
    .receive]

/-- The three items are received and then the end; the fourth is refused. -/
theorem typedWrites_delivered :
    (∀ step ∈ typedWrites, step.isWhole = true) ∧
      let record := (ChannelRecord.start 0 true).run typedWrites
      record.Delivers 0 ∧
        record.received = [(pongOf 1 "a").val, (pongOf 2 "b").val, (pongOf 3 "c").val] ∧
        record.written = record.received := by
  have whole : ∀ step ∈ typedWrites, step.isWhole = true := by
    simp [typedWrites, ChannelStep.isWhole]
  exact ⟨whole, ChannelRecord.writes_delivered 0 true whole, rfl, rfl⟩

end Sample
end RpcContracts
