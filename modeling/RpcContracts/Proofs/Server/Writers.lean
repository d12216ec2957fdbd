import RpcContracts.Proofs.Server.Pumping

/-!
# Polls of a write

A write sends its items one after another, as long as there is room in the channel. A typed writer
lies over its channel and holds an item for a moment, but never from one poll to the next, so a poll
of a write through it comes to the same as a poll of a write into the channel itself.
-/

namespace RpcContracts

/-! ## Polls of a write -/

namespace Writer

/-- A writer holds nothing: whatever it has accepted is in its channel. -/
def AtRest (writer : Writer) : Prop := writer.emptied = writer

section

variable {writer : Writer} {memory : Memory} (rests : writer.AtRest)

include rests

theorem passOn_of_atRest : writer.passOn memory = (.ok (), memory) := by
  cases writer with
  | direct number => rfl
  | typed number held =>
      cases rests
      rfl

theorem askChannel_of_atRest (ask : Channel Payload → Poll (Except RpcError Unit)) :
    askChannel ask writer memory = (ask (memory.channels writer.channel), writer, memory) := by
  rw [askChannel, passOn_of_atRest rests]
  simp only
  rw [show writer.emptied = writer from rests]

theorem pollClose_of_atRest :
    writer.pollClose memory =
      (.ready (.ok ()), writer, memory.closeChannel writer.channel) := by
  rw [pollClose, passOn_of_atRest rests]
  simp only
  rw [show writer.emptied = writer from rests]

end

/-- A held item is passed on before anything else is asked. -/
theorem sendAll_held {number : Nat} {item : Payload} {memory : Memory} {channel : Channel Payload}
    (send_eq : (memory.channels number).send item = (.ok (), channel)) (items : List Payload) :
    (typed number (some item)).sendAll items memory =
      (typed number none).sendAll items (memory.setChannel number channel) := by
  have ask_eq : ∀ ask, askChannel ask (typed number (some item)) memory =
      askChannel ask (typed number none) (memory.setChannel number channel) := by
    intro ask
    simp only [askChannel, passOn, send_eq]
    rfl
  cases items with
  | nil => simp only [sendAll, pollFlush, ask_eq]
  | cons first rest => simp only [sendAll, pollReady, ask_eq]

section

variable {writer : Writer} {memory : Memory} {capacity : Nat} {queue : List Payload}
  (rests : writer.AtRest) (holds : memory.channels writer.channel = .holding capacity queue)

include rests holds

/-- While the channel holds too much, a write waits. -/
theorem sendAll_full (full : capacity < queue.length) (items : List Payload) :
    writer.sendAll items memory = (.pending, items, writer, memory) := by
  cases items with
  | nil =>
      simp [sendAll, pollFlush, askChannel_of_atRest rests, holds, Channel.pollFlush,
        Channel.holding, full]
  | cons item rest =>
      simp [sendAll, pollReady, askChannel_of_atRest rests, holds, Channel.pollReady,
        Channel.holding, full]

theorem sendAll_nil_room (room : ¬capacity < queue.length) :
    writer.sendAll [] memory = (.ready (.ok ()), [], writer, memory) := by
  simp [sendAll, pollFlush, askChannel_of_atRest rests, holds, Channel.pollFlush,
    Channel.holding, room]

/-- While there is room, the next item goes into the channel. -/
theorem sendAll_cons_room (room : ¬capacity < queue.length) (item : Payload)
    (rest : List Payload) :
    writer.sendAll (item :: rest) memory =
      writer.sendAll rest
        (memory.setChannel writer.channel (.holding capacity (queue ++ [item]))) := by
  have ready_eq : writer.pollReady memory = (.ready (.ok ()), writer, memory) := by
    simp [pollReady, askChannel_of_atRest rests, holds, Channel.pollReady, Channel.holding, room]
  have send_eq : (memory.channels writer.channel).send item =
      (.ok (), .holding capacity (queue ++ [item])) := by
    simp [holds, Channel.send, Channel.holding, room]
  rw [sendAll]
  simp only [ready_eq]
  cases writer with
  | direct number =>
      have send_eq : (memory.channels number).send item = _ := send_eq
      simp only [send, send_eq]
      rfl
  | typed number held =>
      cases rests
      exact sendAll_held send_eq rest

end

section

variable {writer : Writer} {memory : Memory} (rests : writer.AtRest)
  (shut : (memory.channels writer.channel).isOpen = false)

include rests shut

theorem sendAll_nil_shut :
    writer.sendAll [] memory = (.ready (.ok ()), [], writer, memory) := by
  simp [sendAll, pollFlush, askChannel_of_atRest rests, shut, Channel.pollFlush]

theorem sendAll_cons_shut (item : Payload) (rest : List Payload) :
    writer.sendAll (item :: rest) memory =
      (.ready (.error streamClosed), item :: rest, writer, memory) := by
  simp [sendAll, pollReady, askChannel_of_atRest rests, shut, Channel.pollReady]

end

/-- What a poll of a write into an open channel comes to: the first items are accepted, and all of
them if the write is over. -/
inductive Wrote (capacity : Nat) (queue : List Payload) (writer : Writer) :
    List Payload → Poll (Except RpcError Unit) × List Payload × Writer × Memory → Prop where
  | waits {accepted left : List Payload} {after : Memory} :
      after.channels writer.channel = .holding capacity (queue ++ accepted) →
      (queue ++ accepted).length ≤ capacity + 1 →
      Wrote capacity queue writer (accepted ++ left) (.pending, left, writer, after)
  | finished {items : List Payload} {after : Memory} :
      after.channels writer.channel = .holding capacity (queue ++ items) →
      (queue ++ items).length ≤ capacity + 1 →
      Wrote capacity queue writer items (.ready (.ok ()), [], writer, after)

theorem Wrote.cons {capacity : Nat} {queue : List Payload} {writer : Writer} {item : Payload}
    {rest : List Payload} {answer : Poll (Except RpcError Unit) × List Payload × Writer × Memory}
    (wrote : Wrote capacity (queue ++ [item]) writer rest answer) :
    Wrote capacity queue writer (item :: rest) answer := by
  cases wrote with
  | waits after_eq bounded =>
      rw [List.append_assoc] at after_eq bounded
      exact .waits after_eq bounded
  | finished after_eq bounded =>
      rw [List.append_assoc] at after_eq bounded
      exact .finished after_eq bounded

theorem wrote_sendAll {writer : Writer} (rests : writer.AtRest) {capacity : Nat}
    {queue : List Payload} {memory : Memory}
    (holds : memory.channels writer.channel = .holding capacity queue)
    (bounded : queue.length ≤ capacity + 1) (items : List Payload) :
    Wrote capacity queue writer items (writer.sendAll items memory) := by
  induction items generalizing queue memory with
  | nil =>
      rw [← List.append_nil queue] at holds bounded
      by_cases room : capacity < queue.length
      · rw [sendAll_full rests holds (by rwa [List.append_nil])]
        exact .waits holds bounded
      · rw [sendAll_nil_room rests holds (by rwa [List.append_nil])]
        exact .finished holds bounded
  | cons item rest ih =>
      by_cases room : capacity < queue.length
      · rw [sendAll_full rests holds room]
        rw [← List.append_nil queue] at holds bounded
        exact .waits holds bounded
      · rw [sendAll_cons_room rests holds room]
        refine Wrote.cons (ih (Memory.channels_setChannel_same ..) ?_)
        rw [List.length_append, List.length_singleton]
        omega

end Writer

end RpcContracts
