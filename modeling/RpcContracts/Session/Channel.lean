import RpcContracts.Async.Writer
import RpcContracts.Session.Answer

/-!
# Sessions on a channel

The two ends of one channel are used in any order. The writer is used directly or through a write in
flight, which is polled until it is over; a writer that failed once is not used again.
-/

namespace RpcContracts

/-- A step on a channel. -/
inductive ChannelStep where
  /-- Start to write items, and poll once. -/
  | write (items : List Payload)
  /-- Start to close the writer, and poll once. -/
  | close
  /-- Poll the write in flight. -/
  | pollWrite
  | pollReady
  | startSend (item : Payload)
  | pollFlush
  | pollClose
  | receive
  | dropWriter
  | dropReceiver
  | closeReceiver
  /-- Describe the writer. -/
  | describe

/-- The steps without parameters, by name. -/
def ChannelStep.named : List (String × ChannelStep) :=
  [("close", .close), ("poll_write", .pollWrite), ("poll_ready", .pollReady),
   ("poll_flush", .pollFlush), ("poll_close", .pollClose), ("recv", .receive),
   ("drop_writer", .dropWriter), ("drop_receiver", .dropReceiver),
   ("close_receiver", .closeReceiver), ("debug", .describe)]

/-- What became of the writer. -/
inductive WriterState where
  /-- It can be used. -/
  | idle (writer : Writer)
  /-- It is writing the items that are left. -/
  | writing (left : List Payload) (writer : Writer)
  /-- It failed, or was dropped. -/
  | unusable

/-- A channel, its writer and its receiver. -/
structure ChannelSession where
  /-- What the ends share. -/
  memory : Memory
  /-- The writer. -/
  writer : WriterState
  /-- Whether the receiver still exists. -/
  hasReceiver : Bool

namespace ChannelSession

/-- A new channel, under the number zero. -/
def start (buffer : Nat) : ChannelSession where
  memory := Memory.fresh.setChannel 0 (.create buffer)
  writer := .idle (.direct 0)
  hasReceiver := true

/-- Go on after the writer was asked something; an error makes it unusable. -/
def afterAsking (session : ChannelSession)
    (asked : Poll (Except RpcError Unit) × Writer × Memory) : Answer × ChannelSession :=
  match asked with
  | (.ready (.error error), _, memory) =>
      (.failure error, { session with memory := memory, writer := .unusable })
  | (poll, writer, memory) =>
      (.ofUnitPoll poll, { session with memory := memory, writer := .idle writer })

/-- Go on with a write until it is pending or over. -/
def continueWriting (session : ChannelSession) (left : List Payload) (writer : Writer) :
    Answer × ChannelSession :=
  match writer.sendAll left session.memory with
  | (.pending, left, writer, memory) =>
      (.pending, { session with memory := memory, writer := .writing left writer })
  | (poll, _, writer, memory) => session.afterAsking (poll, writer, memory)

/-- Use the writer if it is idle. -/
def withWriter (session : ChannelSession) (action : Writer → Answer × ChannelSession) :
    Answer × ChannelSession :=
  match session.writer with
  | .idle writer => action writer
  | _ => (.unavailable, session)

/-- Take a step. -/
def answer (session : ChannelSession) : ChannelStep → Answer × ChannelSession
  | .write items => session.withWriter (session.continueWriting items)
  | .close => session.withWriter fun writer => session.afterAsking (writer.pollClose session.memory)
  | .pollWrite =>
      match session.writer with
      | .writing left writer => session.continueWriting left writer
      | _ => (.unavailable, session)
  | .pollReady =>
      session.withWriter fun writer => session.afterAsking (writer.pollReady session.memory)
  | .startSend item =>
      session.withWriter fun writer =>
        match writer.send item session.memory with
        | (result, rest) => session.afterAsking (.ready result, rest)
  | .pollFlush =>
      session.withWriter fun writer => session.afterAsking (writer.pollFlush session.memory)
  | .pollClose =>
      session.withWriter fun writer => session.afterAsking (writer.pollClose session.memory)
  | .receive =>
      if session.hasReceiver then
        match session.memory.receive 0 with
        | (.pending, memory) => (.pending, { session with memory := memory })
        | (.ready none, memory) => (.ended, { session with memory := memory })
        | (.ready (some item), memory) => (.item (.ok item), { session with memory := memory })
      else (.unavailable, session)
  | .dropWriter =>
      (.done, { session with memory := session.memory.closeChannel 0, writer := .unusable })
  | .dropReceiver =>
      (.done, { session with
        memory := session.memory.setChannel 0 (session.memory.channels 0).dropReceiver
        hasReceiver := false })
  | .closeReceiver => (.done, { session with memory := session.memory.closeChannel 0 })
  | .describe => session.withWriter fun _ => (.remark "StreamWriter \x7b .. \x7d", session)

/-- The answers of steps on a new channel. -/
def run (buffer : Nat) (steps : List ChannelStep) : List Answer :=
  runSteps answer (start buffer) steps

end ChannelSession
end RpcContracts
