import RpcContracts.Async.Stream
import RpcContracts.Session.Answer

/-!
# Sessions on streams

A reader or a response stream is read item by item, asked for bounds, and unwrapped.
-/

namespace RpcContracts

/-- A step on a stream. -/
inductive StreamStep where
  | next
  | sizeHint
  | intoInner
  /-- Describe the stream. -/
  | describe

/-- The steps without parameters, by name. -/
def StreamStep.named : List (String × StreamStep) :=
  [("next", .next), ("size_hint", .sizeHint), ("into_inner", .intoInner), ("debug", .describe)]

/-- What the stream is at the moment. -/
inductive StreamRole where
  | reader
  | responses
  /-- What a reader or response stream was made of. -/
  | inner

namespace StreamRole

/-- The description of a stream. -/
def description : StreamRole → String
  | reader => "StreamReader \x7b .. \x7d"
  | responses => "ResponseStream \x7b .. \x7d"
  | inner => "inner"

end StreamRole

/-- How the stream of a session is made. -/
structure StreamOrigin where
  /-- What the stream is at first. -/
  role : StreamRole
  /-- Which of the given items it yields. -/
  keeps : Outcome → Bool
  /-- Whether it may stay open. -/
  mayStayOpen : Bool

/-- The origins, by name: of all items, of those that did not fail, or of none. -/
def StreamOrigin.named : List (String × StreamOrigin) :=
  [("reader", ⟨.reader, fun _ => true, true⟩),
   ("responses", ⟨.responses, fun _ => true, true⟩),
   ("reader_items", ⟨.reader, Except.isOk, false⟩),
   ("responses_items", ⟨.responses, Except.isOk, false⟩),
   ("reader_empty", ⟨.reader, fun _ => false, false⟩),
   ("responses_error", ⟨.responses, fun _ => true, false⟩)]

/-- A stream and its role. -/
structure StreamSession : Type 1 where
  /-- The role. -/
  role : StreamRole
  /-- The stream. -/
  stream : ItemStream Payload

namespace StreamSession

/-- Take a step. All items are known, so the bound on their number is exact. -/
def answer (session : StreamSession) : StreamStep → Answer × StreamSession
  | .next =>
      match session.stream.step [] .fresh with
      | (poll, stream, _) => (.ofItemPoll poll, { session with stream := stream })
  | .sizeHint =>
      let size := session.stream.budget session.stream.state []
      (.bounds size size, session)
  | .intoInner => (.done, { session with role := .inner })
  | .describe => (.remark session.role.description, session)

/-- The answers of steps on a stream of known items. -/
def run (origin : StreamOrigin) (items : List Outcome) (staysOpen : Bool)
    (steps : List StreamStep) : List Answer :=
  runSteps answer
    ⟨origin.role, .ofItems (items.filter origin.keeps) (staysOpen && origin.mayStayOpen)⟩ steps

end StreamSession
end RpcContracts
