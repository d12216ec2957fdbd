import RpcContracts.Client.Response
import RpcContracts.Proofs.Async.Runs

/-!
# Runs of a response stream

A caller reads the responses of a call whose transport goes through a script of pauses and items.
What has been read and what is still to be read always make up the same list, until a cancellation
cuts it off. As long as the token has not fired, the polls find what the script goes through, one
after another. A firing leaves so little to be read that the answers of all later polls are known at
that moment.
-/

namespace RpcContracts

/-- What a caller sees of items: those up to the first error, which is in normal form. -/
def throughError : List Outcome → List Outcome
  | [] => []
  | .ok value :: rest => .ok value :: throughError rest
  | .error error :: _ => [.error error.normalize]

theorem throughError_ok_append (values : List Payload) (rest : List Outcome) :
    throughError (values.map .ok ++ rest) = values.map .ok ++ throughError rest := by
  induction values with
  | nil => rfl
  | cons value values ih => simp [throughError, ih]

theorem nil_of_error_throughError (items : List Outcome) {values rest : List Outcome}
    {error : RpcError} (seen : values ++ .error error :: rest <+: throughError items) :
    rest = [] := by
  induction items generalizing values with
  | nil => simp [throughError] at seen
  | cons item items ih =>
      cases item with
      | ok value =>
          cases values with
          | nil => simp [throughError] at seen
          | cons first values => exact ih (List.cons_prefix_cons.mp seen).2
      | error found =>
          have bound := seen.length_le
          simp only [throughError, List.length_append, List.length_cons, List.length_nil] at bound
          exact List.length_eq_zero_iff.mp (by omega)

/-- Items a caller may have seen when all items are given: the first of them, or the first values
and then a cancellation. -/
inductive Seen (all : List Outcome) (fired : Bool) : List Outcome → Prop where
  | first {items : List Outcome} : items <+: all → Seen all fired items
  | cancelled {values : List Payload} : fired = true → values.map .ok <+: all →
      Seen all fired (values.map .ok ++ [.error .cancelled])

theorem Seen.nil_of_error {script : List Outcome} {fired : Bool} {values rest : List Outcome}
    {error : RpcError} (seen : Seen (throughError script) fired (values ++ .error error :: rest)) :
    rest = [] := by
  generalize items_eq : values ++ .error error :: rest = items at seen
  cases seen with
  | first leads => exact nil_of_error_throughError script (items_eq ▸ leads)
  | @cancelled shown =>
      have shown_eq := throughError_ok_append shown [.error .cancelled]
      have leads : values ++ .error error :: rest <+:
          throughError (shown.map .ok ++ [.error .cancelled]) := by
        rw [items_eq, shown_eq]
        exact List.prefix_rfl
      exact nil_of_error_throughError _ leads

/-- The answers of all polls after a firing, when some items have been seen. -/
inductive LastAnswers (all items : List Outcome) : List (Poll (Option Outcome)) → Prop where
  | interrupted : LastAnswers all items [.ready (some (.error .cancelled)), .ready none]
  | oneMore {value : Payload} : items ++ [.ok value] <+: all →
      LastAnswers all items
        [.ready (some (.ok value)), .ready (some (.error .cancelled)), .ready none]
  | failed {error : RpcError} : items ++ [.error error] = all →
      LastAnswers all items [.ready (some (.error error)), .ready none]
  | ended : items = all → LastAnswers all items [.ready none]

namespace StreamingCall

/-- A call whose responses follow a script. -/
abbrev scripted (script : List (Poll Outcome)) (headers : Task Metadata)
    (completion : Future Completion) : StreamingCall := ⟨.ofScript script, headers, completion⟩

/-- The responses of a scripted call as the caller sees them, of which nothing is captured. -/
abbrev relayed (script : List (Poll Outcome)) (headers : Task Metadata)
    (completion : Future Completion) (token : Token) : ItemStream Payload :=
  (scripted script headers completion).results none token

variable {script : List (Poll Outcome)} {headers : Task Metadata} {completion : Future Completion}
  {token : Token} {history : History} {memory : Memory}

/-- Whether the next response has been polled for, in the stages in which it is read. -/
def Stage.begun? {call : StreamingCall} : call.Stage → Option Bool
  | .fresh => some false
  | .headers _ => some false
  | .idle => some false
  | .reading => some true
  | .completion _ => none
  | .finished => none

theorem pollNext_begun {call : StreamingCall} {stage : call.Stage} {begun : Bool}
    (reads : stage.begun? = some begun) (responses : call.responses.State) :
    call.pollNext none token (stage, responses) history memory =
      call.pollItem none token begun responses history memory := by
  cases stage <;> cases reads <;> rfl

theorem pollNext_over {call : StreamingCall} {stage : call.Stage} (ended : stage.begun? = none)
    (responses : call.responses.State) :
    call.pollNext none token (stage, responses) history memory =
      (.ready none, (.finished, responses), memory) := by
  cases stage <;> cases ended <;> rfl

/-! ## What is seen -/

/-- What has been seen and what is left make up all that can be seen, unless a cancellation came
between. -/
inductive Relaying {call : StreamingCall} (all : List Outcome) (fired : Bool) :
    call.Stage → List (Poll Outcome) → List Outcome → Bool → Prop where
  | reads {stage : call.Stage} {begun : Bool} {left : List (Poll Outcome)}
      {values : List Payload} : stage.begun? = some begun →
      values.map .ok ++ throughError (Poll.readyItems left) = all →
      Relaying all fired stage left (values.map .ok) false
  | complete {left : List (Poll Outcome)} {isOver : Bool} :
      Relaying all fired .finished left all isOver
  | cancelled {left : List (Poll Outcome)} {values : List Payload} {isOver : Bool} :
      fired = true → values.map .ok <+: all →
      Relaying all fired .finished left (values.map .ok ++ [.error .cancelled]) isOver

theorem Relaying.seen {call : StreamingCall} {all items : List Outcome} {fired isOver : Bool}
    {stage : call.Stage} {left : List (Poll Outcome)}
    (relaying : Relaying all fired stage left items isOver) : Seen all fired items := by
  cases relaying with
  | reads _ parts => exact .first ⟨_, parts⟩
  | complete => exact .first List.prefix_rfl
  | cancelled isFired leads => exact .cancelled isFired leads

theorem Relaying.mono {call : StreamingCall} {all items : List Outcome} {fired later isOver : Bool}
    {stage : call.Stage} {left : List (Poll Outcome)} (stays : fired = true → later = true)
    (relaying : Relaying all fired stage left items isOver) :
    Relaying all later stage left items isOver := by
  cases relaying with
  | reads begun parts => exact .reads begun parts
  | complete => exact .complete
  | cancelled isFired leads => exact .cancelled (stays isFired) leads

/-- What a poll of the responses comes to. -/
def Relays {call : StreamingCall} (all items : List Outcome) (fired : Bool) :
    Poll (Option Outcome) × (call.Stage × List (Poll Outcome)) × Memory → Prop :=
  fun (answer, (stage, left), _) =>
    Relaying all fired stage left (items ++ answer.item?.toList) answer.isEnd

theorem pollItem_relays {all : List Outcome} {values : List Payload} {begun : Bool}
    {left : List (Poll Outcome)}
    (parts : values.map .ok ++ throughError (Poll.readyItems left) = all) :
    Relays all (values.map .ok) (history.hasFired token)
      ((scripted script headers completion).pollItem none token begun left history memory) := by
  have raced := PollStep.raced (Stream.ofScript script).next token begun left history memory
  unfold pollItem
  simp only [scripted]
  generalize PollStep.race (Stream.ofScript script).next token begun left history memory = answer
    at raced
  have leads : values.map .ok <+: all := ⟨_, parts⟩
  cases raced with
  | prevented _ fired => exact .cancelled fired leads
  | interrupted _ fired _ => exact .cancelled fired leads
  | waiting _ polled =>
      rcases left with _ | ⟨_ | item, rest⟩ <;> cases polled
      show Relaying all _ .reading _ (values.map .ok ++ []) false
      rw [List.append_nil]
      exact .reads rfl parts
  | finished _ polled =>
      obtain _ | ⟨_ | error | value, rest⟩ := left <;> cases polled
      · have shown_eq : values.map .ok ++ [] = all := parts
        show Relaying all _ .finished [] (values.map .ok ++ []) true
        rw [shown_eq]
        exact .complete
      · have shown_eq : values.map .ok ++ [.error error.normalize] = all := parts
        show Relaying all _ .finished _ (values.map .ok ++ [.error error.normalize]) false
        rw [shown_eq]
        exact .complete
      · show Relaying all _ .idle _ (values.map .ok ++ [.ok value]) false
        rw [← List.map_singleton, ← List.map_append]
        refine .reads rfl ?_
        rw [← parts]
        simp [throughError, Poll.readyItems]

/-- One poll of responses that are not over. -/
theorem pollNext_relays {all items : List Outcome} {isOver : Bool}
    {stage : (scripted script headers completion).Stage} {left : List (Poll Outcome)}
    (relaying : Relaying all (history.hasFired token) stage left items isOver) :
    Relays all items (history.hasFired token)
      ((scripted script headers completion).pollNext none token (stage, left) history memory) := by
  cases relaying with
  | reads begun parts =>
      rw [pollNext_begun begun]
      exact pollItem_relays parts
  | complete =>
      show Relaying all _ .finished left (all ++ []) true
      rw [List.append_nil]
      exact .complete
  | cancelled fired leads =>
      show Relaying all _ .finished left (_ ++ []) true
      rw [List.append_nil]
      exact .cancelled fired leads

/-- What is seen and what is left fit together at a moment of a run. -/
def Accounts (moment : (relayed script headers completion token).Moment) : Prop :=
  Relaying (throughError (Poll.readyItems script)) (moment.history.hasFired token)
    (moment.state : (scripted script headers completion).Stage × _).1 moment.state.2 moment.items
    moment.isOver

theorem accounts_run (memory : Memory) (turns : List Turn) :
    Accounts (((relayed script headers completion token).start memory).run turns) := by
  refine Stream.Moment.run_induction ?_ ?_ ?_ turns
  · show Relaying (throughError (Poll.readyItems script)) _ .fresh script (List.map .ok []) false
    exact .reads rfl rfl
  · intro moment event _ accounts
    exact Relaying.mono (History.hasFired_append [event]) accounts
  · intro moment _ accounts
    have relays : Relays (throughError (Poll.readyItems script)) moment.items
        (moment.history.hasFired token) ((relayed script headers completion token).next moment.state
          moment.history moment.memory) := pollNext_relays accounts
    rcases next_eq : (relayed script headers completion token).next moment.state
      moment.history moment.memory with ⟨answer, after, memory⟩
    rw [next_eq] at relays
    rw [Accounts, Stream.Moment.items_polled next_eq, Stream.Moment.polled_eq next_eq]
    exact relays

/-! ## Answers -/

/-- Answers of all polls that can still come, by the stage and by what is left of the script. -/
abbrev Foresight := Option Bool → List (Poll Outcome) → List (Poll (Option Outcome))

/-- An answer is followed by the answers in the stage it leads to. -/
def Answers {call : StreamingCall} (foresight : Foresight) (all : List (Poll (Option Outcome))) :
    Poll (Option Outcome) × (call.Stage × List (Poll Outcome)) × Memory → Prop :=
  fun (answer, (stage, left), _) =>
    all = answer :: if answer.isEnd then [] else foresight stage.begun? left

/-- The answers that are foreseen in a state. -/
def Foresight.upcoming (foresight : Foresight)
    (state : (relayed script headers completion token).State) : List (Poll (Option Outcome)) :=
  foresight (state : (scripted script headers completion).Stage × _).1.begun? state.2

/-- What is foreseen in the stages in which a response is read is foretold in every state. -/
theorem Foresight.foretold {foresight : Foresight}
    (ended : ∀ left, foresight none left = [.ready none])
    (reads : ∀ begun left, Answers foresight (foresight (some begun) left)
      ((scripted script headers completion).pollItem none token begun left history memory))
    (state : (relayed script headers completion token).State) :
    Stream.Moment.Foretold foresight.upcoming (foresight.upcoming state)
      ((relayed script headers completion token).next state history memory) := by
  obtain ⟨stage, left⟩ := state
  show Answers foresight (foresight stage.begun? left)
    ((scripted script headers completion).pollNext none token (stage, left) history memory)
  cases begun_eq : stage.begun? with
  | none =>
      rw [pollNext_over begun_eq, ended]
      rfl
  | some begun =>
      rw [pollNext_begun begun_eq]
      exact reads begun left

/-- The answers of all polls of a script while the token has not fired: pauses and values as they
come, and the end after them or after the first error. -/
def scriptAnswers : List (Poll Outcome) → List (Poll (Option Outcome))
  | [] => [.ready none]
  | .pending :: rest => .pending :: scriptAnswers rest
  | .ready (.ok value) :: rest => .ready (some (.ok value)) :: scriptAnswers rest
  | .ready (.error error) :: _ => [.ready (some (.error error.normalize)), .ready none]

/-- The answers of all polls while the token has not fired. -/
def firstAnswers : Foresight
  | none, _ => [.ready none]
  | some _, left => scriptAnswers left

theorem pollItem_firstAnswers (unfired : history.hasFired token = false) (begun : Bool)
    (left : List (Poll Outcome)) :
    Answers firstAnswers (firstAnswers (some begun) left)
      ((scripted script headers completion).pollItem none token begun left history memory) := by
  have raced := PollStep.raced (Stream.ofScript script).next token begun left history memory
  unfold pollItem
  simp only [scripted]
  generalize PollStep.race (Stream.ofScript script).next token begun left history memory = answer
    at raced
  cases raced with
  | prevented _ fired => cases unfired.symm.trans fired
  | interrupted _ fired _ => cases unfired.symm.trans fired
  | waiting _ polled =>
      rcases left with _ | ⟨_ | item, rest⟩ <;> cases polled
      rfl
  | finished _ polled => rcases left with _ | ⟨_ | error | value, rest⟩ <;> cases polled <;> rfl

/-- The answers of all polls that follow a firing. Only a response that was being read at that time
can still come. -/
def lastAnswers : Foresight
  | none, _ => [.ready none]
  | some true, [] => [.ready none]
  | some true, .ready (.error error) :: _ => [.ready (some (.error error.normalize)), .ready none]
  | some true, .ready (.ok value) :: _ =>
      [.ready (some (.ok value)), .ready (some (.error .cancelled)), .ready none]
  | some true, .pending :: _ => [.ready (some (.error .cancelled)), .ready none]
  | some false, _ => [.ready (some (.error .cancelled)), .ready none]

theorem pollItem_lastAnswers (fired : history.hasFired token = true) (begun : Bool)
    (left : List (Poll Outcome)) :
    Answers lastAnswers (lastAnswers (some begun) left)
      ((scripted script headers completion).pollItem none token begun left history memory) := by
  have raced := PollStep.raced (Stream.ofScript script).next token begun left history memory
  unfold pollItem
  simp only [scripted]
  generalize PollStep.race (Stream.ofScript script).next token begun left history memory = answer
    at raced
  cases raced with
  | prevented fresh _ =>
      subst fresh
      rfl
  | interrupted isBegun _ polled =>
      subst isBegun
      rcases left with _ | ⟨_ | item, rest⟩ <;> cases polled
      rfl
  | waiting unfired _ => cases unfired.symm.trans fired
  | finished order polled =>
      obtain rfl : begun = true := order.resolve_right (by simp [fired])
      rcases left with _ | ⟨_ | error | value, rest⟩ <;> cases polled <;> rfl

theorem firstAnswers_foretold (state : (relayed script headers completion token).State)
    (history : History) (memory : Memory) (unfired : history.hasFired token = false) :
    Stream.Moment.Foretold firstAnswers.upcoming (firstAnswers.upcoming state)
      ((relayed script headers completion token).next state history memory) :=
  Foresight.foretold (fun _ => rfl) (pollItem_firstAnswers unfired) state

theorem lastAnswers_foretold (state : (relayed script headers completion token).State)
    (history : History) (memory : Memory) (fired : history.hasFired token = true) :
    Stream.Moment.Foretold lastAnswers.upcoming (lastAnswers.upcoming state)
      ((relayed script headers completion token).next state history memory) :=
  Foresight.foretold (fun _ => rfl) (pollItem_lastAnswers fired) state

/-- What has been seen when the token fires decides which answers can still come. -/
theorem Relaying.lastAnswers {call : StreamingCall} {all items : List Outcome} {isOver : Bool}
    {stage : call.Stage} {left : List (Poll Outcome)}
    (relaying : Relaying all false stage left items isOver) :
    LastAnswers all items (lastAnswers stage.begun? left) := by
  cases relaying with
  | @reads _ begun _ values reads parts =>
      rw [reads]
      cases begun with
      | false => exact .interrupted
      | true =>
          rcases left with _ | ⟨_ | error | value, rest⟩
          · have shown_eq : values.map .ok ++ [] = all := parts
            exact .ended ((List.append_nil _).symm.trans shown_eq)
          · exact .interrupted
          · exact .failed parts
          · have shown_eq :
                values.map .ok ++ .ok value :: throughError (Poll.readyItems rest) = all := parts
            exact .oneMore ⟨throughError (Poll.readyItems rest), by simpa using shown_eq⟩
  | complete => exact .ended rfl
  | cancelled fired _ => cases fired

theorem Relaying.complete_of_over {call : StreamingCall} {all items : List Outcome}
    {stage : call.Stage} {left : List (Poll Outcome)}
    (relaying : Relaying all false stage left items true) : items = all := by
  cases relaying with
  | complete => rfl
  | cancelled fired _ => cases fired

/-- What holds of the responses when they have been read for some turns. -/
structure Relayed (script : List (Poll Outcome)) (token : Token) (turns : List Turn)
    {stream : ItemStream Payload} (moment : stream.Moment) : Prop where
  seen : Seen (throughError (Poll.readyItems script)) (moment.history.hasFired token) moment.items
  error_last : ∀ values error rest, moment.items = values ++ .error error :: rest → rest = []
  complete : moment.isOver = true → moment.history.hasFired token = false →
    moment.items = throughError (Poll.readyItems script)
  before_firing : moment.history.hasFired token = false →
    moment.found = (scriptAnswers script).take (Turn.polls turns)
  after_firing : ∀ event later, moment.isOver = false →
    moment.history.hasFired token = false → (moment.history ++ [event]).hasFired token = true →
    ∃ answers, LastAnswers (throughError (Poll.readyItems script)) moment.items answers ∧
      (moment.run (.outside event :: later)).found =
        moment.found ++ answers.take (Turn.polls later)

/-- What a caller sees of the responses of a call, whatever happens and whenever it polls. -/
theorem results_relayed (script : List (Poll Outcome)) (headers : Task Metadata)
    (completion : Future Completion) (token : Token) (memory : Memory) (turns : List Turn) :
    Relayed script token turns
      ((((scripted script headers completion).results none token).start memory).run turns) := by
  generalize start_eq : (relayed script headers completion token).start memory = start
  have accounts : Accounts (start.run turns) := start_eq ▸ accounts_run memory turns
  have seen := Relaying.seen accounts
  refine ⟨seen, ?_, ?_, ?_, ?_⟩
  · intro values error rest items_eq
    exact (items_eq ▸ seen).nil_of_error
  · intro isOver unfired
    rw [Accounts, isOver, unfired] at accounts
    exact accounts.complete_of_over
  · intro unfired
    have isOpen : start.isOver = false := by
      rw [← start_eq]
      rfl
    rw [Stream.Moment.found_before_firing firstAnswers_foretold isOpen unfired, ← start_eq]
    rfl
  · intro event later isOpen unfired fired
    rw [Accounts, unfired] at accounts
    exact ⟨_, accounts.lastAnswers,
      Stream.Moment.found_after_firing lastAnswers_foretold isOpen fired later⟩

/-- A response that was being read when the token fired is still seen, and then a cancellation. -/
example (value : Payload) :
    ((((scripted [.pending, .ready (.ok value), .ready (.ok value)] (.ready (.ok .empty))
      (.ready .ok)).results none (.named "stop")).start .fresh).run
        [.poll, .outside (.fired "stop"), .poll, .poll, .poll]).items =
      [.ok value, .error .cancelled] := rfl

end StreamingCall
end RpcContracts
