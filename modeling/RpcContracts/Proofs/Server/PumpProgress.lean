import RpcContracts.Proofs.Server.Pumping

/-!
# Pumps come to an end

A pump is held up by a full channel only until the runtime receives from it. Every poll after a
receive therefore takes something off what is left to pump, and a pump that is polled often enough
in turn with receives is over.
-/

namespace RpcContracts

/-- The number of polls among some turns for each of which something was received after the poll
before. `free` tells whether that holds of the first one. -/
def ServedTurn.freedPolls : Bool → List ServedTurn → Nat
  | _, [] => 0
  | _, .receive :: turns => freedPolls true turns
  | free, .work (.outside _) :: turns => freedPolls free turns
  | true, .work .poll :: turns => freedPolls false turns + 1
  | false, .work .poll :: turns => freedPolls false turns

/-- The result of work that is over stays. -/
theorem Served.result_run {work : Task Unit} (number : Nat) (served : Served work)
    {result : Except RpcError Unit} (ended : served.moment.result = some result)
    (turns : List ServedTurn) : (served.run number turns).moment.result = some result := by
  induction turns generalizing served with
  | nil => exact ended
  | cons turn turns ih =>
      cases turn with
      | work turn =>
          rw [run_cons, turn_over number ended]
          exact ih served ended
      | receive => exact ih (served.turn number .receive) ended

/-- Only the end takes nothing off a script. -/
theorem ReadsScript.shortens {type : ValueType} {left after : List (Poll (OutcomeOf type))}
    {answer : Poll (Option (Option Outcome))} (reads : ReadsScript left answer after)
    (more : answer ≠ .ready (some none)) : after.length < left.length := by
  cases reads with
  | ended => exact absurd rfl more
  | pause => exact Nat.lt_succ_self _
  | item => exact Nat.lt_succ_self _

section

variable {type : ValueType} {script : List (Poll (OutcomeOf type))} {token : Token}
  {history : History} {capacity number : Nat} {received : List Payload}
  (unfired : history.hasFired token = false)

include unfired

/-- Reading on takes at least one item or pause off the script. -/
theorem pumpItems_shortens {begun : Bool} {left after : List (Poll (OutcomeOf type))}
    {writer sender : Writer} {stage : PumpStage} {memory memoryAfter : Memory}
    (pending : ItemStream.pumpItems token (ItemStream.erase (Stream.ofScript script)) begun left
      writer history memory = (.pending, (stage, after, sender), memoryAfter)) :
    after.length < left.length := by
  fun_induction ItemStream.pumpItems token (ItemStream.erase (Stream.ofScript script)) begun left
    writer history memory with
  | case1 begun left writer memory next memoryNext raced_eq =>
      obtain ⟨-, reads⟩ := readsScript_of_race unfired raced_eq
      cases pending
      exact reads.shortens (by simp)
  | case2 => cases pending
  | case3 => cases pending
  | case4 => cases pending
  | case5 begun left writer memory item next memoryNext raced_eq rest sender memoryLast sent =>
      obtain ⟨-, reads⟩ := readsScript_of_race unfired raced_eq
      cases pending
      exact reads.shortens (by simp)
  | case6 => cases pending
  | case7 begun left writer memory item next memoryNext raced_eq rest sender memoryLast sent ih =>
      obtain ⟨-, reads⟩ := readsScript_of_race unfired raced_eq
      exact Nat.lt_trans (ih pending) (reads.shortens (by simp))

/-- No poll makes what is left longer, and a poll that finds room makes it shorter. -/
theorem pollPump_shortens {stage next : PumpStage} {left after : List (Poll (OutcomeOf type))}
    {memory memoryAfter : Memory} {sender : Writer}
    (flows : Flows capacity script received none stage left (memory.channels number))
    (pending : ItemStream.pollPump token (ItemStream.erase (Stream.ofScript script))
      (stage, left, .direct number) history memory =
        (.pending, (next, after, sender), memoryAfter)) :
    after.length ≤ left.length ∧
      ((memory.channels number).queue.length ≤ capacity → after.length < left.length) := by
  generalize holds : memory.channels number = channel at flows
  cases flows with
  | reading reads gives room =>
      have shorter : after.length < left.length := by
        obtain rfl | rfl := reads <;> exact pumpItems_shortens unfired pending
      exact ⟨Nat.le_of_lt shorter, fun _ => shorter⟩
  | @writing _ queue gives bounded =>
      have sent := Writer.sendAll_nil_holding holds
      unfold ItemStream.pollPump at pending
      simp only [sent] at pending
      by_cases full : capacity < queue.length
      · rw [if_pos full] at pending
        cases pending
        exact ⟨Nat.le_refl _, fun room => absurd room (Nat.not_le_of_lt full)⟩
      · rw [if_neg full] at pending
        have shorter := pumpItems_shortens unfired pending
        exact ⟨Nat.le_of_lt shorter, fun _ => shorter⟩

end

namespace PumpRun

variable {type : ValueType} {script : List (Poll (OutcomeOf type))} {call : IncomingCall}
  {capacity : Nat}

/-- A poll ends the pump or leaves less to do, unless it finds the channel full. -/
theorem left_polled {served : PumpRun call script}
    (unfired : served.moment.history.hasFired call.context.token = false)
    (going : served.moment.result = none) (flowing : served.Flowing capacity) :
    let after : PumpRun call script := { served with moment := served.moment.polled }
    (∃ result, after.moment.result = some result) ∨
      after.moment.result = none ∧ after.left.length ≤ served.left.length ∧
        ((served.channel call.responses).queue.length ≤ capacity →
          after.left.length < served.left.length) := by
  obtain ⟨⟨⟨stage, left, writer⟩, history, memory, result⟩, received⟩ := served
  obtain ⟨flows, writer_eq⟩ := flowing
  obtain rfl : result = none := going
  obtain rfl : writer = .direct call.responses := writer_eq rfl
  have shortens : ∀ next after sender memoryAfter,
      ItemStream.pollPump call.context.token (ItemStream.erase (Stream.ofScript script))
        (stage, left, .direct call.responses) history memory =
          (.pending, (next, after, sender), memoryAfter) →
      after.length ≤ left.length ∧
        ((memory.channels call.responses).queue.length ≤ capacity → after.length < left.length) :=
    fun _ _ _ _ pending => pollPump_shortens unfired flows pending
  unfold Future.Moment.polled
  simp only [IncomingCall.pumping, ItemStream.pump, Future.whenOver]
  generalize ItemStream.pollPump call.context.token (ItemStream.erase (Stream.ofScript script))
    (stage, left, .direct call.responses) history memory = answer at shortens
  rcases answer with ⟨_ | result, ⟨next, after, sender⟩, memoryAfter⟩
  · exact .inr ⟨rfl, shortens next after sender memoryAfter rfl⟩
  · exact .inl ⟨result, rfl⟩

/-- A receive leaves room in the channel of a pump. -/
theorem room_of_receive {served : PumpRun call script} (flowing : served.Flowing capacity) :
    ((served.turn call.responses .receive).channel call.responses).queue.length ≤ capacity := by
  have bounded := flowing.flows.given.1
  rw [Served.channel_receive, Channel.receive_queue, List.length_tail]
  omega

/-- After a turn either the pump is over, or the polls that count among the turns to come suffice if
they did before. -/
theorem left_turn {served : PumpRun call script} (flowing : served.Flowing capacity) {free : Bool}
    (room : free = true → (served.channel call.responses).queue.length ≤ capacity)
    (turn : ServedTurn)
    (unfired : (served.turn call.responses turn).moment.history.hasFired call.context.token = false)
    (turns : List ServedTurn)
    (enough : served.left.length < ServedTurn.freedPolls free (turn :: turns)) :
    let after : PumpRun call script := served.turn call.responses turn
    (∃ result, after.moment.result = some result) ∨
      ∃ freeAfter, (freeAfter = true → (after.channel call.responses).queue.length ≤ capacity) ∧
        after.left.length < ServedTurn.freedPolls freeAfter turns := by
  have turned := served.turned call.responses turn
  generalize served.turn call.responses turn = after at turned unfired ⊢
  cases turned with
  | receive => exact .inr ⟨true, fun _ => room_of_receive flowing, enough⟩
  | ended ended => exact .inl ⟨_, ended⟩
  | outside => exact .inr ⟨free, room, enough⟩
  | polled going =>
      rw [Future.Moment.history_polled] at unfired
      refine (left_polled unfired going flowing).imp_right ?_
      rintro ⟨-, noLonger, shorter⟩
      refine ⟨false, by simp, ?_⟩
      cases free with
      | false => exact Nat.lt_of_le_of_lt noLonger enough
      | true => exact Nat.lt_of_lt_of_le (shorter (room rfl)) (Nat.le_of_lt_succ enough)

/-- A pump is over after as many freed polls as there is left to pump, and one more. -/
theorem resolved_run {served : PumpRun call script} (flowing : served.Flowing capacity)
    {free : Bool} (room : free = true → (served.channel call.responses).queue.length ≤ capacity)
    (turns : List ServedTurn)
    (unfired :
      (served.run call.responses turns).moment.history.hasFired call.context.token = false)
    (enough : served.left.length < ServedTurn.freedPolls free turns) :
    ∃ result, (served.run call.responses turns).moment.result = some result := by
  induction turns generalizing served free with
  | nil => exact absurd enough (Nat.not_lt_zero _)
  | cons turn turns ih =>
      have unfired_next := Served.unfired_turn unfired
      obtain ⟨result, ended⟩ | ⟨freeAfter, roomAfter, enoughAfter⟩ :=
        left_turn flowing room turn unfired_next turns enough
      · exact ⟨result, Served.result_run call.responses _ ended turns⟩
      · exact ih (flowing_turn turn unfired_next flowing) roomAfter unfired enoughAfter

end PumpRun
end RpcContracts
