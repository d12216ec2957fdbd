import RpcContracts.Proofs.Async.Findings

/-!
# Runs of work against a token

Work that a token cancels runs in step with the work alone: every poll of the one is a poll of the
other, until the one is over. Only a token that has fired before the first poll keeps the work from
being polled. Later the work comes first, so the token decides nothing that the work has decided.
-/

namespace RpcContracts

/-- An outcome with its error in normal form. -/
abbrev normalForm {α : Type} : Except RpcError α → Except RpcError α :=
  Except.mapError RpcError.normalize

theorem raceResult_some {α : Type} (result : Except RpcError α) :
    raceResult (some result) = normalForm result := by
  cases result <;> rfl

/-- What is found of work after a poll: its result in normal form, or else the cancellation if the
token has fired, or else nothing yet. -/
def raceFound {α : Type} (fired : Bool) :
    Option (Except RpcError α) → Option (Except RpcError α)
  | some result => some (normalForm result)
  | none => if fired then some (.error .cancelled) else none

namespace Future

variable {α : Type} {task : Task α} {token : Token}

/-! ## One poll -/

/-- The work behind cancellable work, as it stands. -/
def Moment.work (moment : (task.cancellable token).Moment) : task.Moment :=
  ⟨moment.state.2, moment.history, moment.memory, none⟩

namespace Moment

/-- A token that has fired before the first poll keeps the work from being polled. -/
theorem polled_prevented {moment : (task.cancellable token).Moment}
    (unbegun : moment.state.1 = false) (fired : moment.history.hasFired token = true) :
    moment.polled =
      ⟨(true, moment.state.2), moment.history, moment.memory, some (.error .cancelled)⟩ := by
  obtain ⟨⟨begun, state⟩, history, memory, result⟩ := moment
  simp only at unbegun fired
  simp [polled, cancellable, PollStep.race, unbegun, fired, raceResult]

/-- Any other poll polls the work. -/
theorem polled_work {moment : (task.cancellable token).Moment}
    (polls : moment.state.1 = true ∨ moment.history.hasFired token = false) :
    moment.polled = ⟨(true, moment.work.polled.state), moment.history, moment.work.polled.memory,
      raceFound (moment.history.hasFired token) moment.work.polled.result⟩ := by
  obtain ⟨⟨begun, state⟩, history, memory, result⟩ := moment
  have goes : (!begun && history.hasFired token) = false := by
    rcases polls with rfl | unfired
    · rfl
    · simp only at unfired
      simp [unfired]
  rcases polled_eq : task.poll state history memory with ⟨_ | result, after, memoryAfter⟩
  · cases fired : history.hasFired token with
    | false => simp [polled, cancellable, PollStep.race, work, polled_eq, fired, raceFound]
    | true =>
        rw [fired, Bool.and_true] at goes
        simp [polled, cancellable, PollStep.race, work, polled_eq, fired, goes, raceFound,
          raceResult]
  · simp [polled, cancellable, PollStep.race, work, polled_eq, goes, raceFound, raceResult_some]

end Moment

/-! ## Whole runs -/

namespace Moment

variable {future : Future α} {moment : future.Moment}

theorem going_of_run {turns : List Turn} (going : (moment.run turns).result = none) :
    moment.result = none := by
  cases ended : moment.result with
  | none => rfl
  | some value =>
      rw [run_of_result ended, ended] at going
      exact going

/-- Without a poll only the history grows. -/
theorem run_unpolled (going : moment.result = none) {turns : List Turn}
    (unpolled : Turn.polls turns = 0) :
    moment.run turns = { moment with history := moment.history ++ Turn.events turns } := by
  induction turns generalizing moment with
  | nil => simp [run, Turn.events]
  | cons turn turns ih =>
      cases turn with
      | outside event =>
          rw [run_outside going, @ih { moment with history := moment.history ++ [event] } going
            unpolled]
          simp [Turn.events]
      | poll => simp [Turn.polls] at unpolled

theorem history_run {turns : List Turn} (going : (moment.run turns).result = none) :
    (moment.run turns).history = moment.history ++ Turn.events turns := by
  induction turns generalizing moment with
  | nil => simp [run, Turn.events]
  | cons turn turns ih =>
      have open_before : moment.result = none := going_of_run going
      cases turn with
      | outside event =>
          rw [run_outside open_before] at going ⊢
          rw [ih going, Turn.events, List.append_assoc, List.singleton_append]
      | poll =>
          rw [run_poll open_before] at going ⊢
          rw [ih going, history_polled, Turn.events]

end Moment

/-- Cancellable work that is not over stands where as many polls of the work alone have led. -/
structure InStep (polls : Nat) (raced : (task.cancellable token).Moment) (alone : task.Moment) :
    Prop where
  going : raced.result = none
  work_eq : raced.work = alone
  begun_iff : raced.state.1 = true ↔ 0 < polls

namespace InStep

variable {polls : Nat} {raced : (task.cancellable token).Moment} {alone : task.Moment}

theorem start (memory : Memory) :
    InStep 0 ((task.cancellable token).start memory) (task.start memory) :=
  ⟨rfl, rfl, by simp [Future.start, cancellable]⟩

theorem alone_going (inStep : InStep polls raced alone) : alone.result = none := by
  rw [← inStep.work_eq, Moment.work]

theorem history_turn (inStep : InStep polls raced alone) :
    (alone.turn .poll).history = raced.history := by
  rw [Moment.turn_poll inStep.alone_going, Moment.history_polled, ← inStep.work_eq, Moment.work]

theorem prevented (inStep : InStep polls raced alone) (unpolled : polls = 0)
    (fired : raced.history.hasFired token = true) :
    raced.turn .poll =
      ⟨(true, raced.state.2), raced.history, raced.memory, some (.error .cancelled)⟩ := by
  have unbegun : raced.state.1 = false := by
    rw [← Bool.not_eq_true, inStep.begun_iff]
    omega
  rw [Moment.turn_poll inStep.going, Moment.polled_prevented unbegun fired]

/-- A poll that is not prevented polls the work once. -/
theorem polled (inStep : InStep polls raced alone)
    (goes : 0 < polls ∨ raced.history.hasFired token = false) :
    raced.turn .poll = ⟨(true, (alone.turn .poll).state), raced.history,
      (alone.turn .poll).memory, raceFound (raced.history.hasFired token)
        (alone.turn .poll).result⟩ := by
  rw [Moment.turn_poll inStep.going, Moment.turn_poll inStep.alone_going, ← inStep.work_eq]
  exact Moment.polled_work (goes.imp_left inStep.begun_iff.mpr)

/-- A value that a poll finds is the own value of the work. -/
theorem value_of_poll (inStep : InStep polls raced alone) {value : α}
    (found : (raced.turn .poll).result = some (.ok value)) :
    (alone.turn .poll).result = some (.ok value) := by
  by_cases goes : 0 < polls ∨ raced.history.hasFired token = false
  · rw [inStep.polled goes] at found
    cases result_eq : (alone.turn .poll).result with
    | none =>
        cases fired : raced.history.hasFired token <;> simp [result_eq, fired, raceFound] at found
    | some result =>
        rw [result_eq] at found
        cases result with
        | ok own => exact found
        | error error => cases found
  · rw [not_or, Nat.not_lt, Nat.le_zero, Bool.not_eq_false] at goes
    rw [inStep.prevented goes.1 goes.2] at found
    simp at found

theorem outside (inStep : InStep polls raced alone) (event : Event) :
    InStep polls (raced.turn (.outside event)) (alone.turn (.outside event)) := by
  rw [Moment.turn_outside inStep.going, Moment.turn_outside inStep.alone_going]
  refine ⟨inStep.going, ?_, inStep.begun_iff⟩
  rw [← inStep.work_eq, Moment.work, Moment.work]

theorem poll (inStep : InStep polls raced alone) (going : (raced.turn .poll).result = none) :
    InStep (polls + 1) (raced.turn .poll) (alone.turn .poll) := by
  by_cases goes : 0 < polls ∨ raced.history.hasFired token = false
  · rw [inStep.polled goes] at going ⊢
    have alone_going : (alone.turn .poll).result = none := by
      cases result_eq : (alone.turn .poll).result with
      | none => rfl
      | some result => simp [result_eq, raceFound] at going
    refine ⟨going, ?_, by simp⟩
    simp only [Moment.work]
    rw [← inStep.history_turn, ← alone_going]
  · rw [not_or, Nat.not_lt, Nat.le_zero, Bool.not_eq_false] at goes
    rw [inStep.prevented goes.1 goes.2] at going
    simp at going

/-- The two stay in step for as long as the cancellable work is not over. -/
theorem run (inStep : InStep polls raced alone) (turns : List Turn)
    (going : (raced.run turns).result = none) :
    InStep (polls + Turn.polls turns) (raced.run turns) (alone.run turns) := by
  induction turns generalizing polls raced alone with
  | nil => exact inStep
  | cons turn turns ih =>
      have rest_going : ((raced.turn turn).run turns).result = none := going
      have turn_going : (raced.turn turn).result = none := Moment.going_of_run rest_going
      cases turn with
      | outside event => exact ih (inStep.outside event) going
      | poll =>
          have polls_eq : polls + Turn.polls (.poll :: turns) = polls + 1 + Turn.polls turns := by
            simp only [Turn.polls]
            omega
          rw [polls_eq]
          exact ih (inStep.poll turn_going) going

/-- A value that a run finds is the own value of the work. -/
theorem value_of_run (inStep : InStep polls raced alone) (turns : List Turn) {value : α}
    (found : (raced.run turns).result = some (.ok value)) :
    (alone.run turns).result = some (.ok value) := by
  induction turns generalizing polls raced alone with
  | nil =>
      have going : (raced.run []).result = none := inStep.going
      simp [going] at found
  | cons turn turns ih =>
      cases turn with
      | outside event => exact ih (inStep.outside event) found
      | poll =>
          cases ended : (raced.turn .poll).result with
          | none => exact ih (inStep.poll ended) found
          | some result =>
              have stays : raced.run (.poll :: turns) = raced.turn .poll :=
                Moment.run_of_result ended turns
              have own := inStep.value_of_poll (stays ▸ found)
              have alone_stays : alone.run (.poll :: turns) = alone.turn .poll :=
                Moment.run_of_result own turns
              rw [alone_stays, own]

end InStep

/-- What comes of work against a token after some turns, by what comes of the work alone. -/
structure RunAgainst (task : Task α) (token : Token) (memory : Memory) (turns : List Turn)
    (raced : (task.cancellable token).Moment) (alone : task.Moment) : Prop where
  /-- If the token has fired before the first poll, this poll finds the cancellation, and the work
  is never polled. -/
  prevented : Turn.polls turns = 0 → (Turn.events turns).hasFired token = true → ∀ later,
    (raced.run (.poll :: later)).result = some (.error .cancelled) ∧
      (raced.run (.poll :: later)).work = ⟨task.state, Turn.events turns, memory, none⟩
  /-- Any other poll polls the work once. It finds the result of the work, or else the cancellation
  if the token has fired. -/
  polled : raced.result = none →
    0 < Turn.polls turns ∨ (Turn.events turns).hasFired token = false →
      raced.work = alone ∧ (raced.turn .poll).work = { alone.turn .poll with result := none } ∧
        (raced.turn .poll).result =
          raceFound ((Turn.events turns).hasFired token) (alone.turn .poll).result
  /-- No poll after the firing is pending. -/
  ready_of_fired : (Turn.events turns).hasFired token = true →
    (raced.turn .poll).result.isSome = true
  /-- A value is always the own value of the work. -/
  value_eq : ∀ value, raced.result = some (.ok value) → alone.result = some (.ok value)
  /-- A result that is ready at a later poll is found, whether or not the token has fired. -/
  result_kept : raced.result = none → 0 < Turn.polls turns →
    ∀ result, (alone.turn .poll).result = some result →
      (raced.turn .poll).result = some (normalForm result)

/-- Work against a token, after any turns. -/
theorem run_against (task : Task α) (token : Token) (memory : Memory) (turns : List Turn) :
    RunAgainst task token memory turns (((task.cancellable token).start memory).run turns)
      ((task.start memory).run turns) := by
  have inStep (going : (((task.cancellable token).start memory).run turns).result = none) :
      InStep (Turn.polls turns) (((task.cancellable token).start memory).run turns)
        ((task.start memory).run turns) := by
    simpa using (InStep.start memory).run turns going
  have history_eq (going : (((task.cancellable token).start memory).run turns).result = none) :
      (((task.cancellable token).start memory).run turns).history = Turn.events turns :=
    Moment.history_run going
  refine ⟨?prevented, ?polled, ?ready, ?value, ?kept⟩
  case prevented =>
    intro unpolled fired later
    have start_going : ((task.cancellable token).start memory).result = none := rfl
    have unpolled_eq := Moment.run_unpolled start_going unpolled
    have going : (((task.cancellable token).start memory).run turns).result = none := by
      rw [unpolled_eq, start_going]
    have cancelled := (inStep going).prevented unpolled (by rwa [history_eq going])
    have stays := Moment.run_of_result (congrArg Moment.result cancelled) later
    have run_eq : (((task.cancellable token).start memory).run turns).run (.poll :: later) =
        (((task.cancellable token).start memory).run turns).turn .poll := stays
    rw [run_eq, cancelled, unpolled_eq]
    exact ⟨rfl, rfl⟩
  case polled =>
    intro going goes
    rw [← history_eq going] at goes ⊢
    refine ⟨(inStep going).work_eq, ?_, by rw [(inStep going).polled goes]⟩
    rw [(inStep going).polled goes, ← (inStep going).history_turn]
    rfl
  case ready =>
    intro fired
    cases result_eq : (((task.cancellable token).start memory).run turns).result with
    | none => exact cancellable_ready (by rwa [history_eq result_eq])
    | some result => rw [Moment.turn_of_result result_eq, result_eq, Option.isSome_some]
  case value =>
    intro value found
    exact (InStep.start memory).value_of_run turns found
  case kept =>
    intro going begun result found
    rw [(inStep going).polled (.inl begun), found]
    rfl

/-- A result that comes with the poll after the firing is found. -/
example :
    ((((Future.after 1 (.ok 5) : Task Nat).cancellable (.named "call")).start .fresh).run
      [.poll, .outside (.fired "call"), .poll]).result = some (.ok 5) := rfl

end Future
end RpcContracts
