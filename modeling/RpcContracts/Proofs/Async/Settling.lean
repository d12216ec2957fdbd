import RpcContracts.Proofs.Async.Findings

/-!
# Work that settles

Some work only has to be polled: for a number of polls it is pending, and the next one finds its
value, whatever the memory holds. Work made from it settles as well, one piece after another, and a
caller gets the value by polling often enough or by blocking. What a caller that blocks gets, if it
gets anything, is what the polls find while nothing happens outside.
-/

namespace RpcContracts

/-! ## Polls -/

namespace PollStep

/-- From a state on, a number of polls are pending and the next one finds the value, whatever the
memory is and as long as the history is one of those considered. -/
def SettlesIn {State : Type} {α : Type u} (poll : PollStep State α) (during : History → Prop)
    (value : α) : Nat → State → Prop
  | 0, state => ∀ history memory, during history →
      ∃ after memoryAfter, poll state history memory = (.ready value, after, memoryAfter)
  | polls + 1, state => ∀ history memory, during history →
      ∃ after memoryAfter, poll state history memory = (.pending, after, memoryAfter) ∧
        SettlesIn poll during value polls after

/-- A number of polls are pending, while nothing happens outside, and the next one finds the
value. -/
inductive FindsAfter {State : Type} {α : Type u} (poll : PollStep State α) (history : History)
    (value : α) : Nat → State → Memory → Prop where
  | now {state after : State} {memory memoryAfter : Memory} :
      poll state history memory = (.ready value, after, memoryAfter) →
      FindsAfter poll history value 0 state memory
  | later {polls : Nat} {state after : State} {memory memoryAfter : Memory} :
      poll state history memory = (.pending, after, memoryAfter) →
      FindsAfter poll history value polls after memoryAfter →
      FindsAfter poll history value (polls + 1) state memory

namespace SettlesIn

variable {State First : Type} {α β : Type u} {poll : PollStep State α} {first : PollStep First β}
  {during : History → Prop} {value : α} {found : β} {polls more : Nat} {state : First}

/-- Work settles with the work that it polls, if it has its own value at the same poll. -/
theorem image (image : First → State) (settles : first.SettlesIn during found polls state)
    (waits : ∀ {state after history memory memoryAfter},
      first state history memory = (.pending, after, memoryAfter) →
        poll (image state) history memory = (.pending, image after, memoryAfter))
    (finds : ∀ {state after history memory memoryAfter},
      first state history memory = (.ready found, after, memoryAfter) →
        ∃ last memoryLast, poll (image state) history memory = (.ready value, last, memoryLast)) :
    poll.SettlesIn during value polls (image state) := by
  induction polls generalizing state with
  | zero =>
      intro history memory considered
      obtain ⟨after, memoryAfter, polled⟩ := settles history memory considered
      exact finds polled
  | succ polls ih =>
      intro history memory considered
      obtain ⟨after, memoryAfter, polled, rest⟩ := settles history memory considered
      exact ⟨image after, memoryAfter, waits polled, ih rest⟩

/-- A state whose polls are those of another state settles as that one does. -/
theorem passed {here next : State} (settles : poll.SettlesIn during value polls next)
    (passes : ∀ history memory, during history → ∃ memoryNext,
      poll here history memory = poll next history memoryNext) :
    poll.SettlesIn during value polls here := by
  cases polls with
  | zero =>
      intro history memory considered
      obtain ⟨memoryNext, passes_eq⟩ := passes history memory considered
      rw [passes_eq]
      exact settles history memoryNext considered
  | succ polls =>
      intro history memory considered
      obtain ⟨memoryNext, passes_eq⟩ := passes history memory considered
      rw [passes_eq]
      exact settles history memoryNext considered

/-- Work that goes on with a second piece in the poll in which it finds the first one finished. -/
theorem sequence (image : First → State) {next : State}
    (begins : first.SettlesIn during found polls state)
    (ends : poll.SettlesIn during value more next)
    (waits : ∀ {state after history memory memoryAfter},
      first state history memory = (.pending, after, memoryAfter) →
        poll (image state) history memory = (.pending, image after, memoryAfter))
    (passes : ∀ {state after history memory memoryAfter},
      first state history memory = (.ready found, after, memoryAfter) →
        ∃ memoryNext, poll (image state) history memory = poll next history memoryNext) :
    poll.SettlesIn during value (more + polls) (image state) := by
  induction polls generalizing state with
  | zero =>
      refine ends.passed fun history memory considered => ?_
      obtain ⟨after, memoryAfter, polled⟩ := begins history memory considered
      exact passes polled
  | succ polls ih =>
      intro history memory considered
      obtain ⟨after, memoryAfter, polled, rest⟩ := begins history memory considered
      exact ⟨image after, memoryAfter, waits polled, ih rest⟩

/-- Work that settles does so while nothing happens outside, whatever the memory holds. -/
theorem findsAfter {state : State} (settles : poll.SettlesIn during value polls state)
    {history : History} (considered : during history) (memory : Memory) :
    poll.FindsAfter history value polls state memory := by
  induction polls generalizing state memory with
  | zero =>
      obtain ⟨after, memoryAfter, polled⟩ := settles history memory considered
      exact .now polled
  | succ polls ih =>
      obtain ⟨after, memoryAfter, polled, rest⟩ := settles history memory considered
      exact .later polled (ih rest memoryAfter)

end SettlesIn

section

variable {State : Type} {α : Type u} {poll : PollStep State α} {history : History} {value : α}
  {polls : Nat} {state after : State} {memory memoryAfter : Memory}

theorem findsAfter_iff_of_ready {found : α}
    (polled : poll state history memory = (.ready found, after, memoryAfter)) :
    poll.FindsAfter history value polls state memory ↔ polls = 0 ∧ found = value := by
  constructor
  · intro finds
    cases finds with
    | now found_now =>
        cases polled.symm.trans found_now
        exact ⟨rfl, rfl⟩
    | later pending _ => cases polled.symm.trans pending
  · rintro ⟨rfl, rfl⟩
    exact .now polled

theorem findsAfter_iff_of_pending
    (polled : poll state history memory = (.pending, after, memoryAfter)) :
    poll.FindsAfter history value polls state memory ↔
      ∃ fewer, polls = fewer + 1 ∧ poll.FindsAfter history value fewer after memoryAfter := by
  constructor
  · intro finds
    cases finds with
    | now found => cases polled.symm.trans found
    | later pending rest =>
        cases polled.symm.trans pending
        exact ⟨_, rfl, rest⟩
  · rintro ⟨fewer, rfl, rest⟩
    exact .later polled rest

end

end PollStep

/-! ## Futures -/

namespace Future

variable {α β : Type} {during : History → Prop} {value : α} {polls : Nat}

/-- Work that settles whatever happens outside, and each of whose pending polls ends by itself. -/
structure Settles (future : Future α) (polls : Nat) (value : α) : Prop where
  settles : future.poll.SettlesIn (fun _ => True) value polls future.state
  arranged : polls ≤ future.waits future.state

theorem settles_after (polls : Nat) (value : α) :
    (Future.after polls value).Settles polls value where
  settles := by
    have settles (remaining : Nat) : (Future.after polls value).poll.SettlesIn (fun _ => True) value
        remaining remaining := by
      induction remaining with
      | zero => exact fun _ memory _ => ⟨Nat.zero, memory, rfl⟩
      | succ fewer ih => exact fun _ memory _ => ⟨fewer, memory, rfl, ih⟩
    exact settles polls
  arranged := Nat.le_refl polls

theorem settlesIn_map {future : Future α} {state : future.State}
    (settles : future.poll.SettlesIn during value polls state) (function : α → β) :
    (future.map function).poll.SettlesIn during (function value) polls state := by
  refine settles.image id ?_ ?_
  · intro state after history memory memoryAfter polled
    simp only [map, id, polled, Poll.map_pending]
  · intro state after history memory memoryAfter polled
    exact ⟨after, memoryAfter, by simp only [map, id, polled, Poll.map_ready]⟩

/-- A token that has not fired leaves work to settle. -/
theorem settlesIn_cancellable {task : Task α} {result : Except RpcError α} {state : task.State}
    (settles : task.poll.SettlesIn (fun _ => True) result polls state) (token : Token)
    (begun : Bool) :
    (task.cancellable token).poll.SettlesIn (fun history => history.hasFired token = false)
      (raceResult (some result)) polls (begun, state) := by
  induction polls generalizing begun state with
  | zero =>
      intro history memory unfired
      obtain ⟨after, memoryAfter, polled⟩ := settles history memory trivial
      refine ⟨(true, after), memoryAfter, ?_⟩
      simp [cancellable, PollStep.race, unfired, polled]
  | succ polls ih =>
      intro history memory unfired
      obtain ⟨after, memoryAfter, polled, rest⟩ := settles history memory trivial
      refine ⟨(true, after), memoryAfter, ?_, ih rest true⟩
      simp [cancellable, PollStep.race, unfired, polled]

variable {future : Future α}

/-- In a run the value is there after as many pending polls, and not before. -/
theorem run_of_settlesIn {moment : future.Moment} (going : moment.result = none)
    (settles : future.poll.SettlesIn during value polls moment.state) (turns : List Turn)
    (throughout : ∀ history, history <+: moment.history ++ Turn.events turns → during history) :
    (moment.run turns).result = if polls < Turn.polls turns then some value else none := by
  induction turns generalizing moment polls with
  | nil => exact going
  | cons turn turns ih =>
      cases turn with
      | outside event =>
          rw [Moment.run_outside going]
          refine @ih polls { moment with history := moment.history ++ [event] } going settles ?_
          intro history leads
          rw [List.append_assoc] at leads
          exact throughout history leads
      | poll =>
          have considered : during moment.history := throughout _ (List.prefix_append _ _)
          rw [Moment.run_poll going]
          cases polls with
          | zero =>
              obtain ⟨after, memoryAfter, polled⟩ := settles _ moment.memory considered
              have found : moment.polled.result = some value := by
                simp only [Moment.polled, polled]
              have enough : 0 < Turn.polls (.poll :: turns) := Nat.succ_pos _
              rw [Moment.run_of_result found, found, if_pos enough]
          | succ polls =>
              obtain ⟨after, memoryAfter, polled, rest⟩ := settles _ moment.memory considered
              have polled_eq : moment.polled = ⟨after, moment.history, memoryAfter, none⟩ := by
                simp only [Moment.polled, polled]
              rw [polled_eq,
                @ih polls ⟨after, moment.history, memoryAfter, none⟩ rfl rest throughout]
              simp only [Turn.polls, Nat.add_lt_add_iff_right]

/-! ## Blocking -/

/-- A caller that waits while nothing happens outside finds the value, after at most as many pending
polls as end by themselves. -/
def ComesTo (future : Future α) (history : History) (memory : Memory) (value : α) : Prop :=
  ∃ polls ≤ future.waits future.state,
    future.poll.FindsAfter history value polls future.state memory

theorem runFor_eq_some_iff {history : History} {memory : Memory} {limit : Nat} :
    (runFor limit future history memory).1 = some value ↔
      ∃ polls ≤ limit, future.poll.FindsAfter history value polls future.state memory := by
  induction limit generalizing future memory with
  | zero =>
      rcases polled : future.poll future.state history memory with ⟨_ | found, after, memoryAfter⟩
      · simp [runFor, step, polled, PollStep.findsAfter_iff_of_pending polled]
      · simp [runFor, step, polled, PollStep.findsAfter_iff_of_ready polled]
  | succ limit ih =>
      rcases polled : future.poll future.state history memory with ⟨_ | found, after, memoryAfter⟩
      · have rest := @ih { future with state := after } memoryAfter
        simp only [runFor, step, polled, PollStep.findsAfter_iff_of_pending polled, rest]
        constructor
        · rintro ⟨polls, enough, finds⟩
          exact ⟨polls + 1, Nat.succ_le_succ enough, polls, rfl, finds⟩
        · rintro ⟨-, enough, fewer, rfl, finds⟩
          exact ⟨fewer, Nat.le_of_succ_le_succ enough, finds⟩
      · simp only [runFor, step, polled, PollStep.findsAfter_iff_of_ready polled,
          Option.some.injEq]
        constructor
        · intro same
          exact ⟨0, Nat.zero_le _, rfl, same⟩
        · rintro ⟨-, -, -, same⟩
          exact same

/-- A caller that blocks gets exactly what the work comes to. -/
theorem block_eq_some_iff {history : History} {memory : Memory} :
    (future.block history memory).1 = some value ↔ future.ComesTo history memory value :=
  runFor_eq_some_iff

theorem ComesTo.unique {history : History} {memory : Memory} {other : α}
    (comes : future.ComesTo history memory value)
    (alike : future.ComesTo history memory other) : value = other :=
  Option.some.inj ((block_eq_some_iff.mpr comes).symm.trans (block_eq_some_iff.mpr alike))

theorem comesTo_of_settlesIn {history : History}
    (settles : future.poll.SettlesIn during value polls future.state)
    (arranged : polls ≤ future.waits future.state) (considered : during history)
    (memory : Memory) : future.ComesTo history memory value :=
  ⟨polls, arranged, settles.findsAfter considered memory⟩

end Future
end RpcContracts
