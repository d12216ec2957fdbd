import RpcContracts.Async.Future

/-!
# Streams

A stream is a machine that is polled for items until it ends. It bounds the number of items it can
still yield while nothing happens outside; every item lowers the bound, so reading on until a poll
is pending always comes to an end.
-/

namespace RpcContracts

/-- Work that yields items one by one. -/
structure Stream (α : Type) : Type 1 where
  /-- States of the machine. -/
  State : Type
  /-- Current state. -/
  state : State
  /-- Poll for the next item; no item is the end. -/
  next : PollStep State (Option α)
  /-- How many items can still come while nothing happens outside, at most. -/
  budget : State → History → Nat
  /-- Every item lowers the bound. -/
  budget_lt : ∀ {state : State} {history : History} {memory : Memory} {item : α} {after : State}
    {memoryAfter : Memory}, next state history memory = (.ready (some item), after, memoryAfter) →
      budget after history < budget state history

namespace Stream

/-- Poll a stream once. -/
def step {α : Type} (stream : Stream α) (history : History) (memory : Memory) :
    Poll (Option α) × Stream α × Memory :=
  match stream.next stream.state history memory with
  | (poll, state, memory) => (poll, { stream with state := state }, memory)

/-- Items that are all known, followed by the end or, if `isOpen`, by nothing. -/
def ofItems {α : Type} (items : List α) (isOpen : Bool) : Stream α where
  State := List α
  state := items
  next := fun left _ memory =>
    match left with
    | item :: rest => (.ready (some item), rest, memory)
    | [] => (if isOpen then .pending else .ready none, [], memory)
  budget := fun left _ => left.length
  budget_lt := by
    intro left history memory item after memoryAfter polled
    cases left with
    | nil => cases isOpen <;> simp at polled
    | cons first rest =>
        obtain ⟨-, rfl, -⟩ := Prod.mk.inj polled |>.imp_right Prod.mk.inj
        exact Nat.lt_succ_self _

/-- Items read off the history as they are delivered, until no more come. -/
def delivered {α : Type} (items : History → List α) (hasEnded : History → Bool) : Stream α where
  State := Nat
  state := 0
  next := fun taken history memory =>
    match (items history)[taken]? with
    | some item => (.ready (some item), taken + 1, memory)
    | none => (if hasEnded history then .ready none else .pending, taken, memory)
  budget := fun taken history => (items history).length - taken
  budget_lt := by
    intro taken history memory item after memoryAfter polled
    split at polled
    · next found =>
        obtain ⟨bound, -⟩ := List.getElem?_eq_some_iff.mp found
        simp only [Prod.mk.injEq] at polled
        omega
    · split at polled <;> simp at polled

/-- Apply a function to every item. -/
def map {α β : Type} (function : α → β) (stream : Stream α) : Stream β where
  State := stream.State
  state := stream.state
  next := fun state history memory =>
    match stream.next state history memory with
    | (poll, state, memory) => (poll.map (Option.map function), state, memory)
  budget := stream.budget
  budget_lt := by
    intro state history memory item after memoryAfter polled
    rcases inner_eq : stream.next state history memory with ⟨poll, innerState, innerMemory⟩
    rw [inner_eq] at polled
    obtain ⟨poll_eq, rfl, rfl⟩ := Prod.mk.inj polled |>.imp_right Prod.mk.inj
    match poll, poll_eq with
    | .ready (some _), _ => exact stream.budget_lt inner_eq

/-- Read items until a poll yields none, and keep what that poll found: the end, or `true` if it was
pending. -/
def drain {α : Type} (stream : Stream α) (history : History) (memory : Memory) :
    List α × Bool × Stream α × Memory :=
  match _polled : stream.next stream.state history memory with
  | (.pending, state, memory) => ([], true, { stream with state := state }, memory)
  | (.ready none, state, memory) => ([], false, { stream with state := state }, memory)
  | (.ready (some item), state, memory) =>
      match drain { stream with state := state } history memory with
      | (items, pending, rest, memory) => (item :: items, pending, rest, memory)
termination_by stream.budget stream.state history
decreasing_by exact stream.budget_lt (by assumption)

end Stream

/-- A stream of items that may be errors. -/
abbrev ItemStream (α : Type) := Stream (Except RpcError α)

namespace ItemStream

/-- Forget the type of the items. -/
def erase {type : ValueType} (stream : ItemStream (PayloadOf type)) : ItemStream Payload :=
  stream.map Outcome.ofTyped

/-- Recover every item at an expected type; an item of another type becomes an error in its place.
-/
def downcast (expected : ValueType) (stream : ItemStream Payload) :
    ItemStream (PayloadOf expected) :=
  stream.map (Outcome.downcast expected)

end ItemStream

end RpcContracts
