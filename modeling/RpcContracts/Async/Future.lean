import RpcContracts.Async.Memory

/-!
# Futures

A future is a machine that is polled for one value. A poll reads the history, may change the memory
and moves the machine to its next state. Besides, a future bounds how many of its pending polls end
by themselves, without anything happening outside; that is how long a caller that blocks may have to
poll it.
-/

namespace RpcContracts

/-- A poll of a machine with states in `State`. -/
abbrev PollStep (State : Type) (α : Type u) : Type u :=
  State → History → Memory → Poll α × State × Memory

/-- Work that yields one value. -/
structure Future (α : Type) : Type 1 where
  /-- States of the machine. -/
  State : Type
  /-- Current state. -/
  state : State
  /-- One poll. -/
  poll : PollStep State α
  /-- How many pending polls end by themselves, at most. -/
  waits : State → Nat

namespace Future

/-- Poll a future once. -/
def step {α : Type} (future : Future α) (history : History) (memory : Memory) :
    Poll α × Future α × Memory :=
  match future.poll future.state history memory with
  | (poll, state, memory) => (poll, { future with state := state }, memory)

/-- A future that is over. -/
def ready {α : Type} (value : α) : Future α where
  State := Unit
  state := ()
  poll := fun _ _ memory => (.ready value, (), memory)
  waits := fun _ => 0

/-- A future that is pending for a number of polls. -/
def after {α : Type} (polls : Nat) (value : α) : Future α where
  State := Nat
  state := polls
  poll := fun remaining _ memory =>
    match remaining with
    | 0 => (.ready value, 0, memory)
    | fewer + 1 => (.pending, fewer, memory)
  waits := fun remaining => remaining

/-- A future whose value is read off the history, as soon as it is there. -/
def awaiting {α : Type} (read : History → Option α) : Future α where
  State := Unit
  state := ()
  poll := fun _ history memory =>
    match read history with
    | some value => (.ready value, (), memory)
    | none => (.pending, (), memory)
  waits := fun _ => 0

/-- Apply a function to the value of a future. -/
def map {α β : Type} (function : α → β) (future : Future α) : Future β where
  State := future.State
  state := future.state
  poll := fun state history memory =>
    match future.poll state history memory with
    | (poll, state, memory) => (poll.map function, state, memory)
  waits := future.waits

/-- Change the memory at the moment a future is over. -/
def whenOver {α : Type} (future : Future α) (finish : Memory → Memory) : Future α where
  State := future.State
  state := future.state
  poll := fun state history memory =>
    match future.poll state history memory with
    | (.ready value, state, memory) => (.ready value, state, finish memory)
    | (.pending, state, memory) => (.pending, state, memory)
  waits := future.waits

/-- A future that is first polled when the history releases it. -/
def onceReleased {α : Type} (future : Future α) (released : History → Bool) : Future α where
  State := future.State
  state := future.state
  poll := fun state history memory =>
    if released history then future.poll state history memory else (.pending, state, memory)
  waits := future.waits

/-- Poll until the value is ready, at most once more than the given number of times. -/
def runFor {α : Type} : Nat → Future α → History → Memory → Option α × Memory
  | 0, future, history, memory =>
      match future.step history memory with
      | (.ready value, _, memory) => (some value, memory)
      | (.pending, _, memory) => (none, memory)
  | more + 1, future, history, memory =>
      match future.step history memory with
      | (.ready value, _, memory) => (some value, memory)
      | (.pending, future, memory) => runFor more future history memory

/-- Wait for the value while nothing happens outside. There is none if the future waits for
something outside. -/
def block {α : Type} (future : Future α) (history : History) (memory : Memory) :
    Option α × Memory :=
  runFor (future.waits future.state) future history memory

end Future

/-- A future of something that may fail. -/
abbrev Task (α : Type) := Future (Except RpcError α)

end RpcContracts
