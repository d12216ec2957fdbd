import RpcContracts.Async.Stream

/-!
# Streams made from streams

Streams without their failed items, streams continued by known items, and the task that combines all
items of a stream. The task of a stream reads as far as it can at every poll.
-/

namespace RpcContracts
namespace Stream

/-- Known items, one after another, and then the end or, if `isOpen`, nothing. -/
def takeKnown {α : Type} (isOpen : Bool) : List α → Poll (Option α) × List α
  | item :: rest => (.ready (some item), rest)
  | [] => (if isOpen then .pending else .ready none, [])

theorem takeKnown_length_lt {α : Type} {isOpen : Bool} {items : List α} {item : α}
    (taken : (takeKnown isOpen items).1 = .ready (some item)) :
    (takeKnown isOpen items).2.length < items.length := by
  cases items with
  | nil => cases isOpen <;> simp [takeKnown] at taken
  | cons => simp [takeKnown]

/-- A stream and, once it is over, known items, followed by the end or, if `isOpen`, by nothing. -/
def followedBy {α : Type} (stream : Stream α) (items : List α) (isOpen : Bool) : Stream α where
  State := stream.State × Option (List α)
  state := (stream.state, none)
  next := fun (state, tail) history memory =>
    match tail with
    | some left =>
        match takeKnown isOpen left with
        | (poll, left) => (poll, (state, some left), memory)
    | none =>
        match stream.next state history memory with
        | (.pending, state, memory) => (.pending, (state, none), memory)
        | (.ready (some item), state, memory) => (.ready (some item), (state, none), memory)
        | (.ready none, state, memory) =>
            match takeKnown isOpen items with
            | (poll, left) => (poll, (state, some left), memory)
  budget := fun (state, tail) history =>
    match tail with
    | some left => left.length
    | none => stream.budget state history + items.length
  budget_lt := by
    rintro ⟨state, tail⟩ history memory item ⟨stateAfter, tailAfter⟩ memoryAfter polled
    cases tail with
    | some left =>
        simp only [Prod.mk.injEq] at polled
        obtain ⟨found, ⟨-, rfl⟩, -⟩ := polled
        exact takeKnown_length_lt found
    | none =>
        simp only at polled
        split at polled
        · simp at polled
        · next polledInner =>
            simp only [Prod.mk.injEq, Poll.ready.injEq, Option.some.injEq] at polled
            obtain ⟨rfl, ⟨rfl, rfl⟩, rfl⟩ := polled
            have less := stream.budget_lt polledInner
            simp only
            omega
        · simp only [Prod.mk.injEq] at polled
          obtain ⟨found, ⟨-, rfl⟩, -⟩ := polled
          have less := takeKnown_length_lt found
          simp only
          omega

end Stream

namespace ItemStream

variable {α : Type}

/-- Poll for the next item that did not fail. -/
def nextValue (stream : ItemStream α) (state : stream.State) (history : History)
    (memory : Memory) : Poll (Option (Except RpcError α)) × stream.State × Memory :=
  match _polled : stream.next state history memory with
  | (.ready (some (.error _)), state, memory) => nextValue stream state history memory
  | (.ready (some (.ok value)), state, memory) => (.ready (some (.ok value)), state, memory)
  | (.ready none, state, memory) => (.ready none, state, memory)
  | (.pending, state, memory) => (.pending, state, memory)
termination_by stream.budget state history
decreasing_by exact stream.budget_lt (by assumption)

theorem nextValue_budget_lt {stream : ItemStream α} {state after : stream.State}
    {history : History} {memory memoryAfter : Memory} {item : Except RpcError α}
    (polled : nextValue stream state history memory =
      (.ready (some item), after, memoryAfter)) :
    stream.budget after history < stream.budget state history := by
  fun_induction nextValue stream state history memory with
  | case1 state memory error next nextMemory inner ih =>
      exact Nat.lt_trans (ih polled) (stream.budget_lt inner)
  | case2 state memory value next nextMemory inner =>
      simp only [Prod.mk.injEq] at polled
      obtain ⟨-, rfl, rfl⟩ := polled
      exact stream.budget_lt inner
  | case3 => simp at polled
  | case4 => simp at polled

/-- A stream without its failed items. -/
def dropErrors (stream : ItemStream α) : ItemStream α where
  State := stream.State
  state := stream.state
  next := nextValue stream
  budget := stream.budget
  budget_lt := nextValue_budget_lt

/-- Read on and combine the items with what was read before. -/
def foldFrom {β : Type} (stream : ItemStream α) (combine : β → α → β) (total : β)
    (state : stream.State) (history : History) (memory : Memory) :
    Poll (Except RpcError β) × (β × stream.State) × Memory :=
  match _polled : stream.next state history memory with
  | (.ready (some (.ok item)), state, memory) =>
      foldFrom stream combine (combine total item) state history memory
  | (.ready (some (.error error)), state, memory) =>
      (.ready (.error error), (total, state), memory)
  | (.ready none, state, memory) => (.ready (.ok total), (total, state), memory)
  | (.pending, state, memory) => (.pending, (total, state), memory)
termination_by stream.budget state history
decreasing_by exact stream.budget_lt (by assumption)

/-- The task that combines all items of a stream, which the first failed item ends. -/
def fold {β : Type} (stream : ItemStream α) (initial : β) (combine : β → α → β) : Task β where
  State := β × stream.State
  state := (initial, stream.state)
  poll := fun (total, state) history memory => foldFrom stream combine total state history memory
  waits := fun _ => 0

end ItemStream
end RpcContracts
