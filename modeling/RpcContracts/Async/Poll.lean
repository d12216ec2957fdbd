/-!
# Polls

Work in progress is polled by hand: a poll either finds it pending or gets its value.
-/

namespace RpcContracts

/-- What one poll finds. -/
inductive Poll (α : Type u) where
  | pending
  | ready (value : α)
  deriving DecidableEq

namespace Poll

/-- Apply a function to the value that is ready. -/
def map {α : Type u} {β : Type v} (function : α → β) : Poll α → Poll β
  | pending => pending
  | ready value => ready (function value)

@[simp]
theorem map_pending {α : Type u} {β : Type v} (function : α → β) :
    (pending : Poll α).map function = pending := rfl

@[simp]
theorem map_ready {α : Type u} {β : Type v} (function : α → β) (value : α) :
    (ready value).map function = ready (function value) := rfl

end Poll
end RpcContracts
