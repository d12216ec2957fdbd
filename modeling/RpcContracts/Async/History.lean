import RpcContracts.Payload.Basic

/-!
# Histories

What has happened outside of the work that is polled: tokens fired, results arrived, items
delivered. A history only grows, and polls read it without changing it, so the same poll at a later
time sees at least as much.
-/

namespace RpcContracts

/-- Something that happened outside. -/
inductive Event where
  /-- A token fired. -/
  | fired (token : String)
  /-- The source of a single result gave it. -/
  | resolved (source : Nat) (outcome : Outcome)
  /-- The headers of a call arrived, or failed to. -/
  | headers (call : Nat) (headers : Except RpcError Metadata)
  /-- A call completed. -/
  | completed (call : Nat) (completion : Completion)
  /-- The source of a stream gave an item. -/
  | delivered (source : Nat) (item : Outcome)
  /-- The source of a stream will give no more items. -/
  | ended (source : Nat)

/-- Everything that has happened outside, oldest first. -/
abbrev History := List Event

namespace History

/-- Whether a token has fired. -/
def hasFired (history : History) : Token → Bool
  | .detached => false
  | .named name => history.any fun
      | .fired actual => actual = name
      | _ => false

/-- The first result that a source gave. -/
def outcome? (history : History) (source : Nat) : Option Outcome :=
  history.findSome? fun
    | .resolved actual outcome => if actual = source then some outcome else none
    | _ => none

/-- The first headers of a call. -/
def headers? (history : History) (call : Nat) : Option (Except RpcError Metadata) :=
  history.findSome? fun
    | .headers actual headers => if actual = call then some headers else none
    | _ => none

/-- The first completion of a call. -/
def completion? (history : History) (call : Nat) : Option Completion :=
  history.findSome? fun
    | .completed actual completion => if actual = call then some completion else none
    | _ => none

/-- The items that a source gave. -/
def items (history : History) (source : Nat) : List Outcome :=
  history.filterMap fun
    | .delivered actual item => if actual = source then some item else none
    | _ => none

/-- Whether a source will give no more items. -/
def hasEnded (history : History) (source : Nat) : Bool :=
  history.any fun
    | .ended actual => actual = source
    | _ => false

/-- A token that has fired stays fired. -/
theorem hasFired_append {history : History} {token : Token} (later : History)
    (fired : history.hasFired token = true) : (history ++ later).hasFired token = true := by
  cases token with
  | detached => simp [hasFired] at fired
  | named name =>
      simp only [hasFired, List.any_append, Bool.or_eq_true] at fired ⊢
      exact .inl fired

end History
end RpcContracts
