import RpcContracts.Value.Basic

/-!
# Arguments

Arguments are taken from the front of a list, one by one. Taking one at an expected type consumes it
even if its type is another.
-/

namespace RpcContracts

/-- The error of a call with too few arguments. -/
def missingArgument : RpcError := .invalidOperation "missing call argument"

/-- Take the next argument. -/
def takeAny : List Value → Except RpcError Value × List Value
  | [] => (.error missingArgument, [])
  | value :: rest => (.ok value, rest)

/-- Take the next argument at an expected type. -/
def takeTyped (expected : ValueType) (arguments : List Value) :
    Except RpcError expected.Carrier × List Value :=
  match takeAny arguments with
  | (.error error, rest) => (.error error, rest)
  | (.ok value, rest) => (value.downcast expected, rest)

/-- Arguments of given types. -/
def Arguments : List ValueType → Type 1
  | [] => PUnit
  | type :: types => type.Carrier × Arguments types

namespace Arguments

/-- Take arguments of given types; the first that is missing or has another type is reported. -/
def take : (types : List ValueType) → List Value → Except RpcError (Arguments types)
  | [], _ => .ok ⟨⟩
  | type :: types, arguments =>
      match takeTyped type arguments with
      | (.error error, _) => .error error
      | (.ok first, rest) =>
          match take types rest with
          | .error error => .error error
          | .ok others => .ok (first, others)

/-- The values of arguments. -/
def toList : (types : List ValueType) → Arguments types → List Value
  | [], _ => []
  | type :: types, (first, others) => .ofCarrier type first :: toList types others

/-- Arguments of two lists of types, one after the other. -/
def split {Declared : Type} (type : Declared → ValueType) :
    (first second : List Declared) → Arguments ((first ++ second).map type) →
      Arguments (first.map type) × Arguments (second.map type)
  | [], _, arguments => (⟨⟩, arguments)
  | _ :: first, second, (value, others) =>
      match split type first second others with
      | (left, right) => ((value, left), right)

end Arguments

/-- A method of a service, called with values of any types. -/
abbrev Invoker := List Value → Except RpcError Value

namespace Invoker

/-- The invoker of a function whose runs have effects in a monad: its arguments are taken at the
types of its parameters. -/
def ofFunctionIn {m : Type 1 → Type 1} [Monad m] (params : List ValueType) (returns : ValueType)
    (function : Arguments params → m returns.Carrier) (values : List Value) :
    m (Except RpcError Value) :=
  match Arguments.take params values with
  | .error error => pure (.error error)
  | .ok arguments => do return .ok (.ofCarrier returns (← function arguments))

/-- The invoker of a function. -/
def ofFunction (params : List ValueType) (returns : ValueType)
    (function : Arguments params → returns.Carrier) : Invoker :=
  ofFunctionIn (m := Id) params returns function

/-- An invoker that keeps what it is called with, the latest call last. -/
def recorded (invoker : Invoker) (values : List Value) :
    StateM (List (List Value)) (Except RpcError Value) := do
  modify (· ++ [values])
  return invoker values

end Invoker
end RpcContracts
