import RpcContracts.Session.Answer
import RpcContracts.Value.Arguments

/-!
# Sessions on argument lists
-/

namespace RpcContracts

/-- A step on a list of arguments. -/
inductive ArgumentStep where
  /-- Append an argument. -/
  | push (payload : Payload)
  /-- Take the next argument at an expected type. -/
  | take (expected : ValueType)
  /-- Take the next argument. -/
  | takeAny

namespace ArgumentStep

/-- The outcome of taking a value. -/
def taken (expected : ValueType) : Except RpcError expected.Carrier → Outcome
  | .ok content => .ok (Value.ofCarrier expected content).toPayload
  | .error error => .error error

/-- Take a step. The answer is the outcome of taking, if something is taken, and the number of
arguments left. -/
def answer (arguments : List Value) : ArgumentStep → (Option Outcome × Nat) × List Value
  | push payload => ((none, arguments.length + 1), arguments ++ [.payload payload])
  | take expected =>
      match takeTyped expected arguments with
      | (result, rest) => ((some (taken expected result), rest.length), rest)
  | takeAny =>
      match RpcContracts.takeAny arguments with
      | (.ok value, rest) => ((some (.ok value.toPayload), rest.length), rest)
      | (.error error, rest) => ((some (.error error), rest.length), rest)

/-- The answers of steps on a list of arguments. -/
def run (initial : List Payload) (steps : List ArgumentStep) : List (Option Outcome × Nat) :=
  runSteps answer (initial.map Value.payload) steps

end ArgumentStep
end RpcContracts
