import RpcContracts.Async.Stream
import RpcContracts.Async.ValueTask
import RpcContracts.Async.Writer

/-!
# Values

A value is what a method takes or returns: a payload, or the content of a wrapper. Each type has a
carrier, and a value can be recovered at exactly the carrier of its own type.
-/

namespace RpcContracts

/-- What a wrapper around an argument type holds. -/
def Wrapper.Carrier (argument : ValueType) : Wrapper → Type 1
  | .task => Task (PayloadOf argument)
  | .valueTask => ValueTask (PayloadOf argument)
  | .fallible => ULift.{1} (OutcomeOf argument)
  | .streamReader => ItemStream (PayloadOf argument)
  | .streamWriter => ULift.{1} Writer
  | .responseStream => ItemStream (PayloadOf argument)

/-- What a value of a type holds. -/
def ValueType.Carrier : ValueType → Type 1
  | .plain type => ULift.{1} (PayloadOf (.plain type))
  | .wrapped wrapper argument => wrapper.Carrier argument

/-- An argument or a return value of a method. -/
inductive Value : Type 1 where
  | payload (data : Payload)
  | wrapped (wrapper : Wrapper) (argument : ValueType) (content : wrapper.Carrier argument)

namespace Value

/-- The runtime type of a value. -/
def type : Value → ValueType
  | payload data => data.type
  | wrapped wrapper argument _ => .wrapped wrapper argument

/-- The value of a carrier. -/
def ofCarrier : (type : ValueType) → type.Carrier → Value
  | .plain _, content => payload content.down.val
  | .wrapped wrapper argument, content => wrapped wrapper argument content

/-- Recover a value at an expected type. -/
def downcast (expected : ValueType) (value : Value) : Except RpcError expected.Carrier :=
  match expected, value with
  | .plain type, payload data =>
      match data.downcast (.plain type) with
      | .ok typed => .ok ⟨typed⟩
      | .error error => .error error
  | .wrapped wrapper argument, wrapped actual inner content =>
      if same : actual = wrapper ∧ inner = argument then .ok (same.1 ▸ same.2 ▸ content)
      else .error (.typeMismatch (ValueType.wrapped wrapper argument).qualifiedName)
  | expected, _ => .error (.typeMismatch expected.qualifiedName)

/-- The value as mere data: the content of a wrapper is out of reach. -/
def toPayload : Value → Payload
  | payload data => data
  | wrapped wrapper argument _ =>
      .foreign (.named (ValueType.wrapped wrapper argument).qualifiedName) rfl

@[simp]
theorem downcast_ofCarrier (type : ValueType) (content : type.Carrier) :
    (ofCarrier type content).downcast type = .ok content := by
  cases type with
  | plain type =>
      obtain ⟨typed⟩ := content
      simp [ofCarrier, downcast]
  | wrapped wrapper argument => simp [ofCarrier, downcast]

end Value
end RpcContracts
