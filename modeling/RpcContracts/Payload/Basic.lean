import RpcContracts.Call.Context
import RpcContracts.Payload.Type

/-!
# Payloads

A payload is the data a call carries, tagged by its runtime type. Recovering a payload at an
expected type succeeds exactly when the type is its own.
-/

namespace RpcContracts

/-- Types whose values are never looked into. -/
def PlainType.isForeign : PlainType → Bool
  | .f32 => true
  | .f64 => true
  | .named _ => true
  | _ => false

/-- Data carried by a call. -/
inductive Payload where
  | unit
  | bool (value : Bool)
  | i32 (value : Int32)
  | i64 (value : Int64)
  | u32 (value : UInt32)
  | u64 (value : UInt64)
  | string (value : String)
  | bytes (value : List UInt8)
  | message (value : Message)
  | callContext (value : CallContext)
  | serverCallContext (value : ServerCallContext)
  | callOptions (value : CallOptions)
  /-- A value of a type that is never looked into. -/
  | foreign (type : PlainType) (hidden : type.isForeign = true)
  deriving DecidableEq

namespace Payload

/-- The runtime type of a payload. -/
def type : Payload → ValueType
  | unit => .plain .unit
  | bool _ => .plain .bool
  | i32 _ => .plain .i32
  | i64 _ => .plain .i64
  | u32 _ => .plain .u32
  | u64 _ => .plain .u64
  | string _ => .plain .string
  | bytes _ => .plain .bytes
  | message value => .message value.kind
  | callContext _ => .plain .callContext
  | serverCallContext _ => .plain .serverCallContext
  | callOptions _ => .plain .callOptions
  | foreign type _ => .plain type

end Payload

/-- A payload of one runtime type. -/
abbrev PayloadOf (type : ValueType) := { payload : Payload // payload.type = type }

namespace Payload

/-- The number of a ping or a pong; other payloads have none. -/
def id : Payload → UInt64
  | message value => value.id
  | _ => 0

/-- The text of a message or of a string; other payloads have none. -/
def text : Payload → String
  | message value => value.text
  | string value => value
  | _ => ""

/-- The value of a 32-bit integer; other payloads have none. -/
def int32 : Payload → Int32
  | i32 value => value
  | _ => 0

/-- Recover a payload at an expected type. -/
def downcast (expected : ValueType) (payload : Payload) : Except RpcError (PayloadOf expected) :=
  if same : payload.type = expected then .ok ⟨payload, same⟩
  else .error (.typeMismatch expected.qualifiedName)

@[simp]
theorem downcast_val {type : ValueType} (payload : PayloadOf type) :
    payload.val.downcast type = .ok payload := by
  simp [downcast, payload.property]

end Payload

/-- The outcome of a call or of one item of a stream. -/
abbrev Outcome := Except RpcError Payload

/-- An outcome whose payload has one runtime type. -/
abbrev OutcomeOf (type : ValueType) := Except RpcError (PayloadOf type)

namespace Outcome

/-- Recover the payload of an outcome at an expected type; errors pass through. -/
def downcast (expected : ValueType) : Outcome → OutcomeOf expected
  | .ok payload => payload.downcast expected
  | .error error => .error error

/-- Forget the type of an outcome. -/
def ofTyped {type : ValueType} : OutcomeOf type → Outcome
  | .ok payload => .ok payload.val
  | .error error => .error error

@[simp]
theorem downcast_ofTyped {type : ValueType} (outcome : OutcomeOf type) :
    downcast type (ofTyped outcome) = outcome := by
  cases outcome <;> simp [downcast, ofTyped]

end Outcome
end RpcContracts
