import RpcContracts.Marshal.Marshaller

/-!
# Declared types

A declared type is what a method signature says of a parameter or of its return value: a plain type,
possibly with a marshaller, or a wrapper around another declared type. Marshallers do not take part
in the identity of a type.
-/

namespace RpcContracts

/-- The marshaller that comes with a plain type: only messages have one. -/
def PlainType.marshaller? : PlainType → Option Marshaller
  | .message kind => some (.message kind)
  | _ => none

/-- Type of a parameter or return value. -/
inductive DeclaredType where
  | plain (type : PlainType) (marshaller : Option Marshaller)
  | wrapped (wrapper : Wrapper) (argument : DeclaredType)

namespace DeclaredType

/-- A plain type as declared without further notice. -/
def ofPlain (type : PlainType) : DeclaredType := plain type type.marshaller?

/-- A plain type with another marshaller; wrappers never have one. -/
def withMarshaller (marshaller : Marshaller) : DeclaredType → DeclaredType
  | plain type _ => plain type (some marshaller)
  | wrapped wrapper argument => wrapped wrapper argument

/-- The runtime type that a declared type stands for. -/
def valueType : DeclaredType → ValueType
  | plain type _ => .plain type
  | wrapped wrapper argument => .wrapped wrapper argument.valueType

/-- Whether two declared types stand for the same runtime type. -/
def sameAs (first second : DeclaredType) : Bool :=
  first.valueType = second.valueType

/-- The plain type, unless the type is a wrapper. -/
def plain? : DeclaredType → Option PlainType
  | plain type _ => some type
  | wrapped .. => none

/-- The wrapper, unless the type is plain. -/
def wrapper? : DeclaredType → Option Wrapper
  | plain .. => none
  | wrapped wrapper _ => some wrapper

/-- The argument of a wrapper. -/
def argument? : DeclaredType → Option DeclaredType
  | plain .. => none
  | wrapped _ argument => some argument

/-- How the content of a value of the type is reached without knowing its argument type. -/
def erasure? (type : DeclaredType) : Option Erasure :=
  type.wrapper?.map Wrapper.erasure

/-- The marshaller the type itself carries. -/
def marshaller? : DeclaredType → Option Marshaller
  | plain _ marshaller => marshaller
  | wrapped .. => none

/-- Descriptive name: wrappers by their bare names. -/
def name : DeclaredType → String
  | plain type _ => type.name
  | wrapped wrapper argument => wrapper.name ++ "<" ++ argument.name ++ ">"

end DeclaredType
end RpcContracts
