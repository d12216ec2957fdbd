import RpcContracts.Contract.Signature
import RpcContracts.Text.Uppercase

/-!
# Names of services and operations

A name given by an annotation is used as it stands. Otherwise the service is named by its qualified
type name with dots between the segments, and an operation by its method name in capitalised words
without a trailing `Async`.
-/

namespace RpcContracts

/-- Split a name at its underscores. -/
def segments (name : List Char) : List (List Char) :=
  match name with
  | [] => [[]]
  | char :: rest =>
      if char = '_' then [] :: segments rest
      else
        match segments rest with
        | [] => [[char]]
        | segment :: others => (char :: segment) :: others

/-- A segment with its first letter in upper case. -/
def capitalized : List Char → List Char
  | [] => []
  | char :: rest => Text.uppercase char ++ rest

/-- The capitalised nonempty segments of a name, joined. -/
def joinedWords (name : List Char) : List Char :=
  ((segments name).filter fun segment => !segment.isEmpty).flatMap capitalized

/-- The ending that an operation name loses. -/
def asyncEnding : List Char := ['A', 's', 'y', 'n', 'c']

/-- A name without one trailing `Async`, unless nothing would be left. -/
def withoutAsync (name : List Char) : List Char :=
  let stem := name.take (name.length - asyncEnding.length)
  if stem.isEmpty then name
  else if stem ++ asyncEnding = name then stem
  else name

/-- The operation name of a method. -/
def Signature.operationName (signature : Signature) : String :=
  match signature.annotations.findSome? Annotation.operationName? with
  | some name => name
  | none => String.ofList (withoutAsync (joinedWords signature.name.toList))

/-- A type name without the markers of dynamic dispatch at its start. -/
def withoutDynamic : List Char → List Char
  | 'd' :: 'y' :: 'n' :: ' ' :: rest => withoutDynamic rest
  | name => name

/-- A qualified name with dots instead of double colons. -/
def dotted : List Char → List Char
  | ':' :: ':' :: rest => '.' :: dotted rest
  | char :: rest => char :: dotted rest
  | [] => []

/-- The service name that a type name yields; a blank type name yields none. -/
def derivedServiceName? (typeName : String) : Option String :=
  match withoutDynamic (Text.trimChars typeName.toList) with
  | [] => none
  | name => some (String.ofList (dotted name))

/-- The service name of a contract. -/
def Contract.serviceName? (contract : Contract) : Option String :=
  match contract.annotations.findSome? Annotation.serviceName? with
  | some name => some name
  | none => derivedServiceName? contract.typeName

end RpcContracts
