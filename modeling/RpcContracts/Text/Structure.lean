import RpcContracts.Text.Quoted

/-!
# Structural text

The text that shows how a value is made: the name of a constructor with its parts in parentheses or
its fields in braces, and lists in brackets.
-/

namespace RpcContracts
namespace Text

/-- Parts separated by commas. -/
def commaSeparated (parts : List String) : String := ", ".intercalate parts

/-- A constructor with unnamed parts. -/
def tuple (name : String) (parts : List String) : String :=
  name ++ "(" ++ commaSeparated parts ++ ")"

/-- A constructor with named fields. -/
def record (name : String) (fields : List (String × String)) : String :=
  name ++ " \x7b " ++ commaSeparated (fields.map fun (field, text) => field ++ ": " ++ text) ++
    " \x7d"

/-- A list. -/
def listing (items : List String) : String := "[" ++ commaSeparated items ++ "]"

/-- A value that may be missing. -/
def optional : Option String → String
  | some text => tuple "Some" [text]
  | none => "None"

end Text
end RpcContracts
