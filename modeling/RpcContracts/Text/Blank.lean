/-!
# Blank text

White space here is the Unicode property `White_Space`. A text is blank when every character has the
property, and trimming removes the property from both ends.
-/

namespace RpcContracts
namespace Text

/-- The code points of the property `White_Space`, as inclusive ranges. -/
def whiteSpaceRanges : List (Nat × Nat) :=
  [(0x09, 0x0d), (0x20, 0x20), (0x85, 0x85), (0xa0, 0xa0), (0x1680, 0x1680), (0x2000, 0x200a),
   (0x2028, 0x2029), (0x202f, 0x202f), (0x205f, 0x205f), (0x3000, 0x3000)]

/-- A character of the property `White_Space`. -/
def isWhiteSpace (char : Char) : Bool :=
  whiteSpaceRanges.any fun (first, last) => first ≤ char.toNat && char.toNat ≤ last

/-- A text with no character outside white space; the empty text is blank. -/
def isBlank (text : String) : Bool :=
  text.toList.all isWhiteSpace

/-- The text unless it is blank. -/
def nonBlank? (text : String) : Option String :=
  if isBlank text then none else some text

/-- Remove white space from both ends. -/
def trimChars (chars : List Char) : List Char :=
  ((chars.dropWhile isWhiteSpace).reverse.dropWhile isWhiteSpace).reverse

end Text
end RpcContracts
