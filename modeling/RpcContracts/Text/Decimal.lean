/-!
# Decimal integers

The decimal text of an integer, and the integer of a decimal text with an optional sign.
-/

namespace RpcContracts
namespace Text

/-- The value of decimal digits, given the value of the digits before them. -/
def decimalValue? (before : Nat) : List Char → Option Nat
  | [] => some before
  | char :: rest =>
      if char.isDigit then decimalValue? (10 * before + (char.toNat - '0'.toNat)) rest else none

/-- The natural number of a nonempty text of decimal digits. -/
def natural? : List Char → Option Nat
  | [] => none
  | chars => decimalValue? 0 chars

/-- The integer of decimal digits after at most one sign. -/
def integer? : List Char → Option Int
  | '-' :: digits => (natural? digits).map fun value => -(value : Int)
  | '+' :: digits => (natural? digits).map Int.ofNat
  | digits => (natural? digits).map Int.ofNat

end Text
end RpcContracts
