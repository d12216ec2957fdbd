/-!
# Hexadecimal text

Bytes as pairs of lowercase hexadecimal digits.
-/

namespace RpcContracts
namespace Text

/-- The value of a lowercase hexadecimal digit. -/
def hexDigitValue? (char : Char) : Option Nat :=
  if char.isDigit then some (char.toNat - '0'.toNat)
  else if 'a' ≤ char && char ≤ 'f' then some (char.toNat - 'a'.toNat + 10)
  else none

/-- Two digits for each byte. -/
def hex (bytes : List UInt8) : String :=
  String.ofList (bytes.flatMap fun byte =>
    [Nat.digitChar (byte.toNat / 16), Nat.digitChar (byte.toNat % 16)])

/-- The bytes that pairs of digits spell. -/
def ofHexDigits? : List Char → Option (List UInt8)
  | [] => some []
  | [_] => none
  | high :: low :: rest =>
      match hexDigitValue? high, hexDigitValue? low, ofHexDigits? rest with
      | some high, some low, some bytes => some (UInt8.ofNat (16 * high + low) :: bytes)
      | _, _, _ => none

/-- The bytes of a hexadecimal text. -/
def ofHex? (text : String) : Option (List UInt8) := ofHexDigits? text.toList

end Text
end RpcContracts
