import RpcContracts.Text.Escaped

/-!
# Quoted text

The quoted form of a text encloses it in double quotes, writes the usual short escapes for quotes,
backslashes and the common controls, and writes every other character that does not print by its
code point.
-/

namespace RpcContracts
namespace Text

/-- The digits of a code point in base sixteen, without leading zeros. -/
def hexDigits (code : Nat) : List Char :=
  Nat.toDigits 16 code

/-- The code point escape of a character. -/
def codePointEscape (char : Char) : List Char :=
  '\\' :: 'u' :: '\x7b' :: hexDigits char.toNat ++ ['\x7d']

/-- One character as it stands inside quotes. -/
def quotedChar (char : Char) : List Char :=
  match char with
  | '\x00' => ['\\', '0']
  | '\t' => ['\\', 't']
  | '\r' => ['\\', 'r']
  | '\n' => ['\\', 'n']
  | '"' => ['\\', '"']
  | '\\' => ['\\', '\\']
  | _ =>
      if char.toNat < 0x20 || char.toNat == 0x7f || isEscapedBeyondAscii char then
        codePointEscape char
      else
        [char]

/-- The quoted form of a text. -/
def quoted (text : String) : String :=
  String.ofList ('"' :: text.toList.flatMap quotedChar ++ ['"'])

end Text
end RpcContracts
