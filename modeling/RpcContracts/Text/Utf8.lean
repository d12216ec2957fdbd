/-!
# UTF-8

The bytes of a text and the text of bytes. Reading succeeds exactly on well-formed UTF-8, and in
particular on everything that was written.
-/

namespace RpcContracts
namespace Text

/-- The UTF-8 bytes of a text. -/
def utf8Bytes (text : String) : List UInt8 :=
  text.toUTF8.data.toList

/-- The text that well-formed UTF-8 bytes spell. -/
def ofUtf8Bytes? (bytes : List UInt8) : Option String :=
  String.fromUTF8? ⟨bytes.toArray⟩

@[simp]
theorem ofUtf8Bytes?_utf8Bytes (text : String) : ofUtf8Bytes? (utf8Bytes text) = some text := by
  simp [ofUtf8Bytes?, utf8Bytes, String.fromUTF8?, String.fromUTF8, String.toUTF8,
    text.isValidUTF8]

end Text
end RpcContracts
