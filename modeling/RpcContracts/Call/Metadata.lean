/-!
# Call metadata

Header and trailer entries in insertion order. Keys are stored in ASCII lowercase, repeated keys are
allowed, and the keys of binary values carry the suffix `-bin`.
-/

namespace RpcContracts

/-- The value of one metadata entry. -/
inductive MetadataValue where
  | ascii (text : String)
  | binary (bytes : List UInt8)
  deriving DecidableEq

/-- One metadata entry. -/
structure MetadataEntry where
  /-- Stored key. -/
  key : String
  /-- Stored value. -/
  value : MetadataValue
  deriving DecidableEq

/-- Header or trailer entries in insertion order. -/
structure Metadata where
  /-- The entries, oldest first. -/
  entries : List MetadataEntry
  deriving DecidableEq

namespace Metadata

/-- No entries. -/
def empty : Metadata := ⟨[]⟩

/-- Suffix that marks a key as carrying binary values. -/
def binarySuffix : List Char := ['-', 'b', 'i', 'n']

/-- A key with its ASCII letters in lowercase. -/
def foldKey (key : String) : String :=
  String.ofList (key.toList.map Char.toLower)

/-- A folded key with the binary suffix, which is appended if missing. -/
def binaryKey (key : String) : String :=
  let folded := key.toList.map Char.toLower
  String.ofList (if binarySuffix.isSuffixOf folded then folded else folded ++ binarySuffix)

/-- Append a text entry. -/
def add (metadata : Metadata) (key text : String) : Metadata :=
  ⟨metadata.entries ++ [⟨foldKey key, .ascii text⟩]⟩

/-- Append a binary entry. -/
def addBytes (metadata : Metadata) (key : String) (bytes : List UInt8) : Metadata :=
  ⟨metadata.entries ++ [⟨binaryKey key, .binary bytes⟩]⟩

/-- The first text stored under a key, compared without regard to ASCII case. -/
def get? (metadata : Metadata) (key : String) : Option String :=
  metadata.entries.findSome? fun entry =>
    match entry.value with
    | .ascii text => if entry.key = foldKey key then some text else none
    | .binary _ => none

/-- The first bytes stored under a key, compared without regard to ASCII case. -/
def getBytes? (metadata : Metadata) (key : String) : Option (List UInt8) :=
  metadata.entries.findSome? fun entry =>
    match entry.value with
    | .binary bytes => if entry.key = foldKey key then some bytes else none
    | .ascii _ => none

/-- Number of entries. -/
def size (metadata : Metadata) : Nat := metadata.entries.length

/-- Whether there are no entries. -/
def isEmpty (metadata : Metadata) : Bool := metadata.entries.isEmpty

end Metadata
end RpcContracts
