import Mathlib.Data.List.Forall2
import RpcContracts.Call.Metadata

/-!
# What is read from metadata

Metadata comes about by writes, and a read finds the first of them that wrote a value of its kind
under the sought key. The case of ASCII letters does not matter in keys. Bytes are stored under
their key with the binary suffix, and a reader gives the key as it is stored: without the suffix
it finds nothing.
-/

namespace RpcContracts

/-! ## Writes -/

/-- What is written to metadata. -/
inductive MetadataWrite where
  /-- A text, which is added in place or to metadata that is handed on. -/
  | text (key value : String)
  | bytes (key : String) (value : List UInt8)

namespace MetadataWrite

/-- Metadata after one more write. -/
def apply (metadata : Metadata) : MetadataWrite → Metadata
  | text key value => metadata.add key value
  | bytes key value => metadata.addBytes key value

/-- The entry that a write leaves. -/
def entry : MetadataWrite → MetadataEntry
  | text key value => ⟨Metadata.foldKey key, .ascii value⟩
  | bytes key value => ⟨Metadata.binaryKey key, .binary value⟩

theorem entries_apply (metadata : Metadata) (write : MetadataWrite) :
    (apply metadata write).entries = metadata.entries ++ [write.entry] := by
  cases write <;> rfl

theorem entries_foldl (metadata : Metadata) (writes : List MetadataWrite) :
    (writes.foldl apply metadata).entries = metadata.entries ++ writes.map entry := by
  induction writes generalizing metadata with
  | nil => exact (List.append_nil _).symm
  | cons write writes ih =>
      rw [List.foldl_cons, ih, entries_apply, List.append_assoc, List.singleton_append,
        List.map_cons]

end MetadataWrite

/-- The first value among some writes, where `wrote` tells what each of them wrote. -/
def FirstWritten {α : Type} (wrote : MetadataWrite → α → Prop) (writes : List MetadataWrite)
    (value : α) : Prop :=
  ∃ front write back, writes = front ++ write :: back ∧ wrote write value ∧
    ∀ earlier ∈ front, ∀ other, ¬wrote earlier other

/-- None of some writes wrote a value. -/
def NothingWritten {α : Type} (wrote : MetadataWrite → α → Prop) (writes : List MetadataWrite) :
    Prop := ∀ write ∈ writes, ∀ value, ¬wrote write value

section

variable {α : Type} {value? : MetadataWrite → Option α} {wrote : MetadataWrite → α → Prop}

theorem eq_none_iff_of_wrote (tells : ∀ write value, value? write = some value ↔ wrote write value)
    (write : MetadataWrite) : value? write = none ↔ ∀ value, ¬wrote write value := by
  simp only [Option.eq_none_iff_forall_ne_some, ne_eq, tells]

theorem findSome?_eq_some_iff_firstWritten
    (tells : ∀ write value, value? write = some value ↔ wrote write value)
    (writes : List MetadataWrite) (value : α) :
    writes.findSome? value? = some value ↔ FirstWritten wrote writes value := by
  simp only [List.findSome?_eq_some_iff, tells, eq_none_iff_of_wrote tells, FirstWritten]

theorem findSome?_eq_none_iff_nothingWritten
    (tells : ∀ write value, value? write = some value ↔ wrote write value)
    (writes : List MetadataWrite) :
    writes.findSome? value? = none ↔ NothingWritten wrote writes := by
  simp only [List.findSome?_eq_none_iff, eq_none_iff_of_wrote tells, NothingWritten]

end

/-- What nothing before has written is written first by the last write. -/
theorem NothingWritten.first {α : Type} {wrote : MetadataWrite → α → Prop}
    {writes : List MetadataWrite} (nothing : NothingWritten wrote writes) {write : MetadataWrite}
    {value : α} (writesValue : wrote write value) :
    FirstWritten wrote (writes ++ [write]) value :=
  ⟨writes, write, [], rfl, writesValue, nothing⟩

namespace Metadata

/-! ## Keys -/

/-- Two keys differ in the case of ASCII letters at most. -/
def SameKey (key other : String) : Prop :=
  List.Forall₂ (fun char sought => char.toLower = sought.toLower) key.toList other.toList

theorem foldKey_eq_iff (key other : String) : foldKey key = foldKey other ↔ SameKey key other := by
  rw [foldKey, foldKey, String.ofList_inj, SameKey, ← List.forall₂_eq_eq_eq,
    List.forall₂_map_left_iff, List.forall₂_map_right_iff]

/-- A key that ends with the binary suffix, in whatever case. -/
def HasBinarySuffix (key : String) : Prop := binarySuffix <:+ key.toList.map Char.toLower

theorem binaryKey_of_hasBinarySuffix {key : String} (suffixed : HasBinarySuffix key) :
    binaryKey key = foldKey key := by
  rw [binaryKey, if_pos (List.isSuffixOf_iff_suffix.mpr suffixed), foldKey]

theorem toList_binaryKey_of_not_hasBinarySuffix {key : String} (bare : ¬HasBinarySuffix key) :
    (binaryKey key).toList = key.toList.map Char.toLower ++ binarySuffix := by
  rw [binaryKey, if_neg (mt List.isSuffixOf_iff_suffix.mp bare), String.toList_ofList]

/-- Bytes are never stored under a key without the suffix. -/
theorem binarySuffix_suffix_binaryKey (key : String) : binarySuffix <:+ (binaryKey key).toList := by
  by_cases suffixed : HasBinarySuffix key
  · rw [binaryKey_of_hasBinarySuffix suffixed, foldKey, String.toList_ofList]
    exact suffixed
  · rw [toList_binaryKey_of_not_hasBinarySuffix suffixed]
    exact List.suffix_append _ _

theorem binaryKey_ne_foldKey (key : String) {sought : String} (bare : ¬HasBinarySuffix sought) :
    binaryKey key ≠ foldKey sought := by
  intro same
  have suffixed := binarySuffix_suffix_binaryKey key
  rw [same, foldKey, String.toList_ofList] at suffixed
  exact bare suffixed

theorem hasBinarySuffix_append (key : String) : HasBinarySuffix (key ++ "-bin") := by
  rw [HasBinarySuffix, String.toList_append, List.map_append]
  exact List.suffix_append _ _

/-- Appending a missing suffix does by hand what a writer does. -/
theorem binaryKey_append {key : String} (bare : ¬HasBinarySuffix key) :
    binaryKey (key ++ "-bin") = binaryKey key := by
  rw [← String.toList_inj, toList_binaryKey_of_not_hasBinarySuffix bare,
    binaryKey_of_hasBinarySuffix (hasBinarySuffix_append key), foldKey, String.toList_ofList,
    String.toList_append, List.map_append]
  rfl

/-! ## Reads -/

/-- A text is written under a key. -/
inductive WritesText (sought : String) : MetadataWrite → String → Prop where
  | intro {key : String} (value : String) : SameKey key sought →
      WritesText sought (.text key value) value

/-- Bytes are written under a key, to which a missing suffix is appended. -/
inductive WritesBytes (sought : String) : MetadataWrite → List UInt8 → Prop where
  | intro {key : String} (value : List UInt8) : binaryKey key = binaryKey sought →
      WritesBytes sought (.bytes key value) value

/-- The metadata that writes lead to. -/
def written (writes : List MetadataWrite) : Metadata := writes.foldl MetadataWrite.apply .empty

/-- The text that a reader takes from a write. -/
def textFrom? (sought : String) : MetadataWrite → Option String
  | .text key value => if foldKey key = foldKey sought then some value else none
  | .bytes _ _ => none

/-- The bytes that a reader takes from a write, whose key was given the suffix. -/
def bytesFrom? (sought : String) : MetadataWrite → Option (List UInt8)
  | .text _ _ => none
  | .bytes key value => if binaryKey key = foldKey sought then some value else none

theorem findSome?_written {α : Type} {read : MetadataEntry → Option α}
    {value? : MetadataWrite → Option α} (reads : ∀ write, read write.entry = value? write)
    (writes : List MetadataWrite) :
    (written writes).entries.findSome? read = writes.findSome? value? := by
  have read_eq : read ∘ MetadataWrite.entry = value? := funext reads
  rw [written, MetadataWrite.entries_foldl, empty, List.nil_append, List.findSome?_map, read_eq]

theorem get?_written (writes : List MetadataWrite) (key : String) :
    (written writes).get? key = writes.findSome? (textFrom? key) :=
  findSome?_written (by rintro ⟨⟩ <;> rfl) writes

theorem getBytes?_written (writes : List MetadataWrite) (key : String) :
    (written writes).getBytes? key = writes.findSome? (bytesFrom? key) :=
  findSome?_written (by rintro ⟨⟩ <;> rfl) writes

theorem textFrom?_eq_some_iff {sought : String} (write : MetadataWrite) (text : String) :
    textFrom? sought write = some text ↔ WritesText sought write text := by
  constructor
  · intro taken
    cases write with
    | text key value =>
        obtain ⟨same, ⟨⟩⟩ := Option.ite_none_right_eq_some.mp taken
        exact .intro text ((foldKey_eq_iff key sought).mp same)
    | bytes => cases taken
  · rintro ⟨_, same⟩
    exact if_pos ((foldKey_eq_iff _ sought).mpr same)

/-- A reader who gives the suffix looks for the key under which a writer stores. -/
theorem bytesFrom?_eq_some_iff {sought : String} (suffixed : HasBinarySuffix sought)
    (write : MetadataWrite) (bytes : List UInt8) :
    bytesFrom? sought write = some bytes ↔ WritesBytes sought write bytes := by
  have stored := binaryKey_of_hasBinarySuffix suffixed
  constructor
  · intro taken
    cases write with
    | text => cases taken
    | bytes key value =>
        obtain ⟨same, ⟨⟩⟩ := Option.ite_none_right_eq_some.mp taken
        exact .intro bytes (same.trans stored.symm)
  · rintro ⟨_, same⟩
    exact if_pos (same.trans stored)

theorem bytesFrom?_of_not_hasBinarySuffix {sought : String} (bare : ¬HasBinarySuffix sought)
    (write : MetadataWrite) : bytesFrom? sought write = none := by
  cases write with
  | text => rfl
  | bytes key value => exact if_neg (binaryKey_ne_foldKey key bare)

/-- What reads find in the metadata that writes lead to. -/
structure ReadsBack (writes : List MetadataWrite) : Prop where
  text_iff : ∀ key text,
    (written writes).get? key = some text ↔ FirstWritten (WritesText key) writes text
  no_text_iff : ∀ key,
    (written writes).get? key = none ↔ NothingWritten (WritesText key) writes
  bytes_iff : ∀ key, HasBinarySuffix key → ∀ bytes,
    (written writes).getBytes? key = some bytes ↔ FirstWritten (WritesBytes key) writes bytes
  no_bytes_iff : ∀ key, HasBinarySuffix key →
    ((written writes).getBytes? key = none ↔ NothingWritten (WritesBytes key) writes)
  /-- Without the suffix no bytes are found, whatever was written. -/
  bare : ∀ key, ¬HasBinarySuffix key → (written writes).getBytes? key = none
  /-- The first bytes under a key are found under the key itself exactly if it has the suffix. -/
  added_iff : ∀ key bytes, NothingWritten (WritesBytes key) writes →
    (((written writes).addBytes key bytes).getBytes? key = some bytes ↔ HasBinarySuffix key)
  /-- Otherwise they are found under the key with the suffix appended. -/
  added_appended : ∀ key bytes, NothingWritten (WritesBytes key) writes → ¬HasBinarySuffix key →
    ((written writes).addBytes key bytes).getBytes? (key ++ "-bin") = some bytes

theorem getBytes?_eq_some_iff (writes : List MetadataWrite) {key : String}
    (suffixed : HasBinarySuffix key) (bytes : List UInt8) :
    (written writes).getBytes? key = some bytes ↔ FirstWritten (WritesBytes key) writes bytes := by
  rw [getBytes?_written]
  exact findSome?_eq_some_iff_firstWritten (bytesFrom?_eq_some_iff suffixed) writes bytes

theorem getBytes?_of_not_hasBinarySuffix (writes : List MetadataWrite) {key : String}
    (bare : ¬HasBinarySuffix key) : (written writes).getBytes? key = none := by
  rw [getBytes?_written, List.findSome?_eq_none_iff]
  exact fun write _ => bytesFrom?_of_not_hasBinarySuffix bare write

theorem addBytes_written (writes : List MetadataWrite) (key : String) (bytes : List UInt8) :
    (written writes).addBytes key bytes = written (writes ++ [.bytes key bytes]) :=
  (List.foldl_concat MetadataWrite.apply .empty (.bytes key bytes) writes).symm

/-- The first bytes under a key are found under every key with the suffix that is stored alike. -/
theorem getBytes?_addBytes {writes : List MetadataWrite} {key sought : String}
    (nothing : NothingWritten (WritesBytes key) writes) (suffixed : HasBinarySuffix sought)
    (same : binaryKey sought = binaryKey key) (bytes : List UInt8) :
    ((written writes).addBytes key bytes).getBytes? sought = some bytes := by
  have written_eq : WritesBytes sought = WritesBytes key := by
    funext write value
    refine propext ⟨?_, ?_⟩ <;> rintro ⟨_, stored⟩
    · exact .intro _ (stored.trans same)
    · exact .intro _ (stored.trans same.symm)
  rw [addBytes_written, getBytes?_eq_some_iff _ suffixed, written_eq]
  exact nothing.first (.intro bytes rfl)

/-- A read finds the first value of its kind that was written under the key, but bytes only under
a key that has the suffix of the keys under which they are stored. -/
theorem reads_back (writes : List MetadataWrite) : ReadsBack writes where
  text_iff key text := by
    rw [get?_written]
    exact findSome?_eq_some_iff_firstWritten textFrom?_eq_some_iff writes text
  no_text_iff key := by
    rw [get?_written]
    exact findSome?_eq_none_iff_nothingWritten textFrom?_eq_some_iff writes
  bytes_iff key suffixed := getBytes?_eq_some_iff writes suffixed
  no_bytes_iff key suffixed := by
    rw [getBytes?_written]
    exact findSome?_eq_none_iff_nothingWritten (bytesFrom?_eq_some_iff suffixed) writes
  bare key bare := getBytes?_of_not_hasBinarySuffix writes bare
  added_iff key bytes nothing := by
    refine ⟨fun found => ?_, fun suffixed => getBytes?_addBytes nothing suffixed rfl bytes⟩
    by_contra bare
    rw [addBytes_written, getBytes?_of_not_hasBinarySuffix _ bare] at found
    cases found
  added_appended key bytes nothing bare :=
    getBytes?_addBytes nothing (hasBinarySuffix_append key) (binaryKey_append bare) bytes

end Metadata

namespace Sample

/-- Bytes that were written under a key without the suffix are not found under this key. -/
theorem payload_missed :
    FirstWritten (Metadata.WritesBytes "payload") [.bytes "payload" [1, 2, 3]] [1, 2, 3] ∧
      (Metadata.written [.bytes "payload" [1, 2, 3]]).getBytes? "payload" = none :=
  ⟨⟨[], _, [], rfl, .intro _ rfl, by simp⟩, by decide +kernel⟩

end Sample
end RpcContracts
