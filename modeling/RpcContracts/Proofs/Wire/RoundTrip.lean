import Mathlib.Algebra.Group.Nat.Defs
import RpcContracts.Contract.Type

/-!
# Messages come back from the wire

Every part of the binary form is read back from what was written, whatever follows it: numbers,
keys, the content of a field, and a whole field, which at its default is not written at all. A
message is read back from its fields. Two message types whose fields have the same numbers have the
same bytes, so what one wrote can be read as the other.
-/

namespace RpcContracts
namespace Wire

/-! ## Numbers and keys -/

/-- Of the 64 bits of a number, each byte before it has taken seven. -/
theorem readVarintFrom_writeVarint {number position : Nat} (rest : List UInt8)
    (early : position ≤ 9) (fits : number < 2 ^ (64 - 7 * position)) :
    readVarintFrom position (writeVarint number ++ rest) = some (number, rest) := by
  induction number using writeVarint.induct generalizing position with
  | case1 number small =>
      have byte_eq : (UInt8.ofNat number).toNat = number := by
        rw [UInt8.toNat_ofNat']
        omega
      have in_range : ¬10 ≤ position := by omega
      have last : ¬(position = 9 ∧ 2 ≤ number) := by
        rintro ⟨rfl, large⟩
        omega
      rw [writeVarint, if_pos small, List.singleton_append, readVarintFrom, byte_eq,
        if_neg in_range, if_pos small, if_neg last]
  | case2 number large ih =>
      have byte_eq : (UInt8.ofNat (number % 128 + 128)).toNat = number % 128 + 128 := by
        rw [UInt8.toNat_ofNat']
        omega
      have in_range : ¬10 ≤ position := by omega
      have continued : ¬number % 128 + 128 < 128 := by omega
      have not_last : position ≠ 9 := by
        rintro rfl
        omega
      have bits_eq : 64 - 7 * position = (64 - 7 * (position + 1)) + 7 := by omega
      have high_fits : number / 128 < 2 ^ (64 - 7 * (position + 1)) := by
        rw [bits_eq, Nat.pow_add] at fits
        exact Nat.div_lt_of_lt_mul (Nat.mul_comm _ _ ▸ fits)
      have parts : number % 128 + 128 - 128 + 128 * (number / 128) = number := by omega
      rw [writeVarint, if_neg large, List.cons_append, readVarintFrom, byte_eq, if_neg in_range,
        if_neg continued, ih (by omega) high_fits]
      simp only [parts]

theorem takeVarint_writeVarint {number : Nat} (fits : number < 2 ^ 64) (rest : List UInt8) :
    ∃ shorter, takeVarint (writeVarint number ++ rest) = .ok (number, ⟨rest, shorter⟩) := by
  have read_eq : readVarint (writeVarint number ++ rest) = some (number, rest) :=
    readVarintFrom_writeVarint rest (Nat.zero_le 9) fits
  refine ⟨length_of_readVarint read_eq, ?_⟩
  unfold takeVarint
  split
  · next found found_eq =>
      cases read_eq.symm.trans found_eq
      rfl
  · next missing => cases read_eq.symm.trans missing

theorem WireType.ofRaw?_raw (type : WireType) : ofRaw? type.raw = some type := by
  cases type <;> rfl

theorem WireType.raw_lt (type : WireType) : type.raw < 8 := by
  cases type <;> decide

theorem takeKey_writeKey {number : Nat} (positive : 0 < number) (fits : number < 2 ^ 29)
    (type : WireType) (rest : List UInt8) :
    ∃ shorter, takeKey (writeKey number type ++ rest) = .ok (number, type, ⟨rest, shorter⟩) := by
  have raw_lt := type.raw_lt
  have size_eq : UInt32.size = 8 * 2 ^ 29 := rfl
  obtain ⟨shorter, taken⟩ := takeVarint_writeVarint
    (show 8 * number + type.raw < 2 ^ 64 by omega) rest
  refine ⟨shorter, ?_⟩
  have valid : ¬UInt32.size ≤ 8 * number + type.raw := by omega
  have raw_eq : (8 * number + type.raw) % 8 = type.raw := by omega
  have number_eq : (8 * number + type.raw) / 8 = number := by omega
  unfold takeKey writeKey
  rw [taken]
  simp only [if_neg valid, raw_eq, number_eq, type.ofRaw?_raw, if_neg (Nat.ne_of_gt positive)]

/-! ## The content of fields -/

theorem takeNumber_writeVarint (value : UInt64) (rest : List UInt8) :
    ∃ shorter, takeNumber .varint (writeVarint value.toNat ++ rest) =
      .ok (value, ⟨rest, shorter⟩) := by
  obtain ⟨shorter, taken⟩ := takeVarint_writeVarint value.toNat_lt rest
  refine ⟨Nat.le_of_lt shorter, ?_⟩
  simp only [takeNumber, if_true, taken, UInt64.ofNat_toNat]

theorem takeText_writeText {text : String} (fits : (Text.utf8Bytes text).length < 2 ^ 64)
    (rest : List UInt8) :
    ∃ shorter, takeText .lengthDelimited
      (writeVarint (Text.utf8Bytes text).length ++ (Text.utf8Bytes text ++ rest)) =
        .ok (text, ⟨rest, shorter⟩) := by
  obtain ⟨shorter, taken⟩ := takeVarint_writeVarint fits (Text.utf8Bytes text ++ rest)
  have enough : ¬(Text.utf8Bytes text ++ rest).length < (Text.utf8Bytes text).length := by
    rw [List.length_append]
    omega
  have remaining : rest.length ≤ (writeVarint (Text.utf8Bytes text).length ++
      (Text.utf8Bytes text ++ rest)).length := by
    simp only [List.length_append]
    omega
  refine ⟨remaining, ?_⟩
  simp only [takeText, if_true, taken, dropBytes, if_neg enough, List.take_left',
    Text.ofUtf8Bytes?_utf8Bytes, List.drop_left']

end Wire

/-! ## Messages -/

namespace Message

open Wire

/-- The text of a message is not too long to be written. -/
def Fits (message : Message) : Prop := (Text.utf8Bytes message.text).length < 2 ^ 64

instance (message : Message) : Decidable message.Fits :=
  inferInstanceAs (Decidable (_ < _))

theorem kind_withId (message : Message) (id : UInt64) :
    (message.withId id).kind = message.kind := by
  cases message <;> rfl

theorem withId_id (message : Message) : message.withId message.id = message := by
  cases message <;> rfl

theorem withText_text (message : Message) : message.withText message.text = message := by
  cases message <;> rfl

theorem merge_nil (message : Message) : message.merge [] = .ok message := by
  rw [merge]
  rfl

/-- A field is read before all that follows it. -/
theorem merge_field {message merged : Message} {number : Nat} {type : WireType}
    {content rest : List UInt8} (positive : 0 < number) (fits : number < 2 ^ 29)
    (read : ∃ shorter, message.mergeField number type content = .ok (merged, ⟨rest, shorter⟩)) :
    message.merge (writeKey number type ++ content) = merged.merge rest := by
  obtain ⟨keyShorter, taken⟩ := takeKey_writeKey positive fits type content
  obtain ⟨shorter, read⟩ := read
  have nonempty : ¬(writeKey number type ++ content).isEmpty = true := by
    intro empty
    rw [List.isEmpty_iff.mp empty] at keyShorter
    cases keyShorter
  rw [merge, if_neg nonempty]
  simp only [taken, read]

variable {message : Message} {number : Nat} (positive : 0 < number) (fits : number < 2 ^ 29)

include positive fits

theorem merge_writeNumberField (field_eq : field? message.kind number = some .id)
    (unset : message.id = 0) (value : UInt64) (rest : List UInt8) :
    message.merge (writeNumberField number value ++ rest) = (message.withId value).merge rest := by
  by_cases omitted : value = 0
  · have same : message.withId value = message := by
      rw [omitted, ← unset, withId_id]
    rw [writeNumberField, if_pos omitted, same, List.nil_append]
  · obtain ⟨shorter, taken⟩ := takeNumber_writeVarint value rest
    rw [writeNumberField, if_neg omitted, List.append_assoc]
    refine merge_field positive fits ⟨shorter, ?_⟩
    simp only [mergeField, field_eq, taken]

theorem merge_writeTextField (field_eq : field? message.kind number = some .text)
    (unset : message.text = "") {value : String} (short : (Text.utf8Bytes value).length < 2 ^ 64)
    (rest : List UInt8) :
    message.merge (writeTextField number value ++ rest) = (message.withText value).merge rest := by
  by_cases omitted : value = ""
  · have same : message.withText value = message := by
      rw [omitted, ← unset, withText_text]
    rw [writeTextField, if_pos omitted, same, List.nil_append]
  · obtain ⟨shorter, taken⟩ := takeText_writeText short rest
    rw [writeTextField, if_neg omitted, List.append_assoc, List.append_assoc]
    refine merge_field positive fits ⟨shorter, ?_⟩
    simp only [mergeField, field_eq, taken]

omit positive fits

/-- The message of a type with the number and the text of another message. -/
def retyped (kind : MessageKind) (message : Message) : Message :=
  ((default kind).withId message.id).withText message.text

theorem retyped_kind (message : Message) : message.retyped message.kind = message := by
  cases message <;> rfl

/-- The fields of two types have the same numbers. -/
def SameFields (kind other : MessageKind) : Prop :=
  ∀ number, field? kind number = field? other number

theorem sameFields_pong : SameFields .pong .ping
  | 0 => rfl
  | 1 => rfl
  | 2 => rfl
  | _ + 3 => rfl

/-- What a message wrote is read as any type whose fields have the same numbers. -/
theorem decode_encode {kind : MessageKind} (same : SameFields kind message.kind)
    (short : message.Fits) : decode kind message.encode = .ok (message.retyped kind) := by
  have kind_default : (default kind).kind = kind := by cases kind <;> rfl
  have id_default : (default kind).id = 0 := by cases kind <;> rfl
  have id_read (rest : List UInt8) (field_eq : field? message.kind 1 = some .id) :
      (default kind).merge (writeNumberField 1 message.id ++ rest) =
        ((default kind).withId message.id).merge rest :=
    merge_writeNumberField Nat.one_pos (by decide) (by rw [kind_default, same, field_eq])
      id_default message.id rest
  have text_read (number : Nat) (positive : 0 < number) (fits : number < 2 ^ 29)
      (field_eq : field? message.kind number = some .text) :
      ((default kind).withId message.id).merge (writeTextField number message.text) =
        .ok (message.retyped kind) := by
    have text_default : ((default kind).withId message.id).text = "" := by cases kind <;> rfl
    have read := merge_writeTextField positive fits
      (by rw [kind_withId, kind_default, same, field_eq]) text_default short []
    rwa [List.append_nil, merge_nil] at read
  have unnumbered : (default kind).withId 0 = default kind := id_default ▸ withId_id _
  unfold decode
  cases message with
  | ping id label => exact (id_read _ rfl).trans (text_read 2 Nat.two_pos (by decide) rfl)
  | pong id label => exact (id_read _ rfl).trans (text_read 2 Nat.two_pos (by decide) rfl)
  | helloRequest name =>
      rw [← unnumbered]
      exact text_read 1 Nat.one_pos (by decide) rfl
  | helloReply reply =>
      rw [← unnumbered]
      exact text_read 1 Nat.one_pos (by decide) rfl

end Message

/-! ## Marshallers -/

namespace Marshaller

/-- What one marshaller writes of a message, another reads as a given message. -/
def Relays (writer reader : Marshaller) (message read : Message) : Prop :=
  ∃ bytes, writer.serialize (.message message) = .ok bytes ∧
    reader.deserialize bytes = .ok (.message read)

theorem relays_of_sameFields {message : Message} {kind : MessageKind}
    (same : Message.SameFields kind message.kind) (short : message.Fits) :
    Relays (.message message.kind) (.message kind) message (message.retyped kind) := by
  refine ⟨message.encode, ?_, ?_⟩
  · show writeMessage message.kind (.message message) = .ok message.encode
    rw [writeMessage, if_pos rfl]
  · show readMessage kind message.encode = .ok (.message (message.retyped kind))
    rw [readMessage, Message.decode_encode same short]

theorem serialize_of_type_ne {kind : MessageKind} {payload : Payload}
    (other : payload.type ≠ .message kind) :
    (Marshaller.message kind).serialize payload =
      .error (.typeMismatch (Marshaller.message kind).typeName) := by
  show writeMessage kind payload = .error (.typeMismatch kind.name)
  cases payload with
  | message message =>
      have kind_ne : message.kind ≠ kind := fun same => other (congrArg ValueType.message same)
      rw [writeMessage, if_neg kind_ne]
  | _ => rfl

/-- Every message comes back from its marshaller, pings and pongs read each other, and a marshaller
refuses all values but those of its type. -/
theorem messages_relayed :
    (∀ message : Message, message.Fits →
      Relays (.message message.kind) (.message message.kind) message message) ∧
    (∀ id label, (Message.ping id label).Fits →
      Relays (.message .ping) (.message .pong) (.ping id label) (.pong id label)) ∧
    (∀ id label, (Message.pong id label).Fits →
      Relays (.message .pong) (.message .ping) (.pong id label) (.ping id label)) ∧
    ∀ (kind : MessageKind) (payload : Payload), payload.type ≠ .message kind →
      (Marshaller.message kind).serialize payload =
        .error (.typeMismatch (Marshaller.message kind).typeName) := by
  refine ⟨?_, ?_, ?_, fun kind payload other => serialize_of_type_ne other⟩
  · intro message short
    have relays : Relays (.message message.kind) (.message message.kind) message
        (message.retyped message.kind) := relays_of_sameFields (fun _ => rfl) short
    rwa [Message.retyped_kind] at relays
  · intro id label short
    exact relays_of_sameFields Message.sameFields_pong short
  · intro id label short
    exact relays_of_sameFields (fun number => (Message.sameFields_pong number).symm) short

end Marshaller

namespace Sample

/-- A text whose length takes two bytes to write. -/
def wideText : String := String.ofList (List.replicate 64 'é')

/-- The largest number, which takes ten bytes to write. -/
def wideId : UInt64 := 0xFFFFFFFFFFFFFFFF

theorem widePing_relayed :
    (Message.ping wideId wideText).Fits ∧ (Message.pong wideId wideText).Fits ∧
      (Message.ping wideId wideText).encode.length = 11 + 3 + 128 ∧
      Marshaller.Relays (.message .ping) (.message .ping) (.ping wideId wideText)
        (.ping wideId wideText) ∧
      Marshaller.Relays (.message .ping) (.message .pong) (.ping wideId wideText)
        (.pong wideId wideText) ∧
      Marshaller.Relays (.message .pong) (.message .ping) (.pong wideId wideText)
        (.ping wideId wideText) ∧
      Payload.type (.message (.helloRequest wideText)) ≠ .message .ping ∧
      (Marshaller.message .ping).serialize (.message (.helloRequest wideText)) =
        .error (.typeMismatch "example_protocall_service_definition::messages::Ping") := by
  have pingFits : (Message.ping wideId wideText).Fits := by decide +kernel
  have pongFits : (Message.pong wideId wideText).Fits := by decide +kernel
  have other : Payload.type (.message (.helloRequest wideText)) ≠ .message .ping := by decide
  obtain ⟨same, toPong, toPing, refused⟩ := Marshaller.messages_relayed
  exact ⟨pingFits, pongFits, by decide +kernel, same _ pingFits, toPong _ _ pingFits,
    toPing _ _ pongFits, other, refused .ping _ other⟩

end Sample

end RpcContracts
