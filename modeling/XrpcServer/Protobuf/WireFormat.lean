import XrpcServer.Protobuf.Runtime
import XrpcServer.Stream.Varint

/-!
# The documented wire format

A runtime that follows the description of the wire format: tags and lengths are varints, a
string is its length and its bytes, and an unknown field is skipped by its wire type. It does
not skip groups, which messages of a `proto3` file do not have.
-/

namespace XrpcServer.Protobuf

open XrpcServer.Text XrpcServer.Stream

/-- What follows the tag of a field, by wire type. -/
inductive Payload where
  | varint (value : ℕ)
  | fixed64 (bytes : Bytes)
  | lengthDelimited (bytes : Bytes)
  | fixed32 (bytes : Bytes)

namespace Payload

def wireType : Payload → ℕ
  | .varint _ => 0
  | .fixed64 _ => 1
  | .lengthDelimited _ => 2
  | .fixed32 _ => 5

/-- The value has the width of its wire type. -/
def Sized : Payload → Prop
  | .varint value => value < 2 ^ 64
  | .fixed64 bytes => bytes.length = 8
  | .lengthDelimited bytes => bytes.length ≤ kint32max
  | .fixed32 bytes => bytes.length = 4

instance : (payload : Payload) → Decidable payload.Sized
  | .varint value => inferInstanceAs (Decidable (value < 2 ^ 64))
  | .fixed64 bytes => inferInstanceAs (Decidable (bytes.length = 8))
  | .lengthDelimited bytes => inferInstanceAs (Decidable (bytes.length ≤ kint32max))
  | .fixed32 bytes => inferInstanceAs (Decidable (bytes.length = 4))

/-- A wire type has three bits. -/
theorem wireType_lt (payload : Payload) : payload.wireType < 8 := by
  cases payload <;> simp [wireType]

end Payload

/-- A field with a tag of 32 bits. -/
structure UnknownField where
  number : ℕ
  payload : Payload
  number_pos : 0 < number
  number_lt : number < 2 ^ 29
  sized : payload.Sized

def UnknownField.tag (field : UnknownField) : ℕ := 8 * field.number + field.payload.wireType

/-- A tag has 32 bits. -/
theorem UnknownField.tag_lt (field : UnknownField) : field.tag < 2 ^ 32 := by
  have := field.number_lt
  have := field.payload.wireType_lt
  rw [UnknownField.tag]
  omega

/-- And is not zero, which would end the message. -/
theorem UnknownField.tag_pos (field : UnknownField) : 0 < field.tag := by
  have := field.number_pos
  rw [UnknownField.tag]
  omega

section Bytes

/-- Take bytes off the input. -/
def readRaw (size : ℕ) (input : Bytes) : Option (Bytes × Bytes) :=
  if size ≤ input.length then some (input.take size, input.drop size) else none

/-- A length of 31 bits and as many bytes. -/
def readLengthDelimited (input : Bytes) : Option (Bytes × Bytes) :=
  (decodeVarint 10 input).bind fun (n, rest) =>
    if n % 2 ^ 32 ≤ kint32max then readRaw (n % 2 ^ 32) rest else none

/-- A length and the bytes. -/
def writeLengthDelimited (bytes : Bytes) : Bytes := encodeVarint 5 bytes.length ++ bytes

/-- The first bytes of an input are read as they are. -/
theorem readRaw_append {size : ℕ} {bytes : Bytes} (hsize : bytes.length = size) (rest : Bytes) :
    readRaw size (bytes ++ rest) = some (bytes, rest) := by
  rw [← hsize, readRaw, if_pos (by simp), List.take_left, List.drop_left]

/-- As many bytes are read as were asked for. -/
theorem readRaw_eq {size : ℕ} {input bytes rest : Bytes} (h : readRaw size input = some (bytes, rest)) :
    bytes.length = size ∧ rest.length ≤ input.length := by
  rw [readRaw] at h
  split at h
  · cases h
    simp only [List.length_take, List.length_drop]
    omega
  · cases h

/-- What is written behind its length is read back. -/
theorem readLengthDelimited_write {bytes : Bytes} (hbytes : bytes.length ≤ kint32max) (rest : Bytes) :
    readLengthDelimited (writeLengthDelimited bytes ++ rest) = some (bytes, rest) := by
  have hlength : bytes.length % 2 ^ 32 = bytes.length := by
    rw [kint32max] at hbytes
    omega
  have hwritten : bytes.length < 128 ^ 5 := by
    rw [kint32max] at hbytes
    omega
  rw [readLengthDelimited, writeLengthDelimited, List.append_assoc,
    decodeVarint_encodeVarint (by omega) (by omega) hwritten]
  simp only [Option.bind_some, hlength, if_pos hbytes, readRaw_append]

/-- What is read behind its length is no longer than can be written. -/
theorem readLengthDelimited_eq {input bytes rest : Bytes} (h : readLengthDelimited input = some (bytes, rest)) :
    bytes.length ≤ kint32max ∧ rest.length ≤ input.length := by
  obtain ⟨⟨n, rest'⟩, hdecode, hread⟩ := Option.bind_eq_some_iff.mp h
  dsimp only at hread
  split at hread
  · rename_i hn
    obtain ⟨hlength, hrest⟩ := readRaw_eq hread
    have := decodeVarint_rest hdecode
    omega
  · cases hread

end Bytes

section Fields

/-- The payload of the wire type. -/
def readPayload (wireType : ℕ) (input : Bytes) : Option (Payload × Bytes) :=
  match wireType with
  | 0 => (decodeVarint 10 input).map fun (n, rest) => (.varint (n % 2 ^ 64), rest)
  | 1 => (readRaw 8 input).map fun (bytes, rest) => (.fixed64 bytes, rest)
  | 2 => (readLengthDelimited input).map fun (bytes, rest) => (.lengthDelimited bytes, rest)
  | 5 => (readRaw 4 input).map fun (bytes, rest) => (.fixed32 bytes, rest)
  | _ => none

def writePayload : Payload → Bytes
  | .varint value => encodeVarint 10 value
  | .fixed64 bytes => bytes
  | .lengthDelimited bytes => writeLengthDelimited bytes
  | .fixed32 bytes => bytes

/-- A payload is read back by its wire type. -/
theorem readPayload_write {payload : Payload} (hsized : payload.Sized) (rest : Bytes) :
    readPayload payload.wireType (writePayload payload ++ rest) = some (payload, rest) := by
  cases payload with
  | varint value =>
    have hvalue : value < 128 ^ 10 := lt_trans hsized (by omega)
    simp only [Payload.wireType, readPayload, writePayload,
      decodeVarint_encodeVarint (by omega) le_rfl hvalue, Option.map_some, Nat.mod_eq_of_lt hsized]
  | fixed64 bytes =>
    simp only [Payload.wireType, readPayload, writePayload, readRaw_append hsized, Option.map_some]
  | lengthDelimited bytes =>
    simp only [Payload.wireType, readPayload, writePayload, readLengthDelimited_write hsized, Option.map_some]
  | fixed32 bytes =>
    simp only [Payload.wireType, readPayload, writePayload, readRaw_append hsized, Option.map_some]

/-- The payload has the wire type it was read by, and is taken off the input. -/
theorem readPayload_eq {wireType : ℕ} {input rest : Bytes} {payload : Payload}
    (h : readPayload wireType input = some (payload, rest)) :
    payload.wireType = wireType ∧ rest.length ≤ input.length := by
  unfold readPayload at h
  split at h
  · obtain ⟨⟨n, rest'⟩, hdecode, heq⟩ := Option.map_eq_some_iff.mp h
    cases heq
    exact ⟨rfl, (decodeVarint_rest hdecode).le⟩
  · obtain ⟨⟨bytes, rest'⟩, hread, heq⟩ := Option.map_eq_some_iff.mp h
    cases heq
    exact ⟨rfl, (readRaw_eq hread).2⟩
  · obtain ⟨⟨bytes, rest'⟩, hread, heq⟩ := Option.map_eq_some_iff.mp h
    cases heq
    exact ⟨rfl, (readLengthDelimited_eq hread).2⟩
  · obtain ⟨⟨bytes, rest'⟩, hread, heq⟩ := Option.map_eq_some_iff.mp h
    cases heq
    exact ⟨rfl, (readRaw_eq hread).2⟩
  · cases h

/-- Skip a field of this tag, and keep it. -/
def skipUnknown (tag : UInt32) (input : Bytes) : Option (UnknownField × Bytes) :=
  (readPayload (tag.toNat % 8) input).bind fun (payload, rest) =>
    if h : 0 < tag.toNat / 8 ∧ payload.Sized then
      some (⟨tag.toNat / 8, payload, h.1, by have := tag.toNat_lt; omega, h.2⟩, rest)
    else none

/-- A field that is skipped is kept with the tag it was read with. -/
theorem skipUnknown_eq {tag : UInt32} {input rest : Bytes} {field : UnknownField}
    (h : skipUnknown tag input = some (field, rest)) :
    field.tag = tag.toNat ∧ rest.length ≤ input.length := by
  obtain ⟨⟨payload, rest'⟩, hread, hfield⟩ := Option.bind_eq_some_iff.mp h
  obtain ⟨htype, hrest⟩ := readPayload_eq hread
  dsimp only at hfield
  split at hfield
  · cases hfield
    rw [UnknownField.tag]
    dsimp only
    omega
  · cases hfield

/-- A field that was written is skipped as the same field. -/
theorem skipUnknown_write {tag : UInt32} {field : UnknownField} (htag : tag.toNat = field.tag) (rest : Bytes) :
    skipUnknown tag (writePayload field.payload ++ rest) = some (field, rest) := by
  have htype : tag.toNat % 8 = field.payload.wireType := by
    have := field.payload.wireType_lt
    rw [htag, UnknownField.tag]
    omega
  have hnumber : tag.toNat / 8 = field.number := by
    have := field.payload.wireType_lt
    rw [htag, UnknownField.tag]
    omega
  rw [skipUnknown, htype, readPayload_write field.sized, Option.bind_some]
  simp only [hnumber]
  exact dif_pos ⟨field.number_pos, field.sized⟩

end Fields

/-- Read a tag. -/
def readTagRaw (cutoff : UInt32) (input : Bytes) : TagRead :=
  match decodeVarint 10 input with
  | none => ⟨0, false, input.isEmpty, input⟩
  | some (n, rest) => ⟨.ofNat n, decide (UInt32.ofNat n ≠ 0 ∧ UInt32.ofNat n ≤ cutoff), false, rest⟩

/-- A tag that was written is read back. -/
theorem readTagRaw_write (cutoff : UInt32) {tag : ℕ} (htag : tag < 2 ^ 32) (rest : Bytes) :
    readTagRaw cutoff (encodeVarint 5 tag ++ rest) =
      ⟨.ofNat tag, decide (UInt32.ofNat tag ≠ 0 ∧ UInt32.ofNat tag ≤ cutoff), false, rest⟩ := by
  rw [readTagRaw, decodeVarint_encodeVarint (by omega) (by omega) (by omega)]

/-- The wire format. -/
def wireFormat : Runtime where
  Unknown := UnknownField
  tagOf field := .ofNat field.tag
  readTag := readTagRaw
  readString := readLengthDelimited
  validUtf8 data := (ByteArray.mk data.toArray).validateUTF8
  skipField := skipUnknown
  writeStringMaybeAliased number text := encodeVarint 5 (8 * number + 2) ++ writeLengthDelimited text
  writeStringToArray number text := encodeVarint 5 (8 * number + 2) ++ writeLengthDelimited text
  stringSize text := (writeLengthDelimited text).length
  serializeUnknown field := encodeVarint 5 field.tag ++ writePayload field.payload
  serializeUnknownToArray field := encodeVarint 5 field.tag ++ writePayload field.payload
  unknownSize field := (encodeVarint 5 field.tag ++ writePayload field.payload).length
  preserveUnknowns := true
  readTag_rest {cutoff input} h := by
    cases hdecode : decodeVarint 10 input with
    | none => simp [readTagRaw, hdecode] at h
    | some result =>
      simp only [readTagRaw, hdecode]
      exact decodeVarint_rest hdecode
  readString_rest h := (readLengthDelimited_eq h).2
  skipField_rest h := (skipUnknown_eq h).2

/-- The bytes of a string are well-formed. -/
theorem validUtf8_str (s : String) : wireFormat.validUtf8 (str s) = true :=
  ByteArray.validateUTF8_eq_true_iff.mpr s.isValidUTF8

/-- The wire format does what messages rely on. -/
theorem lawful_wireFormat : wireFormat.Lawful where
  readTag_known cutoff input := by
    change (readTagRaw cutoff input).known = true ↔ (readTagRaw cutoff input).tag ≠ 0 ∧
      (readTagRaw cutoff input).tag ≤ cutoff
    rw [readTagRaw]
    split <;> simp
  readTag_nil cutoff := ⟨rfl, rfl⟩
  readTag_string cutoff {number text} rest hpos hnumber htext := by
    refine ⟨_, rfl, ?_⟩
    simp only [wireFormat, List.append_assoc]
    rw [readTagRaw_write cutoff (by omega)]
    exact ⟨rfl, readLengthDelimited_write htext rest⟩
  readString_length h := (readLengthDelimited_eq h).1
  readTag_unknown cutoff field rest := by
    refine ⟨_, rfl, ?_⟩
    simp only [wireFormat, List.append_assoc]
    rw [readTagRaw_write cutoff field.tag_lt]
    exact ⟨rfl, skipUnknown_write (UInt32.toNat_ofNat_of_lt' field.tag_lt) rest⟩
  tagOf_ne_zero field := by
    intro hzero
    have := congrArg UInt32.toNat hzero
    simp only [wireFormat, UInt32.toNat_ofNat_of_lt' field.tag_lt] at this
    exact field.tag_pos.ne' this
  skipField_tag {tag input rest field} h := by
    simp only [wireFormat]
    rw [(skipUnknown_eq h).1, UInt32.ofNat_toNat]
  validUtf8_nil := validUtf8_str ""
  writeStringToArray_eq _ _ := rfl
  serializeUnknownToArray_eq _ := rfl
  stringSize_eq {number} text hpos hnumber := by
    have htag : 8 * number + 2 < 128 := by omega
    simp only [wireFormat, encodeVarint, if_pos htag, List.length_append, List.length_singleton]
  unknownSize_eq _ := rfl

end XrpcServer.Protobuf
