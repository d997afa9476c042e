import Mathlib.Algebra.Ring.Nat
import XrpcServer.Text.Bytes
import XrpcServer.Stream.FieldLoop

/-!
# The protobuf runtime

The generated messages call the runtime for tags, strings and the fields they do not know. It is
a parameter here: a `Runtime` says what each call returns and that what is read is taken off
the input, and `Runtime.Lawful` is the documented wire format as far as the messages rely on it.
-/

namespace XrpcServer.Protobuf

open XrpcServer.Text

/-- What a tag read leaves in the `CodedInputStream`. -/
structure TagRead where
  /-- `p.first`; 0 where there is no tag. -/
  tag : UInt32
  /-- `p.second`. -/
  known : Bool
  /-- `ConsumedEntireMessage`. -/
  entire : Bool
  rest : Bytes

/-- `kint32max`. -/
def kint32max : ℕ := 2 ^ 31 - 1

/-- What the generated code calls. -/
structure Runtime where
  /-- One field of an `UnknownFieldSet`. -/
  Unknown : Type
  /-- The tag the field was read with. -/
  tagOf : Unknown → UInt32
  /-- `CodedInputStream::ReadTagWithCutoffNoLastTag`. -/
  readTag : UInt32 → Bytes → TagRead
  /-- `WireFormatLite::ReadString`: the text and what is left. -/
  readString : Bytes → Option (Bytes × Bytes)
  /-- The test of `WireFormatLite::VerifyUtf8String`. -/
  validUtf8 : Bytes → Bool
  /-- `WireFormat::SkipField`, which keeps the field it skips. -/
  skipField : UInt32 → Bytes → Option (Unknown × Bytes)
  /-- `WireFormatLite::WriteStringMaybeAliased`. -/
  writeStringMaybeAliased : ℕ → Bytes → Bytes
  /-- `WireFormatLite::WriteStringToArray`. -/
  writeStringToArray : ℕ → Bytes → Bytes
  /-- `WireFormatLite::StringSize`. -/
  stringSize : Bytes → ℕ
  /-- `WireFormat::SerializeUnknownFields`, one field of the set. -/
  serializeUnknown : Unknown → Bytes
  /-- `WireFormat::SerializeUnknownFieldsToArray`, one field of the set. -/
  serializeUnknownToArray : Unknown → Bytes
  /-- `WireFormat::ComputeUnknownFieldsSize`, one field of the set. -/
  unknownSize : Unknown → ℕ
  /-- `GetProto3PreserveUnknownsDefault`. -/
  preserveUnknowns : Bool
  readTag_rest {cutoff : UInt32} {input : Bytes} :
    (readTag cutoff input).tag ≠ 0 → (readTag cutoff input).rest.length < input.length
  readString_rest {input text rest : Bytes} :
    readString input = some (text, rest) → rest.length ≤ input.length
  skipField_rest {tag : UInt32} {input rest : Bytes} {field : Unknown} :
    skipField tag input = some (field, rest) → rest.length ≤ input.length

namespace Runtime

/-- `WireFormatLite::VerifyUtf8String`, with the field names it logs. -/
def verifyUtf8String (rt : Runtime) (data : Bytes) (fieldName : String) : Bool × List String :=
  if rt.validUtf8 data then (true, []) else (false, [fieldName])

/-- The wire format, as far as messages with two string fields rely on it. -/
structure Lawful (rt : Runtime) : Prop where
  readTag_known (cutoff : UInt32) (input : Bytes) : (rt.readTag cutoff input).known = true ↔
    (rt.readTag cutoff input).tag ≠ 0 ∧ (rt.readTag cutoff input).tag ≤ cutoff
  /-- The end of the input is the end of the message. -/
  readTag_nil (cutoff : UInt32) : (rt.readTag cutoff []).tag = 0 ∧ (rt.readTag cutoff []).entire = true
  /-- A string is written with the tag of a length-delimited field and read back behind it. -/
  readTag_string (cutoff : UInt32) {number : ℕ} {text : Bytes} (rest : Bytes) (hpos : 0 < number)
    (hnumber : number < 16) (htext : text.length ≤ kint32max) : ∃ read,
    rt.readTag cutoff (rt.writeStringMaybeAliased number text ++ rest) = read ∧
      read.tag = UInt32.ofNat (8 * number + 2) ∧ rt.readString read.rest = some (text, rest)
  readString_length {input text rest : Bytes} :
    rt.readString input = some (text, rest) → text.length ≤ kint32max
  /-- A field of an `UnknownFieldSet` is written with its tag and skipped as the same field. -/
  readTag_unknown (cutoff : UInt32) (field : rt.Unknown) (rest : Bytes) : ∃ read,
    rt.readTag cutoff (rt.serializeUnknown field ++ rest) = read ∧ read.tag = rt.tagOf field ∧
      rt.skipField read.tag read.rest = some (field, rest)
  tagOf_ne_zero (field : rt.Unknown) : rt.tagOf field ≠ 0
  skipField_tag {tag : UInt32} {input rest : Bytes} {field : rt.Unknown} :
    rt.skipField tag input = some (field, rest) → rt.tagOf field = tag
  validUtf8_nil : rt.validUtf8 [] = true
  writeStringToArray_eq (number : ℕ) (text : Bytes) :
    rt.writeStringToArray number text = rt.writeStringMaybeAliased number text
  serializeUnknownToArray_eq (field : rt.Unknown) :
    rt.serializeUnknownToArray field = rt.serializeUnknown field
  /-- The tag of a field number below 16 takes one byte. -/
  stringSize_eq {number : ℕ} (text : Bytes) (hpos : 0 < number) (hnumber : number < 16) :
    (rt.writeStringMaybeAliased number text).length = 1 + rt.stringSize text
  unknownSize_eq (field : rt.Unknown) : (rt.serializeUnknown field).length = rt.unknownSize field

end Runtime

end XrpcServer.Protobuf
