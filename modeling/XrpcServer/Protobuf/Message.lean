import XrpcServer.Protobuf.Runtime

/-!
# The generated messages

`xrpc_request` and `xrpc_reply` have the same two string fields under different names. What is
parsed into a message is merged into it, so that messages written one after the other are read
as their merge.
-/

namespace XrpcServer.Protobuf

open XrpcServer.Text XrpcServer.Stream

/-- The full names of the fields 1 and 2. -/
structure MessageType where
  firstName : String
  bodyName : String

/-- `message xrpc_request { string action = 1; string body = 2; }` -/
def xrpcRequest : MessageType := ⟨"top.xrpc_request.action", "top.xrpc_request.body"⟩

/-- `message xrpc_reply { string result = 1; string body = 2; }` -/
def xrpcReply : MessageType := ⟨"top.xrpc_reply.result", "top.xrpc_reply.body"⟩

/-- The members of a message. -/
@[ext] structure Message (rt : Runtime) where
  /-- `action_` of a request, `result_` of a reply. -/
  first : Bytes
  /-- `body_`. -/
  body : Bytes
  /-- The unknown fields in `_internal_metadata_`. -/
  unknown : List rt.Unknown

namespace Message

variable {rt : Runtime}

/-- `SharedCtor`. -/
def sharedCtor : Message rt := ⟨[], [], []⟩

/-- `Clear`. -/
def clear (_ : Message rt) : Message rt := ⟨[], [], []⟩

/-- `set_body`. -/
def setBody (body : Bytes) (m : Message rt) : Message rt := { m with body }

/-- `MergeFrom`. -/
def mergeFrom (m source : Message rt) : Message rt where
  first := if source.first.length > 0 then source.first else m.first
  body := if source.body.length > 0 then source.body else m.body
  unknown := m.unknown ++ source.unknown

/-- Merging into an empty message copies. -/
@[simp] theorem mergeFrom_clear (m source : Message rt) : m.clear.mergeFrom source = source := by
  ext1 <;> simp only [mergeFrom, clear, List.nil_append, gt_iff_lt, List.length_pos_iff, ne_eq, ite_eq_left_iff,
    Decidable.not_not] <;> exact Eq.symm

/-- The message without what is not written. -/
def written (m : Message rt) : Message rt :=
  { m with unknown := if rt.preserveUnknowns then m.unknown else [] }

end Message

section Codec

variable (rt : Runtime) (ty : MessageType)

/-- The case of a string field in `MergePartialFromCodedStream`; what is failed with is logged. -/
def readMember (fieldName : String) (rest : Bytes) (write : Bytes → Message rt) :
    Turn UInt8 (Message rt) (Message rt × Bool) (List String) :=
  match rt.readString rest with
  | none => .failed []
  | some (text, rest) =>
    let (valid, logged) := rt.verifyUtf8String text fieldName
    if valid then .next rest (write text) else .failed logged

/-- `handle_unusual`. -/
def handleUnusual (p : TagRead) (m : Message rt) :
    Turn UInt8 (Message rt) (Message rt × Bool) (List String) :=
  if p.tag = 0 then .finished (m, p.entire)
  else
    match rt.skipField p.tag p.rest with
    | none => .failed []
    | some (field, rest) => .next rest { m with unknown := m.unknown ++ [field] }

/-- One turn of the loop of `MergePartialFromCodedStream`. -/
def mergeTurn (input : Bytes) (m : Message rt) :
    Turn UInt8 (Message rt) (Message rt × Bool) (List String) :=
  let p := rt.readTag 127 input
  if p.known then
    match (p.tag >>> 3).toNat with
    | 1 =>
      if p.tag.toUInt8 = 10 then readMember rt ty.firstName p.rest fun text => { m with first := text }
      else handleUnusual rt p m
    | 2 =>
      if p.tag.toUInt8 = 18 then readMember rt ty.bodyName p.rest fun text => { m with body := text }
      else handleUnusual rt p m
    | _ => handleUnusual rt p m
  else handleUnusual rt p m

variable {rt ty}

/-- Reading a text does not lengthen the input. -/
theorem readMember_rest {fieldName : String} {input rest : Bytes} {write : Bytes → Message rt} {m : Message rt}
    (h : readMember rt fieldName input write = .next rest m) : rest.length ≤ input.length := by
  rw [readMember] at h
  split at h
  · cases h
  · rename_i text rest' hread
    dsimp only at h
    split at h
    · cases h
      exact rt.readString_rest hread
    · cases h

/-- Nor does skipping a field, which has a tag. -/
theorem handleUnusual_rest {p : TagRead} {rest : Bytes} {m m' : Message rt}
    (h : handleUnusual rt p m = .next rest m') : p.tag ≠ 0 ∧ rest.length ≤ p.rest.length := by
  rw [handleUnusual] at h
  split at h
  · cases h
  · rename_i hzero
    split at h
    · cases h
    · rename_i field rest' hskip
      cases h
      exact ⟨hzero, rt.skipField_rest hskip⟩

/-- The turns of the loop, by the tag that was read. -/
theorem mergeTurn_cases (ty : MessageType) (input : Bytes) (m : Message rt) {p : TagRead}
    (hp : rt.readTag 127 input = p) :
    (p.known = true ∧ p.tag.toUInt8 = 10 ∧ mergeTurn rt ty input m =
      readMember rt ty.firstName p.rest fun text => { m with first := text }) ∨
    (p.known = true ∧ p.tag.toUInt8 = 18 ∧ mergeTurn rt ty input m =
      readMember rt ty.bodyName p.rest fun text => { m with body := text }) ∨
    ((p.known = true → p.tag ≠ 10 ∧ p.tag ≠ 18) ∧ mergeTurn rt ty input m = handleUnusual rt p m) := by
  cases hknown : p.known with
  | false => exact .inr (.inr ⟨by simp, by simp [mergeTurn, hp, hknown]⟩)
  | true =>
    simp only [mergeTurn, hp, hknown, if_true]
    split
    · rename_i hnumber
      by_cases h10 : p.tag.toUInt8 = 10
      · exact .inl ⟨trivial, h10, if_pos h10⟩
      · exact .inr (.inr ⟨fun _ => ⟨by rintro heq; simp [heq] at h10, by rintro heq; simp [heq] at hnumber⟩,
          if_neg h10⟩)
    · rename_i hnumber
      by_cases h18 : p.tag.toUInt8 = 18
      · exact .inr (.inl ⟨trivial, h18, if_pos h18⟩)
      · exact .inr (.inr ⟨fun _ => ⟨by rintro heq; simp [heq] at hnumber, by rintro heq; simp [heq] at h18⟩,
          if_neg h18⟩)
    · rename_i hone htwo
      exact .inr (.inr ⟨fun _ => ⟨by rintro heq; simp [heq] at hone, by rintro heq; simp [heq] at htwo⟩, rfl⟩)

/-- A turn that goes on has read a tag. -/
theorem mergeTurn_rest {input rest : Bytes} {m m' : Message rt}
    (h : mergeTurn rt ty input m = .next rest m') : rest.length < input.length := by
  generalize hp : rt.readTag 127 input = p
  have hread : p.tag ≠ 0 → p.rest.length < input.length := by
    intro hzero
    rw [← hp] at hzero ⊢
    exact rt.readTag_rest hzero
  obtain ⟨-, htag, hturn⟩ | ⟨-, htag, hturn⟩ | ⟨-, hturn⟩ := mergeTurn_cases ty input m hp
  · rw [hturn] at h
    have hzero : p.tag ≠ 0 := by
      intro heq
      simp [heq] at htag
    exact (readMember_rest h).trans_lt (hread hzero)
  · rw [hturn] at h
    have hzero : p.tag ≠ 0 := by
      intro heq
      simp [heq] at htag
    exact (readMember_rest h).trans_lt (hread hzero)
  · rw [hturn] at h
    obtain ⟨hzero, hle⟩ := handleUnusual_rest h
    exact hle.trans_lt (hread hzero)

end Codec

section Codec

variable (rt : Runtime) (ty : MessageType)

/-- The loop of `MergePartialFromCodedStream`. -/
def mergeLoop : FieldLoop UInt8 (Message rt) (Message rt × Bool) (List String) where
  turn := mergeTurn rt ty
  consumes := mergeTurn_rest

/-- `MergePartialFromCodedStream`: the message, and whether the input ended where it did. A failure
says which field names were logged. -/
def mergePartialFromCodedStream (input : Bytes) (m : Message rt) :
    Except (List String) (Message rt × Bool) := (mergeLoop rt ty).run input m

/-- A string field that is not empty. -/
def writeMember (write : ℕ → Bytes → Bytes) (number : ℕ) (text : Bytes) : Bytes :=
  if text.length > 0 then write number text else []

/-- What checking a string field before it is written logs. -/
def warnMember (fieldName : String) (text : Bytes) : List String :=
  if text.length > 0 then (rt.verifyUtf8String text fieldName).2 else []

/-- The fields in the order they are written, the unknown ones last, and what is logged. -/
def serialize (write : ℕ → Bytes → Bytes) (writeUnknown : rt.Unknown → Bytes) (m : Message rt) :
    Bytes × List String :=
  (writeMember write 1 m.first ++ writeMember write 2 m.body ++
      (if !m.unknown.isEmpty && rt.preserveUnknowns then m.unknown.flatMap writeUnknown else []),
    warnMember rt ty.firstName m.first ++ warnMember rt ty.bodyName m.body)

/-- `SerializeWithCachedSizes`. -/
def serializeWithCachedSizes : Message rt → Bytes × List String :=
  serialize rt ty rt.writeStringMaybeAliased rt.serializeUnknown

/-- `InternalSerializeWithCachedSizesToArray`. -/
def internalSerializeWithCachedSizesToArray : Message rt → Bytes × List String :=
  serialize rt ty rt.writeStringToArray rt.serializeUnknownToArray

/-- `ByteSizeLong`. -/
def byteSizeLong (m : Message rt) : ℕ :=
  (if !m.unknown.isEmpty && rt.preserveUnknowns then (m.unknown.map rt.unknownSize).sum else 0) +
    (if m.first.length > 0 then 1 + rt.stringSize m.first else 0) +
    (if m.body.length > 0 then 1 + rt.stringSize m.body else 0)

end Codec

end XrpcServer.Protobuf
