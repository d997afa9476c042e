import XrpcServer.Protobuf.Message
import XrpcServer.Protobuf.WireFormat

/-!
# Reading back what was written

A message is written without a check of its texts: what is not UTF-8 is logged and written all
the same. The reader refuses it at the first such field, so what the writer logs decides what
the reader gets.
-/

namespace XrpcServer.Protobuf

open XrpcServer.Text XrpcServer.Stream

variable {rt : Runtime} {ty : MessageType}

/-- The string fields of a message. -/
inductive Slot where
  | first
  | body

namespace Slot

/-- `kActionFieldNumber` or `kResultFieldNumber`, and `kBodyFieldNumber`. -/
def number : Slot → ℕ
  | .first => 1
  | .body => 2

def fieldName (ty : MessageType) : Slot → String
  | .first => ty.firstName
  | .body => ty.bodyName

def write (text : Bytes) (m : Message rt) : Slot → Message rt
  | .first => { m with first := text }
  | .body => { m with body := text }

/-- The tags of the fields take one byte. -/
theorem number_bounds (slot : Slot) : 0 < slot.number ∧ slot.number < 16 := by
  cases slot <;> simp [number]

end Slot

namespace Message

/-- The texts have a length that can be written. -/
structure Fits (m : Message rt) : Prop where
  first : m.first.length ≤ kint32max
  body : m.body.length ≤ kint32max

/-- No unknown field has the tag of a string field of the message. -/
def Unusual (m : Message rt) : Prop := ∀ field ∈ m.unknown, rt.tagOf field ≠ 10 ∧ rt.tagOf field ≠ 18

/-- The reader would take the texts. -/
structure Valid (m : Message rt) : Prop where
  first : rt.validUtf8 m.first = true
  body : rt.validUtf8 m.body = true

/-- A message without unknown fields has none with such a tag. -/
theorem unusual_of_nil {m : Message rt} (h : m.unknown = []) : m.Unusual := by
  intro field hfield
  rw [h] at hfield
  cases hfield

/-- Leaving out unknown fields brings in none. -/
theorem unusual_written {m : Message rt} (h : m.Unusual) : m.written.Unusual := by
  intro field hfield
  simp only [written] at hfield
  split at hfield
  · exact h field hfield
  · cases hfield

end Message

/-- What is left out of the message is not written anyway. -/
theorem serializeWithCachedSizes_written (m : Message rt) :
    serializeWithCachedSizes rt ty m.written = serializeWithCachedSizes rt ty m := by
  cases hpreserve : rt.preserveUnknowns <;>
    simp [serializeWithCachedSizes, serialize, Message.written, hpreserve]

/-- The loop ends with the message it has got. -/
theorem mergeTurn_finished {input : Bytes} {m : Message rt} {result : Message rt × Bool}
    (h : mergeTurn rt ty input m = .finished result) : result.1 = m := by
  have hmember {fieldName : String} {rest : Bytes} {write : Bytes → Message rt} :
      readMember rt fieldName rest write ≠ .finished result := by
    rw [readMember]
    split
    · simp
    · dsimp only
      split <;> simp
  obtain ⟨-, -, hturn⟩ | ⟨-, -, hturn⟩ | ⟨-, hturn⟩ := mergeTurn_cases ty input m rfl
  · exact absurd (hturn.symm.trans h) hmember
  · exact absurd (hturn.symm.trans h) hmember
  · rw [hturn, handleUnusual] at h
    split at h
    · cases h
      rfl
    · split at h <;> cases h

section Writing

variable (hrt : rt.Lawful)

include hrt

/-- Nothing is logged for a text exactly when the reader would take it. -/
theorem warnMember_eq (fieldName : String) (text : Bytes) :
    warnMember rt fieldName text = if rt.validUtf8 text then [] else [fieldName] := by
  cases text with
  | nil => simp [warnMember, hrt.validUtf8_nil]
  | cons a text =>
    simp only [warnMember, Runtime.verifyUtf8String, List.length_cons, gt_iff_lt, Nat.zero_lt_succ, if_true]
    split <;> rfl

/-- The fields the reader would refuse are logged, and no others. -/
theorem logged_serializeWithCachedSizes (ty : MessageType) (m : Message rt) :
    (serializeWithCachedSizes rt ty m).2 =
      (if rt.validUtf8 m.first then [] else [ty.firstName]) ++
        if rt.validUtf8 m.body then [] else [ty.bodyName] := by
  simp only [serializeWithCachedSizes, serialize, warnMember_eq hrt]

/-- Nothing is logged for a message the reader would take, and only for such a message. -/
theorem logged_eq_nil_iff (ty : MessageType) (m : Message rt) :
    (serializeWithCachedSizes rt ty m).2 = [] ↔ m.Valid := by
  rw [logged_serializeWithCachedSizes hrt]
  constructor
  · intro hnil
    obtain ⟨hfirst, hbody⟩ := List.append_eq_nil_iff.mp hnil
    exact ⟨by simpa using hfirst, by simpa using hbody⟩
  · rintro ⟨hfirst, hbody⟩
    rw [hfirst, hbody]
    rfl

/-- Both ways of writing a message write the same. -/
theorem internalSerializeWithCachedSizesToArray_eq :
    internalSerializeWithCachedSizesToArray rt ty = serializeWithCachedSizes rt ty := by
  have hstring : rt.writeStringToArray = rt.writeStringMaybeAliased := by
    funext number text
    exact hrt.writeStringToArray_eq number text
  have hunknown : rt.serializeUnknownToArray = rt.serializeUnknown := by
    funext field
    exact hrt.serializeUnknownToArray_eq field
  rw [internalSerializeWithCachedSizesToArray, serializeWithCachedSizes, hstring, hunknown]

/-- As many bytes are written as were reserved. -/
theorem length_serializeWithCachedSizes (m : Message rt) :
    (serializeWithCachedSizes rt ty m).1.length = byteSizeLong rt m := by
  have hmember (slot : Slot) (text : Bytes) :
      (writeMember rt.writeStringMaybeAliased slot.number text).length =
        if text.length > 0 then 1 + rt.stringSize text else 0 := by
    rw [writeMember]
    split
    · exact hrt.stringSize_eq text slot.number_bounds.1 slot.number_bounds.2
    · rfl
  have hfirst := hmember .first m.first
  have hbody := hmember .body m.body
  have hunknown : (m.unknown.flatMap rt.serializeUnknown).length = (m.unknown.map rt.unknownSize).sum := by
    rw [List.length_flatMap]
    congr 1
    exact List.map_congr_left fun field _ => hrt.unknownSize_eq field
  simp only [Slot.number] at hfirst hbody
  have hrest : (if !m.unknown.isEmpty && rt.preserveUnknowns then m.unknown.flatMap rt.serializeUnknown
      else []).length =
      if !m.unknown.isEmpty && rt.preserveUnknowns then (m.unknown.map rt.unknownSize).sum else 0 := by
    rw [apply_ite List.length, hunknown, List.length_nil]
  simp only [serializeWithCachedSizes, serialize, byteSizeLong, List.length_append, hfirst, hbody, hrest]
  omega

end Writing

section Reading

variable (hrt : rt.Lawful)

include hrt

/-- A string field in front of the input. -/
theorem mergeTurn_string (slot : Slot) {text : Bytes} (htext : text.length ≤ kint32max) (rest : Bytes)
    (m : Message rt) : mergeTurn rt ty (rt.writeStringMaybeAliased slot.number text ++ rest) m =
      if rt.validUtf8 text then .next rest (slot.write text m) else .failed [slot.fieldName ty] := by
  obtain ⟨read, hread, htag, hstring⟩ :=
    hrt.readTag_string 127 rest slot.number_bounds.1 slot.number_bounds.2 htext
  have hknown : read.known = true := by
    rw [← hread, hrt.readTag_known, hread, htag]
    cases slot <;> decide
  have hturn : mergeTurn rt ty (rt.writeStringMaybeAliased slot.number text ++ rest) m =
      readMember rt (slot.fieldName ty) read.rest fun text => slot.write text m := by
    obtain ⟨-, htag', hturn⟩ | ⟨-, htag', hturn⟩ | ⟨hunusual, -⟩ := mergeTurn_cases ty _ m hread
    all_goals rw [htag] at *
    · cases slot
      · exact hturn
      · exact absurd htag' (by decide)
    · cases slot
      · exact absurd htag' (by decide)
      · exact hturn
    · cases slot
      · exact absurd rfl (hunusual hknown).1
      · exact absurd rfl (hunusual hknown).2
  simp only [hturn, readMember, hstring, Runtime.verifyUtf8String]
  split <;> rfl

/-- An unknown field in front of the input. -/
theorem mergeTurn_unknown {field : rt.Unknown} (hunusual : rt.tagOf field ≠ 10 ∧ rt.tagOf field ≠ 18)
    (rest : Bytes) (m : Message rt) : mergeTurn rt ty (rt.serializeUnknown field ++ rest) m =
      .next rest { m with unknown := m.unknown ++ [field] } := by
  obtain ⟨read, hread, htag, hskip⟩ := hrt.readTag_unknown 127 field rest
  -- A known tag is below 128, so that the test of its last byte is a test of the tag.
  have hbyte (hknown : read.known = true) : read.tag.toUInt8.toNat = read.tag.toNat := by
    have hle : read.tag ≤ 127 := by
      rw [← hread, hrt.readTag_known, hread] at hknown
      exact hknown.2
    have hlt : read.tag.toNat < 256 := by
      have := UInt32.le_iff_toNat_le.mp hle
      simp at this
      omega
    rw [UInt32.toNat_toUInt8, Nat.mod_eq_of_lt hlt]
  rw [← htag] at hunusual
  obtain ⟨hknown, htag', -⟩ | ⟨hknown, htag', -⟩ | ⟨-, hturn⟩ := mergeTurn_cases ty _ m hread
  · have := hbyte hknown
    rw [htag'] at this
    exact absurd (UInt32.toNat_inj.mp this.symm) hunusual.1
  · have := hbyte hknown
    rw [htag'] at this
    exact absurd (UInt32.toNat_inj.mp this.symm) hunusual.2
  · rw [hturn, handleUnusual, hskip, if_neg]
    rw [htag]
    exact hrt.tagOf_ne_zero field

/-- A text the reader takes is read into its member. -/
theorem reads_writeMember (ty : MessageType) (slot : Slot) {text : Bytes} (htext : text.length ≤ kint32max)
    (hvalid : rt.validUtf8 text = true) :
    (mergeLoop rt ty).Reads (writeMember rt.writeStringMaybeAliased slot.number text)
      fun m => if text.length > 0 then slot.write text m else m := by
  rw [writeMember]
  split
  · apply FieldLoop.Reads.of_turn
    intro rest m
    exact (mergeTurn_string hrt slot htext rest m).trans (if_pos hvalid)
  · exact FieldLoop.Reads.nil

/-- A text the reader does not take is refused. -/
theorem refuses_writeMember (ty : MessageType) (slot : Slot) {text : Bytes} (htext : text.length ≤ kint32max)
    (hvalid : rt.validUtf8 text = false) :
    (mergeLoop rt ty).Refuses (writeMember rt.writeStringMaybeAliased slot.number text)
      [slot.fieldName ty] := by
  have hpos : text.length > 0 := by
    cases text with
    | nil => simp [hrt.validUtf8_nil] at hvalid
    | cons a text => simp
  rw [writeMember, if_pos hpos]
  apply FieldLoop.Refuses.of_turn
  intro rest m
  exact (mergeTurn_string hrt slot htext rest m).trans (if_neg (Bool.eq_false_iff.mp hvalid))

/-- The unknown fields are added to those of the message. -/
theorem reads_unknown {fields : List rt.Unknown}
    (hunusual : ∀ field ∈ fields, rt.tagOf field ≠ 10 ∧ rt.tagOf field ≠ 18) :
    (mergeLoop rt ty).Reads (fields.flatMap rt.serializeUnknown)
      fun m => { m with unknown := m.unknown ++ fields } := by
  have hfold (m : Message rt) : fields.foldl (fun m field => { m with unknown := m.unknown ++ [field] }) m =
      { m with unknown := m.unknown ++ fields } := by
    clear hunusual
    induction fields generalizing m with
    | nil => simp
    | cons field fields ih => simp [ih]
  simp only [← hfold]
  apply FieldLoop.Reads.flatMap fields
  intro field hfield
  apply FieldLoop.Reads.of_turn
  intro rest m
  exact mergeTurn_unknown hrt (hunusual field hfield) rest m

/-- What is written behind the string fields. -/
theorem reads_written (ty : MessageType) {m : Message rt} (hunusual : m.Unusual) :
    (mergeLoop rt ty).Reads
      (if !m.unknown.isEmpty && rt.preserveUnknowns then m.unknown.flatMap rt.serializeUnknown else [])
      fun m' => { m' with unknown := m'.unknown ++ m.written.unknown } := by
  have hcode : (if !m.unknown.isEmpty && rt.preserveUnknowns then m.unknown.flatMap rt.serializeUnknown
      else []) = m.written.unknown.flatMap rt.serializeUnknown := by
    simp only [Message.written]
    cases rt.preserveUnknowns <;> cases m.unknown <;> simp
  rw [hcode]
  exact reads_unknown hrt (Message.unusual_written hunusual)

/-- A written message in front of the input is merged, or refused at the first field that was
logged when it was written. -/
theorem mergePartialFromCodedStream_serialize {source : Message rt} (hfits : source.Fits)
    (hunusual : source.Unusual) (rest : Bytes) (m : Message rt) :
    mergePartialFromCodedStream rt ty ((serializeWithCachedSizes rt ty source).1 ++ rest) m =
      match (serializeWithCachedSizes rt ty source).2 with
      | [] => mergePartialFromCodedStream rt ty rest (m.mergeFrom source.written)
      | fieldName :: _ => .error [fieldName] := by
  rw [logged_serializeWithCachedSizes hrt]
  simp only [mergePartialFromCodedStream, serializeWithCachedSizes, serialize]
  cases hfirst : rt.validUtf8 source.first with
  | false =>
    have hrefused := refuses_writeMember hrt ty .first hfits.first hfirst
    exact ((hrefused.append _).append _) rest m
  | true =>
    have hreads := reads_writeMember hrt ty .first hfits.first hfirst
    cases hbody : rt.validUtf8 source.body with
    | false =>
      have hrefused := refuses_writeMember hrt ty .body hfits.body hbody
      exact ((hreads.append_refuses hrefused).append _) rest m
    | true =>
      have hreads' := (hreads.append (reads_writeMember hrt ty .body hfits.body hbody)).append
        (reads_written hrt ty hunusual)
      apply (hreads' rest m).trans
      simp only [if_true, List.append_nil]
      congr 1
      by_cases hpos : source.first.length > 0 <;> by_cases hpos' : source.body.length > 0 <;>
        simp only [Function.comp_apply, Slot.write, Message.mergeFrom, Message.written, hpos, hpos', if_true,
          if_false]

/-- Nothing but the end of the input is left. -/
theorem mergePartialFromCodedStream_nil (m : Message rt) :
    mergePartialFromCodedStream rt ty [] m = .ok (m, true) := by
  obtain ⟨htag, hentire⟩ := hrt.readTag_nil 127
  apply FieldLoop.run_finished
  obtain ⟨-, htag', -⟩ | ⟨-, htag', -⟩ | ⟨-, hturn⟩ := mergeTurn_cases ty [] m rfl
  · rw [htag] at htag'
    exact absurd htag' (by decide)
  · rw [htag] at htag'
    exact absurd htag' (by decide)
  · exact hturn.trans (by rw [handleUnusual, if_pos htag, hentire])

/-- What one message is read as. -/
theorem mergePartialFromCodedStream_clear (ty : MessageType) {source : Message rt} (hfits : source.Fits)
    (hunusual : source.Unusual) (m : Message rt) :
    mergePartialFromCodedStream rt ty (serializeWithCachedSizes rt ty source).1 m.clear =
      match (serializeWithCachedSizes rt ty source).2 with
      | [] => .ok (source.written, true)
      | fieldName :: _ => .error [fieldName] := by
  rw [← List.append_nil (serializeWithCachedSizes rt ty source).1,
    mergePartialFromCodedStream_serialize hrt hfits hunusual, Message.mergeFrom_clear,
    mergePartialFromCodedStream_nil hrt]

/-- A turn keeps texts readable and short enough, and the unknown fields unusual. -/
theorem mergeTurn_keeps {input rest : Bytes} {m m' : Message rt} (hm : m.Fits ∧ m.Unusual ∧ m.Valid)
    (h : mergeTurn rt ty input m = .next rest m') : m'.Fits ∧ m'.Unusual ∧ m'.Valid := by
  obtain ⟨hfits, hunusual, hvalid⟩ := hm
  have hmember {fieldName : String} {p : TagRead} {write : Bytes → Message rt}
      (hread : readMember rt fieldName p.rest write = .next rest m') :
      ∃ text, text.length ≤ kint32max ∧ rt.validUtf8 text = true ∧ m' = write text := by
    rw [readMember] at hread
    split at hread
    · cases hread
    · rename_i text rest' hstring
      cases htext : rt.validUtf8 text with
      | false => simp [Runtime.verifyUtf8String, htext] at hread
      | true =>
        simp only [Runtime.verifyUtf8String, htext, if_true] at hread
        cases hread
        exact ⟨text, hrt.readString_length hstring, htext, rfl⟩
  obtain ⟨-, -, hturn⟩ | ⟨-, -, hturn⟩ | ⟨htag, hturn⟩ := mergeTurn_cases ty input m rfl
  · obtain ⟨text, hlength, htext, rfl⟩ := hmember (hturn.symm.trans h)
    exact ⟨⟨hlength, hfits.body⟩, hunusual, ⟨htext, hvalid.body⟩⟩
  · obtain ⟨text, hlength, htext, rfl⟩ := hmember (hturn.symm.trans h)
    exact ⟨⟨hfits.first, hlength⟩, hunusual, ⟨hvalid.first, htext⟩⟩
  · rw [hturn, handleUnusual] at h
    split at h
    · cases h
    · rename_i hzero
      split at h
      · cases h
      · rename_i field rest' hskip
        cases h
        -- A tag that is not known is above 127.
        have hother : (rt.readTag 127 input).tag ≠ 10 ∧ (rt.readTag 127 input).tag ≠ 18 := by
          by_cases hknown : (rt.readTag 127 input).known = true
          · exact htag hknown
          · rw [hrt.readTag_known, not_and] at hknown
            have habove := hknown hzero
            constructor
            · intro heq
              exact habove (heq ▸ by decide)
            · intro heq
              exact habove (heq ▸ by decide)
        rw [← hrt.skipField_tag hskip] at hother
        apply And.intro ⟨hfits.first, hfits.body⟩
        apply And.intro _ ⟨hvalid.first, hvalid.body⟩
        intro field' hfield'
        obtain hmem | hmem := List.mem_append.mp hfield'
        · exact hunusual field' hmem
        · rw [List.mem_singleton.mp hmem]
          exact hother

/-- What is read is like what can be written. -/
theorem keeps_mergePartialFromCodedStream {input : Bytes} {m₀ m : Message rt} {entire : Bool}
    (h : mergePartialFromCodedStream rt ty input m₀.clear = .ok (m, entire)) : m.Fits ∧ m.Unusual ∧ m.Valid := by
  have hempty : m₀.clear.Fits ∧ m₀.clear.Unusual ∧ m₀.clear.Valid :=
    ⟨⟨Nat.zero_le _, Nat.zero_le _⟩, Message.unusual_of_nil rfl, ⟨hrt.validUtf8_nil, hrt.validUtf8_nil⟩⟩
  apply FieldLoop.run_of_invariant (fun m => m.Fits ∧ m.Unusual ∧ m.Valid)
    (fun result => result.1.Fits ∧ result.1.Unusual ∧ result.1.Valid) _ _ hempty h
  · exact fun input m rest m' hm hturn => mergeTurn_keeps hrt hm hturn
  · intro input m result hm hturn
    rw [mergeTurn_finished hturn]
    exact hm

end Reading

section Samples

/-- A request with a field 1 that is not a string. -/
def sampleUnknown : UnknownField := ⟨1, .varint 7, by decide, by decide, by decide⟩

/-- Two requests, the second without an action. -/
def sampleRequests : List (Message wireFormat) :=
  [⟨str "account_info", str "first", []⟩, ⟨[], str "second", [sampleUnknown]⟩]

/-- What the second leaves of the first. -/
def sampleMerged : Message wireFormat := ⟨str "account_info", str "second", [sampleUnknown]⟩

/-- They can be written and read. -/
theorem sampleRequests_storable : ∀ source ∈ sampleRequests, source.Fits ∧ source.Unusual := by
  simp only [sampleRequests, List.mem_cons, List.not_mem_nil, or_false, forall_eq_or_imp, forall_eq]
  exact ⟨⟨⟨by decide, by decide⟩, fun field hfield => by cases hfield⟩, ⟨by decide, by decide⟩,
    fun field hfield => by rw [List.mem_singleton.mp hfield]; decide⟩

/-- Nothing is logged for them. -/
theorem sampleRequests_logged :
    ∀ source ∈ sampleRequests, (serializeWithCachedSizes wireFormat xrpcRequest source).2 = [] := by
  have hnil : wireFormat.validUtf8 [] = true := lawful_wireFormat.validUtf8_nil
  simp [sampleRequests, logged_serializeWithCachedSizes lawful_wireFormat, validUtf8_str, hnil]

end Samples

/-- Messages written one after the other are read as their merge into the message that was there, or
refused at the first field that was logged. -/
theorem mergePartialFromCodedStream_flatMap (hrt : rt.Lawful) (ty : MessageType) (sources : List (Message rt))
    (m : Message rt) (hsources : ∀ source ∈ sources, source.Fits ∧ source.Unusual) :
    mergePartialFromCodedStream rt ty
        (sources.flatMap fun source => (serializeWithCachedSizes rt ty source).1) m =
      match sources.flatMap fun source => (serializeWithCachedSizes rt ty source).2 with
      | [] => .ok (sources.foldl (fun m source => m.mergeFrom source.written) m, true)
      | fieldName :: _ => .error [fieldName] := by
  induction sources generalizing m with
  | nil => exact mergePartialFromCodedStream_nil hrt m
  | cons source sources ih =>
    have hfirst := hsources source List.mem_cons_self
    have hothers (m' : Message rt) := ih m' fun source' hsource' => hsources source' (List.mem_cons_of_mem _ hsource')
    simp only [List.flatMap_cons, List.foldl_cons]
    rw [mergePartialFromCodedStream_serialize hrt hfirst.1 hfirst.2]
    cases hlogged : (serializeWithCachedSizes rt ty source).2 with
    | nil => exact hothers (m.mergeFrom source.written)
    | cons fieldName logged => rfl

/-- Two requests in a row are read as one with the action of the first and the body of the second. -/
theorem mergePartialFromCodedStream_flatMap_sample : mergePartialFromCodedStream wireFormat xrpcRequest
    (sampleRequests.flatMap fun source => (serializeWithCachedSizes wireFormat xrpcRequest source).1) .sharedCtor =
      .ok (sampleMerged, true) := by
  have hread := mergePartialFromCodedStream_flatMap lawful_wireFormat xrpcRequest sampleRequests .sharedCtor
    sampleRequests_storable
  rw [List.flatMap_eq_nil_iff.mpr sampleRequests_logged] at hread
  exact hread

/-- An accepted input is read as a message that both writers write without logging, in as many
bytes as are reserved for it; these bytes are accepted again, as what is written of the message, and
written again as they are. -/
theorem mergePartialFromCodedStream_canonical (hrt : rt.Lawful) {input : Bytes} {m₀ m : Message rt} {entire : Bool}
    (h : mergePartialFromCodedStream rt ty input m₀.clear = .ok (m, entire)) :
    ∃ bytes, serializeWithCachedSizes rt ty m = (bytes, []) ∧
      internalSerializeWithCachedSizesToArray rt ty m = (bytes, []) ∧ bytes.length = byteSizeLong rt m ∧
      (∀ m₁ : Message rt, mergePartialFromCodedStream rt ty bytes m₁.clear = .ok (m.written, true)) ∧
      serializeWithCachedSizes rt ty m.written = (bytes, []) := by
  obtain ⟨hfits, hunusual, hvalid⟩ := keeps_mergePartialFromCodedStream hrt h
  have hlogged : (serializeWithCachedSizes rt ty m).2 = [] := (logged_eq_nil_iff hrt ty m).mpr hvalid
  have hwritten : serializeWithCachedSizes rt ty m = ((serializeWithCachedSizes rt ty m).1, []) :=
    Prod.ext rfl hlogged
  refine ⟨_, hwritten, ?_, length_serializeWithCachedSizes hrt m, fun m₁ => ?_, ?_⟩
  · rw [internalSerializeWithCachedSizesToArray_eq hrt]
    exact hwritten
  · rw [mergePartialFromCodedStream_clear hrt ty hfits hunusual, hlogged]
  · rw [serializeWithCachedSizes_written]
    exact hwritten

/-- The input of two requests in a row, written as one. -/
theorem mergePartialFromCodedStream_canonical_sample : ∃ bytes,
    serializeWithCachedSizes wireFormat xrpcRequest sampleMerged = (bytes, []) ∧
      internalSerializeWithCachedSizesToArray wireFormat xrpcRequest sampleMerged = (bytes, []) ∧
      bytes.length = byteSizeLong wireFormat sampleMerged ∧
      (∀ m₁ : Message wireFormat,
        mergePartialFromCodedStream wireFormat xrpcRequest bytes m₁.clear = .ok (sampleMerged.written, true)) ∧
      serializeWithCachedSizes wireFormat xrpcRequest sampleMerged.written = (bytes, []) := by
  have hread : mergePartialFromCodedStream wireFormat xrpcRequest
      (sampleRequests.flatMap fun source => (serializeWithCachedSizes wireFormat xrpcRequest source).1)
        Message.sharedCtor.clear = .ok (sampleMerged, true) := by
    have hsource {source : Message wireFormat} (hmem : source ∈ sampleRequests) (rest : Bytes)
        (m : Message wireFormat) : mergePartialFromCodedStream wireFormat xrpcRequest
          ((serializeWithCachedSizes wireFormat xrpcRequest source).1 ++ rest) m =
            mergePartialFromCodedStream wireFormat xrpcRequest rest (m.mergeFrom source.written) := by
      obtain ⟨hfits, hunusual⟩ := sampleRequests_storable source hmem
      rw [mergePartialFromCodedStream_serialize lawful_wireFormat hfits hunusual, sampleRequests_logged source hmem]
    rw [sampleRequests, List.flatMap_cons, List.flatMap_cons, List.flatMap_nil, hsource (by simp [sampleRequests]),
      hsource (by simp [sampleRequests]), mergePartialFromCodedStream_nil lawful_wireFormat]
    rfl
  exact mergePartialFromCodedStream_canonical lawful_wireFormat hread

end XrpcServer.Protobuf
