import XrpcServer.Handler.AllOrNothing
import XrpcServer.Handler.DigestRuns

/-!
# Decoding the digest fields

Three actions turn a base64 string of the request into a digest without looking at the length
of what it decodes to. A shorter string is read past its end, a longer one is cut off. Both
are followed through every run, whether it dispatches, refuses or throws.
-/

namespace XrpcServer.Handler

open XrpcServer.Text XrpcServer.Chain XrpcServer.Interaction XrpcServer.Json
open XrpcServer.Json (Value)

/-- The request members that hold a digest. -/
inductive DigestField where
  | lastDigest
  | txDigest

/-- Where a transaction keeps what such a member said. -/
def DigestField.carried (tx : Xtransaction) : DigestField → Bytes
  | .lastDigest => tx.lastMsgDigest.1
  | .txDigest => tx.transactionParams

section Decoding

variable (lib : Externals) (w : World) (root : Value)

/-- Handling the request decodes a string from a member, and this is what it decodes to. -/
inductive Decodes : DigestField → Bytes → Prop
  | transferOut {source encoded : Bytes} (reaches : ReachesTransferOut lib root source encoded) :
    Decodes .lastDigest (lib.base64Decode encoded)
  | transferIn {account encoded : Bytes} (reaches : ReachesTransferIn lib root account encoded) :
    Decodes .lastDigest (lib.base64Decode encoded)
  | received {account encoded : Bytes} (reaches : ReachesReceived lib w root account encoded) :
    Decodes .txDigest (lib.base64Decode encoded)
  | setProperty {account encoded : Bytes} (reaches : ReachesSetProperty lib root account encoded) :
    Decodes .lastDigest (lib.base64Decode encoded)

/-- Every digest of a call of `handle_request` is a decoded string of 32 bytes, as it is; any
other length is rejected. -/
structure DecodesInBounds (o : HandlerOutcome) : Prop where
  /-- No byte outside a decoded string is read. -/
  withinString : ∀ e ∈ o.trace, ∀ s count, e.1 ≠ .readBeyond s count
  /-- The transactions carry the digests as they were decoded. -/
  faithful : ∀ field s, Decodes lib w root field s → ∀ tx ∈ hashes o.trace, field.carried tx = s
  /-- A string of any other length is rejected and nothing is dispatched. -/
  rejected : ∀ field s, Decodes lib w root field s → s.length ≠ 32 →
    EndsWithResult o 0 ∧ dispatches o.trace = []

/-- The same of a call of `json_string_to_hash`. -/
structure HashInBounds (hash : Bytes) (o : Outcome Op Reply HandlerState Exc World Uint256) : Prop where
  withinString : ∀ e ∈ o.trace, ∀ s count, e.1 ≠ .readBeyond s count
  faithful : ∀ digest, o.result = .ok digest → digest.1 = lib.base64Decode (cString hash)

end Decoding

section Digests

/-- A string of 32 bytes is read as it is. -/
theorem digestAt_val (w : World) {s : Bytes} (h : s.length = 32) : (digestAt w s).1 = s := by
  rw [digestAt, dif_pos h.ge]
  exact List.take_of_length_le h.le

/-- Only a short string is read past its end. -/
theorem length_of_mem_beyondTrace {w : World} {s : Bytes} {e : HandlerEvent}
    (he : e ∈ beyondTrace w s) : s.length < 32 := by
  by_contra hlong
  rw [beyondTrace, if_pos (not_lt.mp hlong)] at he
  cases he

/-- What a transaction keeps of the digest members belongs to its payload. -/
theorem carried_of_payload {tx tx' : Xtransaction} (h : tx.payload = tx'.payload) (field : DigestField) :
    field.carried tx = field.carried tx' := by
  cases field with
  | lastDigest => exact congrArg (fun payload => payload.lastMsgDigest.1) h
  | txDigest => exact congrArg Payload.transactionParams h

end Digests

section Reading

variable (lib : Externals) (w : World) (s : HandlerState)

/-- A short string that handling the request decodes. -/
def ShortDecoded (root : Value) (decoded : Bytes) : Prop :=
  decoded.length < 32 ∧ ∃ field, Decodes lib w root field decoded

/-- Nothing but short decoded strings is read past its end. -/
def Op.ReadsDecoded (root : Value) (op : Op) : Prop :=
  ∀ decoded count, op = .readBeyond decoded count → ShortDecoded lib w root decoded

/-- Every request reads past the end of short decoded strings only. -/
theorem handleRequest_readsDecoded :
    Only (Op.ReadsDecoded lib w s.root) ((handleRequest lib).run service s w).trace := by
  have hcalm : ∀ op : Op, op.isCalm → Op.ReadsDecoded lib w s.root op := by
    intro op hop decoded count heq
    rw [heq] at hop
    cases hop
  have hhashed : ∀ op tx, op.hashed = some tx → Op.ReadsDecoded lib w s.root op := by
    intro op tx hop decoded count heq
    rw [heq] at hop
    cases hop
  have hshort : ∀ {field decoded}, Decodes lib w s.root field decoded → decoded.length < 32 →
      ∀ count, Op.ReadsDecoded lib w s.root (.readBeyond decoded count) := by
    intro field decoded hdecodes hlength count decoded' count' heq
    cases heq
    exact ⟨hlength, field, hdecodes⟩
  let property := fun o : HandlerOutcome => Only (Op.ReadsDecoded lib w s.root) o.trace
  rcases haction : stringOf lib s.root "action" with e | action
  · apply (run_iff_ends _ property s w).mpr
    simpa [Ends, handleRequest, haction] using only_nil
  rcases haccount : stringOf lib s.root "account" with e | account
  · apply (run_iff_ends _ property s w).mpr
    simpa [Ends, handleRequest, haction, haccount] using only_nil
  rw [handleRequest_run lib w s haction haccount]
  cases hkind : (actionOf action).isTransaction with
  | false =>
    exact only_of_calm hcalm
      (Routine.trace_of_uses service (plain_runAction lib (noHash account) hkind).calm s w)
  | true =>
    apply (run_iff_ends _ property s w).mpr
    have hreads : ∀ kind, actionOf action = kind → kind ≠ .invalid → ReadsRequest lib s.root kind account :=
      fun kind hname hvalid => ⟨by rw [haction, eq_text_of_actionOf hname hvalid], haccount⟩
    cases hname : actionOf action <;> rw [hname] at hkind <;> cases hkind
    case accountCreate.refl => exact accountCreate_only hcalm _ hhashed
    case transferOut.refl =>
      exact transferOut_only hcalm (hreads _ hname (by decide))
        (fun source encoded reaches => hshort (.transferOut reaches)) fun _ _ op tx _ _ htx _ => hhashed op tx htx
    case transferIn.refl =>
      exact transferIn_only hcalm (hreads _ hname (by decide)) (fun encoded reaches => hshort (.transferIn reaches))
        (fun encoded reaches => hshort (.received reaches)) fun _ _ op tx _ _ htx _ _ => hhashed op tx htx
    case setProperty.refl =>
      exact setProperty_only hcalm (hreads _ hname (by decide))
        (fun encoded reaches => hshort (.setProperty reaches)) hhashed
    case give.refl => exact give_only hcalm hhashed

end Reading

section Carrying

/-- What is hashed keeps what was read at the front of a decoded string, and a request that
returns has hashed something. -/
structure Carries (w : World) (field : DigestField) (decoded : Bytes) (o : HandlerOutcome) : Prop where
  hreturned : o.result = .ok () → hashes o.trace ≠ []
  hcarried : ∀ tx ∈ hashes o.trace, field.carried tx = (digestAt w decoded).1

variable {lib : Externals} {w : World} {s : HandlerState} {t : List HandlerEvent} {field : DigestField}
  {decoded : Bytes}

/-- A request that throws before its builder hashes nothing. -/
theorem carries_thrown {o : HandlerOutcome} {e : Exc} (hresult : o.result = .error e)
    (ht : Silent o.trace) : Carries w field decoded o := by
  constructor
  · intro hok
    rw [hresult] at hok
    cases hok
  · rw [hashes_of_silent ht]
    simp

/-- The builder decides what is carried. -/
theorem ends_carries_build {make tail : HandlerM Unit} {f : Xtransaction → Xtransaction}
    (hmake : make = do modifyTx f; digestTx) {nohash : Bool} (htail : Calm tail) (ht : Silent t)
    (hcarried : field.carried (f s.tx) = (digestAt w decoded).1) :
    Ends (do
      make
      txDigestSignatureSet lib nohash
      tail) (Carries w field decoded) s w t := by
  apply ends_build hmake htail
  intro o events htrace hsettles hhashes
  have heq : hashes o.trace = hashes events := by rw [htrace, hashes_append, hashes_of_silent ht, List.nil_append]
  constructor
  · intro _
    rw [heq]
    exact hhashes
  · intro tx htx
    rw [heq] at htx
    obtain ⟨e, he, htx⟩ := List.mem_filterMap.mp htx
    exact (carried_of_payload ((hsettles e he).payload_eq htx) field).trans hcarried

/-- A last digest that is read goes to the builder. -/
theorem ends_lastDigestSet {nohash : Bool} {account : Bytes} {lastHash : Uint256}
    (hlastHash : lastDigestOf lib w s.root nohash account = .ok lastHash)
    {f : Option Uint256 → HandlerM Unit} {property : HandlerOutcome → Prop} :
    Ends (lastDigestSet lib nohash account >>= f) property s w t ↔
      Ends (f (some lastHash)) property s w (t ++ lastDigestTrace lib w nohash account s.root) := by
  simp only [Ends, Routine.wp_bind, wp_lastDigestSet, hlastHash]

/-- A timestamp that is read. -/
theorem ends_rootTimestamp {timestamp : ℤ} (hread : int64Of s.root "timestamp" = .ok timestamp)
    {f : UInt64 → HandlerM Unit} {property : HandlerOutcome → Prop} :
    Ends (rootTimestamp "timestamp" >>= f) property s w t ↔
      Ends (f (UInt64.ofInt timestamp)) property s w t := by
  simp [Ends, hread]

/-- A C string that is read. -/
theorem ends_rootCString {key : String} {b : Bytes} (hread : cStringOf s.root key = .ok b)
    {f : Bytes → HandlerM Unit} {property : HandlerOutcome → Prop} :
    Ends (rootCString key >>= f) property s w t ↔ Ends (f b) property s w t := by
  simp [Ends, hread]

/-- The input check of `set_property` lets a valid property key pass. -/
theorem ends_checkInput_setProperty (haction : stringOf lib s.root "action" = .ok (str "set_property"))
    {key : Bytes} (hkey : stringOf lib s.root "property_key" = .ok key) (hvalid : ValidPropertyKey key)
    {m : HandlerM Unit} {property : HandlerOutcome → Prop} :
    Ends (do if (← checkInput lib) = false then pure () else m) property s w t ↔ Ends m property s w t := by
  simp [Ends, checkInput, haction, hkey, not_validPropertyKey, hvalid]

/-- The last digest of a client is what stands at the front of the decoded string. -/
theorem lastDigestOf_client {root : Value} {account encoded : Bytes} {nohash : Bool} (hclient : nohash = false)
    (hencoded : stringOf lib root "last_digest" = .ok encoded) :
    lastDigestOf lib w root nohash account = .ok (digestAt w (lib.base64Decode encoded)) := by
  simp [lastDigestOf, hclient, hencoded]

/-- A `transfer_out` that gets there carries its last digest. -/
theorem ReachesTransferOut.carries {source encoded account : Bytes} (h : ReachesTransferOut lib s.root source encoded) :
    Ends (runAction lib (noHash account) .transferOut)
      (Carries w .lastDigest (lib.base64Decode encoded)) s w [] := by
  obtain ⟨destination, hdestination, hdistinct⟩ := h.hdestination
  obtain ⟨assetKey, hassetKey⟩ := h.hassetKey
  obtain ⟨ammount, hammount⟩ := h.hammount
  obtain ⟨timestamp, htimestamp⟩ := h.htimestamp
  rw [runAction, ends_rootString h.hsource, transferOut, ends_rootString h.hsource,
    ends_rootString hdestination, ends_rootString hassetKey, ends_rootString hammount,
    ends_rootTimestamp htimestamp, if_neg hdistinct,
    ends_lastDigestSet (lastDigestOf_client h.hclient h.hencoded)]
  exact ends_carries_build rfl (calm_verifyAndSubmit lib (plain_transferOutChecks _ _ _).calm)
    (silent_lastDigestTrace lib w _ _ _) rfl

/-- A `transfer_in` that has read its last digest carries it. -/
theorem ReachesTransferIn.carries {account encoded : Bytes} (h : ReachesTransferIn lib s.root account encoded) :
    Ends (transferIn lib (noHash account)) (Carries w .lastDigest (lib.base64Decode encoded)) s w [] := by
  obtain ⟨timestamp, htimestamp⟩ := h.htimestamp
  have hsilent := silent_lastDigestTrace lib w (noHash account) account s.root
  rw [transferIn, ends_rootTimestamp htimestamp, ends_rootString h.hrequest.haccount,
    ends_lastDigestSet (lastDigestOf_client h.hclient h.hencoded)]
  cases hreceived : stringOf lib s.root "tx_digest" with
  | error e =>
    simp only [Ends, Routine.wp_bind, wp_rootString, hreceived]
    simpa using carries_thrown rfl hsilent
  | ok received =>
    rw [ends_rootString hreceived, ends_uint256At, ends_rootString h.hrequest.haccount]
    exact ends_carries_build rfl (calm_receiptTail lib) (silent_append.mpr ⟨hsilent, silent_beyondTrace w _⟩) rfl

/-- A `transfer_in` that has read the digest of its transfer carries it. -/
theorem ReachesReceived.carries {account encoded : Bytes} (h : ReachesReceived lib w s.root account encoded) :
    Ends (transferIn lib (noHash account)) (Carries w .txDigest (lib.base64Decode encoded)) s w [] := by
  obtain ⟨timestamp, htimestamp⟩ := h.htimestamp
  obtain ⟨lastHash, hlastHash⟩ := h.hlastHash
  have hsilent := silent_lastDigestTrace lib w (noHash account) account s.root
  rw [transferIn, ends_rootTimestamp htimestamp, ends_rootString h.hrequest.haccount,
    ends_lastDigestSet hlastHash, ends_rootString h.hencoded, ends_uint256At, ends_rootString h.hrequest.haccount]
  exact ends_carries_build rfl (calm_receiptTail lib) (silent_append.mpr ⟨hsilent, silent_beyondTrace w _⟩) rfl

/-- A `set_property` that has read its last digest carries it. -/
theorem ReachesSetProperty.carries {account encoded : Bytes}
    (h : ReachesSetProperty lib s.root account encoded) :
    Ends (setProperty lib (noHash account)) (Carries w .lastDigest (lib.base64Decode encoded)) s w [] := by
  obtain ⟨propertyKey, hpropertyKey, hvalid⟩ := h.hpropertyKey
  obtain ⟨cAccount, hcAccount⟩ := h.hcAccount
  have hsilent := silent_lastDigestTrace lib w (noHash account) cAccount s.root
  have haction : stringOf lib s.root "action" = .ok (str "set_property") := h.hrequest.haction
  rw [setProperty, ends_checkInput_setProperty haction hpropertyKey hvalid, ends_rootCString hcAccount,
    ends_lastDigestSet (lastDigestOf_client h.hclient h.hencoded)]
  simp only [transactionSetProperty, Routine.bind_assoc]
  rw [ends_rootString h.hrequest.haccount, ends_rootString hpropertyKey]
  cases hpropertyValue : stringOf lib s.root "property_value" with
  | error e =>
    simp only [Ends, Routine.wp_bind, wp_rootString, hpropertyValue]
    simpa using carries_thrown rfl hsilent
  | ok propertyValue =>
    rw [ends_rootString hpropertyValue]
    cases htimestamp : int64Of s.root "timestamp" with
    | error e =>
      simp only [Ends, Routine.wp_bind, wp_rootTimestamp, htimestamp]
      simpa using carries_thrown rfl hsilent
    | ok timestamp =>
      rw [ends_rootTimestamp htimestamp, ← Routine.bind_assoc]
      exact ends_carries_build rfl (calm_verifyAndSubmit lib (Routine.Uses.pure _)) hsilent rfl

/-- Whatever a request decodes is carried by what it hashes. -/
theorem Decodes.carries (h : Decodes lib w s.root field decoded) :
    Carries w field decoded ((handleRequest lib).run service s w) := by
  have hrun : ∀ {kind account}, ReadsRequest lib s.root kind account →
      (handleRequest lib).run service s w = (runAction lib (noHash account) kind).run service s w := by
    intro kind account hrequest
    rw [handleRequest_run lib w s hrequest.haction hrequest.haccount, actionOf_text]
  cases h with
  | transferOut reaches =>
    obtain ⟨account, hrequest⟩ := reaches.hrequest
    rw [hrun hrequest]
    exact (run_iff_ends _ _ s w).mpr reaches.carries
  | transferIn reaches =>
    rw [hrun reaches.hrequest]
    exact (run_iff_ends _ _ s w).mpr reaches.carries
  | received reaches =>
    rw [hrun reaches.hrequest]
    exact (run_iff_ends _ _ s w).mpr reaches.carries
  | setProperty reaches =>
    rw [hrun reaches.hrequest]
    exact (run_iff_ends _ _ s w).mpr reaches.carries

end Carrying

section Lengths

variable (lib : Externals) (w : World)

/-- A request decodes in bounds exactly when everything it decodes has 32 bytes. -/
theorem handleRequest_decodesInBounds_iff (parsed : Bool × Value) :
    DecodesInBounds lib w parsed.2 ((handleRequest lib).run service (constructed lib parsed) w) ↔
      ∀ field s, Decodes lib w parsed.2 field s → s.length = 32 := by
  constructor
  · intro h field s hdecodes
    by_contra hlength
    have hcarries := Decodes.carries (s := constructed lib parsed) hdecodes
    obtain ⟨⟨hresult, -⟩, -⟩ := h.rejected field s hdecodes hlength
    obtain ⟨tx, htx⟩ := List.exists_mem_of_ne_nil _ (hcarries.hreturned hresult)
    have hdigest := (h.faithful field s hdecodes tx htx).symm.trans (hcarries.hcarried tx htx)
    rw [hdigest] at hlength
    exact hlength (digestAt w s).2
  · intro hlength
    constructor
    case withinString =>
      intro e he s count heq
      obtain ⟨hshort, field, hdecodes⟩ :=
        handleRequest_readsDecoded lib w (constructed lib parsed) e he s count heq
      exact hshort.ne (hlength field s hdecodes)
    case faithful =>
      intro field s hdecodes tx htx
      have hcarries := Decodes.carries (s := constructed lib parsed) hdecodes
      rw [hcarries.hcarried tx htx, digestAt_val w (hlength field s hdecodes)]
    case rejected =>
      intro field s hdecodes hne
      exact absurd (hlength field s hdecodes) hne

/-- The run of `json_string_to_hash`. -/
theorem jsonStringToHash_run (hash : Bytes) (s : HandlerState) :
    (jsonStringToHash lib hash).run service s w =
      ⟨.ok (digestAt w (lib.base64Decode (cString hash))), s, w,
        beyondTrace w (lib.base64Decode (cString hash))⟩ :=
  (Routine.run_iff_wp service (jsonStringToHash lib hash) s w
    (fun o => o = ⟨.ok (digestAt w (lib.base64Decode (cString hash))), s, w,
      beyondTrace w (lib.base64Decode (cString hash))⟩)).mpr
    ((wp_uint256At _ s w [] _ _).mpr rfl)

/-- A hash is decoded in bounds exactly when its string decodes to 32 bytes. -/
theorem jsonStringToHash_inBounds_iff (hash : Bytes) (s : HandlerState) :
    HashInBounds lib hash ((jsonStringToHash lib hash).run service s w) ↔
      (lib.base64Decode (cString hash)).length = 32 := by
  rw [jsonStringToHash_run]
  constructor
  · intro h
    rw [← h.faithful _ rfl]
    exact (digestAt w _).2
  · intro hlength
    constructor
    case withinString =>
      intro e he
      exact absurd hlength (length_of_mem_beyondTrace he).ne
    case faithful =>
      intro digest hresult
      cases hresult
      exact digestAt_val w hlength

/-- Digests are decoded in bounds exactly when every decoded string has 32 bytes. -/
theorem decodesInBounds_iff (lib : Externals) (w : World) :
    (∀ parsed : Bool × Value,
      DecodesInBounds lib w parsed.2 ((handleRequest lib).run service (constructed lib parsed) w) ↔
        ∀ field s, Decodes lib w parsed.2 field s → s.length = 32) ∧
      ∀ hash s, HashInBounds lib hash ((jsonStringToHash lib hash).run service s w) ↔
        (lib.base64Decode (cString hash)).length = 32 :=
  ⟨handleRequest_decodesInBounds_iff lib w, jsonStringToHash_inBounds_iff lib w⟩

end Lengths

/-- A property set by a client that gives no last digest. -/
def undigestedProperty : Value := .object
  [(str "account", .string (str "T-alice")), (str "action", .string (str "set_property")),
    (str "property_key", .string (str "@name")), (str "property_value", .string (str "alice")),
    (str "signature", .string (str "c2ln")), (str "timestamp", .int 7)]

/-- The digest is read behind an empty string, and the proposal is sent all the same. -/
theorem undigestedProperty_not_inBounds :
    ¬DecodesInBounds sampleExternals sampleWorld undigestedProperty
      ((handleRequest sampleExternals).run service
        (constructed sampleExternals (true, undigestedProperty)) sampleWorld) := by
  intro hbounds
  have hbeyond : ∃ e ∈ ((handleRequest sampleExternals).run service
      (constructed sampleExternals (true, undigestedProperty)) sampleWorld).trace,
      e.1.isCalm = false ∧ e.1.hashed = none := by
    decide +kernel
  obtain ⟨⟨op, reply⟩, he, hcalm, hhashed⟩ := hbeyond
  cases op with
  | readBeyond s count => exact hbounds.withinString _ he s count rfl
  | sha256 tx => cases hhashed
  | txHashAndSignCalc priKey tx => cases hhashed
  | _ => cases hcalm

end XrpcServer.Handler
