import XrpcServer.Handler.Drafts

/-!
# The chain position of a proposal

A transaction extends the chain of its sender when its last digest is the recorded head. The
server's own transactions take the digest from the account snapshot, the transfers of a client
are compared with the head, and `set_property` of a client is not compared with anything.
-/

namespace XrpcServer.Handler

open XrpcServer.Text XrpcServer.Chain XrpcServer.Interaction XrpcServer.Json
open XrpcServer.Json (Value)

/-- The request names one of the actions that extend an existing chain. -/
def RequestsExtension (lib : Externals) (root : Value) : Prop :=
  ∃ kind ∈ [Action.transferOut, .transferIn, .setProperty, .give],
    stringOf lib root "action" = .ok (str kind.text)

/-- Whatever such a request dispatches extends the recorded head of its sender. -/
def ExtendsHeads (lib : Externals) (w : World) (root : Value) (o : HandlerOutcome) : Prop :=
  RequestsExtension lib root → ∀ final ∈ dispatches o.trace,
    HeadMatches w final.senderAddr final.lastMsgDigest

/-- A `set_property` request of this client, on this chain position, passes every check. -/
def ClientSetPropertyPasses (lib : Externals) (w : World) (root : Value) (fresh : Xtransaction)
    (account : Bytes) (lastHash : Uint256) : Prop :=
  noHash account = false ∧ ∃ cAccount propertyKey propertyValue timestamp signed,
    ReadsSetProperty lib w root account cAccount propertyKey propertyValue timestamp lastHash ∧
    sealTx lib w root false (digested w (setPropertyTx lib.types account propertyKey propertyValue
      (UInt64.ofInt timestamp) lastHash fresh)) = .ok signed ∧
    w.txHashAndSignVerify signed = true

section Admission

variable {lib : Externals} {w : World} {root : Value} {fresh : Xtransaction}

/-- The last digest of a server-signed transaction is the head of its sender. -/
theorem headMatches_of_nohash (hheads : w.store.HeadsAgree) {account : Bytes} {lastHash : Uint256}
    (h : lastDigestOf lib w root true account = .ok lastHash) : HeadMatches w account lastHash := by
  intro hash hhash
  cases hsnap : w.store.getAccountSnapInfo account with
  | none => simp [lastDigestOf, hsnap] at h
  | some snap =>
    obtain rfl : snap.lastUnitHash = lastHash := by simpa [lastDigestOf, hsnap] using h
    exact hheads account snap hash hsnap hhash

/-- The addresses with a server-held key contain no zero byte. -/
theorem cString_of_noHash {account : Bytes} (h : noHash account = true) :
    cString account = account := by
  simp only [noHash, Bool.or_eq_true, decide_eq_true_eq] at h
  rcases h with (rfl | rfl) | rfl <;> decide +kernel

/-- The account a `set_property` request asks the head of is the sender, for a built-in sender. -/
theorem ReadsSetProperty.cAccount_eq {account cAccount propertyKey propertyValue : Bytes}
    {timestamp : ℤ} {lastHash : Uint256}
    (h : ReadsSetProperty lib w root account cAccount propertyKey propertyValue timestamp lastHash)
    (hnohash : noHash account = true) : cAccount = account := by
  have haccount := h.haccount
  have hcAccount := h.hcAccount
  simp only [stringOf, cStringOf] at haccount hcAccount
  cases hvalue : root.get (str "account") with
  | error e => simp [hvalue, Except.bind] at haccount
  | ok value =>
    simp only [hvalue, Except.bind] at haccount hcAccount
    cases hc : value.asCString with
    | error e => simp [hc] at hcAccount
    | ok c =>
      obtain ⟨s, hs, rfl⟩ := @Value.asString_of_asCString lib.printReal _ _ hc
      obtain rfl : s = account := by simpa [hs] using haccount
      obtain rfl : cString s = cAccount := by simpa [hc] using hcAccount
      exact cString_of_noHash hnohash

/-- An admitted transaction extends a head, unless a client sets a property. -/
theorem headMatches_of_admitted (hheads : w.store.HeadsAgree) (haction : RequestsExtension lib root)
    {final : Xtransaction} (h : admitted lib w root fresh = some final) :
    HeadMatches w final.senderAddr final.lastMsgDigest ∨
      ClientSetPropertyPasses lib w root fresh final.senderAddr final.lastMsgDigest := by
  obtain ⟨draft, hdraft, haccept⟩ := admitted_eq_some.mp h
  obtain ⟨signed, hseal, hfinish, hverify, hcheck⟩ := Draft.accept_eq_ok.mp haccept
  have hpayload : signed.payload = draft.built.payload := (sealTx_payload hseal).trans rfl
  have hsender : signed.senderAddr = draft.built.senderAddr := congrArg Payload.senderAddr hpayload
  have hdigest : signed.lastMsgDigest = draft.built.lastMsgDigest :=
    congrArg Payload.lastMsgDigest hpayload
  cases hdraft with
  | accountCreate reads =>
    obtain ⟨kind, hkind, hname⟩ := haction
    have := reads.kind_eq hname
    subst this
    simp at hkind
  | transferOut reads =>
    obtain rfl : signed = final := by simpa using hfinish
    obtain ⟨_, -, hhead⟩ := except_bind_eq_ok.mp hcheck
    left
    rw [hsender]
    exact headCheck_eq_ok.mp hhead
  | give reads =>
    obtain rfl : signed = final := by simpa using hfinish
    left
    rw [hsender, hdigest]
    exact headMatches_of_nohash hheads reads.hlastHash
  | transferIn reads =>
    left
    exact headCheck_eq_ok.mp hcheck
  | setProperty reads =>
    obtain rfl : signed = final := by simpa using hfinish
    rw [hsender, hdigest]
    cases hnohash : noHash _ with
    | true =>
      left
      have hlastHash := reads.hlastHash
      rw [reads.cAccount_eq hnohash, hnohash] at hlastHash
      exact headMatches_of_nohash hheads hlastHash
    | false =>
      right
      rw [hnohash] at hseal
      exact ⟨hnohash, _, _, _, _, signed, reads, hseal, hverify⟩

/-- A client's property that passes is admitted on the position it names. -/
theorem ClientSetPropertyPasses.admitted {account : Bytes} {lastHash : Uint256}
    (h : ClientSetPropertyPasses lib w root fresh account lastHash) :
    RequestsExtension lib root ∧ ∃ final, admitted lib w root fresh = some final ∧
      final.senderAddr = account ∧ final.lastMsgDigest = lastHash := by
  obtain ⟨hnohash, cAccount, propertyKey, propertyValue, timestamp, signed, reads, hseal, hverify⟩ := h
  refine ⟨⟨.setProperty, by simp, reads.haction⟩, signed, ?_,
    congrArg Payload.senderAddr (sealTx_payload hseal),
    congrArg Payload.lastMsgDigest (sealTx_payload hseal)⟩
  refine admitted_eq_some.mpr ⟨_, .setProperty reads, Draft.accept_eq_ok.mpr ⟨signed, ?_, rfl, hverify, rfl⟩⟩
  rwa [hnohash]

end Admission

/-- Proposals extend heads exactly when every client's property that passes names the head. -/
theorem extendsHeads_iff (lib : Externals) (w : World) (parsed : Bool × Value)
    (hheads : w.store.HeadsAgree) :
    ExtendsHeads lib w parsed.2 ((handleRequest lib).run service (constructed lib parsed) w) ↔
      ∀ account lastHash,
        ClientSetPropertyPasses lib w parsed.2 lib.freshTransaction account lastHash →
          HeadMatches w account lastHash := by
  unfold ExtendsHeads
  rw [dispatches_handleRequest]
  constructor
  · intro hextends account lastHash hpasses
    obtain ⟨haction, final, hadmitted, rfl, rfl⟩ := hpasses.admitted
    exact hextends haction final (by simp [hadmitted])
  · intro hclients haction final hfinal
    have hadmitted : admitted lib w parsed.2 lib.freshTransaction = some final := by
      simpa [eq_comm] using hfinal
    exact (headMatches_of_admitted hheads haction hadmitted).elim id (hclients _ _)

/-- A property set by a client on a chain position that is not its head. -/
def staleProperty : Value := .object
  [(str "account", .string (str "T-alice")), (str "action", .string (str "set_property")),
    (str "last_digest", .string (str "AgICAgICAgICAgICAgICAgICAgICAgICAgICAgICAgI=")),
    (str "property_key", .string (str "@name")), (str "property_value", .string (str "alice")),
    (str "signature", .string (str "c2ln")), (str "timestamp", .int 7)]

/-- The sample server sends it, although the head of the account is another digest. -/
theorem staleProperty_not_extends : sampleWorld.store.HeadsAgree ∧
    ¬ExtendsHeads sampleExternals sampleWorld staleProperty
      ((handleRequest sampleExternals).run service
        (constructed sampleExternals (true, staleProperty)) sampleWorld) := by
  refine ⟨sampleStore_headsAgree, fun hextends => ?_⟩
  have hsent : ∃ final ∈ dispatches ((handleRequest sampleExternals).run service
      (constructed sampleExternals (true, staleProperty)) sampleWorld).trace,
      final.lastMsgDigest = sampleDigest 2 := by
    decide +kernel
  obtain ⟨final, hfinal, hdigest⟩ := hsent
  have haction : RequestsExtension sampleExternals staleProperty :=
    ⟨.setProperty, by simp, by decide⟩
  have hhead : sampleDigest 1 = final.lastMsgDigest := hextends haction final hfinal _ rfl
  rw [hdigest] at hhead
  revert hhead
  decide

/-- In the sample store every other kind of request extends heads. -/
theorem extendsHeads_iff_sample : sampleWorld.store.HeadsAgree ∧
    (ExtendsHeads sampleExternals sampleWorld staleProperty ((handleRequest sampleExternals).run service
        (constructed sampleExternals (true, staleProperty)) sampleWorld) ↔
      ∀ account lastHash, ClientSetPropertyPasses sampleExternals sampleWorld staleProperty
        sampleExternals.freshTransaction account lastHash → HeadMatches sampleWorld account lastHash) :=
  ⟨sampleStore_headsAgree, extendsHeads_iff sampleExternals sampleWorld (true, staleProperty)
    sampleStore_headsAgree⟩

end XrpcServer.Handler
