import XrpcServer.Handler.DigestCoverage
import XrpcServer.Handler.DigestFields
import XrpcServer.Handler.ListResponses
import XrpcServer.Handler.Refusals

/-!
# Digests on their way through a client

Queries encode digests, transfers decode them again. The head of an account that a query shows
is accepted as the last digest of the next transfer, and the digest shown with a pending
transaction is the one its receipt names.
-/

namespace XrpcServer.Handler

open XrpcServer.Text XrpcServer.Chain XrpcServer.Interaction XrpcServer.Json XrpcServer.Paging
open XrpcServer.Json (Value)

/-- A member of the response of a request. -/
def memberOf (o : HandlerOutcome) (key : String) : Option Value :=
  match o.state.jsRsp with
  | .object members => members.lookup (str key)
  | _ => none

/-- Some request of this kind for the account is answered with this string under the member. -/
def Reports (lib : Externals) (w : World) (kind : Action) (key : String) (account encoded : Bytes) : Prop :=
  ∃ root, ReadsRequest lib root kind account ∧ memberOf (handled lib w root) key = some (.string encoded)

/-- One of the two queries for the head of an account is answered with this string. -/
def ShowsHead (lib : Externals) (w : World) (account encoded : Bytes) : Prop :=
  Reports lib w .lastDigest "last_digest" account encoded ∨ Reports lib w .accountInfo "lasthash" account encoded

/-- A client's transfer of the account gives this string as its last digest. -/
structure SendsHead (lib : Externals) (root : Value) (account encoded : Bytes) : Prop where
  htransfer : (∃ sender, ReadsRequest lib root .transferOut sender ∧ stringOf lib root "source" = .ok account) ∨
    ReadsRequest lib root .transferIn account
  hclient : noHash account = false
  hencoded : stringOf lib root "last_digest" = .ok encoded

/-- The transactions a request has built and sent. -/
def proposed (o : HandlerOutcome) : List Xtransaction := hashes o.trace ++ dispatches o.trace

/-- The call returned a refusal with this code. -/
def RefusedWith (code : XrpcReturn) (o : HandlerOutcome) : Prop :=
  o.result = .ok () ∧ memberOf o "ErrCode" = some (.int code.code)

/-- A transfer is received whose digest is this string. -/
structure ReceivesBlock (lib : Externals) (root : Value) (encoded : Bytes) : Prop where
  hrequest : ∃ account, ReadsRequest lib root .transferIn account
  hencoded : stringOf lib root "tx_digest" = .ok encoded

section Encoding

variable {lib : Externals} {w : World} {root : Value} {account encoded : Bytes}

/-- The string encodes the head of the account. -/
def EncodesHead (lib : Externals) (w : World) (account encoded : Bytes) : Prop :=
  ∃ snap, w.store.getAccountSnapInfo account = some snap ∧ hashToJsonString lib snap.lastUnitHash = encoded

/-- `last_digest` shows the encoded head. -/
theorem encodesHead_lastDigest (hasks : ReadsRequest lib root .lastDigest account) :
    memberOf (handled lib w root) "last_digest" = some (.string encoded) → EncodesHead lib w account encoded := by
  rw [hasks.handled_eq, Routine.run_iff_wp service _ _ _
    (fun o => memberOf o "last_digest" = some (.string encoded) → EncodesHead lib w account encoded)]
  cases hsnap : w.store.getAccountSnapInfo account <;>
    simp [runAction, lastDigest, constructed_parsed, hasks.haccount, hsnap, EncodesHead, failMembers, memberOf]

/-- So does `account_info`, whatever waits for the account. -/
theorem encodesHead_accountInfo (hasks : ReadsRequest lib root .accountInfo account) :
    memberOf (handled lib w root) "lasthash" = some (.string encoded) → EncodesHead lib w account encoded := by
  rw [hasks.handled_eq, Routine.run_iff_wp service _ _ _
    (fun o => memberOf o "lasthash" = some (.string encoded) → EncodesHead lib w account encoded)]
  cases hsnap : w.store.getAccountSnapInfo account with
  | none =>
    simp [runAction, accountInfo, constructed_parsed, hasks.haccount, hsnap, EncodesHead, failMembers, memberOf]
  | some snap =>
    cases hsettle : hasReceipt lib.types (w.store.getSettleBlocks account) with
    | true =>
      simp [runAction, accountInfo, constructed_parsed, hasks.haccount, hsnap, hsettle, EncodesHead, memberOf]
    | false =>
      cases hreceive : w.store.getReceiveBlocks account <;>
        simp [runAction, accountInfo, constructed_parsed, hasks.haccount, hsnap, hsettle, EncodesHead, memberOf]

/-- Both queries show the encoded head of the account. -/
theorem ShowsHead.encodesHead (h : ShowsHead lib w account encoded) : EncodesHead lib w account encoded := by
  rcases h with ⟨root, hasks, hmember⟩ | ⟨root, hasks, hmember⟩
  · exact encodesHead_lastDigest hasks hmember
  · exact encodesHead_accountInfo hasks hmember

/-- Each row of a pending query shows the encoded digest of its transaction. -/
theorem block_of_pending (hasks : ReadsRequest lib root .accountPending account) {count : ℤ}
    (hcount : intOf root "count" = .ok count) {i : ℕ} {row : Value}
    (hrow : (rowsOf (handled lib w root))[i]? = some row) :
    ∃ tx members, (w.store.getReceiveBlocks account)[i]? = some tx ∧ row = .object members ∧
      members.lookup (str "block") = some (.string (hashToJsonString lib tx.txDigest)) := by
  rw [(listsRows_accountPending hasks hcount).rowsOf_eq, reusedRows, List.getElem?_map,
    Option.map_eq_some_iff] at hrow
  obtain ⟨members, hmembers, rfl⟩ := hrow
  have hshown (tx : Xtransaction) (members : List (Bytes × Value)) :
      (assignMembers (pendingEntries lib tx) members).lookup (str "block") =
        some (.string (hashToJsonString lib tx.txDigest)) := by
    simp [pendingEntries]
  have hrows := forall₂_reuse (R := fun (members : List (Bytes × Value)) tx =>
      members.lookup (str "block") = some (.string (hashToJsonString lib tx.txDigest)))
    hshown [] ((w.store.getReceiveBlocks account).take count.toNat)
  obtain ⟨hi, rfl⟩ := List.getElem?_eq_some_iff.mp hmembers
  have hi' : i < ((w.store.getReceiveBlocks account).take count.toNat).length := hrows.length_eq ▸ hi
  have htx := (List.take_prefix count.toNat (w.store.getReceiveBlocks account)).getElem hi'
  have hlong : i < (w.store.getReceiveBlocks account).length := by
    rw [List.length_take] at hi'
    omega
  exact ⟨_, _, List.getElem?_eq_some_iff.mpr ⟨hlong, htx.symm⟩, rfl, hrows.get hi hi'⟩

end Encoding

section Decoding

variable {lib : Externals} {w : World} {root : Value} {account encoded : Bytes}

/-- A digest survives its encoding. -/
theorem digestAt_hashToJsonString (hbase64 : ∀ b, lib.base64Decode (lib.base64Encode b) = b) (w : World)
    (digest : Uint256) : digestAt w (lib.base64Decode (hashToJsonString lib digest)) = digest := by
  apply Subtype.ext
  rw [hashToJsonString, hbase64]
  exact digestAt_val w digest.2

/-- What is sent was hashed before, up to its origin. -/
theorem exists_hashed_of_dispatched {final : Xtransaction} (h : final ∈ dispatches (handled lib w root).trace) :
    ∃ tx ∈ hashes (handled lib w root).trace, final.lastMsgDigest = tx.lastMsgDigest ∧
      final.transactionParams = tx.transactionParams := by
  have hended := handleRequest_ended lib w (constructed lib (true, root)) (fields_constructed lib (true, root))
  rw [dispatches_handleRequest] at h
  obtain ⟨draft, hdraft, haccept⟩ := admitted_eq_some.mp (Option.mem_toList.mp h)
  have htrace := hended.submitTrace hdraft haccept
  refine ⟨draft.built, by simp [htrace.hashes_eq, Draft.taken], ?_⟩
  rcases payload_of_admitted hdraft haccept with hpayload | ⟨_, _, -, hpayload, -⟩
  · exact ⟨congrArg Payload.lastMsgDigest hpayload, congrArg Payload.transactionParams hpayload⟩
  · exact ⟨congrArg Payload.lastMsgDigest hpayload, congrArg Payload.transactionParams hpayload⟩

/-- Whatever the operation hashes has a property. -/
def Op.HashesOnly (property : Xtransaction → Prop) (op : Op) : Prop := ∀ tx, op.hashed = some tx → property tx

/-- An operation that hashes nothing hashes only what has the property. -/
theorem Op.HashesOnly.of_none {property : Xtransaction → Prop} {op : Op} (h : op.hashed = none) :
    op.HashesOnly property := by
  intro tx htx
  rw [h] at htx
  cases htx

/-- So does one that hashes a transaction with the property. -/
theorem Op.HashesOnly.of_some {property : Xtransaction → Prop} {op : Op} {tx : Xtransaction}
    (h : op.hashed = some tx) (hproperty : property tx) : op.HashesOnly property := by
  intro tx' htx'
  rw [h] at htx'
  cases htx'
  exact hproperty

/-- A calm operation hashes nothing. -/
theorem Op.HashesOnly.of_isCalm {property : Xtransaction → Prop} (op : Op) (h : op.isCalm) :
    op.HashesOnly property := by
  apply of_none
  cases op <;> first | rfl | cases h

/-- What is proposed has a property of what is hashed. -/
theorem forall_proposed {P : Uint256 → Bytes → Prop}
    (h : Only (Op.HashesOnly fun tx => P tx.lastMsgDigest tx.transactionParams) (handled lib w root).trace) :
    ∀ tx ∈ proposed (handled lib w root), P tx.lastMsgDigest tx.transactionParams := by
  have hhashed : ∀ tx ∈ hashes (handled lib w root).trace, P tx.lastMsgDigest tx.transactionParams := by
    intro tx htx
    obtain ⟨e, he, hop⟩ := List.mem_filterMap.mp htx
    exact h e he tx hop
  intro tx htx
  rcases List.mem_append.mp htx with htx | htx
  · exact hhashed tx htx
  · obtain ⟨tx', htx', hdigest, hparams⟩ := exists_hashed_of_dispatched htx
    rw [hdigest, hparams]
    exact hhashed tx' htx'

/-- A transfer is proposed with the last digest that the client sent. -/
theorem SendsHead.lastMsgDigest_eq (h : SendsHead lib root account encoded) :
    ∀ tx ∈ proposed (handled lib w root), tx.lastMsgDigest = digestAt w (lib.base64Decode encoded) := by
  have hclient (lastHash) (hlastHash : lastDigestOf lib w root (noHash account) account = .ok lastHash) :
      lastHash = digestAt w (lib.base64Decode encoded) := by
    simpa [lastDigestOf_client h.hclient h.hencoded, eq_comm] using hlastHash
  apply forall_proposed (P := fun digest _ => digest = digestAt w (lib.base64Decode encoded))
  rcases h.htransfer with ⟨sender, hrequest, hsource⟩ | hrequest
  · rw [hrequest.handled_eq]
    refine (run_iff_ends _ (fun o => Only _ o.trace) _ w).mpr
      (transferOut_only Op.HashesOnly.of_isCalm hrequest ?_ ?_)
    · exact fun _ _ _ _ _ => .of_none rfl
    · intro source lastHash op tx hread hlastHash htx hdigest
      obtain rfl : account = source := by simpa using hsource.symm.trans hread
      exact .of_some htx (hdigest.trans (hclient lastHash hlastHash))
  · rw [hrequest.handled_eq]
    refine (run_iff_ends _ (fun o => Only _ o.trace) _ w).mpr
      (transferIn_only Op.HashesOnly.of_isCalm hrequest ?_ ?_ ?_)
    · exact fun _ _ _ _ => .of_none rfl
    · exact fun _ _ _ _ => .of_none rfl
    · intro lastHash received op tx hlastHash _ htx hdigest _
      exact .of_some htx (hdigest.trans (hclient lastHash hlastHash))

/-- A receipt is proposed with the digest that the request named. -/
theorem ReceivesBlock.transactionParams_eq (h : ReceivesBlock lib root encoded) :
    ∀ tx ∈ proposed (handled lib w root), tx.transactionParams = (digestAt w (lib.base64Decode encoded)).1 := by
  apply forall_proposed (P := fun _ params => params = (digestAt w (lib.base64Decode encoded)).1)
  obtain ⟨account, hrequest⟩ := h.hrequest
  rw [hrequest.handled_eq]
  refine (run_iff_ends _ (fun o => Only _ o.trace) _ w).mpr
    (transferIn_only Op.HashesOnly.of_isCalm hrequest ?_ ?_ ?_)
  · exact fun _ _ _ _ => .of_none rfl
  · exact fun _ _ _ _ => .of_none rfl
  · intro lastHash received op tx _ hreceived htx _ hparams
    obtain rfl : encoded = received := by simpa using h.hencoded.symm.trans hreceived
    exact .of_some htx hparams

/-- The draft of such a transfer belongs to the account and extends what the client sent. -/
theorem SendsHead.built (h : SendsHead lib root account encoded) {fresh : Xtransaction} {draft : Draft}
    (hdraft : Drafted lib w root fresh draft) : draft.built.senderAddr = account ∧
      draft.built.lastMsgDigest = digestAt w (lib.base64Decode encoded) := by
  have hclient (lastHash) (hlastHash : lastDigestOf lib w root (noHash account) account = .ok lastHash) :
      lastHash = digestAt w (lib.base64Decode encoded) := by
    simpa [lastDigestOf_client h.hclient h.hencoded, eq_comm] using hlastHash
  rcases h.htransfer with ⟨sender, hrequest, hsource⟩ | hrequest
  · cases hdraft with
    | transferOut reads =>
      obtain rfl := Except.ok.inj (hsource.symm.trans reads.hsource)
      exact ⟨rfl, hclient _ reads.hlastHash⟩
    | accountCreate reads | transferIn reads | setProperty reads | give reads =>
      cases hrequest.kind_eq reads.haction
  · cases hdraft with
    | transferIn reads =>
      obtain rfl := Except.ok.inj (hrequest.haccount.symm.trans reads.haccount)
      exact ⟨rfl, hclient _ reads.hlastHash⟩
    | accountCreate reads | transferOut reads | setProperty reads | give reads =>
      cases hrequest.kind_eq reads.haction

/-- A response tells the code of its refusal. -/
theorem Concludes.not_refusedWith {rsp : Value} {taken : List Xtransaction} {keys : List (Bytes × Xtransaction)}
    {x : Except Stop Xtransaction} {o : HandlerOutcome} {code : XrpcReturn}
    (h : Concludes lib w rsp [] taken keys x o)
    (hx : RefusesWith (fun code' => code'.code ≠ code.code) (fun _ => True) x) : ¬RefusedWith code o := by
  intro hrefused
  obtain ⟨hresult, hmember⟩ := hrefused
  rcases x with (e | code') | final
  · rw [h.1] at hresult
    cases hresult
  · obtain ⟨-, hrsp, -⟩ := h
    simp [memberOf, hrsp, failMembers] at hmember
    exact hx hmember
  · obtain ⟨-, hrsp, -⟩ := h
    simp [memberOf, hrsp, okMembers] at hmember

/-- The ordinary codes are not the one for a wrong chain position. -/
theorem code_ne_of_mem_ordinaryCodes {code : XrpcReturn} (h : code ∈ ordinaryCodes) :
    code.code ≠ XrpcReturn.lastHashError.code := by
  revert code
  decide

/-- A transfer that extends the head of its account is not refused for its chain position. -/
theorem SendsHead.not_refused (h : SendsHead lib root account encoded)
    (hmatches : HeadMatches w account (digestAt w (lib.base64Decode encoded))) :
    ¬RefusedWith .lastHashError (handled lib w root) := by
  obtain ⟨kind, sender, hkind, hread⟩ : ∃ kind sender, kind.isTransaction ∧ ReadsRequest lib root kind sender := by
    rcases h.htransfer with ⟨sender, hread, -⟩ | hread
    · exact ⟨_, sender, rfl, hread⟩
    · exact ⟨_, account, rfl, hread⟩
  have hhandles := handleRequest_handles lib w (constructed lib (true, root)) (fields_constructed lib (true, root))
  have hrequest : requestAction lib root = .ok (kind, noHash sender) := by
    simp only [requestAction, hread.haction, hread.haccount, except_bind_ok, except_pure, actionOf_text]
  cases hdraft : actionDraft lib w root lib.freshTransaction (noHash sender) kind with
  | none =>
    rw [actionDraft_eq_none] at hdraft
    rw [hdraft] at hkind
    cases hkind
  | some draft =>
    have hrefuses := refuses_actionDraft lib w root lib.freshTransaction hdraft
    simp only [Handles, show (constructed lib (true, root)).root = root from rfl,
      show (constructed lib (true, root)).tx = lib.freshTransaction from rfl, hrequest, hdraft] at hhandles
    cases draft with
    | error stop =>
      apply Concludes.not_refusedWith hhandles
      rcases stop with e | code
      · trivial
      · exact code_ne_of_mem_ordinaryCodes hrefuses
    | ok draft =>
      apply Concludes.not_refusedWith hhandles
      have hdrafted : Drafted lib w root lib.freshTransaction draft :=
        drafted_of_requestDraft (by simp only [requestDraft, hrequest, hdraft])
      obtain ⟨hsender, hdigest⟩ := h.built hdrafted
      refine (Draft.Refuses.accept lib w root hrefuses).mono fun code hcode => ?_
      rcases hcode with hordinary | ⟨-, hstale⟩
      · exact code_ne_of_mem_ordinaryCodes hordinary
      · rw [hsender, hdigest] at hstale
        exact absurd hmatches hstale

/-- A refusal is told by its code. -/
theorem Fulfils.refusedWith {s : HandlerState} {o : HandlerOutcome} {code : XrpcReturn}
    (h : Fulfils lib w s [] (.error (.refused code)) o) : RefusedWith code o := by
  obtain ⟨hresult, hrsp, -, -⟩ := h
  exact ⟨hresult, by simp [memberOf, hrsp, failMembers]⟩

/-- A request that returns has its draft made, unless it is refused with the one code its draft may be
refused with. -/
theorem ReadsRequest.drafted {kind : Action} {sender : Bytes} (hread : ReadsRequest lib root kind sender)
    {draft : Except Stop Draft} {code : XrpcReturn}
    (hdraft : actionDraft lib w root lib.freshTransaction (noHash sender) kind = some draft)
    (hrefuses : RefusesWith (· = code) (fun _ => True) draft) (hreturned : (handled lib w root).result = .ok ())
    (hcode : ¬RefusedWith code (handled lib w root)) :
    ∃ made, Drafted lib w root lib.freshTransaction made := by
  have hhandles := handleRequest_handles lib w (constructed lib (true, root)) (fields_constructed lib (true, root))
  have hrequest : requestAction lib root = .ok (kind, noHash sender) := by
    simp only [requestAction, hread.haction, hread.haccount, except_bind_ok, except_pure, actionOf_text]
  simp only [Handles, show (constructed lib (true, root)).root = root from rfl,
    show (constructed lib (true, root)).tx = lib.freshTransaction from rfl, hrequest, hdraft] at hhandles
  rcases draft with (e | code') | made
  · have hraised : (handled lib w root).result = .error e := hhandles.1
    rw [hreturned] at hraised
    cases hraised
  · obtain rfl : code' = code := hrefuses
    exact absurd (Fulfils.refusedWith hhandles) hcode
  · exact ⟨made, drafted_of_requestDraft (by simp only [requestDraft, hrequest, hdraft])⟩

/-- The timestamp is read without a refusal. -/
theorem refusesWith_timestampOf {allowed : XrpcReturn → Prop} :
    RefusesWith allowed (fun _ => True) (timestampOf root) :=
  (refusesWith_orThrow _).bind fun _ _ => trivial

/-- The last digest of a client is read without a refusal. -/
theorem refusesWith_lastDigestOf_client {allowed : XrpcReturn → Prop} {nohash : Bool} {sender : Bytes}
    (hclient : nohash = false) :
    RefusesWith allowed (fun _ => True) (lastDigestOf lib w root nohash sender) := by
  rw [lastDigestOf, hclient]
  exact (refusesWith_orThrow _).bind fun _ _ => trivial

/-- A transfer of a client that returns has decoded its last digest, unless its sender is its receiver. -/
theorem SendsHead.decodes (h : SendsHead lib root account encoded)
    (hreturned : (handled lib w root).result = .ok ())
    (hdistinct : ¬RefusedWith .senderReceiverTheSame (handled lib w root)) :
    Decodes lib w root .lastDigest (lib.base64Decode encoded) := by
  rcases h.htransfer with ⟨sender, hread, hsource⟩ | hread
  · have hrefuses : RefusesWith (· = .senderReceiverTheSame) (fun _ => True)
        (transferOutDraft lib w root lib.freshTransaction (noHash account)) := by
      apply (refusesWith_orThrow _).bind
      intro source _
      apply (refusesWith_orThrow _).bind
      intro destination _
      apply (refusesWith_orThrow _).bind
      intro assetKey _
      apply (refusesWith_orThrow _).bind
      intro ammount _
      apply refusesWith_timestampOf.bind
      intro timestamp _
      have hsame : RefusesWith (· = XrpcReturn.senderReceiverTheSame) (fun _ => True)
          (refuseIf (source = destination) .senderReceiverTheSame) := refusesWith_refuseIf _ fun _ => rfl
      apply hsame.bind
      intro _ _
      exact (refusesWith_lastDigestOf_client h.hclient).bind fun _ _ => trivial
    have hdraft : actionDraft lib w root lib.freshTransaction (noHash sender) .transferOut =
        some (transferOutDraft lib w root lib.freshTransaction (noHash account)) := by
      simp [actionDraft, hsource]
    obtain ⟨made, hmade⟩ := hread.drafted hdraft hrefuses hreturned hdistinct
    cases hmade with
    | transferOut reads =>
      obtain rfl := Except.ok.inj (hsource.symm.trans reads.hsource)
      exact .transferOut ⟨⟨_, hread⟩, hsource, ⟨_, reads.hdestination, reads.hdistinct⟩, ⟨_, reads.hassetKey⟩,
        ⟨_, reads.hammount⟩, ⟨_, reads.htimestamp⟩, h.hclient, h.hencoded⟩
    | accountCreate reads | transferIn reads | setProperty reads | give reads =>
      cases hread.kind_eq reads.haction
  · have hrefuses : RefusesWith (· = .senderReceiverTheSame) (fun _ => True)
        (transferInDraft lib w root lib.freshTransaction (noHash account)) := by
      apply refusesWith_timestampOf.bind
      intro timestamp _
      apply (refusesWith_orThrow _).bind
      intro own _
      apply (refusesWith_lastDigestOf_client h.hclient).bind
      intro lastHash _
      exact (refusesWith_orThrow _).bind fun _ _ => trivial
    obtain ⟨made, hmade⟩ := hread.drafted rfl hrefuses hreturned hdistinct
    cases hmade with
    | transferIn reads => exact .transferIn ⟨hread, ⟨_, reads.htimestamp⟩, h.hclient, h.hencoded⟩
    | accountCreate reads | transferOut reads | setProperty reads | give reads =>
      cases hread.kind_eq reads.haction

/-- A receipt that returns has decoded the digest of its transfer, unless its account is not known. -/
theorem ReceivesBlock.decodes (h : ReceivesBlock lib root encoded)
    (hreturned : (handled lib w root).result = .ok ())
    (hfound : ¬RefusedWith .serverAccountNotFound (handled lib w root)) :
    Decodes lib w root .txDigest (lib.base64Decode encoded) := by
  obtain ⟨account, hread⟩ := h.hrequest
  have hlast : RefusesWith (· = .serverAccountNotFound) (fun _ => True)
      (lastDigestOf lib w root (noHash account) account) := by
    unfold lastDigestOf
    split
    · cases w.store.getAccountSnapInfo account with
      | none => rfl
      | some snap => trivial
    · exact (refusesWith_orThrow _).bind fun _ _ => trivial
  have hrefuses : RefusesWith (· = .serverAccountNotFound) (fun _ => True)
      (transferInDraft lib w root lib.freshTransaction (noHash account)) := by
    apply refusesWith_timestampOf.bind
    intro timestamp _
    rw [hread.haccount]
    apply hlast.bind
    intro lastHash _
    exact (refusesWith_orThrow _).bind fun _ _ => trivial
  obtain ⟨made, hmade⟩ := hread.drafted rfl hrefuses hreturned hfound
  cases hmade with
  | transferIn reads =>
    obtain rfl := Except.ok.inj (hread.haccount.symm.trans reads.haccount)
    exact .received ⟨hread, ⟨_, reads.htimestamp⟩, ⟨_, reads.hlastHash⟩, h.hencoded⟩
  | accountCreate reads | transferOut reads | setProperty reads | give reads =>
    cases hread.kind_eq reads.haction

/-- What is decoded by a request that returns has been hashed in a transaction. -/
theorem Decodes.exists_hashed {field : DigestField} {decoded : Bytes} (h : Decodes lib w root field decoded)
    (hreturned : (handled lib w root).result = .ok ()) :
    ∃ tx ∈ hashes (handled lib w root).trace, field.carried tx = (digestAt w decoded).1 := by
  have hcarries := Decodes.carries (s := constructed lib (true, root)) h
  obtain ⟨tx, htx⟩ := List.exists_mem_of_ne_nil _ (hcarries.hreturned hreturned)
  exact ⟨tx, htx, hcarries.hcarried tx htx⟩

end Decoding

/-- Digests survive the trip through a client: the head of an account, shown by either query, is
the last digest of the transfer that sends it back, and the digest of a pending transaction is
the one its receipt names. A transfer that returns has hashed such a transaction, unless it was
refused before it had decoded the digest. -/
theorem digests_roundTrip (lib : Externals) (w : World)
    (hbase64 : ∀ b, lib.base64Decode (lib.base64Encode b) = b) (hheads : w.store.HeadsAgree) :
    (∀ (account encoded : Bytes) (root : Value) (w' : World), ShowsHead lib w account encoded →
      w'.store = w.store → SendsHead lib root account encoded →
        (∃ snap, w.store.getAccountSnapInfo account = some snap ∧
          (∀ tx ∈ proposed (handled lib w' root), tx.lastMsgDigest = snap.lastUnitHash) ∧
          ((handled lib w' root).result = .ok () →
            ¬RefusedWith .senderReceiverTheSame (handled lib w' root) →
              ∃ tx ∈ hashes (handled lib w' root).trace, tx.lastMsgDigest = snap.lastUnitHash)) ∧
        ¬RefusedWith .lastHashError (handled lib w' root)) ∧
    ∀ (account : Bytes) (root : Value) (count : ℤ) (i : ℕ) (row : Value),
      ReadsRequest lib root .accountPending account → intOf root "count" = .ok count →
      (rowsOf (handled lib w root))[i]? = some row →
        ∃ (tx : Xtransaction) (members : List (Bytes × Value)) (encoded : Bytes),
          (w.store.getReceiveBlocks account)[i]? = some tx ∧ row = .object members ∧
          members.lookup (str "block") = some (.string encoded) ∧
          ∀ (w' : World) (root' : Value), ReceivesBlock lib root' encoded →
            (∀ tx' ∈ proposed (handled lib w' root'), tx'.transactionParams = tx.txDigest.1) ∧
            ((handled lib w' root').result = .ok () →
              ¬RefusedWith .serverAccountNotFound (handled lib w' root') →
                ∃ tx' ∈ hashes (handled lib w' root').trace, tx'.transactionParams = tx.txDigest.1) := by
  constructor
  · intro account encoded root w' hshows hstore hsends
    obtain ⟨snap, hsnap, rfl⟩ := hshows.encodesHead
    have hdigest : digestAt w' (lib.base64Decode (hashToJsonString lib snap.lastUnitHash)) = snap.lastUnitHash :=
      digestAt_hashToJsonString hbase64 w' snap.lastUnitHash
    refine ⟨⟨snap, hsnap, ?_, ?_⟩, hsends.not_refused ?_⟩
    · intro tx htx
      rw [hsends.lastMsgDigest_eq tx htx, hdigest]
    · intro hreturned hdistinct
      obtain ⟨tx, htx, hcarried⟩ := (hsends.decodes hreturned hdistinct).exists_hashed hreturned
      rw [hdigest] at hcarried
      exact ⟨tx, htx, Subtype.ext hcarried⟩
    · intro hash hhash
      rw [hstore] at hhash
      rw [hdigest]
      exact hheads account snap hash hsnap hhash
  · intro account root count i row hasks hcount hrow
    obtain ⟨tx, members, htx, hmembers, hblock⟩ := block_of_pending hasks hcount hrow
    refine ⟨tx, members, _, htx, hmembers, hblock, fun w' root' hreceives => ⟨?_, ?_⟩⟩
    · intro tx' htx'
      rw [hreceives.transactionParams_eq tx' htx', digestAt_hashToJsonString hbase64]
    · intro hreturned hfound
      obtain ⟨tx', htx', hcarried⟩ := (hreceives.decodes hreturned hfound).exists_hashed hreturned
      rw [digestAt_hashToJsonString hbase64] at hcarried
      exact ⟨tx', htx', hcarried⟩

section Sample

/-- Libraries whose base64 is the sample table, and a marked copy for all other strings. -/
def tripExternals : Externals :=
  { sampleExternals with
    base64Encode := fun b => ((sampleBase64.map Prod.swap).lookup b).getD (0 :: b)
    base64Decode := fun encoded => (sampleBase64.lookup encoded).getD encoded.tail }

/-- Decoding undoes encoding. -/
theorem tripExternals_decode_encode (b : Bytes) :
    tripExternals.base64Decode (tripExternals.base64Encode b) = b := by
  have hmarked : sampleBase64.lookup (0 :: b) = none := by
    rw [List.lookup_eq_none_iff]
    intro entry hentry
    have hhead : ∀ entry ∈ sampleBase64, entry.1.head? ≠ some 0 := by decide +kernel
    have hne : 0 :: b ≠ entry.1 := fun heq => hhead entry hentry (heq ▸ rfl)
    simpa using hne
  cases hcoded : (sampleBase64.map Prod.swap).lookup b with
  | none => simp [tripExternals, hcoded, hmarked]
  | some encoded =>
    have htable : ∀ entry ∈ sampleBase64.map Prod.swap, sampleBase64.lookup entry.2 = some entry.1 := by
      decide +kernel
    obtain ⟨before, after, hsplit, -⟩ := List.lookup_eq_some_iff.mp hcoded
    simp [tripExternals, hcoded, htable (b, encoded) (by simp [hsplit])]

/-- A sample store in which a transfer waits for everyone. -/
def tripWorld : World := sampleListWorld [{ sampleTransfer with txDigest := sampleDigest 2 }]

/-- A query for the head of an account. -/
def tripHeadQuery : Value := .object
  [(str "account", .string (str "T-alice")), (str "action", .string (str "last_digest"))]

/-- A query for what waits for the account. -/
def tripPendingQuery : Value := .object
  [(str "account", .string (str "T-alice")), (str "action", .string (str "account_pending")),
    (str "count", .int 1)]

/-- The receipt of the account for the transfer, signed by a client. -/
def tripReceipt : Value := .object
  [(str "account", .string (str "T-alice")), (str "action", .string (str "transfer_in")),
    (str "amount", .string (str "5")),
    (str "last_digest", .string (str "AQEBAQEBAQEBAQEBAQEBAQEBAQEBAQEBAQEBAQEBAQE=")),
    (str "sender", .string (str "T-bob")), (str "signature", .string (str "c2ln")),
    (str "timestamp", .int 7),
    (str "tx_digest", .string (str "AgICAgICAgICAgICAgICAgICAgICAgICAgICAgICAgI="))]

/-- The receipt is accepted. -/
theorem tripReceipt_returns : (handled tripExternals tripWorld tripReceipt).result = .ok () ∧
    memberOf (handled tripExternals tripWorld tripReceipt) "ErrCode" = none := by
  constructor
  · rfl
  · rfl

/-- Both digests of the sample store arrive in the receipt, for which a transaction is hashed and sent. -/
theorem digests_roundTrip_sample :
    ((∀ tx ∈ proposed (handled tripExternals tripWorld tripReceipt),
      tx.lastMsgDigest = sampleDigest 1 ∧ tx.transactionParams = (sampleDigest 2).1) ∧
      (∃ tx ∈ hashes (handled tripExternals tripWorld tripReceipt).trace, tx.lastMsgDigest = sampleDigest 1) ∧
      (∃ tx ∈ hashes (handled tripExternals tripWorld tripReceipt).trace,
        tx.transactionParams = (sampleDigest 2).1) ∧
      dispatches (handled tripExternals tripWorld tripReceipt).trace ≠ []) ∧
      ¬RefusedWith .lastHashError (handled tripExternals tripWorld tripReceipt) := by
  obtain ⟨hhead, hblock⟩ := digests_roundTrip tripExternals tripWorld tripExternals_decode_encode
    sampleStore_headsAgree
  have hshows : ShowsHead tripExternals tripWorld (str "T-alice")
      (str "AQEBAQEBAQEBAQEBAQEBAQEBAQEBAQEBAQEBAQEBAQE=") :=
    .inl ⟨tripHeadQuery, ⟨rfl, rfl⟩, by rfl⟩
  have hsends : SendsHead tripExternals tripReceipt (str "T-alice")
      (str "AQEBAQEBAQEBAQEBAQEBAQEBAQEBAQEBAQEBAQEBAQE=") :=
    ⟨.inr ⟨rfl, rfl⟩, by decide, rfl⟩
  have hrow : (rowsOf (handled tripExternals tripWorld tripPendingQuery))[0]? = some (.object
      [(str "amount", .string []),
        (str "block", .string (str "AgICAgICAgICAgICAgICAgICAgICAgICAgICAgICAgI=")),
        (str "property_key", .string []), (str "sender", .string [])]) := by
    rfl
  obtain ⟨⟨snap, hsnap, hdigest, hhashed⟩, hnotRefused⟩ := hhead _ _ tripReceipt tripWorld hshows rfl hsends
  obtain ⟨pending, members, encoded, hpending, hmembers, hencoded, hparams⟩ :=
    hblock (str "T-alice") tripPendingQuery 1 0 _ ⟨rfl, rfl⟩ rfl hrow
  cases hsnap
  cases hpending
  cases hmembers
  cases hencoded
  have hreceives : ReceivesBlock tripExternals tripReceipt
      (str "AgICAgICAgICAgICAgICAgICAgICAgICAgICAgICAgI=") :=
    ⟨⟨str "T-alice", rfl, rfl⟩, rfl⟩
  obtain ⟨hresult, hmember⟩ := tripReceipt_returns
  have haccepted (code : XrpcReturn) : ¬RefusedWith code (handled tripExternals tripWorld tripReceipt) := by
    intro hrefused
    rw [RefusedWith, hmember] at hrefused
    cases hrefused.2
  obtain ⟨hnamed, hreturned⟩ := hparams tripWorld tripReceipt hreceives
  exact ⟨⟨fun tx htx => ⟨hdigest tx htx, hnamed tx htx⟩, hhashed hresult (haccepted _),
    hreturned hresult (haccepted _), by decide +kernel⟩, hnotRefused⟩

end Sample

end XrpcServer.Handler
