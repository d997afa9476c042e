import XrpcServer.Handler.Rules
import XrpcServer.Handler.Admission

/-!
# The building blocks of a transaction action

Block by block, the effectful code is matched with its pure counterpart in
`Handler.Admission`: the last digest, the seal, the dispatch, the checks. Each block's
events are listed, so that the trace of a whole action can be put together from them.
-/

namespace XrpcServer.Handler

open XrpcServer.Text XrpcServer.Chain XrpcServer.Interaction XrpcServer.Json
open XrpcServer.Json (Value)

/-- Traces of the handler's service. -/
abbrev Config := Traced Op Reply World

section Blocks

variable (lib : Externals) (err : Exc → HandlerState → Config → Prop) (s : HandlerState)
  (w : World) (t : List HandlerEvent)

/-- Reads past the end of a short string. -/
def beyondTrace (str : Bytes) : List HandlerEvent :=
  if 32 ≤ str.length then []
  else [⟨.readBeyond str (31 - str.length), w.answer (.readBeyond str (31 - str.length))⟩]

/-- A digest is read where `digestAt` reads it. -/
theorem wp_uint256At (str : Bytes) (ok : Uint256 → HandlerState → Config → Prop) :
    (uint256At str).wp service.spec ok err s (w, t) ↔
      ok (digestAt w str) s (w, t ++ beyondTrace w str) := by
  by_cases h : 32 ≤ str.length
  · simp [uint256At, digestAt, beyondTrace, h]
  · simp [uint256At, digestAt, beyondTrace, h]

/-- Reading behind a string is silent. -/
theorem silent_beyondTrace (str : Bytes) : Silent (beyondTrace w str) := by
  unfold beyondTrace
  split <;> simp

/-- Events of `last_digest_set`. -/
def lastDigestTrace (nohash : Bool) (account : Bytes) (root : Value) : List HandlerEvent :=
  if nohash then [⟨.getAccountSnapInfo account, w.store.getAccountSnapInfo account⟩]
  else match stringOf lib root "last_digest" with
    | .ok encoded => beyondTrace w (lib.base64Decode encoded)
    | .error _ => []

/-- Looking up or decoding the last digest is silent. -/
theorem silent_lastDigestTrace (nohash : Bool) (account : Bytes) (root : Value) :
    Silent (lastDigestTrace lib w nohash account root) := by
  unfold lastDigestTrace
  split
  · simp
  · split
    · exact silent_beyondTrace w _
    · exact silent_nil

/-- `last_digest_set` computes `lastDigestOf`. -/
theorem wp_lastDigestSet (nohash : Bool) (account : Bytes)
    (ok : Option Uint256 → HandlerState → Config → Prop) :
    (lastDigestSet lib nohash account).wp service.spec ok err s (w, t) ↔
      match lastDigestOf lib w s.root nohash account with
      | .ok digest => ok (some digest) s (w, t ++ lastDigestTrace lib w nohash account s.root)
      | .error (.refused _) => ok none s (w, t ++ lastDigestTrace lib w nohash account s.root)
      | .error (.thrown e) => err e s (w, t ++ lastDigestTrace lib w nohash account s.root) := by
  cases nohash with
  | true =>
    cases h : w.store.getAccountSnapInfo account <;>
      simp [lastDigestSet, lastDigestOf, lastDigestTrace, h]
  | false =>
    cases h : stringOf lib s.root "last_digest" <;>
      simp [lastDigestSet, lastDigestOf, lastDigestTrace, wp_uint256At, h]

/-- A builder's last step takes the digest of what it built. -/
theorem wp_digestTx (ok : Unit → HandlerState → Config → Prop) :
    digestTx.wp service.spec ok err s (w, t) ↔
      ok () { s with tx := digested w s.tx } (w, t ++ [⟨.sha256 s.tx, w.sha256 s.tx⟩]) := by
  simp [digestTx, digested]

/-- The use of a server-held key, if the sender has one. -/
def signTrace (tx : Xtransaction) : List HandlerEvent :=
  match priKeyOf tx.senderAddr with
  | some priKey => [⟨.txHashAndSignCalc priKey tx, w.txHashAndSignCalc priKey tx⟩]
  | none => [⟨.unsignedSender, ()⟩]

/-- Events of `tx_digest_signature_set`. -/
def sealTrace (nohash : Bool) (tx : Xtransaction) : List HandlerEvent :=
  (if nohash then signTrace w tx else []) ++ [⟨.timestampNowMs, w.timestampNowMs⟩]

/-- `tx_digest_signature_set` computes `sealTx`. -/
theorem wp_txDigestSignatureSet (nohash : Bool) (ok : Unit → HandlerState → Config → Prop) :
    (txDigestSignatureSet lib nohash).wp service.spec ok err s (w, t) ↔
      (∀ signed, sealTx lib w s.root nohash s.tx = .ok signed →
        ok () { s with tx := signed } (w, t ++ sealTrace w nohash s.tx)) ∧
        ∀ e, sealTx lib w s.root nohash s.tx = .error (.thrown e) → err e s (w, t) := by
  cases nohash with
  | true =>
    cases h : priKeyOf s.tx.senderAddr <;>
      simp [txDigestSignatureSet, transactionDigestAdd, sealTx, sealTrace, signTrace, serverSigned,
        h]
  | false =>
    cases h : stringOf lib s.root "signature" <;>
      simp [txDigestSignatureSet, sealTx, sealTrace, h]

/-- Events of `do_transaction`. -/
def sendTrace (tx : Xtransaction) : List HandlerEvent :=
  let msg : XtopMessage := ⟨.proposalMessage, ⟨tx⟩, w.getTimestamp + UInt64.ofNat w.rand⟩
  [⟨.getTimestamp, w.getTimestamp⟩, ⟨.rand, w.rand⟩] ++
    if lib.isRpcNode then
      [⟨.getAccountShardInfo tx.senderAddr, w.accountShardInfo tx.senderAddr⟩,
        ⟨.broadcast msg (w.accountShardInfo tx.senderAddr), ()⟩]
    else [⟨.broadcastEx msg, ()⟩]

/-- `do_transaction` sends the shared transaction and cannot fail. -/
theorem wp_doTransaction (ok : Unit → HandlerState → Config → Prop) :
    (doTransaction lib).wp service.spec ok err s (w, t) ↔ ok () s (w, t ++ sendTrace lib w s.tx) := by
  cases h : lib.isRpcNode <;>
    simp [doTransaction, getTransactionUniqueId, sendTrace, h]

end Blocks

/-- A routine of checks computes a verdict, silently and without changing anything. -/
def Decides (checks : HandlerM (Option XrpcReturn)) (s : HandlerState) (w : World)
    (verdict : Except Stop Unit) : Prop :=
  ∃ trace, Silent trace ∧ ∀ ok err t, checks.wp service.spec ok err s (w, t) ↔
    match verdict with
    | .ok _ => ok none s (w, t ++ trace)
    | .error (.refused code) => ok (some code) s (w, t ++ trace)
    | .error (.thrown e) => err e s (w, t ++ trace)

/-- No checks decide positively. -/
theorem decides_none (s : HandlerState) (w : World) : Decides (pure none) s w (.ok ()) :=
  ⟨[], silent_nil, fun ok err t => by simp⟩

/-- `lastHashCheck` computes the head check. -/
theorem lastHashCheck_decides (account : Bytes) (s : HandlerState) (w : World) :
    Decides (lastHashCheck account) s w (headCheck w account s.tx) := by
  refine ⟨[⟨.getLastHash account, w.store.getLastHash account⟩], by simp, fun ok err t => ?_⟩
  cases h : w.store.getLastHash account with
  | none => simp [lastHashCheck, headCheck, refuseIf, h]
  | some hash =>
    by_cases hne : hash = s.tx.lastMsgDigest <;>
      simp [lastHashCheck, headCheck, refuseIf, h, hne]

/-- `transferOutChecks` computes the balance check followed by the head check. -/
theorem transferOutChecks_decides (srcAccount assetKey ammount : Bytes) (s : HandlerState) (w : World) :
    Decides (transferOutChecks srcAccount assetKey ammount) s w (do
      balanceCheck w srcAccount assetKey ammount
      headCheck w srcAccount s.tx) := by
  obtain ⟨headTrace, hsilent, hhead⟩ := lastHashCheck_decides srcAccount s w
  obtain ⟨ret, balance, hreply⟩ : ∃ ret balance,
      w.store.getAccountBalance srcAccount assetKey = (ret, balance) := ⟨_, _, rfl⟩
  let balanceTrace : List HandlerEvent := [⟨.getAccountBalance srcAccount assetKey, (ret, balance)⟩]
  -- a trace is named per exit: the head digest is read only after the balance has sufficed
  cases ret with
  | accountNotExist =>
    refine ⟨balanceTrace, by simp [balanceTrace], fun ok err t => ?_⟩
    simp [transferOutChecks, balanceCheck, refuseIf, hreply,
      balanceTrace]
  | noPropertyKey =>
    refine ⟨balanceTrace, by simp [balanceTrace], fun ok err t => ?_⟩
    simp [transferOutChecks, balanceCheck, refuseIf, hreply,
      balanceTrace]
  | other =>
    cases havailable : stoll balance with
    | error e =>
      refine ⟨balanceTrace, by simp [balanceTrace], fun ok err t => ?_⟩
      simp [transferOutChecks, balanceCheck, refuseIf, stollOrThrow, hreply, havailable, balanceTrace, Except.mapError]
    | ok available =>
      cases hrequested : stoll ammount with
      | error e =>
        refine ⟨balanceTrace, by simp [balanceTrace], fun ok err t => ?_⟩
        simp [transferOutChecks, balanceCheck, refuseIf, stollOrThrow, hreply, havailable, hrequested,
          balanceTrace, Except.mapError]
      | ok requested =>
        rcases lt_or_ge available requested with hlt | hle
        · refine ⟨balanceTrace, by simp [balanceTrace], fun ok err t => ?_⟩
          simp [transferOutChecks, balanceCheck, refuseIf, stollOrThrow, hreply, havailable,
            hrequested, hlt, balanceTrace, Except.mapError]
        · refine ⟨balanceTrace ++ headTrace, by simp [balanceTrace, hsilent], fun ok err t => ?_⟩
          simp [transferOutChecks, balanceCheck, refuseIf, stollOrThrow, hreply, havailable,
            hrequested, hle, not_lt.mpr hle, balanceTrace, Except.mapError, hhead]

/-- `giveChecks` computes the faucet check. -/
theorem giveChecks_decides (lib : Externals) (dstAccount : Bytes) (s : HandlerState) (w : World) :
    Decides (giveChecks lib dstAccount) s w (faucetCheck lib w dstAccount) := by
  let existEvent : HandlerEvent := ⟨.existAccount dstAccount, w.store.existAccount dstAccount⟩
  let receiveEvent : HandlerEvent :=
    ⟨.getReceiveBlocks dstAccount, w.store.getReceiveBlocks dstAccount⟩
  let settleEvent : HandlerEvent :=
    ⟨.getSettleBlocks dstAccount, w.store.getSettleBlocks dstAccount⟩
  cases hexist : w.store.existAccount dstAccount with
  | false =>
    refine ⟨[existEvent], by simp [existEvent], fun ok err t => ?_⟩
    simp [giveChecks, faucetCheck, refuseIf, hexist, existEvent]
  | true =>
    cases hreceive : w.store.getReceiveBlocks dstAccount with
    | cons tx rest =>
      refine ⟨[existEvent, receiveEvent], by simp [existEvent, receiveEvent], fun ok err t => ?_⟩
      simp [giveChecks, faucetCheck, refuseIf, hexist, hreceive, existEvent, receiveEvent]
    | nil =>
      refine ⟨[existEvent, receiveEvent, settleEvent],
        by simp [existEvent, receiveEvent, settleEvent], fun ok err t => ?_⟩
      cases hsettle : hasReceipt lib.types (w.store.getSettleBlocks dstAccount) <;>
        simp [giveChecks, faucetCheck, refuseIf, hexist, hreceive, hsettle, existEvent,
          receiveEvent, settleEvent]

end XrpcServer.Handler
