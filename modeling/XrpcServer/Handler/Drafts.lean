import XrpcServer.Handler.Dispatcher

/-!
# The drafts of a request

What can be read off a draft once the request it came from is known: which members of the
request were converted, who the sender is, and what is still written after the seal.
-/

namespace XrpcServer.Handler

open XrpcServer.Text XrpcServer.Chain XrpcServer.Interaction XrpcServer.Json
open XrpcServer.Json (Value)

/-- A draft comes from the two converted members and the action found in them. -/
theorem requestDraft_eq_some {lib : Externals} {w : World} {root : Value} {fresh : Xtransaction}
    {draft : Draft} : requestDraft lib w root fresh = some draft ↔
      ∃ action account, stringOf lib root "action" = .ok action ∧
        stringOf lib root "account" = .ok account ∧
        actionDraft lib w root fresh (noHash account) (actionOf action) = some (.ok draft) := by
  cases haction : stringOf lib root "action" with
  | error e => simp [requestDraft, requestAction, haction]
  | ok action =>
    cases haccount : stringOf lib root "account" with
    | error e => simp [requestDraft, requestAction, haction, haccount]
    | ok account =>
      rcases hdraft : actionDraft lib w root fresh (noHash account) (actionOf action) with
        - | stop | draft' <;>
        simp [requestDraft, requestAction, haction, haccount, hdraft]

/-- The account has no recorded head, or this one. -/
def HeadMatches (w : World) (account : Bytes) (digest : Uint256) : Prop :=
  ∀ hash, w.store.getLastHash account = some hash → hash = digest

/-- The head check passes when the head matches. -/
theorem headCheck_eq_ok {w : World} {account : Bytes} {tx : Xtransaction} :
    headCheck w account tx = .ok () ↔ HeadMatches w account tx.lastMsgDigest := by
  simp [headCheck, refuseIf_eq_ok, HeadMatches]

/-- The store knows the property, and what `stoll` reads from the balance is at least what it
reads from the amount. -/
def BalanceSuffices (w : World) (account assetKey ammount : Bytes) : Prop :=
  (w.store.getAccountBalance account assetKey).1 = .other ∧
    ∃ available requested, stoll (w.store.getAccountBalance account assetKey).2 = .ok available ∧
      stoll ammount = .ok requested ∧ requested ≤ available

/-- The balance check passes when the balance suffices. -/
theorem balanceCheck_eq_ok {w : World} {account assetKey ammount : Bytes} :
    balanceCheck w account assetKey ammount = .ok () ↔ BalanceSuffices w account assetKey ammount := by
  obtain ⟨ret, balance, hreply⟩ : ∃ ret balance,
      w.store.getAccountBalance account assetKey = (ret, balance) := ⟨_, _, rfl⟩
  simp only [balanceCheck, BalanceSuffices, hreply, except_bind_eq_ok, refuseIf_eq_ok, orThrow_eq_ok,
    Unique.exists_iff, not_lt]
  cases ret with
  | accountNotExist => simp
  | noPropertyKey => simp
  | other => cases stoll balance <;> cases stoll ammount <;> simp [Except.mapError]

/-- A draft is admitted when it can be sealed and finished, verifies and passes its checks. -/
theorem Draft.accept_eq_ok {lib : Externals} {w : World} {root : Value} {draft : Draft}
    {final : Xtransaction} : draft.accept lib w root = .ok final ↔
      ∃ signed, sealTx lib w root draft.nohash (digested w draft.built) = .ok signed ∧
        draft.finish signed = .ok final ∧ w.txHashAndSignVerify final = true ∧
        draft.check final = .ok () := by
  simp [Draft.accept, except_bind_eq_ok, refuseIf_eq_ok, Unique.exists_iff]

/-- The client's signature is all that is added to a transaction the client signs. -/
theorem sealTx_client {lib : Externals} {w : World} {root : Value} {tx signed : Xtransaction} :
    sealTx lib w root false tx = .ok signed ↔
      ∃ signature, stringOf lib root "signature" = .ok signature ∧
        signed = { tx with
          txSignature := jsonStringToSignature lib signature
          edgeTimestamp := w.timestampNowMs } := by
  cases h : stringOf lib root "signature" <;> simp [sealTx, h, eq_comm]

/-- The seal leaves the payload alone, whoever signs. -/
theorem sealTx_payload {lib : Externals} {w : World} {root : Value} {nohash : Bool}
    {tx signed : Xtransaction} (h : sealTx lib w root nohash tx = .ok signed) :
    signed.payload = tx.payload := by
  cases nohash with
  | false =>
    obtain ⟨signature, -, rfl⟩ := sealTx_client.mp h
    rfl
  | true =>
    cases hkey : priKeyOf tx.senderAddr <;>
      simp only [sealTx, hkey, if_true, except_pure, except_bind_ok] at h <;> cases h <;> rfl

section Reading

variable (lib : Externals) (w : World) (root : Value)

/-- The members common to all requests: `account` is converted whatever the action. -/
structure ReadsRequest (kind : Action) (account : Bytes) : Prop where
  haction : stringOf lib root "action" = .ok (str kind.text)
  haccount : stringOf lib root "account" = .ok account

/-- An `account_create` request up to its builder. -/
structure ReadsAccountCreate (account amount : Bytes) (timestamp : ℤ) : Prop extends
    ReadsRequest lib root .accountCreate account where
  habsent : w.store.existAccount account = false
  hamount : stringOf lib root "amount" = .ok amount
  htimestamp : int64Of root "timestamp" = .ok timestamp

/-- A `transfer_out` request up to its builder. -/
structure ReadsTransferOut (account source destination assetKey ammount : Bytes) (timestamp : ℤ)
    (lastHash : Uint256) : Prop extends ReadsRequest lib root .transferOut account where
  hsource : stringOf lib root "source" = .ok source
  hdestination : stringOf lib root "destination" = .ok destination
  hassetKey : stringOf lib root "property_key" = .ok assetKey
  hammount : stringOf lib root "amount" = .ok ammount
  htimestamp : int64Of root "timestamp" = .ok timestamp
  hdistinct : source ≠ destination
  hlastHash : lastDigestOf lib w root (noHash source) source = .ok lastHash

/-- A `give` request up to its builder. -/
structure ReadsGive (account destination : Bytes) (timestamp : ℤ) (lastHash : Uint256) : Prop
    extends ReadsRequest lib root .give account where
  hdestination : stringOf lib root "destination" = .ok destination
  htimestamp : int64Of root "timestamp" = .ok timestamp
  hlastHash : lastDigestOf lib w root true testGenesisAccountAddress = .ok lastHash

/-- A `transfer_in` request up to its builder. -/
structure ReadsTransferIn (account encoded : Bytes) (timestamp : ℤ) (lastHash : Uint256) : Prop
    extends ReadsRequest lib root .transferIn account where
  htimestamp : int64Of root "timestamp" = .ok timestamp
  hlastHash : lastDigestOf lib w root (noHash account) account = .ok lastHash
  hencoded : stringOf lib root "tx_digest" = .ok encoded

/-- A `set_property` request up to its builder. -/
structure ReadsSetProperty (account cAccount propertyKey propertyValue : Bytes) (timestamp : ℤ)
    (lastHash : Uint256) : Prop extends ReadsRequest lib root .setProperty account where
  hpropertyKey : stringOf lib root "property_key" = .ok propertyKey
  hvalid : ValidPropertyKey propertyKey
  hcAccount : cStringOf root "account" = .ok cAccount
  hlastHash : lastDigestOf lib w root (noHash account) cAccount = .ok lastHash
  hpropertyValue : stringOf lib root "property_value" = .ok propertyValue
  htimestamp : int64Of root "timestamp" = .ok timestamp

variable (fresh : Xtransaction)

/-- The origin that `transfer_in` still writes on a sealed transaction. -/
def writeOrigin (tx : Xtransaction) : Except Stop Xtransaction := do
  let sender ← orThrow (stringOf lib root "sender")
  let amount ← orThrow (stringOf lib root "amount")
  pure { tx with originSender := sender, originAmount := amount }

/-- Where a draft comes from, one constructor for each transaction action. -/
inductive Drafted : Draft → Prop
  | accountCreate {account amount : Bytes} {timestamp : ℤ}
    (reads : ReadsAccountCreate lib w root account amount timestamp) :
    Drafted ⟨noHash account,
      accountCreateTx lib.types account amount (UInt64.ofInt timestamp) fresh, .ok, fun _ => .ok ()⟩
  | transferOut {account source destination assetKey ammount : Bytes} {timestamp : ℤ}
    {lastHash : Uint256}
    (reads : ReadsTransferOut lib w root account source destination assetKey ammount timestamp
      lastHash) :
    Drafted ⟨noHash source,
      transferOutTx lib.types source destination assetKey ammount (UInt64.ofInt timestamp) lastHash
        fresh, .ok, fun tx => do
      balanceCheck w source assetKey ammount
      headCheck w source tx⟩
  | give {account destination : Bytes} {timestamp : ℤ} {lastHash : Uint256}
    (reads : ReadsGive lib w root account destination timestamp lastHash) :
    Drafted ⟨true,
      transferOutTx lib.types testGenesisAccountAddress destination (str "$$") (str "100000")
        (UInt64.ofInt timestamp) lastHash fresh, .ok, fun _ => faucetCheck lib w destination⟩
  | transferIn {account encoded : Bytes} {timestamp : ℤ} {lastHash : Uint256}
    (reads : ReadsTransferIn lib w root account encoded timestamp lastHash) :
    Drafted ⟨noHash account,
      transferInTx lib.types account (UInt64.ofInt timestamp) (digestAt w (lib.base64Decode encoded))
        lastHash fresh, writeOrigin lib root, fun tx => headCheck w tx.senderAddr tx⟩
  | setProperty {account cAccount propertyKey propertyValue : Bytes} {timestamp : ℤ}
    {lastHash : Uint256}
    (reads : ReadsSetProperty lib w root account cAccount propertyKey propertyValue timestamp
      lastHash) :
    Drafted ⟨noHash account,
      setPropertyTx lib.types account propertyKey propertyValue (UInt64.ofInt timestamp) lastHash
        fresh, .ok, fun _ => .ok ()⟩

end Reading

section Inversion

variable {lib : Externals} {w : World} {root : Value} {fresh : Xtransaction} {draft : Draft}

/-- Every draft of a request is made by one of the five actions. -/
theorem drafted_of_requestDraft (h : requestDraft lib w root fresh = some draft) :
    Drafted lib w root fresh draft := by
  obtain ⟨action, account, haction, haccount, hdraft⟩ := requestDraft_eq_some.mp h
  cases hkind : actionOf action <;> rw [hkind] at hdraft <;>
    simp only [actionDraft, Option.some.injEq, reduceCtorEq] at hdraft
  all_goals
    rw [eq_text_of_actionOf hkind (by decide)] at haction
    simp only [accountCreateDraft, transferOutDraft, transferInDraft, setPropertyDraft, giveDraft,
      timestampOf, except_bind_eq_ok, refuseIf_eq_ok, orThrow_eq_ok, except_pure,
      Except.ok.injEq, haccount] at hdraft
  case accountCreate =>
    obtain ⟨_, rfl, _, habsent, amount, hamount, _, ⟨timestamp, htimestamp, rfl⟩, rfl⟩ := hdraft
    exact .accountCreate ⟨⟨haction, haccount⟩, by simpa using habsent, hamount, htimestamp⟩
  case transferOut =>
    obtain ⟨source, hsource, _, hsource', destination, hdestination, assetKey, hassetKey, ammount,
      hammount, _, ⟨timestamp, htimestamp, rfl⟩, _, hdistinct, lastHash, hlastHash, rfl⟩ := hdraft
    rw [hsource] at hsource'
    cases hsource'
    exact .transferOut ⟨⟨haction, haccount⟩, hsource, hdestination, hassetKey, hammount, htimestamp,
      hdistinct, hlastHash⟩
  case transferIn =>
    obtain ⟨_, ⟨timestamp, htimestamp, rfl⟩, _, rfl, lastHash, hlastHash, encoded, hencoded, rfl⟩ :=
      hdraft
    exact .transferIn ⟨⟨haction, haccount⟩, htimestamp, hlastHash, hencoded⟩
  case setProperty =>
    obtain ⟨propertyKey, hpropertyKey, _, hvalid, cAccount, hcAccount, lastHash, hlastHash, _, rfl,
      propertyValue, hpropertyValue, _, ⟨timestamp, htimestamp, rfl⟩, rfl⟩ := hdraft
    exact .setProperty ⟨⟨haction, haccount⟩, hpropertyKey, not_not.mp hvalid, hcAccount, hlastHash,
      hpropertyValue, htimestamp⟩
  case give =>
    obtain ⟨destination, hdestination, _, ⟨timestamp, htimestamp, rfl⟩, lastHash, hlastHash, rfl⟩ :=
      hdraft
    exact .give ⟨⟨haction, haccount⟩, hdestination, htimestamp, hlastHash⟩

/-- Every such draft is the draft of the request. -/
theorem Drafted.requestDraft_eq (h : Drafted lib w root fresh draft) :
    requestDraft lib w root fresh = some draft := by
  cases h with
  | accountCreate reads =>
    refine requestDraft_eq_some.mpr ⟨_, _, reads.haction, reads.haccount, ?_⟩
    simp [actionOf_text, actionDraft, accountCreateDraft, timestampOf, refuseIf, reads.haccount,
      reads.habsent, reads.hamount, reads.htimestamp]
  | transferOut reads =>
    refine requestDraft_eq_some.mpr ⟨_, _, reads.haction, reads.haccount, ?_⟩
    simp [actionOf_text, actionDraft, transferOutDraft, timestampOf, refuseIf, reads.hsource,
      reads.hdestination, reads.hassetKey, reads.hammount, reads.htimestamp, reads.hdistinct,
      reads.hlastHash]
  | give reads =>
    refine requestDraft_eq_some.mpr ⟨_, _, reads.haction, reads.haccount, ?_⟩
    simp [actionOf_text, actionDraft, giveDraft, timestampOf, reads.hdestination, reads.htimestamp,
      reads.hlastHash]
  | transferIn reads =>
    refine requestDraft_eq_some.mpr ⟨_, _, reads.haction, reads.haccount, ?_⟩
    simp [actionOf_text, actionDraft, transferInDraft, timestampOf, reads.haccount,
      reads.htimestamp, reads.hlastHash, reads.hencoded]
    rfl
  | setProperty reads =>
    refine requestDraft_eq_some.mpr ⟨_, _, reads.haction, reads.haccount, ?_⟩
    simp [actionOf_text, actionDraft, setPropertyDraft, timestampOf, refuseIf, reads.haccount,
      reads.hpropertyKey, reads.hvalid, reads.hcAccount, reads.hlastHash, reads.hpropertyValue,
      reads.htimestamp]

/-- The action a draft was made for. -/
theorem ReadsRequest.kind_eq {kind kind' : Action} {account : Bytes}
    (h : ReadsRequest lib root kind account)
    (haction : stringOf lib root "action" = .ok (str kind'.text)) : kind = kind' := by
  have heq := h.haction.symm.trans haction
  exact Action.text_injective (by simpa using heq)

/-- What is written on a sealed transaction is its origin. -/
theorem writeOrigin_eq_ok {tx final : Xtransaction} : writeOrigin lib root tx = .ok final ↔
    ∃ sender amount, stringOf lib root "sender" = .ok sender ∧ stringOf lib root "amount" = .ok amount ∧
      final = { tx with originSender := sender, originAmount := amount } := by
  simp only [writeOrigin, except_bind_eq_ok, orThrow_eq_ok, except_pure, Except.ok.injEq]
  constructor
  · intro hreads
    obtain ⟨sender, hsender, amount, hamount, rfl⟩ := hreads
    exact ⟨sender, amount, hsender, hamount, rfl⟩
  · intro hreads
    obtain ⟨sender, amount, hsender, hamount, rfl⟩ := hreads
    exact ⟨sender, hsender, amount, hamount, rfl⟩

end Inversion

/-- The sender decides who signs, and finishing a sealed transaction changes neither its
sender nor its digest nor its signature. -/
structure Draft.Regular (draft : Draft) : Prop where
  nohash : draft.nohash = noHash draft.built.senderAddr
  finish : ∀ tx final, draft.finish tx = .ok final → final.senderAddr = tx.senderAddr ∧
    final.txDigest = tx.txDigest ∧ final.txSignature = tx.txSignature

/-- Every draft of a request is regular. -/
theorem requestDraft_regular {lib : Externals} {w : World} {root : Value} {fresh : Xtransaction}
    {draft : Draft} (h : requestDraft lib w root fresh = some draft) : draft.Regular := by
  have hunchanged : ∀ tx final : Xtransaction, (.ok tx : Except Stop Xtransaction) = .ok final →
      final.senderAddr = tx.senderAddr ∧ final.txDigest = tx.txDigest ∧
        final.txSignature = tx.txSignature := by
    intro tx final hfinal
    cases hfinal
    exact ⟨rfl, rfl, rfl⟩
  cases drafted_of_requestDraft h with
  | accountCreate reads => exact ⟨rfl, hunchanged⟩
  | transferOut reads => exact ⟨rfl, hunchanged⟩
  | give reads => exact ⟨rfl, hunchanged⟩
  | setProperty reads => exact ⟨rfl, hunchanged⟩
  | transferIn reads =>
    refine ⟨rfl, fun tx final hfinish => ?_⟩
    obtain ⟨sender, amount, -, -, rfl⟩ := writeOrigin_eq_ok.mp hfinish
    exact ⟨rfl, rfl, rfl⟩

/-- A transaction is admitted when some draft of the request is. -/
theorem admitted_eq_some {lib : Externals} {w : World} {root : Value} {fresh final : Xtransaction} :
    admitted lib w root fresh = some final ↔
      ∃ draft, Drafted lib w root fresh draft ∧ draft.accept lib w root = .ok final := by
  constructor
  · intro h
    obtain ⟨draft, hdraft, haccept⟩ := Option.bind_eq_some_iff.mp h
    refine ⟨draft, drafted_of_requestDraft hdraft, ?_⟩
    cases hresult : draft.accept lib w root <;> simp_all [Except.toOption]
  · intro h
    obtain ⟨draft, hdraft, haccept⟩ := h
    simp [admitted, hdraft.requestDraft_eq, haccept, Except.toOption]

/-- What a request dispatches is what is admitted. -/
theorem Ended.dispatches_eq {lib : Externals} {w : World} {s : HandlerState}
    {members : List (Bytes × Value)} {o : HandlerOutcome} (h : Ended lib w s members o) :
    dispatches o.trace = (admitted lib w s.root s.tx).toList := by
  cases h with
  | sent draft final hdraft haccept hresult hrsp hworld htrace =>
    rw [htrace.dispatches_eq, admitted_eq_some.mpr ⟨draft, drafted_of_requestDraft hdraft, haccept⟩]
    rfl
  | stopped hadmitted hend hworld hquiet =>
    rw [dispatches_of_quiet hquiet, hadmitted]
    rfl
  | inert action nohash haction hkind hinert =>
    have hnone : admitted lib w s.root s.tx = none := by
      simp [admitted, requestDraft, haction, actionDraft_eq_none.mpr hkind]
    rw [hnone, dispatches, Option.toList_none, List.filterMap_eq_nil_iff]
    exact fun e he => (Op.of_isInert (hinert e he)).1

/-- An admitted draft left its trace. -/
theorem Ended.submitTrace {lib : Externals} {w : World} {s : HandlerState}
    {members : List (Bytes × Value)} {o : HandlerOutcome} (h : Ended lib w s members o) {draft : Draft}
    {final : Xtransaction} (hdraft : Drafted lib w s.root s.tx draft)
    (haccept : draft.accept lib w s.root = .ok final) :
    SubmitTrace lib w (draft.taken w) (draft.keys w) final o.trace := by
  have hsome : admitted lib w s.root s.tx = some final := admitted_eq_some.mpr ⟨draft, hdraft, haccept⟩
  cases h with
  | sent draft' final' hdraft' haccept' hresult hrsp hworld htrace =>
    obtain rfl : draft = draft' := by simpa using hdraft.requestDraft_eq.symm.trans hdraft'
    obtain rfl : final = final' := by simpa using haccept.symm.trans haccept'
    exact htrace
  | stopped hadmitted hend hworld hquiet =>
    rw [hsome] at hadmitted
    cases hadmitted
  | inert action nohash haction hkind hinert =>
    simp [admitted, requestDraft, haction, actionDraft_eq_none.mpr hkind] at hsome

/-- A request that is drafted ends as the admission of its draft does. -/
theorem Drafted.concludes {lib : Externals} {w : World} {s : HandlerState}
    {members : List (Bytes × Value)} {draft : Draft} (h : Drafted lib w s.root s.tx draft)
    (hs : s.jsRsp.fields = some members) :
    Concludes lib w s.jsRsp members (draft.taken w) (draft.keys w) (draft.accept lib w s.root)
      ((handleRequest lib).run service s w) := by
  have hhandles := handleRequest_handles lib w s hs
  obtain ⟨action, account, haction, haccount, hdraft⟩ := requestDraft_eq_some.mp h.requestDraft_eq
  have hrequest : requestAction lib s.root = .ok (actionOf action, noHash account) := by
    simp only [requestAction, haction, haccount, except_bind_ok, except_pure]
  simp only [Handles, hrequest, hdraft] at hhandles
  exact hhandles

/-- The transactions a call of `handle_request` dispatches, without reference to the run. -/
theorem dispatches_handleRequest (lib : Externals) (w : World) (parsed : Bool × Value) :
    dispatches ((handleRequest lib).run service (constructed lib parsed) w).trace =
      (admitted lib w parsed.2 lib.freshTransaction).toList :=
  (handleRequest_ended lib w (constructed lib parsed) (fields_constructed lib parsed)).dispatches_eq

/-- Handling a request whose body was parsed. -/
abbrev handled (lib : Externals) (w : World) (root : Value) : HandlerOutcome :=
  (handleRequest lib).run service (constructed lib (true, root)) w

/-- A request for an action is that action. -/
theorem ReadsRequest.handled_eq {lib : Externals} {root : Value} {kind : Action} {account : Bytes}
    (h : ReadsRequest lib root kind account) (w : World) :
    handled lib w root =
      (runAction lib (noHash account) kind).run service (constructed lib (true, root)) w := by
  rw [handled, handleRequest_run lib w (constructed lib (true, root)) h.haction h.haccount, actionOf_text]

end XrpcServer.Handler
