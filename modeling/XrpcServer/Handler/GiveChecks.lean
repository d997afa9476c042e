import XrpcServer.Handler.ChainHead
import XrpcServer.Handler.ListResponses

/-!
# What `give` checks

The faucet pays an existing account that nothing waits for and that has received nothing.
`account_info` announces this in its `give` member, and the announcement is right. A
`transfer_out` of the same amount from the same account also refuses a destination that is the
genesis account itself and an amount its balance does not cover, which the faucet never checks.
-/

namespace XrpcServer.Handler

open XrpcServer.Text XrpcServer.Chain XrpcServer.Interaction XrpcServer.Json
open XrpcServer.Json (Value)

/-- A transaction that was just signed with the key of its sender verifies. -/
def VerifiesOwn (w : World) : Prop :=
  ∀ priKey tx time, priKeyOf tx.senderAddr = some priKey →
    w.txHashAndSignVerify { serverSigned w priKey tx with edgeTimestamp := time } = true

/-- A request for a payment of the faucet. -/
structure AsksGive (lib : Externals) (root : Value) (destination : Bytes) (timestamp : ℤ) : Prop where
  asks : ∃ account, ReadsRequest lib root .give account
  destination : stringOf lib root "destination" = .ok destination
  timestamp : int64Of root "timestamp" = .ok timestamp

/-- The account exists, nothing waits for it, and nothing was received by it. -/
def FaucetOpen (types : TransactionTypes) (store : Store) (account : Bytes) : Prop :=
  store.existAccount account = true ∧ store.getReceiveBlocks account = [] ∧
    hasReceipt types (store.getSettleBlocks account) = false

/-- The transaction of a transfer from the genesis account, signed by the server. -/
def genesisTx (lib : Externals) (w : World) (destination : Bytes) (timestamp : ℤ)
    (lastHash : Uint256) : Xtransaction :=
  { serverSigned w testGenesisAccountPriKey (digested w (transferOutTx lib.types testGenesisAccountAddress
      destination (str "$$") (str "100000") (UInt64.ofInt timestamp) lastHash lib.freshTransaction)) with
    edgeTimestamp := w.timestampNowMs }

section Payment

variable {lib : Externals} {w : World} {root : Value} {destination : Bytes} {timestamp : ℤ}
  {snap : XaccountSnap}

/-- The head of the genesis account, when its snapshot is found. -/
theorem lastDigestOf_genesis (hsnap : w.store.getAccountSnapInfo testGenesisAccountAddress = some snap) :
    lastDigestOf lib w root true testGenesisAccountAddress = .ok snap.lastUnitHash := by
  simp [lastDigestOf, hsnap]

/-- A transfer from the genesis account that is signed by the server and verifies. -/
theorem sealTx_genesis (lastHash : Uint256) :
    sealTx lib w root true (digested w (transferOutTx lib.types testGenesisAccountAddress destination
      (str "$$") (str "100000") (UInt64.ofInt timestamp) lastHash lib.freshTransaction)) =
      .ok (genesisTx lib w destination timestamp lastHash) := by
  have hkey : priKeyOf testGenesisAccountAddress = some testGenesisAccountPriKey := by simp [priKeyOf]
  simp [sealTx, digested, transferOutTx, hkey, genesisTx]

/-- It verifies. -/
theorem VerifiesOwn.genesisTx (h : VerifiesOwn w) (lastHash : Uint256) :
    w.txHashAndSignVerify (genesisTx lib w destination timestamp lastHash) = true :=
  h _ _ _ (by simp [digested, transferOutTx, priKeyOf])

/-- The faucet's checks pass for an account it is open for. -/
theorem faucetCheck_eq_ok : faucetCheck lib w destination = .ok () ↔
    FaucetOpen lib.types w.store destination := by
  simp [faucetCheck, FaucetOpen, except_bind_eq_ok, refuseIf_eq_ok]

/-- The draft of a request for a payment of the faucet. -/
theorem AsksGive.drafted (h : AsksGive lib root destination timestamp)
    (hsnap : w.store.getAccountSnapInfo testGenesisAccountAddress = some snap) :
    Drafted lib w root lib.freshTransaction ⟨true,
      transferOutTx lib.types testGenesisAccountAddress destination (str "$$") (str "100000")
        (UInt64.ofInt timestamp) snap.lastUnitHash lib.freshTransaction, .ok,
      fun _ => faucetCheck lib w destination⟩ := by
  obtain ⟨account, hasks⟩ := h.asks
  exact .give ⟨⟨hasks.haction, hasks.haccount⟩, h.destination, h.timestamp, lastDigestOf_genesis hsnap⟩

/-- What a request for a payment of the faucet gets admitted. -/
theorem AsksGive.admitted_eq_some (h : AsksGive lib root destination timestamp) (hverifies : VerifiesOwn w)
    {tx : Xtransaction} : admitted lib w root lib.freshTransaction = some tx ↔
      ∃ snap, w.store.getAccountSnapInfo testGenesisAccountAddress = some snap ∧
        FaucetOpen lib.types w.store destination ∧
        tx = genesisTx lib w destination timestamp snap.lastUnitHash := by
  rw [Handler.admitted_eq_some]
  constructor
  · rintro ⟨draft, hdraft, haccept⟩
    obtain ⟨signed, hseal, hfinish, -, hcheck⟩ := Draft.accept_eq_ok.mp haccept
    obtain ⟨account, hasks⟩ := h.asks
    cases hdraft with
    | accountCreate reads | transferOut reads | transferIn reads | setProperty reads =>
      cases reads.kind_eq hasks.haction
    | give reads =>
      obtain rfl : destination = _ := by simpa [h.destination] using reads.hdestination
      obtain rfl : timestamp = _ := by simpa [h.timestamp] using reads.htimestamp
      have hlastHash := reads.hlastHash
      cases hsnap : w.store.getAccountSnapInfo testGenesisAccountAddress with
      | none => simp [lastDigestOf, hsnap] at hlastHash
      | some snap =>
        obtain rfl : snap.lastUnitHash = _ := by simpa [lastDigestOf_genesis hsnap] using hlastHash
        rw [sealTx_genesis] at hseal
        cases hseal
        cases hfinish
        exact ⟨snap, rfl, faucetCheck_eq_ok.mp hcheck, rfl⟩
  · rintro ⟨snap, hsnap, hopen, rfl⟩
    exact ⟨_, h.drafted hsnap, Draft.accept_eq_ok.mpr ⟨_, sealTx_genesis _, rfl,
      hverifies.genesisTx _, faucetCheck_eq_ok.mpr hopen⟩⟩

/-- A request for a transfer of the faucet's amount from the genesis account. -/
structure AsksGenesisTransfer (lib : Externals) (root : Value) (destination : Bytes) (timestamp : ℤ) :
    Prop where
  asks : ∃ account, ReadsRequest lib root .transferOut account
  source : stringOf lib root "source" = .ok testGenesisAccountAddress
  destination : stringOf lib root "destination" = .ok destination
  assetKey : stringOf lib root "property_key" = .ok (str "$$")
  ammount : stringOf lib root "amount" = .ok (str "100000")
  timestamp : int64Of root "timestamp" = .ok timestamp

/-- What such a request gets admitted. -/
theorem AsksGenesisTransfer.admitted_eq_some (h : AsksGenesisTransfer lib root destination timestamp)
    (hheads : w.store.HeadsAgree) (hverifies : VerifiesOwn w) {tx : Xtransaction} :
    admitted lib w root lib.freshTransaction = some tx ↔
      ∃ snap, w.store.getAccountSnapInfo testGenesisAccountAddress = some snap ∧
        testGenesisAccountAddress ≠ destination ∧
        BalanceSuffices w testGenesisAccountAddress (str "$$") (str "100000") ∧
        tx = genesisTx lib w destination timestamp snap.lastUnitHash := by
  have hnohash : noHash testGenesisAccountAddress = true := by simp [noHash]
  obtain ⟨account, hasks⟩ := h.asks
  rw [Handler.admitted_eq_some]
  constructor
  · rintro ⟨draft, hdraft, haccept⟩
    obtain ⟨signed, hseal, hfinish, -, hcheck⟩ := Draft.accept_eq_ok.mp haccept
    cases hdraft with
    | accountCreate reads | give reads | transferIn reads | setProperty reads =>
      cases reads.kind_eq hasks.haction
    | transferOut reads =>
      obtain rfl : testGenesisAccountAddress = _ := by simpa [h.source] using reads.hsource
      obtain rfl : destination = _ := by simpa [h.destination] using reads.hdestination
      obtain rfl : str "$$" = _ := by simpa [h.assetKey] using reads.hassetKey
      obtain rfl : str "100000" = _ := by simpa [h.ammount] using reads.hammount
      obtain rfl : timestamp = _ := by simpa [h.timestamp] using reads.htimestamp
      have hlastHash := reads.hlastHash
      rw [hnohash] at hlastHash hseal
      cases hsnap : w.store.getAccountSnapInfo testGenesisAccountAddress with
      | none => simp [lastDigestOf, hsnap] at hlastHash
      | some snap =>
        obtain rfl : snap.lastUnitHash = _ := by simpa [lastDigestOf_genesis hsnap] using hlastHash
        rw [sealTx_genesis] at hseal
        cases hseal
        cases hfinish
        obtain ⟨_, hbalance, -⟩ := except_bind_eq_ok.mp hcheck
        exact ⟨snap, rfl, reads.hdistinct, balanceCheck_eq_ok.mp hbalance, rfl⟩
  · rintro ⟨snap, hsnap, hdistinct, hbalance, rfl⟩
    have hlastHash : lastDigestOf lib w root (noHash testGenesisAccountAddress)
        testGenesisAccountAddress = .ok snap.lastUnitHash := by
      rw [hnohash, lastDigestOf_genesis hsnap]
    have hgenesis : lastDigestOf lib w root true testGenesisAccountAddress = .ok snap.lastUnitHash :=
      lastDigestOf_genesis hsnap
    have hhead := headMatches_of_nohash hheads hgenesis
    refine ⟨_, .transferOut ⟨⟨hasks.haction, hasks.haccount⟩, h.source, h.destination, h.assetKey,
      h.ammount, h.timestamp, hdistinct, hlastHash⟩, Draft.accept_eq_ok.mpr ⟨_, ?_, rfl,
      hverifies.genesisTx _, ?_⟩⟩
    · rw [hnohash]
      exact sealTx_genesis _
    · exact except_bind_eq_ok.mpr ⟨(), balanceCheck_eq_ok.mpr hbalance, headCheck_eq_ok.mpr hhead⟩

end Payment

section Comparison

/-- The digests of two surroundings are computed by the same functions. -/
structure SameDigests (w w' : World) : Prop where
  sha256 : w'.sha256 = w.sha256
  signed : ∀ priKey tx, (w'.txHashAndSignCalc priKey tx).1 = (w.txHashAndSignCalc priKey tx).1

/-- Everything but the signature and the arrival time is the same. -/
def AgreeBeyondSeal (tx tx' : Xtransaction) : Prop := tx.payload = tx'.payload ∧ tx.txDigest = tx'.txDigest

/-- Transfers from the genesis account in such surroundings agree. -/
theorem SameDigests.agree {w w' : World} (h : SameDigests w w') (lib : Externals) (destination : Bytes)
    (timestamp : ℤ) (lastHash : Uint256) :
    AgreeBeyondSeal (genesisTx lib w destination timestamp lastHash)
      (genesisTx lib w' destination timestamp lastHash) := by
  refine ⟨rfl, ?_⟩
  simp only [genesisTx, serverSigned, digested, h.sha256, h.signed]

/-- Whatever one request dispatches is also dispatched by the other. -/
def DispatchesLike (o o' : HandlerOutcome) : Prop :=
  ∀ tx ∈ dispatches o.trace, ∃ tx' ∈ dispatches o'.trace, AgreeBeyondSeal tx tx'

/-- The faucet pays nothing that a transfer would refuse exactly when an account it is open for is
not the genesis account and the balance of the genesis account covers the amount. -/
theorem give_dispatchesLike_iff (lib : Externals) (w w' : World) (giveRoot outRoot : Value)
    (destination : Bytes) (timestamp : ℤ) (hgive : AsksGive lib giveRoot destination timestamp)
    (hout : AsksGenesisTransfer lib outRoot destination timestamp) (hstore : w'.store = w.store)
    (hsame : SameDigests w w') (hheads : w.store.HeadsAgree) (hverifies : VerifiesOwn w)
    (hverifies' : VerifiesOwn w') :
    DispatchesLike (handled lib w giveRoot) (handled lib w' outRoot) ↔
      (w.store.getAccountSnapInfo testGenesisAccountAddress ≠ none →
        FaucetOpen lib.types w.store destination →
        testGenesisAccountAddress ≠ destination ∧
          BalanceSuffices w testGenesisAccountAddress (str "$$") (str "100000")) := by
  have hbalance : BalanceSuffices w' testGenesisAccountAddress (str "$$") (str "100000") ↔
      BalanceSuffices w testGenesisAccountAddress (str "$$") (str "100000") := by
    rw [BalanceSuffices, BalanceSuffices, hstore]
  unfold DispatchesLike
  rw [dispatches_handleRequest, dispatches_handleRequest]
  simp only [Option.mem_toList, hgive.admitted_eq_some hverifies,
    hout.admitted_eq_some (hstore ▸ hheads) hverifies', hstore, hbalance]
  constructor
  · intro hlike hsnap hopen
    obtain ⟨snap, hsnap⟩ := Option.ne_none_iff_exists'.mp hsnap
    obtain ⟨tx', ⟨_, _, hdistinct, hsuffices, _⟩, _⟩ := hlike _ ⟨snap, hsnap, hopen, rfl⟩
    exact ⟨hdistinct, hsuffices⟩
  · rintro hcovered tx ⟨snap, hsnap, hopen, rfl⟩
    obtain ⟨hdistinct, hsuffices⟩ := hcovered (by simp [hsnap]) hopen
    exact ⟨_, ⟨snap, hsnap, hdistinct, hsuffices, rfl⟩, hsame.agree lib destination timestamp _⟩

/-- A sample request for a payment of the faucet. -/
def samplePayment : Value := .object
  [(str "account", .string []), (str "action", .string (str "give")),
    (str "destination", .string (str "T-bob")), (str "timestamp", .int 7)]

/-- The sample request for the transfer that pays the same. -/
def sampleGenesisTransfer : Value := .object
  [(str "account", .string []), (str "action", .string (str "transfer_out")),
    (str "amount", .string (str "100000")), (str "destination", .string (str "T-bob")),
    (str "property_key", .string (str "$$")), (str "source", .string testGenesisAccountAddress),
    (str "timestamp", .int 7)]

/-- The sample request asks for a payment. -/
theorem asksGive_samplePayment : AsksGive sampleExternals samplePayment (str "T-bob") 7 :=
  ⟨⟨[], rfl, rfl⟩, rfl, rfl⟩

/-- The sample transfer asks for the same. -/
theorem asksGenesisTransfer_sample :
    AsksGenesisTransfer sampleExternals sampleGenesisTransfer (str "T-bob") 7 :=
  ⟨⟨[], rfl, rfl⟩, rfl, rfl, rfl, rfl, rfl⟩

/-- The sample surroundings verify a transaction that carries its own digest. -/
theorem sampleWorld_verifiesOwn : VerifiesOwn sampleWorld := by
  intro priKey tx time _
  simp [sampleWorld, serverSigned]

/-- With a balance of 1000 the faucet pays 100000, and the transfer is refused. -/
theorem give_not_dispatchesLike : sampleWorld.store.HeadsAgree ∧ VerifiesOwn sampleWorld ∧
    ¬DispatchesLike (handled sampleExternals sampleWorld samplePayment)
      (handled sampleExternals sampleWorld sampleGenesisTransfer) := by
  refine ⟨sampleStore_headsAgree, sampleWorld_verifiesOwn, fun hlike => ?_⟩
  have hpaid : dispatches (handled sampleExternals sampleWorld samplePayment).trace ≠ [] := by
    decide +kernel
  have hrefused : dispatches (handled sampleExternals sampleWorld sampleGenesisTransfer).trace = [] := by
    decide +kernel
  obtain ⟨tx, htx⟩ := List.exists_mem_of_ne_nil _ hpaid
  obtain ⟨tx', htx', _⟩ := hlike tx htx
  rw [hrefused] at htx'
  cases htx'

/-- The comparison in the sample surroundings. -/
theorem give_dispatchesLike_iff_sample :
    DispatchesLike (handled sampleExternals sampleWorld samplePayment)
        (handled sampleExternals sampleWorld sampleGenesisTransfer) ↔
      (sampleStore.getAccountSnapInfo testGenesisAccountAddress ≠ none →
        FaucetOpen sampleExternals.types sampleStore (str "T-bob") →
        testGenesisAccountAddress ≠ str "T-bob" ∧
          BalanceSuffices sampleWorld testGenesisAccountAddress (str "$$") (str "100000")) :=
  give_dispatchesLike_iff sampleExternals sampleWorld sampleWorld samplePayment sampleGenesisTransfer
    (str "T-bob") 7 asksGive_samplePayment asksGenesisTransfer_sample rfl ⟨rfl, fun _ _ => rfl⟩
    sampleStore_headsAgree sampleWorld_verifiesOwn sampleWorld_verifiesOwn

end Comparison

section GiveFlag

/-- The account information was answered, with this value in its `give` member. -/
def ShowsGive (o : HandlerOutcome) (flag : ℤ) : Prop :=
  o.result = .ok () ∧ ∃ members, o.state.jsRsp = .object members ∧
    members.lookup (str "Result") = some (.int 1) ∧ members.lookup (str "give") = some (.int flag)

/-- One payment was dispatched. -/
def Pays (o : HandlerOutcome) : Prop := ∃ tx, dispatches o.trace = [tx]

/-- The payment was refused because one was received before. -/
def RefusesAgain (o : HandlerOutcome) : Prop :=
  o.result = .ok () ∧ o.state.jsRsp = .object (failMembers .alreadyGive []) ∧ dispatches o.trace = []

variable {lib : Externals} {w : World} {root : Value} {account destination : Bytes} {timestamp : ℤ}
  {snap : XaccountSnap}

/-- The `give` member is decided by the settle list and the receive list. -/
theorem showsGive_accountInfo (hasks : ReadsRequest lib root .accountInfo account)
    (hsnap : w.store.getAccountSnapInfo account = some snap) :
    ShowsGive (handled lib w root)
      (if w.store.getReceiveBlocks account = [] ∧
        hasReceipt lib.types (w.store.getSettleBlocks account) = false then 1 else 0) := by
  rw [hasks.handled_eq, Routine.run_iff_wp service _ _ _ (fun o => ShowsGive o _)]
  cases hsettle : hasReceipt lib.types (w.store.getSettleBlocks account) with
  | true => simp [runAction, accountInfo, constructed_parsed, hasks.haccount, hsnap, hsettle, ShowsGive]
  | false =>
    cases hreceive : w.store.getReceiveBlocks account <;>
      simp [runAction, accountInfo, constructed_parsed, hasks.haccount, hsnap, hsettle, hreceive, ShowsGive]

/-- A payment is made or refused for the reason `give` announces. -/
theorem AsksGive.pays_or_refuses (h : AsksGive lib root destination timestamp)
    (hsnap : w.store.getAccountSnapInfo testGenesisAccountAddress = some snap)
    (hexist : w.store.existAccount destination = true) (hverifies : VerifiesOwn w) :
    if w.store.getReceiveBlocks destination = [] ∧
        hasReceipt lib.types (w.store.getSettleBlocks destination) = false then
      Pays (handled lib w root)
    else RefusesAgain (handled lib w root) := by
  have hconcludes := (h.drafted hsnap).concludes (s := constructed lib (true, root)) (w := w) rfl
  have haccept : Draft.accept lib w root ⟨true,
      transferOutTx lib.types testGenesisAccountAddress destination (str "$$") (str "100000")
        (UInt64.ofInt timestamp) snap.lastUnitHash lib.freshTransaction, .ok,
      fun _ => faucetCheck lib w destination⟩ = (do
        faucetCheck lib w destination
        pure (genesisTx lib w destination timestamp snap.lastUnitHash)) := by
    simp [Draft.accept, sealTx_genesis, hverifies.genesisTx, refuseIf]
  rw [show (constructed lib (true, root)).root = root from rfl, haccept] at hconcludes
  cases hreceive : w.store.getReceiveBlocks destination with
  | cons tx rest =>
    have hrefused : faucetCheck lib w destination = .error (.refused .alreadyGive) := by
      simp [faucetCheck, refuseIf, hexist, hreceive]
    rw [hrefused] at hconcludes
    obtain ⟨hresult, hrsp, -, hquiet⟩ := hconcludes
    simpa using ⟨hresult, hrsp, dispatches_of_quiet hquiet⟩
  | nil =>
    cases hsettle : hasReceipt lib.types (w.store.getSettleBlocks destination) with
    | true =>
      have hrefused : faucetCheck lib w destination = .error (.refused .alreadyGive) := by
        simp [faucetCheck, refuseIf, hexist, hreceive, hsettle]
      rw [hrefused] at hconcludes
      obtain ⟨hresult, hrsp, -, hquiet⟩ := hconcludes
      simpa using ⟨hresult, hrsp, dispatches_of_quiet hquiet⟩
    | false =>
      rw [faucetCheck_eq_ok.mpr ⟨hexist, hreceive, hsettle⟩] at hconcludes
      obtain ⟨-, -, -, htrace⟩ := hconcludes
      simpa using ⟨_, htrace.dispatches_eq⟩

/-- The `give` member announces what a request for a payment of the faucet will meet. -/
theorem giveFlag_truthful (lib : Externals) (w w' : World) (infoRoot giveRoot : Value) (account : Bytes)
    (timestamp : ℤ) (hinfo : ReadsRequest lib infoRoot .accountInfo account)
    (hgive : AsksGive lib giveRoot account timestamp) (hstore : w'.store = w.store)
    (hfound : w.store.getAccountSnapInfo account ≠ none)
    (hgenesis : w.store.getAccountSnapInfo testGenesisAccountAddress ≠ none)
    (hexist : w.store.existAccount account = true) (hverifies : VerifiesOwn w') :
    (ShowsGive (handled lib w infoRoot) 1 ∧ Pays (handled lib w' giveRoot)) ∨
      (ShowsGive (handled lib w infoRoot) 0 ∧ RefusesAgain (handled lib w' giveRoot)) := by
  obtain ⟨snap, hsnap⟩ := Option.ne_none_iff_exists'.mp hfound
  obtain ⟨genesisSnap, hgenesisSnap⟩ := Option.ne_none_iff_exists'.mp hgenesis
  have hshows := showsGive_accountInfo hinfo hsnap
  have hmeets := hgive.pays_or_refuses (w := w') (hstore ▸ hgenesisSnap) (hstore ▸ hexist) hverifies
  rw [hstore] at hmeets
  by_cases hopen : w.store.getReceiveBlocks account = [] ∧
      hasReceipt lib.types (w.store.getSettleBlocks account) = false
  · rw [if_pos hopen] at hshows hmeets
    exact Or.inl ⟨hshows, hmeets⟩
  · rw [if_neg hopen] at hshows hmeets
    exact Or.inr ⟨hshows, hmeets⟩

/-- The sample request for the information on the same account. -/
def sampleInfo : Value := .object
  [(str "account", .string (str "T-bob")), (str "action", .string (str "account_info"))]

/-- The announcement for an account of the sample store. -/
theorem giveFlag_truthful_sample :
    (ShowsGive (handled sampleExternals sampleWorld sampleInfo) 1 ∧
        Pays (handled sampleExternals sampleWorld samplePayment)) ∨
      (ShowsGive (handled sampleExternals sampleWorld sampleInfo) 0 ∧
        RefusesAgain (handled sampleExternals sampleWorld samplePayment)) :=
  giveFlag_truthful sampleExternals sampleWorld sampleWorld sampleInfo samplePayment (str "T-bob") 7
    ⟨rfl, rfl⟩ asksGive_samplePayment rfl (by simp [sampleWorld, sampleStore])
    (by simp [sampleWorld, sampleStore]) rfl sampleWorld_verifiesOwn

end GiveFlag

end XrpcServer.Handler
