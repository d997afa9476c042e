import XrpcServer.Handler.Dispatcher
import XrpcServer.Interaction.Observation

/-!
# What a request proposes, explained by what was replied to it

A request runs among others, so no two of its calls need be answered from one state of the store.
The relations below trace a proposed transaction back to the members of its own request and to the
replies its own calls got, one by one: the head or the digest it names, the hash and the key behind
its signature, and the reply each check was passed on.
-/

namespace XrpcServer.Handler

open XrpcServer.Text XrpcServer.Chain XrpcServer.Interaction
open XrpcServer.Json (Value)

section Relations

variable (lib : Externals) (root : Value) (known : HandlerEvent → Prop)

/-- The digest found at the first byte of a string. -/
inductive Decoded (bytes : Bytes) : Uint256 → Prop
  | inside (h : 32 ≤ bytes.length) : Decoded bytes (Uint256.ofFront bytes h)
  | beyond {digest : Uint256} {tail : { tail : Bytes // tail.length = 31 - bytes.length }}
    (h : ¬32 ≤ bytes.length) (htail : known ⟨.readBeyond bytes (31 - bytes.length), tail⟩)
    (hdigest : digest.1 = bytes ++ 0 :: tail.1) : Decoded bytes digest

/-- The last digest a transaction is given: the head of the account where the server signs, what
the client says elsewhere. -/
inductive LastDigest (nohash : Bool) (account : Bytes) : Uint256 → Prop
  | head {snap : XaccountSnap} (hnohash : nohash = true)
    (hsnap : known ⟨.getAccountSnapInfo account, some snap⟩) : LastDigest nohash account snap.lastUnitHash
  | client {encoded : Bytes} {digest : Uint256} (hnohash : nohash = false)
    (hencoded : stringOf lib root "last_digest" = .ok encoded)
    (hdecoded : Decoded known (lib.base64Decode encoded) digest) : LastDigest nohash account digest

/-- A built transaction gets its digest, its signature and its arrival time. -/
inductive Sealed (built : Xtransaction) : Xtransaction → Prop
  | server {priKey : Bytes} {digest : Uint256} {signed : Uint256 × Bytes} {now : UInt64}
    (hkey : priKeyOf built.senderAddr = some priKey) (hdigest : known ⟨.sha256 built, digest⟩)
    (hsigned : known ⟨.txHashAndSignCalc priKey { built with txDigest := digest }, signed⟩)
    (hnow : known ⟨.timestampNowMs, now⟩) :
    Sealed built { built with txDigest := signed.1, txSignature := signed.2, edgeTimestamp := now }
  | client {digest : Uint256} {signature : Bytes} {now : UInt64}
    (hkey : priKeyOf built.senderAddr = none) (hdigest : known ⟨.sha256 built, digest⟩)
    (hsignature : stringOf lib root "signature" = .ok signature) (hnow : known ⟨.timestampNowMs, now⟩) :
    Sealed built { built with
      txDigest := digest, txSignature := jsonStringToSignature lib signature, edgeTimestamp := now }

/-- What each transaction action makes of its request. -/
inductive Composed (fresh : Xtransaction) : Action → Xtransaction → Prop
  | accountCreate {account amount : Bytes} {timestamp : ℤ} {tx : Xtransaction}
    (haccount : stringOf lib root "account" = .ok account) (habsent : known ⟨.existAccount account, false⟩)
    (hamount : stringOf lib root "amount" = .ok amount)
    (htimestamp : int64Of root "timestamp" = .ok timestamp)
    (hsealed : Sealed lib root known
      (accountCreateTx lib.types account amount (UInt64.ofInt timestamp) fresh) tx) :
    Composed fresh .accountCreate tx
  | transferOut {source destination assetKey ammount : Bytes} {timestamp : ℤ} {lastHash : Uint256}
    {tx : Xtransaction} (hsource : stringOf lib root "source" = .ok source)
    (hdestination : stringOf lib root "destination" = .ok destination)
    (hassetKey : stringOf lib root "property_key" = .ok assetKey)
    (hammount : stringOf lib root "amount" = .ok ammount)
    (htimestamp : int64Of root "timestamp" = .ok timestamp) (hdistinct : source ≠ destination)
    (hlastHash : LastDigest lib root known (noHash source) source lastHash)
    (hsealed : Sealed lib root known (transferOutTx lib.types source destination assetKey ammount
      (UInt64.ofInt timestamp) lastHash fresh) tx) : Composed fresh .transferOut tx
  | transferIn {account encoded sender amount : Bytes} {timestamp : ℤ} {lastHash txDigest : Uint256}
    {tx : Xtransaction} (haccount : stringOf lib root "account" = .ok account)
    (htimestamp : int64Of root "timestamp" = .ok timestamp)
    (hlastHash : LastDigest lib root known (noHash account) account lastHash)
    (hencoded : stringOf lib root "tx_digest" = .ok encoded)
    (hdecoded : Decoded known (lib.base64Decode encoded) txDigest)
    (hsealed : Sealed lib root known (transferInTx lib.types account (UInt64.ofInt timestamp) txDigest
      lastHash fresh) tx)
    (hsender : stringOf lib root "sender" = .ok sender) (hamount : stringOf lib root "amount" = .ok amount) :
    Composed fresh .transferIn { tx with originSender := sender, originAmount := amount }
  | setProperty {account cAccount propertyKey propertyValue : Bytes} {timestamp : ℤ} {lastHash : Uint256}
    {tx : Xtransaction} (haccount : stringOf lib root "account" = .ok account)
    (hcAccount : cStringOf root "account" = .ok cAccount)
    (hpropertyKey : stringOf lib root "property_key" = .ok propertyKey)
    (hvalid : ValidPropertyKey propertyKey)
    (hpropertyValue : stringOf lib root "property_value" = .ok propertyValue)
    (htimestamp : int64Of root "timestamp" = .ok timestamp)
    (hlastHash : LastDigest lib root known (noHash account) cAccount lastHash)
    (hsealed : Sealed lib root known (setPropertyTx lib.types account propertyKey propertyValue
      (UInt64.ofInt timestamp) lastHash fresh) tx) : Composed fresh .setProperty tx
  | give {destination : Bytes} {timestamp : ℤ} {lastHash : Uint256} {tx : Xtransaction}
    (hdestination : stringOf lib root "destination" = .ok destination)
    (htimestamp : int64Of root "timestamp" = .ok timestamp)
    (hlastHash : LastDigest lib root known true testGenesisAccountAddress lastHash)
    (hsealed : Sealed lib root known (transferOutTx lib.types testGenesisAccountAddress destination
      (str "$$") (str "100000") (UInt64.ofInt timestamp) lastHash fresh) tx) : Composed fresh .give tx

/-- The account's last hash was read, and agrees with the transaction where there is one. -/
def HeadAgrees (tx : Xtransaction) : Prop :=
  ∃ reply, known ⟨.getLastHash tx.senderAddr, reply⟩ ∧ ∀ hash, reply = some hash → hash = tx.lastMsgDigest

/-- A balance was read, and the amount is not above it. -/
def BalanceCovers (tx : Xtransaction) : Prop :=
  ∃ ret balance available requested,
    known ⟨.getAccountBalance tx.senderAddr tx.propertyKey, (ret, balance)⟩ ∧
      ret ≠ .accountNotExist ∧ ret ≠ .noPropertyKey ∧ stoll balance = .ok available ∧
      stoll tx.transactionParams = .ok requested ∧ requested ≤ available

/-- The destination was found, nothing waited for it, and its settle list showed no receipt. -/
def FaucetUnpaid (account : Bytes) : Prop :=
  known ⟨.existAccount account, true⟩ ∧ known ⟨.getReceiveBlocks account, []⟩ ∧
    ∃ settleList, known ⟨.getSettleBlocks account, settleList⟩ ∧ hasReceipt lib.types settleList = false

/-- The checks an action makes after the verification were passed. -/
def Passes : Action → Xtransaction → Prop
  | .transferOut, tx => BalanceCovers known tx ∧ HeadAgrees known tx
  | .transferIn, tx => HeadAgrees known tx
  | .give, tx => FaucetUnpaid lib known tx.receiverAddr
  | _, _ => True

/-- The checks an action makes after the verification. -/
def checksOf (kind : Action) (tx : Xtransaction) : HandlerM (Option XrpcReturn) :=
  match kind with
  | .transferOut => transferOutChecks tx.senderAddr tx.propertyKey tx.transactionParams
  | .transferIn => lastHashCheck tx.senderAddr
  | .give => giveChecks lib tx.receiverAddr
  | _ => pure none

/-- A transaction that may be proposed: composed for the requested action, found correct as it is,
and past the checks of the action. -/
structure Vetted (fresh : Xtransaction) (kind : Action) (tx : Xtransaction) : Prop where
  requested : stringOf lib root "action" = .ok (str kind.text)
  composed : Composed lib root known fresh kind tx
  verified : known ⟨.txHashAndSignVerify tx, true⟩
  passes : Passes lib known kind tx

end Relations

section Growth

variable {lib : Externals} {root : Value} {known known' : HandlerEvent → Prop}
  (hgrows : ∀ e, known e → known' e)

include hgrows

/-- A decoded digest stays decoded the longer the request runs. -/
theorem Decoded.mono {bytes : Bytes} {digest : Uint256} (h : Decoded known bytes digest) :
    Decoded known' bytes digest := by
  cases h with
  | inside hlength => exact .inside hlength
  | beyond hlength htail hdigest => exact .beyond hlength (hgrows _ htail) hdigest

/-- A last digest stays what was looked up or decoded. -/
theorem LastDigest.mono {nohash : Bool} {account : Bytes} {digest : Uint256}
    (h : LastDigest lib root known nohash account digest) :
    LastDigest lib root known' nohash account digest := by
  cases h with
  | head hnohash hsnap => exact .head hnohash (hgrows _ hsnap)
  | client hnohash hencoded hdecoded => exact .client hnohash hencoded (hdecoded.mono hgrows)

/-- A sealed transaction stays sealed. -/
theorem Sealed.mono {built tx : Xtransaction} (h : Sealed lib root known built tx) :
    Sealed lib root known' built tx := by
  cases h with
  | server hkey hdigest hsigned hnow =>
    exact .server hkey (hgrows _ hdigest) (hgrows _ hsigned) (hgrows _ hnow)
  | client hkey hdigest hsignature hnow =>
    exact .client hkey (hgrows _ hdigest) hsignature (hgrows _ hnow)

/-- A composed transaction stays composed. -/
theorem Composed.mono {fresh tx : Xtransaction} {kind : Action}
    (h : Composed lib root known fresh kind tx) : Composed lib root known' fresh kind tx := by
  cases h with
  | accountCreate haccount habsent hamount htimestamp hsealed =>
    exact .accountCreate haccount (hgrows _ habsent) hamount htimestamp (hsealed.mono hgrows)
  | transferOut hsource hdestination hassetKey hammount htimestamp hdistinct hlastHash hsealed =>
    exact .transferOut hsource hdestination hassetKey hammount htimestamp hdistinct
      (hlastHash.mono hgrows) (hsealed.mono hgrows)
  | transferIn haccount htimestamp hlastHash hencoded hdecoded hsealed hsender hamount =>
    exact .transferIn haccount htimestamp (hlastHash.mono hgrows) hencoded (hdecoded.mono hgrows)
      (hsealed.mono hgrows) hsender hamount
  | setProperty haccount hcAccount hpropertyKey hvalid hpropertyValue htimestamp hlastHash hsealed =>
    exact .setProperty haccount hcAccount hpropertyKey hvalid hpropertyValue htimestamp
      (hlastHash.mono hgrows) (hsealed.mono hgrows)
  | give hdestination htimestamp hlastHash hsealed =>
    exact .give hdestination htimestamp (hlastHash.mono hgrows) (hsealed.mono hgrows)

/-- A head that has agreed has agreed. -/
theorem HeadAgrees.mono {tx : Xtransaction} (h : HeadAgrees known tx) : HeadAgrees known' tx := by
  obtain ⟨reply, hreply, hagrees⟩ := h
  exact ⟨reply, hgrows _ hreply, hagrees⟩

/-- A balance that has covered the amount has covered it. -/
theorem BalanceCovers.mono {tx : Xtransaction} (h : BalanceCovers known tx) :
    BalanceCovers known' tx := by
  obtain ⟨ret, balance, available, requested, hreply, hrest⟩ := h
  exact ⟨ret, balance, available, requested, hgrows _ hreply, hrest⟩

/-- An account that was not paid was not paid. -/
theorem FaucetUnpaid.mono {account : Bytes} (h : FaucetUnpaid lib known account) :
    FaucetUnpaid lib known' account := by
  obtain ⟨hexist, hreceive, settleList, hsettle, hreceipt⟩ := h
  exact ⟨hgrows _ hexist, hgrows _ hreceive, settleList, hgrows _ hsettle, hreceipt⟩

/-- Checks that were passed stay passed. -/
theorem Passes.mono {kind : Action} {tx : Xtransaction} (h : Passes lib known kind tx) :
    Passes lib known' kind tx := by
  cases kind
  case transferOut => exact ⟨h.1.mono hgrows, h.2.mono hgrows⟩
  case transferIn => exact HeadAgrees.mono hgrows h
  case give => exact FaucetUnpaid.mono hgrows h
  all_goals trivial

/-- A vetted transaction stays vetted. -/
theorem Vetted.mono {fresh tx : Xtransaction} {kind : Action}
    (h : Vetted lib root known fresh kind tx) : Vetted lib root known' fresh kind tx :=
  ⟨h.requested, h.composed.mono hgrows, hgrows _ h.verified, h.passes.mono hgrows⟩

end Growth

end XrpcServer.Handler
