import XrpcServer.Handler.Dispatcher

/-!
# Which requests can be answered

A conversion returns on members of certain kinds only, and a balance check needs two readable
numbers. What a request has to carry so that no exception leaves its action is stated here
for each action, over the root, the store and the libraries; for the transaction actions it
is derived from their admission.
-/

namespace XrpcServer.Handler

open XrpcServer.Text XrpcServer.Chain XrpcServer.Interaction XrpcServer.Json
open XrpcServer.Json (Value)

section Members

/-- The root has members, and the one under this key is of a kind. -/
def HasMember (kind : Value → Prop) (root : Value) (key : String) : Prop :=
  ∃ members, root.fields = some members ∧ kind (Value.member members (str key))

/-- `root[key].asString()` returns. -/
abbrev HasText : Value → String → Prop := HasMember Value.IsScalar

/-- `root[key].asCString()` returns. -/
abbrev HasCString : Value → String → Prop := HasMember Value.IsString

/-- `root[key].asInt()` returns. -/
abbrev HasInt : Value → String → Prop := HasMember (Value.IsInteger (-2 ^ 31) (2 ^ 31 - 1))

/-- `root[key].asInt64()` returns. -/
abbrev HasInt64 : Value → String → Prop := HasMember (Value.IsInteger (-2 ^ 63) (2 ^ 63 - 1))

/-- The text of a member, empty when it has none. -/
def textOf (lib : Externals) (root : Value) (key : String) : Bytes :=
  (stringOf lib root key).toOption.getD []

/-- The C string of a member, empty when it has none. -/
def cTextOf (root : Value) (key : String) : Bytes := (cStringOf root key).toOption.getD []

/-- The number stored for the `timestamp` member, zero when it has none. -/
def timestampValue (root : Value) : UInt64 :=
  UInt64.ofInt ((int64Of root "timestamp").toOption.getD 0)

variable {root : Value} {key : String}

/-- A member conversion returns on the members its conversion returns on. -/
theorem convert_ok_iff {α : Type} {convert : Value → Except JsonError α} {kind : Value → Prop}
    (hkind : ∀ v, (∃ a, convert v = .ok a) ↔ kind v) :
    (∃ a, liftJson ((root.get (str key)).bind convert) = .ok a) ↔ HasMember kind root key := by
  cases hfields : root.fields with
  | none => simp [HasMember, Value.get, hfields, Except.bind]
  | some members =>
    have hget : root.get (str key) = .ok (Value.member members (str key)) := by
      simp only [Value.get, hfields]
    have hlift : ∀ x : Except JsonError α, (∃ a, liftJson x = .ok a) ↔ ∃ a, x = .ok a := by
      intro x
      cases x <;> simp
    rw [hlift, hget]
    apply (hkind (Value.member members (str key))).trans
    simp [HasMember, hfields]

/-- A computation that can return returns its value. -/
theorem eq_ok_getD_iff {ε α : Type} {x : Except ε α} {a : α} :
    x = .ok (x.toOption.getD a) ↔ ∃ b, x = .ok b := by
  cases x <;> simp [Except.toOption]

/-- A text of the request is read exactly when the member is one. -/
theorem stringOf_eq_ok_iff (lib : Externals) :
    stringOf lib root key = .ok (textOf lib root key) ↔ HasText root key :=
  eq_ok_getD_iff.trans (convert_ok_iff (Value.asString_ok_iff lib.printReal))

/-- `asCString` wants a string. -/
theorem cStringOf_eq_ok_iff : cStringOf root key = .ok (cTextOf root key) ↔ HasCString root key :=
  eq_ok_getD_iff.trans (convert_ok_iff Value.asCString_ok_iff)

/-- `asInt` wants a number in range. -/
theorem intOf_ok_iff : (∃ i, intOf root key = .ok i) ↔ HasInt root key :=
  convert_ok_iff (Value.asInteger_ok_iff _ _)

/-- `asInt64` wants one in its own range. -/
theorem int64Of_ok_iff : (∃ i, int64Of root key = .ok i) ↔ HasInt64 root key :=
  convert_ok_iff (Value.asInteger_ok_iff _ _)

end Members

/-- Every balance the store reports is a 64-bit decimal numeral. -/
def BalancesDecimal (store : Store) : Prop :=
  ∀ account key balance, store.getAccountBalance account key = (.other, balance) →
    ∃ b, IsNumeral balance b ∧ FitsInt64 b

/-- If a balance is reported, it and the amount it is compared with can be read as numbers. -/
def BalanceComparable (w : World) (account assetKey ammount : Bytes) : Prop :=
  (w.store.getAccountBalance account assetKey).1 = .other →
    (∃ b, stoll (w.store.getAccountBalance account assetKey).2 = .ok b) ∧ ∃ a, stoll ammount = .ok a

/-- Over a store of numerals only the amount can fail to be a number. -/
theorem balanceComparable_iff {w : World} (hbalances : BalancesDecimal w.store)
    (account assetKey ammount : Bytes) : BalanceComparable w account assetKey ammount ↔
      ((w.store.getAccountBalance account assetKey).1 = .other → ∃ a, stoll ammount = .ok a) := by
  apply forall_congr'
  intro hreported
  obtain ⟨b, hnumeral, hfits⟩ := hbalances account assetKey
    (w.store.getAccountBalance account assetKey).2 (Prod.ext hreported rfl)
  apply and_iff_right
  exact ⟨b, by rw [stoll_of_isNumeral hnumeral, if_pos hfits]⟩

/-- No exception stops the computation; it may still be refused. -/
def Finishes {α : Type} (x : Except Stop α) : Prop := ∀ e, x ≠ .error (.thrown e)

section Finishing

variable {α β : Type}

/-- What returns finishes. -/
@[simp] theorem finishes_ok (a : α) : Finishes (.ok a) := by simp [Finishes]

/-- What is refused finishes. -/
@[simp] theorem finishes_refused (code : XrpcReturn) :
    Finishes (.error (.refused code) : Except Stop α) := by
  simp [Finishes]

/-- What throws does not. -/
@[simp] theorem not_finishes_thrown (e : Exc) : ¬Finishes (.error (.thrown e) : Except Stop α) := by
  simp [Finishes]

/-- A conversion finishes when it returns, and what comes after it finishes. -/
theorem finishes_orThrow_bind {x : Except Exc α} {a : α} {f : α → Except Stop β} :
    Finishes (orThrow x >>= f) ↔ x = .ok (x.toOption.getD a) ∧ Finishes (f (x.toOption.getD a)) := by
  cases x <;> simp [Except.toOption]

/-- A text has to be there to be read. -/
@[simp] theorem finishes_text_bind (lib : Externals) (root : Value) (key : String)
    (f : Bytes → Except Stop β) :
    Finishes (orThrow (stringOf lib root key) >>= f) ↔
      HasText root key ∧ Finishes (f (textOf lib root key)) := by
  rw [← stringOf_eq_ok_iff lib]
  exact finishes_orThrow_bind

/-- A C string has to be there to be read. -/
@[simp] theorem finishes_cText_bind (root : Value) (key : String) (f : Bytes → Except Stop β) :
    Finishes (orThrow (cStringOf root key) >>= f) ↔
      HasCString root key ∧ Finishes (f (cTextOf root key)) := by
  rw [← cStringOf_eq_ok_iff]
  exact finishes_orThrow_bind

/-- A timestamp has to be there to be read. -/
@[simp] theorem finishes_timestamp_bind (root : Value) (f : UInt64 → Except Stop β) :
    Finishes (timestampOf root >>= f) ↔ HasInt64 root "timestamp" ∧ Finishes (f (timestampValue root)) := by
  rw [← int64Of_ok_iff]
  cases h : int64Of root "timestamp" <;> simp [timestampOf, timestampValue, h, Except.toOption]

/-- What comes after a refusal has to finish only if nothing is refused. -/
@[simp] theorem finishes_refuseIf_bind {c : Prop} [Decidable c] (code : XrpcReturn)
    (f : Unit → Except Stop β) : Finishes (refuseIf c code >>= f) ↔ (¬c → Finishes (f ())) := by
  by_cases h : c <;> simp [refuseIf, h]

/-- A refusal finishes. -/
@[simp] theorem finishes_refuseIf {c : Prop} [Decidable c] (code : XrpcReturn) :
    Finishes (refuseIf c code) := by
  by_cases h : c <;> simp [refuseIf, h]

/-- A pure step after a computation changes nothing. -/
@[simp] theorem finishes_bind_ok {x : Except Stop α} (g : α → β) :
    Finishes (x >>= fun a => .ok (g a)) ↔ Finishes x := by
  rcases x with (e | code) | a <;> simp

end Finishing

section Digests

variable (lib : Externals) (w : World) (root : Value) (nohash : Bool)

/-- The server has to know the head of a built-in account. -/
def HeadMissing (account : Bytes) : Prop :=
  nohash = true ∧ w.store.getAccountSnapInfo account = none

/-- The last digest of a transaction: the head of a built-in account, else the client's. -/
def chosenDigest (account : Bytes) : Uint256 :=
  if nohash then ((w.store.getAccountSnapInfo account).map XaccountSnap.lastUnitHash).getD Uint256.zero
  else digestAt w (lib.base64Decode (textOf lib root "last_digest"))

/-- A built transaction with its digest, signature and arrival time. -/
def sealedTx (built : Xtransaction) : Xtransaction :=
  let tx := digested w built
  let signed :=
    if nohash then
      match priKeyOf tx.senderAddr with
      | some priKey => serverSigned w priKey tx
      | none => tx
    else { tx with txSignature := jsonStringToSignature lib (textOf lib root "signature") }
  { signed with edgeTimestamp := w.timestampNowMs }

/-- A client has to send this member itself, the server fills it in for a built-in account. -/
def ClientSends (key : String) : Prop := nohash = false → HasText root key

/-- A client sends its last digest; the server looks its own up. -/
@[simp] theorem finishes_lastDigest_bind {β : Type} (account : Bytes) (f : Uint256 → Except Stop β) :
    Finishes (lastDigestOf lib w root nohash account >>= f) ↔
      ClientSends root nohash "last_digest" ∧
        (¬HeadMissing w nohash account → Finishes (f (chosenDigest lib w root nohash account))) := by
  cases nohash with
  | true =>
    cases h : w.store.getAccountSnapInfo account <;>
      simp [lastDigestOf, ClientSends, HeadMissing, chosenDigest, h]
  | false =>
    rw [ClientSends, ← stringOf_eq_ok_iff lib]
    cases h : stringOf lib root "last_digest" <;>
      simp [lastDigestOf, HeadMissing, chosenDigest, textOf, h, Except.toOption]

/-- A client sends its signature; the server signs for itself. -/
@[simp] theorem finishes_sealTx_bind {β : Type} (built : Xtransaction) (f : Xtransaction → Except Stop β) :
    Finishes (sealTx lib w root nohash (digested w built) >>= f) ↔
      ClientSends root nohash "signature" ∧ Finishes (f (sealedTx lib w root nohash built)) := by
  cases nohash with
  | true =>
    cases h : priKeyOf (digested w built).senderAddr <;>
      simp [sealTx, ClientSends, sealedTx, h]
  | false =>
    rw [ClientSends, ← stringOf_eq_ok_iff lib]
    cases h : stringOf lib root "signature" <;> simp [sealTx, sealedTx, textOf, h, Except.toOption]

end Digests

section Actions

variable (lib : Externals) (w : World) (root : Value) (fresh : Xtransaction)

/-- What `account_create` needs: nothing more when the account exists. -/
def AccountCreateAnswerable : Prop :=
  let account := textOf lib root "account"
  w.store.existAccount account = false →
    HasText root "amount" ∧ HasInt64 root "timestamp" ∧ ClientSends root (noHash account) "signature"

/-- The transaction a `transfer_out` request asks for, sealed. -/
def requestedTransferOut : Xtransaction :=
  let source := textOf lib root "source"
  sealedTx lib w root (noHash source) (transferOutTx lib.types source (textOf lib root "destination")
    (textOf lib root "property_key") (textOf lib root "amount") (timestampValue root)
    (chosenDigest lib w root (noHash source) source) fresh)

/-- What `transfer_out` needs. The balance and the amount are read as numbers only for a verified
transaction of an account whose balance is known. -/
def TransferOutAnswerable : Prop :=
  let source := textOf lib root "source"
  HasText root "source" ∧ HasText root "destination" ∧ HasText root "property_key" ∧
    HasText root "amount" ∧ HasInt64 root "timestamp" ∧
    (source ≠ textOf lib root "destination" →
      ClientSends root (noHash source) "last_digest" ∧
      (¬HeadMissing w (noHash source) source →
        ClientSends root (noHash source) "signature" ∧
        (w.txHashAndSignVerify (requestedTransferOut lib w root fresh) = true →
          BalanceComparable w source (textOf lib root "property_key") (textOf lib root "amount"))))

/-- What `transfer_in` needs. -/
def TransferInAnswerable : Prop :=
  let account := textOf lib root "account"
  HasInt64 root "timestamp" ∧ ClientSends root (noHash account) "last_digest" ∧
    (¬HeadMissing w (noHash account) account →
      HasText root "tx_digest" ∧ ClientSends root (noHash account) "signature" ∧
        HasText root "sender" ∧ HasText root "amount")

/-- What `set_property` needs: `account` has to be a string once the key is valid. -/
def SetPropertyAnswerable : Prop :=
  let nohash := noHash (textOf lib root "account")
  HasText root "property_key" ∧
    (ValidPropertyKey (textOf lib root "property_key") →
      HasCString root "account" ∧ ClientSends root nohash "last_digest" ∧
      (¬HeadMissing w nohash (cTextOf root "account") →
        HasText root "property_value" ∧ HasInt64 root "timestamp" ∧
          ClientSends root nohash "signature"))

/-- What an action needs to be answered, besides the members every request is read for. -/
def ActionAnswerable : Action → Prop
  | .accountBalance => HasText root "property_key"
  | .accountCreate => AccountCreateAnswerable lib w root
  | .transferOut => TransferOutAnswerable lib w root fresh
  | .transferIn => TransferInAnswerable lib w root
  | .accountHistory => HasInt root "count" ∧ HasInt root "per_page"
  | .accountPending => HasInt root "count"
  | .tpsQuery => w.store.getStatInfo.isEmpty = false → w.store.getStatInfo.fields ≠ none
  | .setProperty => SetPropertyAnswerable lib w root
  | .queryProperty =>
    w.store.getAccountSnapInfo (textOf lib root "account") ≠ none → HasText root "property_key"
  | .give => HasText root "destination" ∧ HasInt64 root "timestamp"
  | .queryOnlineTx => HasInt root "count" ∧ HasInt root "per_page"
  | .triggerElect =>
    w.triggerElect ((root.touch (str "action")).touch (str "account")) ≠ .array []
  | .accountInfo | .lastDigest | .queryAllProperty | .accountDelete | .accountSnapDelete
  | .accountSync | .invalid => True

/-- What a request needs to be answered. -/
def Answerable : Prop :=
  HasText root "action" ∧ HasText root "account" ∧
    ActionAnswerable lib w root fresh (actionOf (textOf lib root "action"))

end Actions

section Admissions

variable {lib : Externals} {w : World} {root : Value} {fresh : Xtransaction}

/-- The check of the last hash finishes. -/
@[simp] theorem finishes_headCheck (account : Bytes) (tx : Xtransaction) : Finishes (headCheck w account tx) :=
  finishes_refuseIf _

/-- So does the check of the faucet. -/
@[simp] theorem finishes_faucetCheck (account : Bytes) : Finishes (faucetCheck lib w account) := by
  simp [faucetCheck]

/-- A balance check finishes exactly when it can compare. -/
theorem finishes_balanceCheck_bind {β : Type} {f : Unit → Except Stop β} (hf : ∀ u, Finishes (f u))
    (account assetKey ammount : Bytes) :
    Finishes (balanceCheck w account assetKey ammount >>= f) ↔
      BalanceComparable w account assetKey ammount := by
  obtain ⟨ret, balance, hreply⟩ : ∃ ret balance,
      w.store.getAccountBalance account assetKey = (ret, balance) := ⟨_, _, rfl⟩
  cases ret with
  | accountNotExist => simp [balanceCheck, BalanceComparable, refuseIf, hreply]
  | noPropertyKey => simp [balanceCheck, BalanceComparable, refuseIf, hreply]
  | other =>
    cases havailable : stoll balance with
    | error e => simp [balanceCheck, BalanceComparable, refuseIf, hreply, havailable, Except.mapError]
    | ok b =>
      cases hrequested : stoll ammount with
      | error e =>
        simp [balanceCheck, BalanceComparable, refuseIf, hreply, havailable, hrequested,
          Except.mapError]
      | ok a =>
        by_cases hlt : b < a <;>
          simp [balanceCheck, BalanceComparable, refuseIf, hreply, havailable, hrequested, hlt,
            Except.mapError, hf]

/-- What a request gets admitted or is stopped by. -/
def decision (lib : Externals) (w : World) (root : Value) (draft : Except Stop Draft) :
    Except Stop Xtransaction := draft >>= fun draft => draft.accept lib w root

/-- A transaction action finishes exactly when it has what it needs. -/
theorem finishes_decision_iff (haccount : HasText root "account") {kind : Action}
    {draft : Except Stop Draft}
    (hdraft : actionDraft lib w root fresh (noHash (textOf lib root "account")) kind = some draft) :
    Finishes (decision lib w root draft) ↔ ActionAnswerable lib w root fresh kind := by
  cases kind <;> cases hdraft
  case accountCreate =>
    simp [decision, accountCreateDraft, Draft.accept, ActionAnswerable, AccountCreateAnswerable, haccount]
  case transferOut =>
    have hchecks (account assetKey ammount : Bytes) (tx : Xtransaction) :
        Finishes (do
          balanceCheck w account assetKey ammount
          headCheck w account tx
          .ok tx) ↔ BalanceComparable w account assetKey ammount :=
      finishes_balanceCheck_bind (by simp) account assetKey ammount
    simp only [decision, transferOutDraft, Draft.accept, ActionAnswerable, TransferOutAnswerable]
    simp [hchecks, requestedTransferOut]
  case transferIn =>
    simp [decision, transferInDraft, Draft.accept, ActionAnswerable, TransferInAnswerable, haccount]
  case setProperty =>
    simp [decision, setPropertyDraft, Draft.accept, ActionAnswerable, SetPropertyAnswerable, haccount]
  case give =>
    simp [decision, giveDraft, Draft.accept, ActionAnswerable, ClientSends]

end Admissions

end XrpcServer.Handler
