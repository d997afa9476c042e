import XrpcServer.Handler.Requests

/-!
# What a transaction action admits

The abstract view of the five actions, without state and effects: an action drafts a
transaction from the request and the store, the draft is sealed, finished, verified and
checked, and either one transaction is admitted or the request stops with an exception or a
refusal. `Handler.Submission` shows that the handlers compute exactly this.
-/

namespace XrpcServer.Handler

open XrpcServer.Text XrpcServer.Chain XrpcServer.Interaction
open XrpcServer.Json (Value)

/-- Why no transaction is admitted. -/
inductive Stop where
  | thrown (e : Exc)
  | refused (err : XrpcReturn)
deriving DecidableEq

/-- A computation whose exceptions stop the request. -/
def orThrow {α : Type} (x : Except Exc α) : Except Stop α := x.mapError .thrown

/-- What is thrown on failure is the same on success. -/
@[simp] theorem orThrow_eq_ok {α : Type} {x : Except Exc α} {a : α} :
    orThrow x = .ok a ↔ x = .ok a := by
  cases x <;> simp [orThrow, Except.mapError]

/-- A failed conversion throws its exception. -/
@[simp] theorem orThrow_eq_thrown {α : Type} {x : Except Exc α} {e : Exc} :
    orThrow x = .error (.thrown e) ↔ x = .error e := by
  cases x <;> simp [orThrow, Except.mapError]

/-- A failed conversion is no refusal. -/
@[simp] theorem orThrow_ne_refused {α : Type} {x : Except Exc α} {err : XrpcReturn} :
    orThrow x ≠ .error (.refused err) := by
  cases x <;> simp [orThrow, Except.mapError]

/-- A value goes through. -/
@[simp] theorem orThrow_ok {α : Type} (a : α) : orThrow (.ok a) = .ok a := rfl

/-- An exception is thrown. -/
@[simp] theorem orThrow_error {α : Type} (e : Exc) :
    orThrow (.error e : Except Exc α) = .error (.thrown e) := rfl

/-- After a value the rest goes on. -/
@[simp] theorem except_bind_ok {ε α β : Type} (a : α) (f : α → Except ε β) :
    ((.ok a : Except ε α) >>= f) = f a := rfl

/-- After an error nothing goes on. -/
@[simp] theorem except_bind_error {ε α β : Type} (e : ε) (f : α → Except ε β) :
    ((.error e : Except ε α) >>= f) = .error e := rfl

/-- Returning succeeds. -/
@[simp] theorem except_pure {ε α : Type} (a : α) : (pure a : Except ε α) = .ok a := rfl

/-- Stop with a code unless a condition fails. -/
def refuseIf (c : Prop) [Decidable c] (err : XrpcReturn) : Except Stop Unit :=
  if c then .error (.refused err) else .ok ()

/-- A sequence succeeds when both of its parts do. -/
theorem except_bind_eq_ok {ε α β : Type} {x : Except ε α} {f : α → Except ε β} {b : β} :
    x >>= f = .ok b ↔ ∃ a, x = .ok a ∧ f a = .ok b := by
  cases x <;> simp

/-- A refusal is avoided when its condition fails. -/
theorem refuseIf_eq_ok {c : Prop} [Decidable c] {code : XrpcReturn} {u : Unit} :
    refuseIf c code = .ok u ↔ ¬c := by
  by_cases h : c <;> simp [refuseIf, h]

section Digests

variable (lib : Externals) (w : World) (root : Value)

/-- The 32 bytes found at the first byte of a string. -/
def digestAt (s : Bytes) : Uint256 :=
  if h : 32 ≤ s.length then Uint256.ofFront s h
  else ⟨s ++ 0 :: (List.range (31 - s.length)).map (w.memory s), by
    simp only [List.length_append, List.length_cons, List.length_map, List.length_range]
    omega⟩

/-- The last digest a transaction of `account` is given. -/
def lastDigestOf (nohash : Bool) (account : Bytes) : Except Stop Uint256 :=
  if nohash then
    match w.store.getAccountSnapInfo account with
    | some snap => .ok snap.lastUnitHash
    | none => .error (.refused .serverAccountNotFound)
  else do
    let encoded ← orThrow (stringOf lib root "last_digest")
    pure (digestAt w (lib.base64Decode encoded))

/-- A built transaction with the digest the builder takes of it. -/
def digested (built : Xtransaction) : Xtransaction := { built with txDigest := w.sha256 built }

/-- A transaction signed with a server-held key. -/
def serverSigned (priKey : Bytes) (tx : Xtransaction) : Xtransaction :=
  { tx with
    txDigest := (w.txHashAndSignCalc priKey tx).1
    txSignature := (w.txHashAndSignCalc priKey tx).2 }

/-- The signature and the arrival time added to a hashed transaction. -/
def sealTx (nohash : Bool) (tx : Xtransaction) : Except Stop Xtransaction := do
  let signed ←
    if nohash then
      match priKeyOf tx.senderAddr with
      | some priKey => pure (serverSigned w priKey tx)
      | none => pure tx
    else do
      let signature ← orThrow (stringOf lib root "signature")
      pure { tx with txSignature := jsonStringToSignature lib signature }
  pure { signed with edgeTimestamp := w.timestampNowMs }

end Digests

/-- What an action hands to the common tail. -/
structure Draft where
  nohash : Bool
  /-- The transaction as its builder leaves it, before the digest is assigned. -/
  built : Xtransaction
  /-- What the action still writes after sealing. -/
  finish : Xtransaction → Except Stop Xtransaction
  /-- The checks after verification. -/
  check : Xtransaction → Except Stop Unit

/-- Seal, finish, verify and check a draft; the value is the transaction that is proposed. -/
def Draft.accept (lib : Externals) (w : World) (root : Value) (draft : Draft) :
    Except Stop Xtransaction := do
  let signed ← sealTx lib w root draft.nohash (digested w draft.built)
  let final ← draft.finish signed
  refuseIf (w.txHashAndSignVerify final = false) .serverHashSignatureCheckFail
  draft.check final
  pure final

section Drafts

variable (lib : Externals) (w : World) (root : Value) (fresh : Xtransaction)

/-- The value stored for the `timestamp` member. -/
def timestampOf : Except Stop UInt64 := do
  let timestamp ← orThrow (int64Of root "timestamp")
  pure (UInt64.ofInt timestamp)

/-- The head digest check: an account with a recorded head must extend it. -/
def headCheck (account : Bytes) (tx : Xtransaction) : Except Stop Unit :=
  refuseIf (∃ hash ∈ w.store.getLastHash account, hash ≠ tx.lastMsgDigest) .lastHashError

/-- The balance check of `transfer_out`. -/
def balanceCheck (account assetKey ammount : Bytes) : Except Stop Unit := do
  refuseIf ((w.store.getAccountBalance account assetKey).1 = .accountNotExist) .serverAccountNotFound
  refuseIf ((w.store.getAccountBalance account assetKey).1 = .noPropertyKey) .noPropertyKey
  let available ← orThrow
    ((stoll (w.store.getAccountBalance account assetKey).2).mapError Exc.conversion)
  let requested ← orThrow ((stoll ammount).mapError Exc.conversion)
  refuseIf (available < requested) .serverAccountBalanceNotEnough

/-- The faucet's checks on the destination. -/
def faucetCheck (dstAccount : Bytes) : Except Stop Unit := do
  refuseIf (w.store.existAccount dstAccount = false) .serverAccountNotFound
  refuseIf (0 < (w.store.getReceiveBlocks dstAccount).length) .alreadyGive
  refuseIf (hasReceipt lib.types (w.store.getSettleBlocks dstAccount) = true) .alreadyGive

/-- The draft of `account_create`. -/
def accountCreateDraft (nohash : Bool) : Except Stop Draft := do
  let account ← orThrow (stringOf lib root "account")
  refuseIf (w.store.existAccount account = true) .serverAccountExist
  let amount ← orThrow (stringOf lib root "amount")
  let timestamp ← timestampOf root
  pure {
    nohash := nohash
    built := accountCreateTx lib.types account amount timestamp fresh
    finish := .ok
    check := fun _ => .ok () }

/-- The draft of `transfer_out`. -/
def transferOutDraft (nohash : Bool) : Except Stop Draft := do
  let srcAccount ← orThrow (stringOf lib root "source")
  let dstAccount ← orThrow (stringOf lib root "destination")
  let assetKey ← orThrow (stringOf lib root "property_key")
  let ammount ← orThrow (stringOf lib root "amount")
  let timestamp ← timestampOf root
  refuseIf (srcAccount = dstAccount) .senderReceiverTheSame
  let lastHash ← lastDigestOf lib w root nohash srcAccount
  pure {
    nohash := nohash
    built := transferOutTx lib.types srcAccount dstAccount assetKey ammount timestamp lastHash fresh
    finish := .ok
    check := fun tx => do
      balanceCheck w srcAccount assetKey ammount
      headCheck w srcAccount tx }

/-- The draft of `give`. -/
def giveDraft : Except Stop Draft := do
  let dstAccount ← orThrow (stringOf lib root "destination")
  let timestamp ← timestampOf root
  let lastHash ← lastDigestOf lib w root true testGenesisAccountAddress
  pure {
    nohash := true
    built := transferOutTx lib.types testGenesisAccountAddress dstAccount (str "$$")
      (str "100000") timestamp lastHash fresh
    finish := .ok
    check := fun _ => faucetCheck lib w dstAccount }

/-- The draft of `transfer_in`, which still writes the origin of the payment after sealing. -/
def transferInDraft (nohash : Bool) : Except Stop Draft := do
  let timestamp ← timestampOf root
  let account ← orThrow (stringOf lib root "account")
  let lastHash ← lastDigestOf lib w root nohash account
  let encoded ← orThrow (stringOf lib root "tx_digest")
  pure {
    nohash := nohash
    built := transferInTx lib.types account timestamp (digestAt w (lib.base64Decode encoded))
      lastHash fresh
    finish := fun tx => do
      let sender ← orThrow (stringOf lib root "sender")
      let amount ← orThrow (stringOf lib root "amount")
      pure { tx with originSender := sender, originAmount := amount }
    check := fun tx => headCheck w tx.senderAddr tx }

/-- A property key starts with `@` and contains neither `#` nor `$`. -/
def ValidPropertyKey (key : Bytes) : Prop := key.head? = some 64 ∧ 35 ∉ key ∧ 36 ∉ key

instance (key : Bytes) : Decidable (ValidPropertyKey key) := inferInstanceAs (Decidable (_ ∧ _))

/-- The test of `check_input` is the negation. -/
theorem not_validPropertyKey {key : Bytes} :
    (¬key.head? = some 64 ∨ 35 ∈ key ∨ 36 ∈ key) ↔ ¬ValidPropertyKey key := by
  simp [ValidPropertyKey, imp_iff_not_or]

/-- The draft of `set_property`. -/
def setPropertyDraft (nohash : Bool) : Except Stop Draft := do
  let propertyKey ← orThrow (stringOf lib root "property_key")
  refuseIf (¬ValidPropertyKey propertyKey) .propertyKeyNotValid
  let cAccount ← orThrow (cStringOf root "account")
  let lastHash ← lastDigestOf lib w root nohash cAccount
  let account ← orThrow (stringOf lib root "account")
  let propertyValue ← orThrow (stringOf lib root "property_value")
  let timestamp ← timestampOf root
  pure {
    nohash := nohash
    built := setPropertyTx lib.types account propertyKey propertyValue timestamp lastHash fresh
    finish := .ok
    check := fun _ => .ok () }

end Drafts

end XrpcServer.Handler
