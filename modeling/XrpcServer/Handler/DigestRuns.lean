import XrpcServer.Handler.Drafts
import XrpcServer.Handler.Actions

/-!
# Runs that decode digests

Three actions decode base64 strings of the request into digests, the last one of them already
for the builder. A run is followed to see which strings it may read past their end and what the
digests it takes are about; everything else it does is calm.
-/

namespace XrpcServer.Handler

open XrpcServer.Text XrpcServer.Chain XrpcServer.Interaction XrpcServer.Json
open XrpcServer.Json (Value)

section Reaching

variable (lib : Externals) (w : World) (root : Value)

/-- A `transfer_out` of a client gets as far as its last digest. -/
structure ReachesTransferOut (source encoded : Bytes) : Prop where
  hrequest : ∃ account, ReadsRequest lib root .transferOut account
  hsource : stringOf lib root "source" = .ok source
  hdestination : ∃ destination, stringOf lib root "destination" = .ok destination ∧ source ≠ destination
  hassetKey : ∃ assetKey, stringOf lib root "property_key" = .ok assetKey
  hammount : ∃ ammount, stringOf lib root "amount" = .ok ammount
  htimestamp : ∃ timestamp, int64Of root "timestamp" = .ok timestamp
  hclient : noHash source = false
  hencoded : stringOf lib root "last_digest" = .ok encoded

/-- A `transfer_in` of a client gets as far as its last digest. -/
structure ReachesTransferIn (account encoded : Bytes) : Prop where
  hrequest : ReadsRequest lib root .transferIn account
  htimestamp : ∃ timestamp, int64Of root "timestamp" = .ok timestamp
  hclient : noHash account = false
  hencoded : stringOf lib root "last_digest" = .ok encoded

/-- A `transfer_in`, whoever signs it, gets as far as the digest of the transfer it receives. -/
structure ReachesReceived (account encoded : Bytes) : Prop where
  hrequest : ReadsRequest lib root .transferIn account
  htimestamp : ∃ timestamp, int64Of root "timestamp" = .ok timestamp
  hlastHash : ∃ lastHash, lastDigestOf lib w root (noHash account) account = .ok lastHash
  hencoded : stringOf lib root "tx_digest" = .ok encoded

/-- A `set_property` of a client gets as far as its last digest. -/
structure ReachesSetProperty (account encoded : Bytes) : Prop where
  hrequest : ReadsRequest lib root .setProperty account
  hpropertyKey : ∃ propertyKey, stringOf lib root "property_key" = .ok propertyKey ∧
    ValidPropertyKey propertyKey
  hcAccount : ∃ cAccount, cStringOf root "account" = .ok cAccount
  hclient : noHash account = false
  hencoded : stringOf lib root "last_digest" = .ok encoded

end Reaching

section Calm

variable (lib : Externals)

/-- Calm code after calm code is calm. -/
theorem Calm.bind {α β : Type} {m : HandlerM α} {f : α → HandlerM β} (hm : Calm m)
    (hf : ∀ a, Calm (f a)) : Calm (m >>= f) := Routine.Uses.bind hm hf

/-- A calm operation is calm code. -/
theorem calm_perform (op : Op) (h : op.isCalm) : Calm (Routine.perform op : HandlerM _) :=
  Routine.Uses.perform h

/-- The statements of the common tail take no digest. -/
theorem calm_submitStatements : SubmitStatements lib fun _ => Calm where
  pure := Routine.Uses.pure
  bind := Routine.Uses.bind
  plain := Plain.calm
  doTransaction := uses_doTransaction lib rfl rfl (fun _ => rfl) (fun _ _ => rfl) fun _ => rfl

/-- The common tail takes no digest if its checks take none. -/
theorem calm_verifyAndSubmit {checks : HandlerM (Option XrpcReturn)} (hchecks : Calm checks) :
    Calm (verifyAndSubmit lib checks) := (calm_submitStatements lib).verifyAndSubmit hchecks

/-- The head of a server-signed account comes from the store. -/
theorem calm_lastDigestSet (account : Bytes) : Calm (lastDigestSet lib true account) := by
  apply (calm_perform _ rfl).bind
  intro reply
  cases reply <;> exact Routine.Uses.pure _

/-- `transfer_in` after its seal. -/
theorem calm_receiptTail : Calm (do
    let sender ← rootString lib "sender"
    modifyTx fun tx => { tx with originSender := sender }
    let amount ← rootString lib "amount"
    modifyTx fun tx => { tx with originAmount := amount }
    let s ← Routine.read
    verifyAndSubmit lib (lastHashCheck s.tx.senderAddr)) := by
  apply (plain_rootString _ _).calm.bind
  intro sender
  apply (plain_modifyTx _).calm.bind
  intro _
  apply (plain_rootString _ _).calm.bind
  intro amount
  apply (plain_modifyTx _).calm.bind
  intro _
  apply Calm.bind Routine.Uses.read
  intro s
  exact calm_verifyAndSubmit lib (plain_lastHashCheck _).calm

end Calm

section Steps

/-- Only allowed operations occur. -/
def Only (allowed : Op → Prop) (t : List HandlerEvent) : Prop := ∀ e ∈ t, allowed e.1

/-- Everything in an empty trace is allowed. -/
theorem only_nil {allowed : Op → Prop} : Only allowed [] := by simp [Only]

/-- What is allowed in two traces is allowed in a row. -/
theorem Only.append {allowed : Op → Prop} {t t' : List HandlerEvent} (h : Only allowed t)
    (h' : Only allowed t') : Only allowed (t ++ t') := by
  intro e he
  rcases List.mem_append.mp he with he | he
  · exact h e he
  · exact h' e he

/-- Calm, or the digest of a transaction with the payload of this one. -/
def Op.Settles (built : Xtransaction) (op : Op) : Prop :=
  op.isCalm ∨ ∃ tx, op.hashed = some tx ∧ tx.payload = built.payload

/-- A digest that is taken is of the payload. -/
theorem Op.Settles.payload_eq {built tx : Xtransaction} {op : Op} (h : op.Settles built)
    (htx : op.hashed = some tx) : tx.payload = built.payload := by
  rcases h with hcalm | ⟨tx', htx', hpayload⟩
  · cases op <;> cases htx <;> cases hcalm
  · rw [htx] at htx'
    cases htx'
    exact hpayload

/-- The seal takes a digest of the transaction it signs, if it signs at all. -/
theorem only_sealTrace (w : World) (nohash : Bool) (built : Xtransaction) :
    Only (Op.Settles built) (sealTrace w nohash (digested w built)) := by
  have hnow : Op.Settles built .timestampNowMs := .inl rfl
  have hunsigned : Op.Settles built .unsignedSender := .inl rfl
  have hsigned (priKey : Bytes) : Op.Settles built (.txHashAndSignCalc priKey (digested w built)) :=
    .inr ⟨_, rfl, rfl⟩
  cases nohash with
  | false => simpa [sealTrace, Only] using hnow
  | true =>
    cases hkey : priKeyOf (digested w built).senderAddr <;>
      simp [sealTrace, signTrace, hkey, Only, hnow, hunsigned, hsigned]

variable {lib : Externals} {w : World} {s : HandlerState} {t : List HandlerEvent}

/-- The builder takes a digest, the seal may take another one, and the tail is calm. -/
theorem ends_build {make tail : HandlerM Unit} {f : Xtransaction → Xtransaction}
    (hmake : make = do modifyTx f; digestTx) {nohash : Bool} (htail : Calm tail)
    {property : HandlerOutcome → Prop}
    (hend : ∀ (o : HandlerOutcome) events, o.trace = t ++ events → Only (Op.Settles (f s.tx)) events →
      hashes events ≠ [] → property o) :
    Ends (do
      make
      txDigestSignatureSet lib nohash
      tail) property s w t := by
  have hdigest : Op.Settles (f s.tx) (.sha256 (f s.tx)) := .inr ⟨_, rfl, rfl⟩
  have hbuilt : Only (Op.Settles (f s.tx)) [⟨.sha256 (f s.tx), w.sha256 (f s.tx)⟩] := by
    simpa [Only] using hdigest
  have hfinish : ∀ (o : HandlerOutcome) events, (∀ e ∈ events, e.1.isCalm) →
      o.trace = t ++ [⟨.sha256 (f s.tx), w.sha256 (f s.tx)⟩] ++
        sealTrace w nohash (digested w (f s.tx)) ++ events → property o := by
    intro o events hcalm htrace
    have hevents : Only (Op.Settles (f s.tx)) events := fun e he => .inl (hcalm e he)
    rw [List.append_assoc, List.append_assoc] at htrace
    exact hend o _ htrace (hbuilt.append ((only_sealTrace w nohash (f s.tx)).append hevents)) (by simp [Op.hashed])
  simp only [Ends, hmake, Routine.wp_bind, wp_modifyTx, wp_digestTx, wp_txDigestSignatureSet]
  constructor
  · intro signed _
    exact Routine.wp_of_uses service htail (fun _ _ _ events hcalm => hfinish _ events hcalm rfl)
      fun _ _ _ events hcalm => hfinish _ events hcalm rfl
  · intro e _
    exact hend _ _ rfl hbuilt (by simp [Op.hashed])

variable {allowed : Op → Prop}

/-- A string that may be read past its end when it is short. -/
theorem only_beyondTrace {decoded : Bytes}
    (hallowed : decoded.length < 32 → ∀ count, allowed (.readBeyond decoded count)) :
    Only allowed (beyondTrace w decoded) := by
  rcases lt_or_ge decoded.length 32 with hshort | hlong
  · simpa [beyondTrace, hshort, Only] using hallowed hshort _
  · simpa [beyondTrace, hlong] using only_nil

/-- A read that throws ends the request. -/
theorem ends_only_rootString {key : String} {f : Bytes → HandlerM Unit} (ht : Only allowed t)
    (hnext : ∀ b, stringOf lib s.root key = .ok b → Ends (f b) (fun o => Only allowed o.trace) s w t) :
    Ends (rootString lib key >>= f) (fun o => Only allowed o.trace) s w t := by
  rw [Ends, Routine.wp_bind, wp_rootString]
  exact ⟨hnext, fun _ _ => ht⟩

/-- The same for the timestamp. -/
theorem ends_only_rootTimestamp {f : UInt64 → HandlerM Unit} (ht : Only allowed t)
    (hnext : ∀ i, int64Of s.root "timestamp" = .ok i →
      Ends (f (UInt64.ofInt i)) (fun o => Only allowed o.trace) s w t) :
    Ends (rootTimestamp "timestamp" >>= f) (fun o => Only allowed o.trace) s w t := by
  rw [Ends, Routine.wp_bind, wp_rootTimestamp]
  exact ⟨hnext, fun _ _ => ht⟩

/-- The input check of `set_property` leaves a valid property key. -/
theorem ends_only_checkInput (haction : stringOf lib s.root "action" = .ok (str "set_property"))
    {m : HandlerM Unit} (ht : Only allowed t)
    (hnext : ∀ key, stringOf lib s.root "property_key" = .ok key → ValidPropertyKey key →
      Ends m (fun o => Only allowed o.trace) s w t) :
    Ends (do if (← checkInput lib) = false then pure () else m) (fun o => Only allowed o.trace) s w t := by
  cases hkey : stringOf lib s.root "property_key" with
  | error e => simpa [Ends, checkInput, haction, hkey] using ht
  | ok key =>
    by_cases hvalid : ValidPropertyKey key
    · simpa [Ends, checkInput, haction, hkey, not_validPropertyKey, hvalid] using hnext key hkey hvalid
    · simp [Ends, checkInput, haction, hkey, not_validPropertyKey, hvalid, ht]

variable (hcalm : ∀ op : Op, op.isCalm → allowed op)

include hcalm

/-- Calm operations are allowed. -/
theorem only_of_calm {events : List HandlerEvent} (h : ∀ e ∈ events, e.1.isCalm) : Only allowed events :=
  fun e he => hcalm e.1 (h e he)

/-- A calm routine stays within what is allowed. -/
theorem ends_only_of_calm {m : HandlerM Unit} (hm : Calm m) (ht : Only allowed t) :
    Ends m (fun o => Only allowed o.trace) s w t :=
  Routine.wp_of_uses service hm (fun _ _ _ _ h => ht.append (only_of_calm hcalm h))
    fun _ _ _ _ h => ht.append (only_of_calm hcalm h)

/-- Calm steps before a routine, whatever they leave. -/
theorem ends_only_bind {α : Type} {m : HandlerM α} {f : α → HandlerM Unit} (hm : Calm m)
    (ht : Only allowed t)
    (hnext : ∀ a s' w' t', Only allowed t' → Ends (f a) (fun o => Only allowed o.trace) s' w' t') :
    Ends (m >>= f) (fun o => Only allowed o.trace) s w t := by
  rw [Ends, Routine.wp_bind]
  refine Routine.wp_of_uses service hm (fun a s' w' events h => ?_) fun _ _ _ events h => ?_
  · exact hnext a s' w' _ (ht.append (only_of_calm hcalm h))
  · exact ht.append (only_of_calm hcalm h)

/-- A builder and what follows, when the digests taken are allowed. -/
theorem ends_only_build {make tail : HandlerM Unit} {f : Xtransaction → Xtransaction}
    (hmake : make = do modifyTx f; digestTx) {nohash : Bool} (htail : Calm tail) (ht : Only allowed t)
    (hhashed : ∀ op tx, op.hashed = some tx → tx.payload = (f s.tx).payload → allowed op) :
    Ends (do
      make
      txDigestSignatureSet lib nohash
      tail) (fun o => Only allowed o.trace) s w t := by
  apply ends_build hmake htail
  intro o events htrace hsettles _
  rw [htrace]
  apply ht.append
  intro e he
  rcases hsettles e he with h | ⟨tx, htx, hpayload⟩
  · exact hcalm e.1 h
  · exact hhashed e.1 tx htx hpayload

/-- The last digest of a client may be read past its end. -/
theorem ends_only_lastDigestSet {nohash : Bool} {account : Bytes} {f : Option Uint256 → HandlerM Unit}
    (ht : Only allowed t)
    (hallowed : nohash = false → ∀ encoded, stringOf lib s.root "last_digest" = .ok encoded →
      (lib.base64Decode encoded).length < 32 → ∀ count, allowed (.readBeyond (lib.base64Decode encoded) count))
    (hnone : f none = setResultFail .serverAccountNotFound)
    (hnext : ∀ lastHash t', lastDigestOf lib w s.root nohash account = .ok lastHash →
      Only allowed t' → Ends (f (some lastHash)) (fun o => Only allowed o.trace) s w t') :
    Ends (lastDigestSet lib nohash account >>= f) (fun o => Only allowed o.trace) s w t := by
  have htrace : Only allowed (t ++ lastDigestTrace lib w nohash account s.root) := by
    apply ht.append
    cases nohash with
    | true => exact only_of_calm hcalm (by simp [lastDigestTrace, Op.isCalm])
    | false =>
      cases hread : stringOf lib s.root "last_digest" with
      | error e => simpa [lastDigestTrace, hread] using only_nil
      | ok encoded => simpa [lastDigestTrace, hread] using only_beyondTrace (hallowed rfl encoded hread)
  simp only [Ends, Routine.wp_bind, wp_lastDigestSet]
  rcases hdigest : lastDigestOf lib w s.root nohash account with (e | code) | lastHash
  · exact htrace
  · simp only [hnone]
    exact ends_only_of_calm hcalm (plain_setResultFail _).calm htrace
  · exact hnext lastHash _ hdigest htrace

end Steps

section Actions

variable {lib : Externals} {w : World} {s : HandlerState} {allowed : Op → Prop}
  (hcalm : ∀ op : Op, op.isCalm → allowed op)

include hcalm

/-- `account_create` hashes, but reads nothing behind a string. -/
theorem accountCreate_only (nohash : Bool) (hhashed : ∀ op tx, op.hashed = some tx → allowed op) :
    Ends (accountCreate lib nohash) (fun o => Only allowed o.trace) s w [] := by
  apply ends_only_bind hcalm (plain_checkInput lib).calm only_nil
  intro valid s' w' t ht
  split
  · exact ht
  apply ends_only_bind hcalm (plain_rootString _ _).calm ht
  intro account s' w' t ht
  apply ends_only_bind hcalm (plain_rootString _ _).calm ht
  intro amount s' w' t ht
  apply ends_only_bind hcalm (plain_rootTimestamp _).calm ht
  intro timestamp s' w' t ht
  apply ends_only_build hcalm rfl (calm_verifyAndSubmit lib (Routine.Uses.pure _)) ht
  exact fun op tx htx _ => hhashed op tx htx

/-- So does `give`, whose last digest the server looks up. -/
theorem give_only (hhashed : ∀ op tx, op.hashed = some tx → allowed op) :
    Ends (give lib) (fun o => Only allowed o.trace) s w [] := by
  apply ends_only_bind hcalm (plain_rootString _ _).calm only_nil
  intro dstAccount s' w' t ht
  apply ends_only_bind hcalm (plain_rootTimestamp _).calm ht
  intro timestamp s' w' t ht
  apply ends_only_bind hcalm (calm_lastDigestSet lib _) ht
  intro lastHash s' w' t ht
  cases lastHash with
  | none => exact ends_only_of_calm hcalm (plain_setResultFail _).calm ht
  | some lastHash =>
    apply ends_only_build hcalm rfl (calm_verifyAndSubmit lib (plain_giveChecks lib _).calm) ht
    exact fun op tx htx _ => hhashed op tx htx

variable {account : Bytes}

/-- `transfer_out` decodes its last digest, and what it hashes has the last digest it was given. -/
theorem transferOut_only (hrequest : ReadsRequest lib s.root .transferOut account)
    (hlast : ∀ source encoded, ReachesTransferOut lib s.root source encoded →
      (lib.base64Decode encoded).length < 32 → ∀ count, allowed (.readBeyond (lib.base64Decode encoded) count))
    (hhashed : ∀ source lastHash op tx, stringOf lib s.root "source" = .ok source →
      lastDigestOf lib w s.root (noHash source) source = .ok lastHash → op.hashed = some tx →
      tx.lastMsgDigest = lastHash → allowed op) :
    Ends (runAction lib (noHash account) .transferOut) (fun o => Only allowed o.trace) s w [] := by
  apply ends_only_rootString only_nil
  intro source hsource
  rw [transferOut, ends_rootString hsource]
  apply ends_only_rootString only_nil
  intro destination hdestination
  apply ends_only_rootString only_nil
  intro assetKey hassetKey
  apply ends_only_rootString only_nil
  intro ammount hammount
  apply ends_only_rootTimestamp only_nil
  intro timestamp htimestamp
  by_cases hsame : source = destination
  · rw [if_pos hsame]
    exact ends_only_of_calm hcalm (plain_setResultFail _).calm only_nil
  rw [if_neg hsame]
  apply ends_only_lastDigestSet hcalm only_nil _ rfl
  · intro lastHash t hlastHash ht
    apply ends_only_build hcalm rfl (calm_verifyAndSubmit lib (plain_transferOutChecks _ _ _).calm) ht
    exact fun op tx htx hpayload =>
      hhashed source lastHash op tx hsource hlastHash htx (congrArg Payload.lastMsgDigest hpayload)
  · intro hclient encoded hencoded hshort
    exact hlast source encoded ⟨⟨account, hrequest⟩, hsource, ⟨destination, hdestination, hsame⟩,
      ⟨assetKey, hassetKey⟩, ⟨ammount, hammount⟩, ⟨timestamp, htimestamp⟩, hclient, hencoded⟩ hshort

/-- `transfer_in` decodes its last digest and the digest of its transfer, and what it hashes has both. -/
theorem transferIn_only (hrequest : ReadsRequest lib s.root .transferIn account)
    (hlast : ∀ encoded, ReachesTransferIn lib s.root account encoded →
      (lib.base64Decode encoded).length < 32 → ∀ count, allowed (.readBeyond (lib.base64Decode encoded) count))
    (hreceived : ∀ encoded, ReachesReceived lib w s.root account encoded →
      (lib.base64Decode encoded).length < 32 → ∀ count, allowed (.readBeyond (lib.base64Decode encoded) count))
    (hhashed : ∀ lastHash encoded op tx, lastDigestOf lib w s.root (noHash account) account = .ok lastHash →
      stringOf lib s.root "tx_digest" = .ok encoded → op.hashed = some tx → tx.lastMsgDigest = lastHash →
      tx.transactionParams = (digestAt w (lib.base64Decode encoded)).1 → allowed op) :
    Ends (transferIn lib (noHash account)) (fun o => Only allowed o.trace) s w [] := by
  apply ends_only_rootTimestamp only_nil
  intro timestamp htimestamp
  rw [ends_rootString hrequest.haccount]
  apply ends_only_lastDigestSet hcalm only_nil _ rfl
  · intro lastHash t hlastHash ht
    apply ends_only_rootString ht
    intro encoded hencoded
    rw [ends_uint256At, ends_rootString hrequest.haccount]
    have hbeyond : Only allowed (beyondTrace w (lib.base64Decode encoded)) := only_beyondTrace
      (hreceived encoded ⟨hrequest, ⟨timestamp, htimestamp⟩, ⟨lastHash, hlastHash⟩, hencoded⟩)
    apply ends_only_build hcalm rfl (calm_receiptTail lib) (ht.append hbeyond)
    exact fun op tx htx hpayload => hhashed lastHash encoded op tx hlastHash hencoded htx
      (congrArg Payload.lastMsgDigest hpayload) (congrArg Payload.transactionParams hpayload)
  · intro hclient encoded hencoded hshort
    exact hlast encoded ⟨hrequest, ⟨timestamp, htimestamp⟩, hclient, hencoded⟩ hshort

/-- `set_property` decodes its last digest. -/
theorem setProperty_only (hrequest : ReadsRequest lib s.root .setProperty account)
    (hlast : ∀ encoded, ReachesSetProperty lib s.root account encoded →
      (lib.base64Decode encoded).length < 32 → ∀ count, allowed (.readBeyond (lib.base64Decode encoded) count))
    (hhashed : ∀ op tx, op.hashed = some tx → allowed op) :
    Ends (setProperty lib (noHash account)) (fun o => Only allowed o.trace) s w [] := by
  apply ends_only_checkInput hrequest.haction only_nil
  intro propertyKey hpropertyKey hvalid
  rw [Ends, Routine.wp_bind, wp_rootCString]
  refine ⟨fun cAccount hcAccount => ?_, fun _ _ => only_nil⟩
  apply ends_only_lastDigestSet hcalm only_nil _ rfl
  · intro lastHash t _ ht
    simp only [transactionSetProperty, Routine.bind_assoc]
    apply ends_only_bind hcalm (plain_rootString _ _).calm ht
    intro account s' w' t ht
    apply ends_only_bind hcalm (plain_rootString _ _).calm ht
    intro propertyKey s' w' t ht
    apply ends_only_bind hcalm (plain_rootString _ _).calm ht
    intro propertyValue s' w' t ht
    apply ends_only_bind hcalm (plain_rootTimestamp _).calm ht
    intro timestamp s' w' t ht
    rw [← Routine.bind_assoc]
    apply ends_only_build hcalm rfl (calm_verifyAndSubmit lib (Routine.Uses.pure _)) ht
    exact fun op tx htx _ => hhashed op tx htx
  · intro hclient encoded hencoded hshort
    exact hlast encoded ⟨hrequest, ⟨propertyKey, hpropertyKey, hvalid⟩, ⟨cAccount, hcAccount⟩, hclient,
      hencoded⟩ hshort

end Actions

end XrpcServer.Handler
