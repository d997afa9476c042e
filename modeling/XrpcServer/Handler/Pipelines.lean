import XrpcServer.Handler.Submission

/-!
# The five pipelines

Each transaction action is matched with its draft statement by statement. A rule per kind of
statement relates one step of the handler to one step of the draft: a read, a refusal, the
last digest, the builder with the seal. Up to the builder nothing but silent events occurs.
-/

namespace XrpcServer.Handler

open XrpcServer.Text XrpcServer.Chain XrpcServer.Interaction XrpcServer.Json
open XrpcServer.Json (Value)

section Steps

variable {lib : Externals} {w : World} {s : HandlerState} {members : List (Bytes × Value)}
  {t : List HandlerEvent}

/-- A read whose value is known. -/
theorem ends_rootString {key : String} {b : Bytes} (hread : stringOf lib s.root key = .ok b)
    {f : Bytes → HandlerM Unit} {property : HandlerOutcome → Prop} :
    Ends (rootString lib key >>= f) property s w t ↔ Ends (f b) property s w t := by
  simp [Ends, hread]

/-- A digest read from a string. -/
theorem ends_uint256At {str : Bytes} {f : Uint256 → HandlerM Unit} {property : HandlerOutcome → Prop} :
    Ends (uint256At str >>= f) property s w t ↔
      Ends (f (digestAt w str)) property s w (t ++ beyondTrace w str) := by
  simp only [Ends, Routine.wp_bind, wp_uint256At]

/-- A throwing read in the handler is a throwing read in the draft. -/
theorem fulfils_rootString {key : String} {f : Bytes → HandlerM Unit} {g : Bytes → Except Stop Draft}
    (ht : Quiet t)
    (hnext : ∀ b, stringOf lib s.root key = .ok b → Ends (f b) (Fulfils lib w s members (g b)) s w t) :
    Ends (rootString lib key >>= f)
      (Fulfils lib w s members (orThrow (stringOf lib s.root key) >>= g)) s w t := by
  cases hread : stringOf lib s.root key with
  | error e => simp [Ends, hread, Fulfils, Concludes, ht]
  | ok b => simpa [Ends, hread] using hnext b hread

/-- The same for a member that must be a string. -/
theorem fulfils_rootCString {key : String} {f : Bytes → HandlerM Unit}
    {g : Bytes → Except Stop Draft} (ht : Quiet t)
    (hnext : ∀ b, cStringOf s.root key = .ok b → Ends (f b) (Fulfils lib w s members (g b)) s w t) :
    Ends (rootCString key >>= f)
      (Fulfils lib w s members (orThrow (cStringOf s.root key) >>= g)) s w t := by
  cases hread : cStringOf s.root key with
  | error e => simp [Ends, hread, Fulfils, Concludes, ht]
  | ok b => simpa [Ends, hread] using hnext b hread

/-- The same for the timestamp. -/
theorem fulfils_rootTimestamp {f : UInt64 → HandlerM Unit} {g : UInt64 → Except Stop Draft}
    (ht : Quiet t)
    (hnext : ∀ timestamp, Ends (f timestamp) (Fulfils lib w s members (g timestamp)) s w t) :
    Ends (rootTimestamp "timestamp" >>= f)
      (Fulfils lib w s members (timestampOf s.root >>= g)) s w t := by
  cases hread : int64Of s.root "timestamp" with
  | error e => simp [Ends, timestampOf, hread, Fulfils, Concludes, ht]
  | ok i => simpa [Ends, timestampOf, hread] using hnext (UInt64.ofInt i)

/-- A recorded refusal ends the request as a refused draft does. -/
theorem fulfils_refused (hs : s.jsRsp.fields = some members) (ht : Quiet t) (code : XrpcReturn) :
    Ends (setResultFail code) (Fulfils lib w s members (.error (.refused code))) s w t := by
  simp [Ends, hs, Fulfils, Concludes, ht]

/-- A condition refuses the request in the handler and in the draft. -/
theorem fulfils_refuseIf (hs : s.jsRsp.fields = some members) (ht : Quiet t) {c : Prop}
    [Decidable c] {code : XrpcReturn} {m : HandlerM Unit} {g : Except Stop Draft}
    (hnext : ¬c → Ends m (Fulfils lib w s members g) s w t) :
    Ends (if c then setResultFail code else m)
      (Fulfils lib w s members (do refuseIf c code; g)) s w t := by
  by_cases hc : c
  · simpa [hc, refuseIf] using fulfils_refused hs ht code
  · simpa [hc, refuseIf] using hnext hc

/-- The input check of `set_property` is the check of its property key. -/
theorem fulfils_checkInput_setProperty (hs : s.jsRsp.fields = some members) (ht : Quiet t)
    (haction : stringOf lib s.root "action" = .ok (str "set_property"))
    {m : HandlerM Unit} {g : Bytes → Except Stop Draft}
    (hnext : ∀ key, stringOf lib s.root "property_key" = .ok key →
      Ends m (Fulfils lib w s members (g key)) s w t) :
    Ends (do if (← checkInput lib) = false then pure () else m)
      (Fulfils lib w s members (do
        let key ← orThrow (stringOf lib s.root "property_key")
        refuseIf (¬ValidPropertyKey key) .propertyKeyNotValid
        g key)) s w t := by
  cases hkey : stringOf lib s.root "property_key" with
  | error e => simp [Ends, checkInput, haction, hkey, Fulfils, Concludes, ht]
  | ok key =>
    by_cases hvalid : ValidPropertyKey key
    · simpa [Ends, checkInput, haction, hkey, not_validPropertyKey, hvalid, refuseIf] using
        hnext key hkey
    · simp [Ends, checkInput, haction, hkey, not_validPropertyKey, hvalid, refuseIf, hs, Fulfils,
        Concludes, ht]

/-- The input check of `account_create` asks whether the account exists. -/
theorem fulfils_checkInput_accountCreate (hs : s.jsRsp.fields = some members)
    (haction : stringOf lib s.root "action" = .ok (str "account_create"))
    {m : HandlerM Unit} {g : Bytes → Except Stop Draft} (ht : Silent t)
    (hnext : ∀ account t', stringOf lib s.root "account" = .ok account → Silent t' →
      Ends m (Fulfils lib w s members (g account)) s w t') :
    Ends (do if (← checkInput lib) = false then pure () else m)
      (Fulfils lib w s members (do
        let account ← orThrow (stringOf lib s.root "account")
        refuseIf (w.store.existAccount account = true) .serverAccountExist
        g account)) s w t := by
  cases haccount : stringOf lib s.root "account" with
  | error e => simp [Ends, checkInput, haction, haccount, Fulfils, Concludes, ht.quiet]
  | ok account =>
    cases hexist : w.store.existAccount account with
    | true =>
      simp [Ends, checkInput, haction, haccount, hexist, refuseIf, hs, Fulfils, Concludes, ht.quiet]
    | false =>
      have htrace : Silent (t ++ [⟨.existAccount account, w.store.existAccount account⟩]) := by
        simp [ht]
      simpa [Ends, checkInput, haction, haccount, hexist, refuseIf] using
        hnext account _ haccount htrace

/-- The last digest is the draft's, or the sender is unknown. -/
theorem fulfils_lastDigestSet (hs : s.jsRsp.fields = some members) (ht : Silent t) {nohash : Bool}
    {account : Bytes} {f : Option Uint256 → HandlerM Unit} {g : Uint256 → Except Stop Draft}
    (hnone : f none = setResultFail .serverAccountNotFound)
    (hnext : ∀ digest t', Silent t' → Ends (f (some digest)) (Fulfils lib w s members (g digest)) s w t') :
    Ends (lastDigestSet lib nohash account >>= f)
      (Fulfils lib w s members (lastDigestOf lib w s.root nohash account >>= g)) s w t := by
  have htrace : Silent (t ++ lastDigestTrace lib w nohash account s.root) :=
    silent_append.mpr ⟨ht, silent_lastDigestTrace lib w nohash account s.root⟩
  simp only [Ends, Routine.wp_bind, wp_lastDigestSet]
  rcases hdigest : lastDigestOf lib w s.root nohash account with (e | code) | digest
  · exact ⟨rfl, rfl, rfl, htrace.quiet⟩
  · obtain rfl : code = .serverAccountNotFound := by
      revert hdigest
      unfold lastDigestOf
      split
      · split <;> simp [eq_comm]
      · cases stringOf lib s.root "last_digest" <;> simp
    simp only [hnone]
    exact fulfils_refused hs htrace.quiet _
  · exact hnext digest _ htrace

/-- The builder and the seal bring the request to the tail of its draft. -/
theorem fulfils_seal (ht : Silent t) {make : HandlerM Unit} {f : Xtransaction → Xtransaction}
    (hmake : make = do modifyTx f; digestTx) {nohash : Bool}
    {finish : Xtransaction → Except Stop Xtransaction} {check : Xtransaction → Except Stop Unit}
    {tail : HandlerM Unit}
    (htail : ∀ draft : Draft, draft = ⟨nohash, f s.tx, finish, check⟩ → ∀ signed,
      sealTx lib w s.root nohash (digested w (f s.tx)) = .ok signed →
      Ends tail (Concludes lib w s.jsRsp members (draft.taken w) (draft.keys w)
        (draft.accept lib w s.root)) { s with tx := signed } w (t ++ draft.sealingTrace w)) :
    Ends (do
      make
      txDigestSignatureSet lib nohash
      tail) (Fulfils lib w s members (.ok ⟨nohash, f s.tx, finish, check⟩)) s w t := by
  simp only [Ends, hmake, Routine.wp_bind, wp_modifyTx, wp_digestTx, wp_txDigestSignatureSet,
    List.append_assoc]
  refine ⟨htail _ rfl, fun e hseal => ?_⟩
  have hquiet : Quiet (t ++ [⟨.sha256 (f s.tx), w.sha256 (f s.tx)⟩]) := by simp [ht.quiet]
  exact concludes_thrown (by rw [Draft.accept, hseal, except_bind_error]) rfl rfl hquiet

/-- A pipeline that writes nothing after the seal fulfils its draft. -/
theorem fulfils_submit (hs : s.jsRsp.fields = some members) (ht : Silent t) {make : HandlerM Unit}
    {f : Xtransaction → Xtransaction} (hmake : make = do modifyTx f; digestTx) {nohash : Bool}
    {check : Xtransaction → Except Stop Unit}
    (hbuiltin : nohash = true → (priKeyOf (f s.tx).senderAddr).isSome)
    {checks : HandlerM (Option XrpcReturn)}
    (hchecks : ∀ tx, Decides checks { s with tx := tx } w (check tx)) :
    Ends (do
      make
      txDigestSignatureSet lib nohash
      verifyAndSubmit lib checks) (Fulfils lib w s members (.ok ⟨nohash, f s.tx, .ok, check⟩)) s w t := by
  apply fulfils_seal ht hmake
  intro draft hdraft signed hseal
  have hdraftBuiltin : draft.Builtin := by subst hdraft; exact hbuiltin
  subst hdraft
  exact Draft.submit_concludes (s := { s with tx := signed }) lib hdraftBuiltin hs ht hseal rfl
    (hchecks signed)

end Steps

section Actions

variable (lib : Externals) {w : World} {s : HandlerState} {members : List (Bytes × Value)}

/-- A sender named in a request is built in exactly when it has a server-held key. -/
theorem noHash_eq (account : Bytes) : noHash account = (priKeyOf account).isSome := by
  unfold noHash priKeyOf
  split
  · simp_all
  · split
    · simp_all
    · split <;> simp_all

/-- `transfer_out`, given the flag computed from its source. -/
theorem transferOut_fulfils (hs : s.jsRsp.fields = some members) {nohash : Bool}
    (hnohash : ∀ source, stringOf lib s.root "source" = .ok source → nohash = noHash source) :
    Ends (transferOut lib nohash)
      (Fulfils lib w s members (transferOutDraft lib w s.root s.tx nohash)) s w [] := by
  apply fulfils_rootString quiet_nil
  intro srcAccount hsource
  apply fulfils_rootString quiet_nil
  intro dstAccount _
  apply fulfils_rootString quiet_nil
  intro assetKey _
  apply fulfils_rootString quiet_nil
  intro ammount _
  apply fulfils_rootTimestamp quiet_nil
  intro timestamp
  apply fulfils_refuseIf hs quiet_nil
  intro _
  apply fulfils_lastDigestSet hs silent_nil rfl
  intro lastHash t ht
  refine fulfils_submit hs ht rfl ?_ fun tx => transferOutChecks_decides _ _ _ _ w
  intro h
  rw [← noHash_eq]
  exact (hnohash srcAccount hsource).symm.trans h

/-- `give`, which always spends from the test genesis account. -/
theorem give_fulfils (hs : s.jsRsp.fields = some members) :
    Ends (give lib) (Fulfils lib w s members (giveDraft lib w s.root s.tx)) s w [] := by
  apply fulfils_rootString quiet_nil
  intro dstAccount _
  apply fulfils_rootTimestamp quiet_nil
  intro timestamp
  apply fulfils_lastDigestSet hs silent_nil rfl
  intro lastHash t ht
  exact fulfils_submit hs ht rfl (fun _ => rfl) fun tx => giveChecks_decides lib dstAccount _ w

/-- `transfer_in`, given the flag computed from its account. -/
theorem transferIn_fulfils (hs : s.jsRsp.fields = some members) {nohash : Bool}
    (hnohash : ∀ account, stringOf lib s.root "account" = .ok account → nohash = noHash account) :
    Ends (transferIn lib nohash)
      (Fulfils lib w s members (transferInDraft lib w s.root s.tx nohash)) s w [] := by
  apply fulfils_rootTimestamp quiet_nil
  intro timestamp
  apply fulfils_rootString quiet_nil
  intro account haccount
  apply fulfils_lastDigestSet hs silent_nil rfl
  intro lastHash t ht
  apply fulfils_rootString ht.quiet
  intro encoded _
  have ht' : Silent (t ++ beyondTrace w (lib.base64Decode encoded)) :=
    silent_append.mpr ⟨ht, silent_beyondTrace w _⟩
  rw [ends_uint256At, ends_rootString haccount]
  apply fulfils_seal ht' rfl
  intro draft hdraft signed hseal
  have hbuiltin : draft.Builtin := by
    subst hdraft
    exact fun h => (noHash_eq account).symm.trans ((hnohash account haccount).symm.trans h)
  have hquiet : Quiet (t ++ beyondTrace w (lib.base64Decode encoded) ++ draft.sealingTrace w) :=
    (draft.sealingTrace_spec w hbuiltin ht').1
  -- the origin of the payment is read and written after the seal
  simp only [Ends, Routine.wp_bind, wp_rootString, wp_modifyTx, Routine.wp_read]
  refine ⟨fun sender hsender => ⟨fun amount hamount => ?_, fun e hamount => ?_⟩, fun e hsender => ?_⟩
  · let final := { signed with originSender := sender, originAmount := amount }
    refine Draft.submit_concludes (s := { s with tx := final }) lib hbuiltin hs ht'
      (by rw [hdraft, hseal]) ?_ ?_
    · simp [hdraft, hsender, hamount, final]
    · rw [hdraft]
      exact lastHashCheck_decides _ _ w
  · refine concludes_thrown ?_ rfl rfl hquiet
    simp [Draft.accept, hdraft, hseal, hsender, hamount]
  · refine concludes_thrown ?_ rfl rfl hquiet
    simp [Draft.accept, hdraft, hseal, hsender]

/-- `set_property`, given the flag computed from its account. -/
theorem setProperty_fulfils (hs : s.jsRsp.fields = some members) {nohash : Bool}
    (haction : stringOf lib s.root "action" = .ok (str "set_property"))
    (hnohash : ∀ account, stringOf lib s.root "account" = .ok account → nohash = noHash account) :
    Ends (setProperty lib nohash)
      (Fulfils lib w s members (setPropertyDraft lib w s.root s.tx nohash)) s w [] := by
  apply fulfils_checkInput_setProperty hs quiet_nil haction
  intro key hkey
  apply fulfils_rootCString quiet_nil
  intro cAccount _
  apply fulfils_lastDigestSet hs silent_nil rfl
  intro lastHash t ht
  simp only [transactionSetProperty, Routine.bind_assoc]
  apply fulfils_rootString ht.quiet
  intro account haccount
  rw [ends_rootString hkey]
  apply fulfils_rootString ht.quiet
  intro propertyValue _
  apply fulfils_rootTimestamp ht.quiet
  intro timestamp
  rw [← Routine.bind_assoc]
  refine fulfils_submit hs ht rfl ?_ fun tx => decides_none _ w
  exact fun h => (noHash_eq account).symm.trans ((hnohash account haccount).symm.trans h)

/-- `account_create`, given the flag computed from its account. -/
theorem accountCreate_fulfils (hs : s.jsRsp.fields = some members) {nohash : Bool}
    (haction : stringOf lib s.root "action" = .ok (str "account_create"))
    (hnohash : ∀ account, stringOf lib s.root "account" = .ok account → nohash = noHash account) :
    Ends (accountCreate lib nohash)
      (Fulfils lib w s members (accountCreateDraft lib w s.root s.tx nohash)) s w [] := by
  apply fulfils_checkInput_accountCreate hs haction silent_nil
  intro account t haccount ht
  rw [ends_rootString haccount]
  apply fulfils_rootString ht.quiet
  intro amount _
  apply fulfils_rootTimestamp ht.quiet
  intro timestamp
  refine fulfils_submit hs ht rfl ?_ fun tx => decides_none _ w
  exact fun h => (noHash_eq account).symm.trans ((hnohash account haccount).symm.trans h)

end Actions

end XrpcServer.Handler
