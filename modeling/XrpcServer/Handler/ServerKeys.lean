import XrpcServer.Handler.Drafts
import XrpcServer.Handler.Actions

/-!
# The built-in keys

The server holds the private keys of three accounts. A key is used only on transactions of
its own account, the branch for a sender without a key is dead although the decision to sign
is taken from the request and the key from the transaction, and a transaction of anyone else
carries the signature of the request.
-/

namespace XrpcServer.Handler

open XrpcServer.Text XrpcServer.Chain XrpcServer.Interaction XrpcServer.Json
open XrpcServer.Json (Value)

/-- The addresses the server holds keys for, with their keys. -/
def builtinAccounts : List (Bytes × Bytes) :=
  [(testGenesisAccountAddress, testGenesisAccountPriKey), (userAAccountAddress, userAPriKey),
    (userBAccountAddress, userBPriKey)]

/-- The key chosen for an address is the one paired with it. -/
theorem mem_builtinAccounts {address priKey : Bytes} (h : priKeyOf address = some priKey) :
    (address, priKey) ∈ builtinAccounts := by
  unfold priKeyOf at h
  split_ifs at h with hgenesis huserA huserB <;> cases h
  · simp [builtinAccounts, hgenesis]
  · simp [builtinAccounts, huserA]
  · simp [builtinAccounts, huserB]

/-- A use of a server-held key belongs to the sender of the transaction it signs. -/
def Op.KeyPaired (op : Op) : Prop := ∀ priKey tx, op.signed = some (priKey, tx) →
  priKeyOf tx.senderAddr = some priKey

/-- Only paired keys are used, whatever the replies. -/
def KeysPaired {α : Type} (m : HandlerM α) : Prop := m.Uses Op.KeyPaired

section Footprint

variable (lib : Externals)

/-- An operation that signs nothing uses no key. -/
theorem keyPaired_of_signed_none {op : Op} (h : op.signed = none) : op.KeyPaired := by
  intro priKey tx hsigned
  rw [h] at hsigned
  cases hsigned

/-- An inert routine uses no key at all. -/
theorem Inert.keysPaired {α : Type} {m : HandlerM α} (h : Inert m) : KeysPaired m :=
  Routine.Uses.mono (fun _ hop => keyPaired_of_signed_none (Op.of_isInert hop).2.2.1) h

/-- Taking a digest uses no key. -/
theorem keysPaired_digestTx : KeysPaired digestTx := uses_digestTx fun _ => keyPaired_of_signed_none rfl

/-- `transaction_digest_add` looks the key up for the sender of what it signs. -/
theorem keysPaired_transactionDigestAdd : KeysPaired transactionDigestAdd := by
  apply uses_transactionDigestAdd (keyPaired_of_signed_none rfl)
  intro priKey tx hkey priKey' tx' hsigned
  cases hsigned
  exact hkey

/-- Dispatching uses no key. -/
theorem keysPaired_doTransaction : KeysPaired (doTransaction lib) := by
  apply uses_doTransaction lib (keyPaired_of_signed_none rfl) (keyPaired_of_signed_none rfl)
  · exact fun _ => keyPaired_of_signed_none rfl
  · exact fun _ _ => keyPaired_of_signed_none rfl
  · exact fun _ => keyPaired_of_signed_none rfl

/-- Every statement of an action uses the key of the sender, or none. -/
theorem keysPaired_statements : ActionStatements lib fun _ => KeysPaired where
  pure := Routine.Uses.pure
  bind := Routine.Uses.bind
  plain h := h.inert.keysPaired
  inert := Inert.keysPaired
  digestTx := keysPaired_digestTx
  transactionDigestAdd := keysPaired_transactionDigestAdd
  doTransaction := keysPaired_doTransaction lib

/-- Whatever a request says and whatever the replies are, keys stay with their accounts. -/
theorem keysPaired_handleRequest : KeysPaired (handleRequest lib) := (keysPaired_statements lib).handleRequest

end Footprint

/-- How the keys are used in a call of `handle_request`. -/
structure ServerKeys (lib : Externals) (w : World) (root : Value) (o : HandlerOutcome) : Prop where
  /-- A key signs for a built-in address, the one it is paired with. -/
  paired : ∀ priKey tx, (priKey, tx) ∈ signings o.trace → (tx.senderAddr, priKey) ∈ builtinAccounts
  /-- The branch for a sender without a key is not reached. -/
  unreached : ∀ e ∈ o.trace, e.1 ≠ .unsignedSender
  /-- A transaction of another sender has the request's signature and the builder's digest. -/
  others : ∀ final ∈ dispatches o.trace, final.senderAddr ∉ builtinAccounts.map Prod.fst →
    signings o.trace = [] ∧
      (∃ signature, stringOf lib root "signature" = .ok signature ∧
        final.txSignature = lib.base64Decode signature) ∧
      ∃ built, hashes o.trace = [built] ∧ final.txDigest = w.sha256 built

/-- The flag tells the built-in addresses from all others. -/
theorem noHash_eq_false {address : Bytes} (h : address ∉ builtinAccounts.map Prod.fst) :
    noHash address = false := by
  simpa [builtinAccounts, noHash, and_assoc] using h

/-- The built-in keys sign only for their own accounts, for every request and surroundings. -/
theorem handleRequest_serverKeys (lib : Externals) (w : World) (parsed : Bool × Value) :
    ServerKeys lib w parsed.2 ((handleRequest lib).run service (constructed lib parsed) w) := by
  have hpaired := Routine.trace_of_uses service (keysPaired_handleRequest lib)
    (constructed lib parsed) w
  have hended := handleRequest_ended lib w (constructed lib parsed) (fields_constructed lib parsed)
  generalize (handleRequest lib).run service (constructed lib parsed) w = o at hended hpaired
  constructor
  case paired =>
    intro priKey tx hmem
    obtain ⟨e, he, hsigned⟩ := List.mem_filterMap.mp hmem
    exact mem_builtinAccounts (hpaired e he priKey tx hsigned)
  case unreached =>
    cases hended with
    | sent draft final hdraft haccept hresult hrsp hworld htrace =>
      obtain ⟨before, checks, htrace, hbefore, hchecks, -, -⟩ := htrace
      intro e he
      simp only [htrace, List.mem_append, List.mem_cons] at he
      rcases he with he | rfl | he | he
      · exact Op.ne_mark_of_isQuiet (hbefore e he)
      · exact fun h => by cases h
      · exact Op.ne_mark_of_isQuiet (hchecks.quiet e he)
      · exact ((sendTrace_spec lib w final).2.2.2 e he).2
    | stopped hadmitted hend hworld hquiet => exact fun e he => Op.ne_mark_of_isQuiet (hquiet e he)
    | inert action nohash haction hkind hinert => exact fun e he => (Op.of_isInert (hinert e he)).2.2.2
  case others =>
    intro tx htx hforeign
    cases hended with
    | stopped hadmitted hend hworld hquiet => simp [dispatches_of_quiet hquiet] at htx
    | inert action nohash haction hkind hinert =>
      obtain ⟨e, he, hdispatched⟩ := List.mem_filterMap.mp htx
      rw [(Op.of_isInert (hinert e he)).1] at hdispatched
      cases hdispatched
    | sent draft final hdraft haccept hresult hrsp hworld htrace =>
      obtain rfl : tx = final := by simpa [htrace.dispatches_eq] using htx
      obtain ⟨signed, hseal, hfinish, -, -⟩ := Draft.accept_eq_ok.mp haccept
      have hregular := requestDraft_regular hdraft
      obtain ⟨hsender, hdigest, hsignature⟩ := hregular.finish signed tx hfinish
      have hbuilt : tx.senderAddr = draft.built.senderAddr :=
        hsender.trans (congrArg Payload.senderAddr (sealTx_payload hseal))
      -- a foreign sender is never signed for, so the client's branch of the seal was taken
      have hnohash : draft.nohash = false := by
        rw [hregular.nohash, ← hbuilt]
        exact noHash_eq_false hforeign
      rw [hnohash] at hseal
      obtain ⟨signature, hread, rfl⟩ := sealTx_client.mp hseal
      refine ⟨?_, ⟨signature, hread, hsignature⟩, draft.built, ?_, hdigest⟩
      · simp [htrace.signings_eq, Draft.keys, hnohash]
      · simp [htrace.hashes_eq, Draft.taken, hnohash]

end XrpcServer.Handler
