import XrpcServer.Handler.Blocks

/-!
# The transaction actions compute their admission

`Concludes` says what a request leaves behind for each admission result, and the trace of an
admitted transaction is given in full: a quiet prefix with its hashes and signatures, the
positive verification, silent checks, one dispatch. Each of the five actions fulfils its
draft in this sense, from every state whose response is still an object.
-/

namespace XrpcServer.Handler

open XrpcServer.Text XrpcServer.Chain XrpcServer.Interaction XrpcServer.Json
open XrpcServer.Json (Value)

/-- How an action ended. -/
abbrev HandlerOutcome := Outcome Op Reply HandlerState Exc World Unit

/-- The members a success leaves in a response. -/
def okMembers (members : List (Bytes × Value)) : List (Bytes × Value) :=
  insertMember (str "Result") (.int 1) members

/-- The trace of an admitted transaction, with the hashes taken and the keys used before it. -/
def SubmitTrace (lib : Externals) (w : World) (taken : List Xtransaction)
    (keys : List (Bytes × Xtransaction)) (final : Xtransaction) (t : List HandlerEvent) : Prop :=
  ∃ before checks,
    t = before ++ ⟨.txHashAndSignVerify final, true⟩ :: (checks ++ sendTrace lib w final) ∧
      Quiet before ∧ Silent checks ∧ hashes before = taken ∧ signings before = keys

/-- What a request leaves behind for an admission result. -/
def Concludes (lib : Externals) (w : World) (rsp : Value) (members : List (Bytes × Value))
    (taken : List Xtransaction) (keys : List (Bytes × Xtransaction)) :
    Except Stop Xtransaction → HandlerOutcome → Prop
  | .ok final, o =>
    o.result = .ok () ∧ o.state.jsRsp = .object (okMembers members) ∧ o.world = w ∧
      SubmitTrace lib w taken keys final o.trace
  | .error (.refused code), o =>
    o.result = .ok () ∧ o.state.jsRsp = .object (failMembers code members) ∧ o.world = w ∧
      Quiet o.trace
  | .error (.thrown e), o =>
    o.result = .error e ∧ o.state.jsRsp = rsp ∧ o.world = w ∧ Quiet o.trace

/-- The hashes a draft takes: one in its builder, one more when the server signs. -/
def Draft.taken (w : World) (draft : Draft) : List Xtransaction :=
  draft.built :: if draft.nohash then [digested w draft.built] else []

/-- The server-held keys a draft uses. -/
def Draft.keys (w : World) (draft : Draft) : List (Bytes × Xtransaction) :=
  if draft.nohash then
    (priKeyOf draft.built.senderAddr).toList.map fun priKey => (priKey, digested w draft.built)
  else []

/-- An outcome fulfils the draft of its action. -/
def Fulfils (lib : Externals) (w : World) (s : HandlerState) (members : List (Bytes × Value))
    (draft : Except Stop Draft) (o : HandlerOutcome) : Prop :=
  match draft with
  | .error stop => Concludes lib w s.jsRsp members [] [] (.error stop) o
  | .ok draft =>
    Concludes lib w s.jsRsp members (draft.taken w) (draft.keys w) (draft.accept lib w s.root) o

/-- Precondition for ending in an outcome with a property, after a trace. -/
def Ends (m : HandlerM Unit) (property : HandlerOutcome → Prop) (s : HandlerState) (w : World)
    (t : List HandlerEvent) : Prop :=
  m.wp service.spec (fun a s' c => property ⟨.ok a, s', c.1, c.2⟩)
    (fun e s' c => property ⟨.error e, s', c.1, c.2⟩) s (w, t)

/-- A property of the outcome of a run is established by symbolic execution. -/
theorem run_iff_ends (m : HandlerM Unit) (property : HandlerOutcome → Prop) (s : HandlerState)
    (w : World) : property (m.run service s w) ↔ Ends m property s w [] :=
  Routine.run_iff_wp service m s w property

/-- The hash and signature check, the action's checks, and the dispatch. -/
theorem verifyAndSubmit_concludes (lib : Externals) {checks : HandlerM (Option XrpcReturn)}
    {s : HandlerState} {w : World} {verdict : Except Stop Unit} (hchecks : Decides checks s w verdict)
    {members : List (Bytes × Value)} (hs : s.jsRsp.fields = some members)
    {t : List HandlerEvent} (ht : Quiet t) :
    Ends (verifyAndSubmit lib checks)
      (Concludes lib w s.jsRsp members (hashes t) (signings t) (do
        refuseIf (w.txHashAndSignVerify s.tx = false) .serverHashSignatureCheckFail
        verdict
        pure s.tx)) s w t := by
  obtain ⟨trace, hsilent, hwp⟩ := hchecks
  have hquiet : Quiet trace := hsilent.quiet
  cases hverify : w.txHashAndSignVerify s.tx with
  | false => simp [Ends, verifyAndSubmit, hverify, hs, Concludes, refuseIf, ht]
  | true =>
    rcases verdict with (e | code) | ⟨⟩
    · simp [Ends, verifyAndSubmit, hverify, hwp, Concludes, refuseIf, ht, hquiet]
    · simp [Ends, verifyAndSubmit, hverify, hwp, hs, Concludes, refuseIf, ht, hquiet]
    · simp only [Ends, verifyAndSubmit, Concludes, refuseIf, okMembers]
      simp [hverify, hwp, wp_doTransaction, hs]
      exact ⟨t, trace, by simp, ht, hsilent, rfl, rfl⟩

/-- A draft is signed by the server only for a built-in sender. -/
def Draft.Builtin (draft : Draft) : Prop :=
  draft.nohash = true → (priKeyOf draft.built.senderAddr).isSome

/-- Events from the builder's hash to the arrival time. -/
def Draft.sealingTrace (w : World) (draft : Draft) : List HandlerEvent :=
  ⟨.sha256 draft.built, w.sha256 draft.built⟩ ::
    sealTrace w draft.nohash (digested w draft.built)

/-- Building and sealing is quiet, and takes the draft's hashes with the draft's keys. -/
theorem Draft.sealingTrace_spec (w : World) {draft : Draft} (hbuiltin : draft.Builtin)
    {t : List HandlerEvent} (ht : Silent t) :
    Quiet (t ++ draft.sealingTrace w) ∧ hashes (t ++ draft.sealingTrace w) = draft.taken w ∧
      signings (t ++ draft.sealingTrace w) = draft.keys w := by
  have hhashes : hashes t = [] := hashes_of_silent ht
  have hsignings : signings t = [] := signings_of_silent ht
  cases hnohash : draft.nohash with
  | false =>
    simp [Draft.sealingTrace, sealTrace, Draft.taken, Draft.keys, hnohash, ht.quiet, hhashes,
      hsignings, Op.hashed, Op.signed]
  | true =>
    obtain ⟨priKey, hkey⟩ := Option.isSome_iff_exists.mp (hbuiltin hnohash)
    simp [Draft.sealingTrace, sealTrace, signTrace, Draft.taken, Draft.keys, hnohash, hkey, digested,
      ht.quiet, hhashes, hsignings, Op.hashed, Op.signed]

/-- Once a draft is sealed and finished, the tail concludes with its admission. -/
theorem Draft.submit_concludes (lib : Externals) {w : World} {draft : Draft} (hbuiltin : draft.Builtin)
    {s : HandlerState} {members : List (Bytes × Value)} (hs : s.jsRsp.fields = some members)
    {t : List HandlerEvent} (ht : Silent t) {root : Value} {signed : Xtransaction}
    (hseal : sealTx lib w root draft.nohash (digested w draft.built) = .ok signed)
    (hfinish : draft.finish signed = .ok s.tx)
    {checks : HandlerM (Option XrpcReturn)} (hchecks : Decides checks s w (draft.check s.tx)) :
    Ends (verifyAndSubmit lib checks)
      (Concludes lib w s.jsRsp members (draft.taken w) (draft.keys w) (draft.accept lib w root))
      s w (t ++ draft.sealingTrace w) := by
  obtain ⟨hquiet, hhashes, hsignings⟩ := draft.sealingTrace_spec w hbuiltin ht
  have haccept : draft.accept lib w root = (do
      refuseIf (w.txHashAndSignVerify s.tx = false) .serverHashSignatureCheckFail
      draft.check s.tx
      pure s.tx) := by
    rw [Draft.accept, hseal, except_bind_ok, hfinish, except_bind_ok]
  rw [haccept, ← hhashes, ← hsignings]
  exact verifyAndSubmit_concludes lib hchecks hs hquiet

/-- A request that throws concludes with the exception of its admission. -/
theorem concludes_thrown {lib : Externals} {w : World} {members : List (Bytes × Value)}
    {taken : List Xtransaction} {keys : List (Bytes × Xtransaction)} {e : Exc}
    {admission : Except Stop Xtransaction} (haccept : admission = .error (.thrown e))
    {o : HandlerOutcome} (hresult : o.result = .error e) (hworld : o.world = w) (hquiet : Quiet o.trace) :
    Concludes lib w o.state.jsRsp members taken keys admission o := by
  rw [haccept]
  exact ⟨hresult, rfl, hworld, hquiet⟩

end XrpcServer.Handler
