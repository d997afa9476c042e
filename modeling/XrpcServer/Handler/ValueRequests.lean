import XrpcServer.Handler.AnyReplies

/-!
# Requests handed over as values

A handler can also be constructed from a JSON value, and asked for its action, for the digest of its
transaction and for the response itself. Both ways of constructing it lead to the same operations, and
what it tells about its transaction is true of the one it has proposed.
-/

namespace XrpcServer.Handler

open XrpcServer.Text XrpcServer.Chain XrpcServer.Interaction XrpcServer.Json
open XrpcServer.Json (Value)

/-- `xrpc_handler::xrpc_handler(const xJson::Value&)`. The text it keeps in `m_request_http` is not
looked at again. -/
def constructValue (req : Value) : HandlerM Unit := Routine.update fun s => { s with root := req }

/-- `xrpc_handler::get_action`. -/
def getAction (lib : Externals) : HandlerM Bytes := rootString lib "action"

/-- `xrpc_handler::get_tx_digest`. -/
def getTxDigest : HandlerM Uint256 := do
  let s ← Routine.read
  pure s.tx.txDigest

/-- `xrpc_handler::get_response_ex`. -/
def getResponseEx : HandlerM Value := do
  let s ← Routine.read
  pure s.jsRsp

/-- What a handler tells of its request. -/
structure Report where
  action : Bytes
  txDigest : Uint256
  response : Value

/-- Construct a handler from a value, let it handle the request, and ask it for all it tells. -/
def serveValue (lib : Externals) (req : Value) : HandlerM Report := do
  constructValue req
  let action ← getAction lib
  handleRequest lib
  let txDigest ← getTxDigest
  let response ← getResponseEx
  pure ⟨action, txDigest, response⟩

/-- The response says that the request has succeeded. -/
def Report.Succeeded (report : Report) : Prop :=
  ∃ members, report.response = .object members ∧ members.lookup (str "Result") = some (.int 1)

/-- A report is true of what the request has done. -/
structure Report.Truthful (lib : Externals) (root : Value) (events : List HandlerEvent) (report : Report) : Prop where
  action : stringOf lib root "action" = .ok report.action
  /-- The digest is that of the transaction proposed, which the node has found correct. -/
  digest : ∀ tx ∈ dispatches events, tx.txDigest = report.txDigest ∧ ⟨.txHashAndSignVerify tx, true⟩ ∈ events
  success : RequestsTransaction lib root → (report.Succeeded ↔ (dispatches events).length = 1)

section Runs

variable {lib : Externals} {root : Value} {events : List HandlerEvent}

/-- A handler whose root is set. -/
def rooted (lib : Externals) (root : Value) : HandlerState := { HandlerState.initial lib with root := root }

/-- What is reported when `handle_request` has returned. -/
theorem Returned.truthful {s' : HandlerState} (h : Returned lib (rooted lib root) [] s' events) {action : Bytes}
    (haction : stringOf lib root "action" = .ok action) :
    Report.Truthful lib root events ⟨action, s'.tx.txDigest, s'.jsRsp⟩ := by
  cases h with
  | refused code hrequests hbare hrsp =>
    refine ⟨haction, by simp [hbare.1], fun _ => ?_⟩
    simp [Report.Succeeded, hrsp, hbare.1, lookup_failMembers]
  | sent kind hrequests before e ht hbare he hvetted hrsp =>
    have hdispatches : dispatches events = [s'.tx] := by simp [ht, hbare.1, he]
    refine ⟨haction, fun tx htx => ?_, fun _ => ?_⟩
    · obtain rfl : tx = s'.tx := by simpa [hdispatches] using htx
      refine ⟨rfl, ?_⟩
      rw [ht]
      exact List.mem_append_left _ hvetted.verified
    · simp [Report.Succeeded, hrsp, hdispatches, lookup_okMembers]
  | other hrequests hdispatches hcommands =>
    exact ⟨haction, by simp [hdispatches], fun h => absurd h hrequests⟩

/-- The text constructor leaves the same handler when the text is one of the value. -/
theorem serve_of_parse {req : Bytes} (hparse : lib.parse req = (true, root)) :
    serve lib req (HandlerState.initial lib) = (handleRequest lib >>= fun _ => getResponse lib) (rooted lib root) := by
  rw [serve, hparse]
  rfl

/-- Reading a member of the request. -/
theorem rootString_apply (lib : Externals) (key : String) (s : HandlerState) :
    rootString lib key s = match stringOf lib s.root key with
      | .ok a => .ret (.ok a, s)
      | .error e => .ret (.error e, s) := by
  change (Routine.ofExcept (stringOf lib s.root key) : HandlerM Bytes) s = _
  cases stringOf lib s.root key <;> rfl

/-- Asked for its response, a handler performs nothing; a response with members is given as its text. -/
theorem getResponse_yields (lib : Externals) (s : HandlerState) : ∃ response final,
    (getResponse lib s).Yields [] (response, final) ∧
      (s.jsRsp.isEmpty = false → response = .ok (lib.toStyledString s.jsRsp)) := by
  cases hempty : s.jsRsp.isEmpty with
  | true =>
    have hstill := still_getResponse lib s
    cases hprogram : getResponse lib s with
    | ret value => exact ⟨value.1, value.2, .ret value, fun h => nomatch h⟩
    | call op next =>
      rw [hprogram] at hstill
      exact hstill.1.elim
  | false =>
    have hprogram : getResponse lib s = .ret (.ok (lib.toStyledString s.jsRsp), s) := by
      change (ite (s.jsRsp.isEmpty = true) _ _ : HandlerM Bytes) s = _
      rw [if_neg (by simp [hempty])]
      rfl
    exact ⟨_, s, hprogram ▸ .ret _, fun _ => rfl⟩

end Runs

/-- How a request handed over as a value ends, and how one that is parsed to it ends then. -/
def EndsAsText (lib : Externals) (root : Value) (events : List HandlerEvent) (final : HandlerState) :
    Except Exc Report → Prop
  | .ok report => report.Truthful lib root events ∧ ∀ req, lib.parse req = (true, root) →
      ∃ response final', (serve lib req (HandlerState.initial lib)).Yields events (response, final') ∧
        (report.response.isEmpty = false → response = .ok (lib.toStyledString report.response))
  | .error e => dispatches events = [] ∧ ∀ req, lib.parse req = (true, root) →
      (serve lib req (HandlerState.initial lib)).Yields events (.error e, final)

/-- A request handed over as a value goes as one that is parsed to that value, and ends the same way;
what is reported of it is true, and what is answered to it is the text of the response reported. -/
theorem serveValue_agrees (lib : Externals) (root : Value) {events : List HandlerEvent}
    {result : Except Exc Report} {final : HandlerState}
    (h : (serveValue lib root (HandlerState.initial lib)).Yields events (result, final)) :
    EndsAsText lib root events final result := by
  have hhandled : (handleRequest lib).wp transcribing (fun _ s' t => Returned lib (rooted lib root) [] s' t)
      (fun _ _ t => Thrown lib (rooted lib root) t) (rooted lib root) [] := handleRequest_returns rfl
  have hreturns := (Routine.wp_transcribing_iff _ _ _ _ _).mp hhandled
  have hraises {events : List HandlerEvent} {e : Exc} {s' : HandlerState}
      (hraised : (handleRequest lib (rooted lib root)).Yields events (.error e, s')) :
      dispatches events = [] ∧ ∀ req, lib.parse req = (true, root) →
        (serve lib req (HandlerState.initial lib)).Yields events (.error e, s') := by
    refine ⟨(hreturns events _ s' hraised).1, fun req hparse => ?_⟩
    rw [serve_of_parse hparse]
    exact Routine.yields_raised hraised
  change ((getAction lib >>= fun action => handleRequest lib >>= fun _ => do
    let txDigest ← getTxDigest
    let response ← getResponseEx
    pure ⟨action, txDigest, response⟩) (rooted lib root)).Yields events (result, final) at h
  obtain ⟨e, s', heq, hraised⟩ | ⟨before, after, action, s', rfl, hread, hrest⟩ := Routine.yields_cases h
  · cases heq
    -- handle_request reads the action first, too
    exact hraises (Routine.yields_raised hraised)
  have haction : before = [] ∧ s' = rooted lib root ∧ stringOf lib root "action" = .ok action := by
    rw [getAction, rootString_apply] at hread
    cases hstring : stringOf lib (rooted lib root).root "action" with
    | ok action' =>
      rw [hstring] at hread
      cases hread
      exact ⟨rfl, rfl, hstring⟩
    | error e =>
      rw [hstring] at hread
      cases hread
  obtain ⟨rfl, rfl, haction⟩ := haction
  obtain ⟨e, s', heq, hraised⟩ | ⟨before, after, _, s', rfl, hreturned, hreport⟩ := Routine.yields_cases hrest
  · cases heq
    exact hraises hraised
  · cases hreport
    rw [List.append_nil, List.nil_append]
    refine ⟨(hreturns before _ final hreturned).truthful haction, fun req hparse => ?_⟩
    obtain ⟨response, final', hresponse, htext⟩ := getResponse_yields lib final
    have hserved : ((handleRequest lib >>= fun _ => getResponse lib) (rooted lib root)).Yields (before ++ []) _ :=
      Routine.yields_returned hreturned hresponse
    rw [List.append_nil, ← serve_of_parse hparse] at hserved
    exact ⟨response, final', hserved, htext⟩

/-- The signed transfer, handed over as a value, with the digest of what was proposed for it. -/
theorem serveValue_agrees_signedTransfer : ∃ events report final,
    report.Truthful signedExternals signedTransfer events ∧ (dispatches events).length = 1 ∧
      EndsAsText signedExternals signedTransfer events final (.ok report) := by
  obtain ⟨events, htrace, hyields⟩ := Program.yields_exec service
    (serveValue signedExternals signedTransfer (HandlerState.initial signedExternals)) (sampleWorld, [])
  rw [List.nil_append] at htrace
  have hone : (dispatches events).length = 1 := by
    rw [← htrace]
    decide +kernel
  obtain ⟨⟨result, final⟩, hvalue⟩ : ∃ value,
      (serveValue signedExternals signedTransfer (HandlerState.initial signedExternals)).Yields events value :=
    ⟨_, hyields⟩
  have hends := serveValue_agrees signedExternals signedTransfer hvalue
  cases result with
  | ok report => exact ⟨events, report, final, hends.1, hone, hends⟩
  | error e =>
    rw [hends.1] at hone
    cases hone

end XrpcServer.Handler
