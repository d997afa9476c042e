import XrpcServer.Handler.Pipelines
import XrpcServer.Handler.Footprint

/-!
# From a request to its draft

`handle_request` converts two members of the request before it looks at the action. After
that it is either one of the five pipelines, which fulfils its draft, or an inert action.
The theorems about requests start from this case distinction and from the trace that a
concluded admission leaves.
-/

namespace XrpcServer.Handler

open XrpcServer.Text XrpcServer.Chain XrpcServer.Interaction XrpcServer.Json
open XrpcServer.Json (Value)

/-- The action a request names, and whether its `account` member is a built-in address. -/
def requestAction (lib : Externals) (root : Value) : Except Exc (Action × Bool) := do
  let action ← stringOf lib root "action"
  let account ← stringOf lib root "account"
  pure (actionOf action, noHash account)

/-- The draft of a transaction action; the other actions have none. -/
def actionDraft (lib : Externals) (w : World) (root : Value) (fresh : Xtransaction) (nohash : Bool) :
    Action → Option (Except Stop Draft)
  | .accountCreate => some (accountCreateDraft lib w root fresh nohash)
  | .transferOut => some do
    let source ← orThrow (stringOf lib root "source")
    transferOutDraft lib w root fresh (noHash source)
  | .transferIn => some (transferInDraft lib w root fresh nohash)
  | .setProperty => some (setPropertyDraft lib w root fresh nohash)
  | .give => some (giveDraft lib w root fresh)
  | _ => none

/-- Exactly the transaction actions have drafts. -/
theorem actionDraft_eq_none {lib : Externals} {w : World} {root : Value} {fresh : Xtransaction}
    {nohash : Bool} {action : Action} :
    actionDraft lib w root fresh nohash action = none ↔ action.isTransaction = false := by
  cases action <;> simp [actionDraft, Action.isTransaction]

/-- The name under which an action is requested. -/
def Action.text : Action → String
  | .accountBalance => "account_balance"
  | .accountCreate => "account_create"
  | .accountInfo => "account_info"
  | .transferOut => "transfer_out"
  | .transferIn => "transfer_in"
  | .accountHistory => "account_history"
  | .accountPending => "account_pending"
  | .lastDigest => "last_digest"
  | .tpsQuery => "tps_query"
  | .setProperty => "set_property"
  | .queryProperty => "query_property"
  | .queryAllProperty => "query_all_property"
  | .give => "give"
  | .queryOnlineTx => "query_online_tx"
  | .accountDelete => "account_delete"
  | .accountSnapDelete => "account_snap_delete"
  | .accountSync => "account_sync"
  | .triggerElect => "trigger_elect"
  | .invalid => ""

/-- Each name selects its action. -/
theorem actionOf_text (kind : Action) : actionOf (str kind.text) = kind := by
  cases kind <;> simp [actionOf, Action.text]

/-- Different actions have different names. -/
theorem Action.text_injective : Function.Injective Action.text := by
  intro kind kind' h
  rw [← actionOf_text kind, h, actionOf_text]

/-- An action other than the invalid one is selected by its name only. -/
theorem eq_text_of_actionOf {action : Bytes} {kind : Action} (h : actionOf action = kind)
    (hkind : kind ≠ .invalid) : action = str kind.text := by
  cases kind <;>
    simp only [actionOf, ite_eq_iff, reduceCtorEq, and_false, and_true, false_or, or_false,
      ne_eq, not_true_eq_false] at h hkind ⊢
  all_goals
    repeat replace h := h.2
    exact h

section Requests

/-- A read whose value is known leaves the rest of the routine. -/
theorem rootString_run {lib : Externals} {s : HandlerState} {key : String} {b : Bytes}
    (hread : stringOf lib s.root key = .ok b) {α : Type} (f : Bytes → HandlerM α) :
    (rootString lib key >>= f) s = f b s := by
  change ((Routine.ofExcept (stringOf lib s.root key) : HandlerM Bytes) s).bind _ = _
  rw [hread]
  rfl

variable (lib : Externals) (w : World) (s : HandlerState) {members : List (Bytes × Value)}

/-- Once its two members are converted, a request is its action. -/
theorem handleRequest_run {action account : Bytes} (haction : stringOf lib s.root "action" = .ok action)
    (haccount : stringOf lib s.root "account" = .ok account) :
    (handleRequest lib).run service s w =
      (runAction lib (noHash account) (actionOf action)).run service s w := by
  simp only [Routine.run, handleRequest, rootString_run haction, rootString_run haccount]

/-- What an outcome has to satisfy, given what the request asks for. -/
def Handles (members : List (Bytes × Value)) (o : HandlerOutcome) : Prop :=
  match requestAction lib s.root with
  | .error e => Concludes lib w s.jsRsp members [] [] (.error (.thrown e)) o
  | .ok (action, nohash) =>
    match actionDraft lib w s.root s.tx nohash action with
    | some draft => Fulfils lib w s members draft o
    | none => ∀ e ∈ o.trace, e.1.isInert

/-- A transaction action fulfils its draft. -/
theorem runAction_fulfils (hs : s.jsRsp.fields = some members) {action account : Bytes}
    (haction : stringOf lib s.root "action" = .ok action)
    (haccount : stringOf lib s.root "account" = .ok account) {draft : Except Stop Draft}
    (hdraft : actionDraft lib w s.root s.tx (noHash account) (actionOf action) = some draft) :
    Ends (runAction lib (noHash account) (actionOf action)) (Fulfils lib w s members draft) s w [] := by
  have hnohash : ∀ b, stringOf lib s.root "account" = .ok b → noHash account = noHash b := by
    intro b hb
    rw [haccount] at hb
    cases hb
    rfl
  cases hkind : actionOf action <;> rw [hkind] at hdraft <;> cases hdraft
  case accountCreate =>
    exact accountCreate_fulfils lib hs (haction.trans (by rw [eq_text_of_actionOf hkind (by decide)]; rfl)) hnohash
  case transferOut =>
    refine fulfils_rootString quiet_nil fun source hsource => transferOut_fulfils lib hs fun b hb => ?_
    rw [hsource] at hb
    cases hb
    rfl
  case transferIn => exact transferIn_fulfils lib hs hnohash
  case setProperty =>
    exact setProperty_fulfils lib hs (haction.trans (by rw [eq_text_of_actionOf hkind (by decide)]; rfl)) hnohash
  case give => exact give_fulfils lib hs

/-- Every request is handled, from every state whose response is still an object. -/
theorem handleRequest_handles (hs : s.jsRsp.fields = some members) :
    Handles lib w s members ((handleRequest lib).run service s w) := by
  rcases haction : stringOf lib s.root "action" with e | action
  · apply (run_iff_ends _ _ s w).mpr
    simp [Ends, Handles, handleRequest, requestAction, haction, Concludes]
  rcases haccount : stringOf lib s.root "account" with e | account
  · apply (run_iff_ends _ _ s w).mpr
    simp [Ends, Handles, handleRequest, requestAction, haction, haccount, Concludes]
  have hrequest : requestAction lib s.root = .ok (actionOf action, noHash account) := by
    simp only [requestAction, haction, haccount, except_bind_ok, except_pure]
  have hrun := handleRequest_run lib w s haction haccount
  cases hdraft : actionDraft lib w s.root s.tx (noHash account) (actionOf action) with
  | some draft =>
    simp only [hrun, Handles, hrequest, hdraft]
    exact (run_iff_ends _ _ s w).mpr (runAction_fulfils lib w s hs haction haccount hdraft)
  | none =>
    simp only [hrun, Handles, hrequest, hdraft]
    exact Routine.trace_of_uses service
      (plain_runAction lib (noHash account) (actionDraft_eq_none.mp hdraft)).inert s w

end Requests

section Summary

/-- A message carrying one proposal is all that is sent. -/
theorem sendTrace_spec (lib : Externals) (w : World) (final : Xtransaction) :
    dispatches (sendTrace lib w final) = [final] ∧ hashes (sendTrace lib w final) = [] ∧
      signings (sendTrace lib w final) = [] ∧
      ∀ e ∈ sendTrace lib w final, e.1.isCommand = false ∧ e.1 ≠ .unsignedSender := by
  cases h : lib.isRpcNode <;>
    simp [sendTrace, h, Op.dispatched, Op.hashed, Op.signed, Op.isCommand]

variable {lib : Externals} {w : World} {taken : List Xtransaction}
  {keys : List (Bytes × Xtransaction)} {final : Xtransaction} {t : List HandlerEvent}

/-- An admitted transaction is dispatched once. -/
theorem SubmitTrace.dispatches_eq (h : SubmitTrace lib w taken keys final t) :
    dispatches t = [final] := by
  obtain ⟨before, checks, rfl, hbefore, hchecks, -, -⟩ := h
  simp [dispatches_of_quiet hbefore, dispatches_of_quiet hchecks.quiet, Op.dispatched,
    (sendTrace_spec lib w final).1]

/-- No digest is taken after the seal. -/
theorem SubmitTrace.hashes_eq (h : SubmitTrace lib w taken keys final t) : hashes t = taken := by
  obtain ⟨before, checks, rfl, -, hchecks, htaken, -⟩ := h
  simp [htaken, hashes_of_silent hchecks, Op.hashed, (sendTrace_spec lib w final).2.1]

/-- No key is used after the seal. -/
theorem SubmitTrace.signings_eq (h : SubmitTrace lib w taken keys final t) : signings t = keys := by
  obtain ⟨before, checks, rfl, -, hchecks, -, hkeys⟩ := h
  simp [hkeys, signings_of_silent hchecks, Op.signed, (sendTrace_spec lib w final).2.2.1]

/-- The draft of a request, if it gets that far. -/
def requestDraft (lib : Externals) (w : World) (root : Value) (fresh : Xtransaction) : Option Draft :=
  match requestAction lib root with
  | .error _ => none
  | .ok (action, nohash) =>
    match actionDraft lib w root fresh nohash action with
    | some (.ok draft) => some draft
    | _ => none

/-- The transaction a request gets admitted. -/
def admitted (lib : Externals) (w : World) (root : Value) (fresh : Xtransaction) :
    Option Xtransaction := do
  let draft ← requestDraft lib w root fresh
  (draft.accept lib w root).toOption

end Summary

/-- The three ways a request can end. -/
inductive Ended (lib : Externals) (w : World) (s : HandlerState) (members : List (Bytes × Value))
    (o : HandlerOutcome) : Prop where
  /-- One transaction is admitted and sent. -/
  | sent (draft : Draft) (final : Xtransaction)
    (hdraft : requestDraft lib w s.root s.tx = some draft)
    (haccept : draft.accept lib w s.root = .ok final)
    (hresult : o.result = .ok ()) (hrsp : o.state.jsRsp = .object (okMembers members))
    (hworld : o.world = w)
    (htrace : SubmitTrace lib w (draft.taken w) (draft.keys w) final o.trace)
  /-- The request is refused or throws before anything happens. -/
  | stopped (hadmitted : admitted lib w s.root s.tx = none)
    (hend : (o.result = .ok () ∧ ∃ code, o.state.jsRsp = .object (failMembers code members)) ∨
      ((∃ e, o.result = .error e) ∧ o.state.jsRsp = s.jsRsp))
    (hworld : o.world = w) (hquiet : Quiet o.trace)
  /-- The action is a query or a node command. -/
  | inert (action : Action) (nohash : Bool)
    (haction : requestAction lib s.root = .ok (action, nohash))
    (hkind : action.isTransaction = false) (hinert : ∀ e ∈ o.trace, e.1.isInert)

/-- A request that is not admitted ends without an effect. -/
theorem Concludes.stopped {lib : Externals} {w : World} {s : HandlerState}
    {members : List (Bytes × Value)} {taken : List Xtransaction} {keys : List (Bytes × Xtransaction)}
    {stop : Stop} {o : HandlerOutcome} (h : Concludes lib w s.jsRsp members taken keys (.error stop) o)
    (hadmitted : admitted lib w s.root s.tx = none) : Ended lib w s members o := by
  cases stop with
  | thrown e =>
    obtain ⟨hresult, hrsp, hworld, hquiet⟩ := h
    exact .stopped hadmitted (.inr ⟨⟨e, hresult⟩, hrsp⟩) hworld hquiet
  | refused code =>
    obtain ⟨hresult, hrsp, hworld, hquiet⟩ := h
    exact .stopped hadmitted (.inl ⟨hresult, code, hrsp⟩) hworld hquiet

/-- Every request ends in one of the three ways. -/
theorem handleRequest_ended (lib : Externals) (w : World) (s : HandlerState)
    {members : List (Bytes × Value)} (hs : s.jsRsp.fields = some members) :
    Ended lib w s members ((handleRequest lib).run service s w) := by
  have h := handleRequest_handles lib w s hs
  unfold Handles at h
  rcases hrequest : requestAction lib s.root with e | ⟨action, nohash⟩
  · simp only [hrequest] at h
    exact h.stopped (by simp [admitted, requestDraft, hrequest])
  rcases hdraft : actionDraft lib w s.root s.tx nohash action with - | stop | draft
  · simp only [hrequest, hdraft] at h
    exact .inert action nohash hrequest (actionDraft_eq_none.mp hdraft) h
  · simp only [hrequest, hdraft, Fulfils] at h
    exact h.stopped (by simp [admitted, requestDraft, hrequest, hdraft])
  have hrequestDraft : requestDraft lib w s.root s.tx = some draft := by
    simp only [requestDraft, hrequest, hdraft]
  simp only [hrequest, hdraft, Fulfils] at h
  rcases haccept : draft.accept lib w s.root with stop | final
  · rw [haccept] at h
    exact h.stopped (by simp [admitted, hrequestDraft, haccept, Except.toOption])
  · rw [haccept] at h
    obtain ⟨hresult, hrsp, hworld, htrace⟩ := h
    exact .sent draft final hrequestDraft haccept hresult hrsp hworld htrace

end XrpcServer.Handler
