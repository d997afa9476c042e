import XrpcServer.Handler.Dispatcher

/-!
# All-or-nothing admission

A request proposes at most one transaction, one of the five actions reports success exactly
when it has proposed one, and what it proposes passed the hash and signature check as it is.
-/

namespace XrpcServer.Handler

open XrpcServer.Text XrpcServer.Chain XrpcServer.Interaction XrpcServer.Json
open XrpcServer.Json (Value)

/-- The request can be read and names one of the five transaction actions. -/
def RequestsTransaction (lib : Externals) (root : Value) : Prop :=
  ∃ action, stringOf lib root "action" = .ok action ∧ (actionOf action).isTransaction

/-- The call returned and left this number in the member `Result`. -/
def EndsWithResult (o : HandlerOutcome) (result : ℤ) : Prop :=
  o.result = .ok () ∧ ∃ members, o.state.jsRsp = .object members ∧
    members.lookup (str "Result") = some (.int result)

/-- The effects of a call of `handle_request` and its answer go together. -/
structure AllOrNothing (lib : Externals) (w : World) (root : Value) (o : HandlerOutcome) : Prop where
  /-- At most one proposal is dispatched. -/
  atMostOne : (dispatches o.trace).length ≤ 1
  /-- A transaction action succeeds exactly when one proposal was dispatched. -/
  success : RequestsTransaction lib root →
    (EndsWithResult o 1 ↔ (dispatches o.trace).length = 1)
  /-- What is dispatched was found correct before, with every field as it is sent. -/
  verified : ∀ final ∈ dispatches o.trace, ∃ before after : List HandlerEvent,
    o.trace = before ++ ⟨.txHashAndSignVerify final, true⟩ :: after ∧ dispatches before = []
  /-- A transaction action that fails or throws has no effect. -/
  failure : RequestsTransaction lib root → EndsWithResult o 0 ∨ (∃ e, o.result = .error e) →
    dispatches o.trace = [] ∧ o.world.store = w.store
  /-- No other action dispatches. -/
  others : ¬RequestsTransaction lib root → dispatches o.trace = []

/-- The `Result` member of a success. -/
theorem lookup_okMembers (members : List (Bytes × Value)) :
    (okMembers members).lookup (str "Result") = some (.int 1) := by
  simp [okMembers]

/-- The `Result` member of a failure. -/
theorem lookup_failMembers (code : XrpcReturn) (members : List (Bytes × Value)) :
    (failMembers code members).lookup (str "Result") = some (.int 0) := by
  simp [failMembers]

/-- A request that can be read names the action found in it. -/
theorem requestsTransaction_of_requestAction {lib : Externals} {root : Value} {action : Action}
    {nohash : Bool} (h : requestAction lib root = .ok (action, nohash)) :
    RequestsTransaction lib root ↔ action.isTransaction := by
  cases hname : stringOf lib root "action" with
  | error e => simp [requestAction, hname] at h
  | ok name =>
    cases haccount : stringOf lib root "account" with
    | error e => simp [requestAction, hname, haccount] at h
    | ok account =>
      have haction : actionOf name = action := by
        simp only [requestAction, hname, haccount, except_bind_ok, except_pure, Except.ok.injEq,
          Prod.mk.injEq] at h
        exact h.1
      simp [RequestsTransaction, hname, haction]

/-- A draft is only made for a transaction action. -/
theorem requestsTransaction_of_requestDraft {lib : Externals} {w : World} {root : Value}
    {fresh : Xtransaction} {draft : Draft} (h : requestDraft lib w root fresh = some draft) :
    RequestsTransaction lib root := by
  rcases hrequest : requestAction lib root with e | ⟨action, nohash⟩
  · simp [requestDraft, hrequest] at h
  rw [requestsTransaction_of_requestAction hrequest]
  by_contra hkind
  have hnone : actionDraft lib w root fresh nohash action = none :=
    actionDraft_eq_none.mpr (by simpa using hkind)
  simp [requestDraft, hrequest, hnone] at h

/-- Admission is all-or-nothing, for every parse result and every surroundings. -/
theorem handleRequest_allOrNothing (lib : Externals) (w : World) (parsed : Bool × Value) :
    AllOrNothing lib w parsed.2 ((handleRequest lib).run service (constructed lib parsed) w) := by
  have hended := handleRequest_ended lib w (constructed lib parsed) (fields_constructed lib parsed)
  generalize (handleRequest lib).run service (constructed lib parsed) w = o at hended
  cases hended with
  | sent draft final hdraft haccept hresult hrsp hworld htrace =>
    have hdispatches : dispatches o.trace = [final] := htrace.dispatches_eq
    have haction := requestsTransaction_of_requestDraft hdraft
    have hsuccess : EndsWithResult o 1 := ⟨hresult, _, hrsp, lookup_okMembers _⟩
    obtain ⟨before, checks, htrace, hbefore, -⟩ := htrace
    constructor
    case atMostOne => simp [hdispatches]
    case success => simp [hdispatches, hsuccess]
    case verified =>
      intro tx htx
      obtain rfl : tx = final := by simpa [hdispatches] using htx
      exact ⟨before, _, htrace, dispatches_of_quiet hbefore⟩
    case failure =>
      intro _ hfails
      obtain ⟨-, members, hmembers, hzero⟩ | ⟨e, he⟩ := hfails
      · rw [hrsp] at hmembers
        cases hmembers
        simp [lookup_okMembers] at hzero
      · rw [hresult] at he
        cases he
    case others => exact fun hnot => absurd haction hnot
  | stopped hadmitted hend hworld hquiet =>
    have hdispatches : dispatches o.trace = [] := dispatches_of_quiet hquiet
    have hfailed : ¬EndsWithResult o 1 := by
      intro hends
      obtain ⟨hresult, members, hmembers, hone⟩ := hends
      rcases hend with ⟨-, code, hrsp⟩ | ⟨⟨e, he⟩, -⟩
      · rw [hrsp] at hmembers
        cases hmembers
        simp [lookup_failMembers] at hone
      · rw [hresult] at he
        cases he
    exact ⟨by simp [hdispatches], by simp [hdispatches, hfailed], by simp [hdispatches],
      fun _ _ => ⟨hdispatches, by rw [hworld]⟩, fun _ => hdispatches⟩
  | inert action nohash haction hkind hinert =>
    have hdispatches : dispatches o.trace = [] := by
      rw [dispatches, List.filterMap_eq_nil_iff]
      exact fun e he => (Op.of_isInert (hinert e he)).1
    have hnot : ¬RequestsTransaction lib parsed.2 := by
      intro htransaction
      have := (requestsTransaction_of_requestAction haction).mp htransaction
      simp [hkind] at this
    exact ⟨by simp [hdispatches], fun h => absurd h hnot, by simp [hdispatches],
      fun h => absurd h hnot, fun _ => hdispatches⟩

end XrpcServer.Handler
