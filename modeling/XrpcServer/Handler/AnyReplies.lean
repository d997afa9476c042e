import XrpcServer.Handler.AllOrNothing
import XrpcServer.Handler.Proposing
import XrpcServer.Handler.Readers

/-!
# The effects of a request, whatever is replied to it

Requests are served by several threads over one store, so two reads of one request may be answered
from different states. Whatever the replies, a request gives exactly the node commands its action
stands for, proposes at most one transaction and does so as the last thing it does, reports success
exactly when it has proposed one, and proposes only what was composed from its members, found
correct as it is and past every check.
-/

namespace XrpcServer.Handler

open XrpcServer.Text XrpcServer.Chain XrpcServer.Interaction XrpcServer.Json
open XrpcServer.Json (Value)

universe u

/-- Commands given to the node, in order. -/
def commands (t : List HandlerEvent) : List Op := (t.map Sigma.fst).filter Op.isCommand

/-- There are no commands in an empty trace. -/
@[simp] theorem commands_nil : commands [] = [] := rfl

/-- Commands of two traces in a row. -/
@[simp] theorem commands_append (t t' : List HandlerEvent) :
    commands (t ++ t') = commands t ++ commands t' := by
  simp [commands]

/-- Commands, event by event. -/
@[simp] theorem commands_cons (e : HandlerEvent) (t : List HandlerEvent) :
    commands (e :: t) = (if e.1.isCommand then [e.1] else []) ++ commands t := by
  cases h : e.1.isCommand <;> simp [commands, h]

/-- The commands the action of a request stands for. -/
def requestedCommands (lib : Externals) (root : Value) : List Op :=
  match stringOf lib root "action", stringOf lib root "account" with
  | .ok action, .ok account =>
    match actionOf action with
    | .accountDelete => [.deleteAccount account, .syncAccountDelete account]
    | .accountSnapDelete => [.accountSnapDelete account]
    | .accountSync => [.syncAccountSync account]
    | .triggerElect => [.triggerElect ((root.touch (str "action")).touch (str "account"))]
    | _ => []
  | _, _ => []

/-- Neither a command nor a proposal so far. -/
def Bare (t : List HandlerEvent) : Prop := dispatches t = [] ∧ commands t = []

/-- A quiet operation is neither. -/
theorem Bare.quiet {op : Op} (hop : op.isQuiet) {t : List HandlerEvent} (reply : Reply op) (h : Bare t) :
    Bare (t ++ [⟨op, reply⟩]) := by
  have hdispatched : op.dispatched = none := Op.dispatched_of_isQuiet hop
  have hcommand : op.isCommand = false := by
    cases op <;> first | rfl | exact absurd hop (by simp)
  simp [Bare, h.1, h.2, hdispatched, hcommand]

/-- The transcript of a request is observed. -/
theorem transcribing_quiet :
    Observing transcribing (fun op : Op => op.isQuiet) Bare fun e t => e ∈ t :=
  transcribing_observes fun _ hop _ reply h => h.quiet hop reply

section Outcomes

variable (lib : Externals) (s : HandlerState) (members : List (Bytes × Value))

/-- How a call of `handle_request` may return. -/
inductive Returned (s' : HandlerState) (t : List HandlerEvent) : Prop
  | refused (code : XrpcReturn) (hrequests : RequestsTransaction lib s.root) (hbare : Bare t)
    (hrsp : s'.jsRsp = .object (failMembers code members))
  | sent (kind : Action) (hrequests : RequestsTransaction lib s.root) (before : List HandlerEvent)
    (e : HandlerEvent) (ht : t = before ++ [e]) (hbare : Bare before) (he : e.1.dispatched = some s'.tx)
    (hvetted : Vetted lib s.root (· ∈ before) s.tx kind s'.tx)
    (hrsp : s'.jsRsp = .object (okMembers members))
  | other (hrequests : ¬RequestsTransaction lib s.root) (hdispatches : dispatches t = [])
    (hcommands : commands t = requestedCommands lib s.root)

/-- How it may end with an exception. -/
def Thrown (t : List HandlerEvent) : Prop :=
  dispatches t = [] ∧ commands t = requestedCommands lib s.root

end Outcomes

section Runs

variable {lib : Externals} {s : HandlerState} {members : List (Bytes × Value)}
  {ok : Unit → HandlerState → List HandlerEvent → Prop} {err : Exc → HandlerState → List HandlerEvent → Prop}

/-- A dispatch is the last operation of a request. -/
theorem wp_messageSent {t : List HandlerEvent} (ht : Bare t) (hs : s.jsRsp.fields = some members)
    (hok : ∀ before e, Bare before → (∀ e ∈ t, e ∈ before) → e.1.dispatched = some s.tx →
      ok () { s with jsRsp := .object (okMembers members) } (before ++ [e])) :
    (do
      doTransaction lib
      setResultOk).wp transcribing ok err s t := by
  simp only [doTransaction, getTransactionUniqueId, Routine.wp_bind, Routine.wp_read]
  apply wp_observed transcribing_quiet rfl ht
  intro seconds t₁ ht₁ hgrows₁ _
  apply wp_observed transcribing_quiet rfl ht₁
  intro random t₂ ht₂ hgrows₂ _
  have hsaid (before : List HandlerEvent) (e : HandlerEvent) (hbare : Bare before)
      (hgrows : ∀ e ∈ t₂, e ∈ before) (he : e.1.dispatched = some s.tx) :
      setResultOk.wp transcribing ok err s (before ++ [e]) := by
    rw [wp_setResultOk]
    refine ⟨fun members' hmembers' => ?_, fun hnone => absurd hs (by simp [hnone])⟩
    obtain rfl : members = members' := by simpa [hs] using hmembers'
    exact hok before e hbare (fun e he => hgrows _ (hgrows₂ _ (hgrows₁ _ he))) he
  simp only [Routine.wp_pure, Routine.wp_ite]
  refine ⟨fun _ _ => hsaid t₂ _ ht₂ (fun _ he => he) rfl, fun _ => ?_⟩
  rw [Routine.wp_bind]
  apply wp_observed transcribing_quiet rfl ht₂
  intro shard t₃ ht₃ hgrows₃ _ _
  exact hsaid t₃ _ ht₃ hgrows₃ rfl

/-- A refusal is written into the response. -/
theorem wp_refused {t : List HandlerEvent} (code : XrpcReturn) (hs : s.jsRsp.fields = some members)
    (hok : ok () { s with jsRsp := .object (failMembers code members) } t) :
    (setResultFail code).wp transcribing ok err s t := by
  rw [wp_setResultFail]
  refine ⟨fun members' hmembers' => ?_, fun hnone => absurd hs (by simp [hnone])⟩
  obtain rfl : members = members' := by simpa [hs] using hmembers'
  exact hok

/-- A request for one of the node actions. -/
def RequestsCommand (lib : Externals) (root : Value) : Prop :=
  ∃ action account, stringOf lib root "action" = .ok action ∧ stringOf lib root "account" = .ok account ∧
    (actionOf action).isNodeCommand

/-- Other requests stand for no command. -/
theorem requestedCommands_eq_nil {root : Value} (h : ¬RequestsCommand lib root) :
    requestedCommands lib root = [] := by
  unfold requestedCommands
  split
  · next action account haction haccount =>
    have hkind : (actionOf action).isNodeCommand = false := by
      simpa using fun hcommand => h ⟨action, account, haction, haccount, hcommand⟩
    generalize actionOf action = kind at hkind ⊢
    cases kind <;> first | rfl | exact absurd hkind (by decide)
  · rfl

/-- A transaction action is no node action. -/
theorem not_requestsCommand {root : Value} (h : RequestsTransaction lib root) : ¬RequestsCommand lib root := by
  intro hcommand
  obtain ⟨action, haction, htransaction⟩ := h
  obtain ⟨action', account, haction', -, hkind⟩ := hcommand
  obtain rfl : action = action' := by simpa [haction] using haction'
  generalize actionOf action = kind at htransaction hkind
  cases kind <;> first | exact absurd htransaction (by decide) | exact absurd hkind (by decide)

/-- What is composed was asked for. -/
theorem Vetted.requestsTransaction {root : Value} {known : HandlerEvent → Prop} {fresh tx : Xtransaction}
    {kind : Action} (h : Vetted lib root known fresh kind tx) : RequestsTransaction lib root := by
  refine ⟨_, h.requested, ?_⟩
  rw [actionOf_text]
  cases h.composed <;> rfl

/-- A member that is there is read. -/
theorem wp_rootString_of_eq {key : String} {text : Bytes} (h : stringOf lib s.root key = .ok text)
    {ok : Bytes → HandlerState → List HandlerEvent → Prop} {t : List HandlerEvent} :
    (rootString lib key).wp transcribing ok err s t ↔ ok text s t := by
  simp [h]

/-- A success is written into the response. -/
theorem wp_succeeded {t : List HandlerEvent} (hs : s.jsRsp.fields = some members)
    (hok : ∀ s', ok () s' t) : setResultOk.wp transcribing ok err s t := by
  rw [wp_setResultOk]
  exact ⟨fun _ _ => hok _, fun hnone => absurd hs (by simp [hnone])⟩

/-- A request for a node action gives its commands and succeeds. -/
theorem requestsCommand_returns (hs : s.jsRsp.fields = some members) (h : RequestsCommand lib s.root) :
    (handleRequest lib).wp transcribing (fun _ s' t => Returned lib s members s' t)
      (fun _ _ t => Thrown lib s t) s [] := by
  have hrequests : ¬RequestsTransaction lib s.root := fun htransaction => not_requestsCommand htransaction h
  obtain ⟨action, account, haction, haccount, hkind⟩ := h
  have hreturned (t : List HandlerEvent) (hdispatches : dispatches t = [])
      (ht : commands t = requestedCommands lib s.root) : ∀ s', Returned lib s members s' t :=
    fun _ => .other hrequests hdispatches ht
  simp only [requestedCommands, haction, haccount] at hreturned
  simp only [handleRequest, Routine.wp_bind, wp_rootString_of_eq haction, wp_rootString_of_eq haccount]
  generalize actionOf action = kind at hkind hreturned ⊢
  cases kind with
  | accountDelete =>
    simp only [runAction, accountDelete, Routine.wp_bind, wp_rootString_of_eq haccount, Routine.wp_perform,
      transcribing_apply]
    exact fun _ _ => wp_succeeded hs (hreturned _ rfl rfl)
  | accountSnapDelete =>
    simp only [runAction, accountSnapDelete, Routine.wp_bind, wp_rootString_of_eq haccount, Routine.wp_perform,
      transcribing_apply]
    exact fun _ => wp_succeeded hs (hreturned _ rfl rfl)
  | accountSync =>
    simp only [runAction, accountSync, Routine.wp_bind, wp_rootString_of_eq haccount, Routine.wp_perform,
      transcribing_apply]
    exact fun _ => wp_succeeded hs (hreturned _ rfl rfl)
  | triggerElect =>
    simp only [runAction, triggerElect, Routine.wp_bind, Routine.wp_read, Routine.wp_perform, Routine.wp_update,
      transcribing_apply]
    exact fun _ => hreturned _ rfl rfl _
  | _ => exact absurd hkind (by decide)

/-- Every call of `handle_request` ends in one of these ways. -/
theorem handleRequest_returns (hs : s.jsRsp.fields = some members) :
    (handleRequest lib).wp transcribing (fun _ s' t => Returned lib s members s' t)
      (fun _ _ t => Thrown lib s t) s [] := by
  by_cases hcommand : RequestsCommand lib s.root
  · exact requestsCommand_returns hs hcommand
  have hnone : requestedCommands lib s.root = [] := requestedCommands_eq_nil hcommand
  have hbare (s' : HandlerState) (t : List HandlerEvent) (h : ¬RequestsTransaction lib s.root) (ht : Bare t) :
      Returned lib s members s' t := .other h ht.1 (by rw [hnone, ht.2])
  have hthrown (t : List HandlerEvent) (ht : Bare t) : Thrown lib s t := ⟨ht.1, by rw [hnone, ht.2]⟩
  apply wp_handleRequest transcribing_quiet (s := s) ?exits ⟨rfl, rfl⟩
  case exits =>
    constructor
    case refused =>
      intro code s' t ht hrsp
      have hs' : s'.jsRsp.fields = some members := by rw [hrsp, hs]
      apply wp_refused code hs'
      by_cases hrequests : RequestsTransaction lib s.root
      · exact .refused code hrequests ht rfl
      · exact hbare _ t hrequests ht
    case thrown => exact fun e s' t ht _ => hthrown t ht
    case sent =>
      intro kind s' t ht hrsp hvetted
      have hs' : s'.jsRsp.fields = some members := by rw [hrsp, hs]
      apply wp_messageSent ht hs'
      intro before e hbefore hgrows he
      exact .sent kind hvetted.requestsTransaction before e rfl hbefore he (hvetted.mono hgrows) rfl
  intro action account haction haccount hkind
  have hrequests : ¬RequestsTransaction lib s.root := by
    intro hrequests
    obtain ⟨action', haction', htransaction⟩ := hrequests
    obtain rfl : action = action' := by simpa [haction] using haction'
    simp [hkind] at htransaction
  have hquery : (actionOf action).isNodeCommand = false := by
    simpa using fun h => hcommand ⟨action, account, haction, haccount, h⟩
  have hquiet : (runAction lib (noHash account) (actionOf action)).Uses fun op => op.isQuiet :=
    Routine.Uses.mono (fun _ hop => (Op.of_isSilent hop).1) (silently_runAction lib _ hkind hquery)
  apply transcribing_quiet.wp_of_uses hquiet ⟨rfl, rfl⟩
  · exact fun _ s' t ht => hbare s' t hrequests ht
  · exact fun _ _ t ht => hthrown t ht

end Runs

/-- A served request returned the text of a response with this number in the member `Result`. -/
def Announces (lib : Externals) (result : Except Exc Bytes) (final : HandlerState) (number : ℤ) : Prop :=
  result = .ok (lib.toStyledString final.jsRsp) ∧
    ∃ members, final.jsRsp = .object members ∧ members.lookup (str "Result") = some (.int number)

/-- A response with a member `Result` is returned as it is. -/
theorem wp_getResponse {Config : Type u} (spec : OpSpec Op Reply Config) (lib : Externals) {s : HandlerState}
    {config : Config} {number : ℤ} {members : List (Bytes × Value)} (hrsp : s.jsRsp = .object members)
    (hnumber : members.lookup (str "Result") = some (.int number))
    {ok : Bytes → HandlerState → Config → Prop} {err : Exc → HandlerState → Config → Prop}
    (hok : Announces lib (.ok (lib.toStyledString s.jsRsp)) s number →
      ok (lib.toStyledString s.jsRsp) s config) :
    (getResponse lib).wp spec ok err s config := by
  have hempty : s.jsRsp.isEmpty = false := by
    rw [hrsp]
    cases members with
    | nil => simp at hnumber
    | cons member rest => rfl
  simp only [getResponse, Routine.wp_bind, Routine.wp_read, hempty]
  exact hok ⟨rfl, members, hrsp, hnumber⟩

/-- What a request did and what it reported. -/
structure Effects (lib : Externals) (root : Value) (events : List HandlerEvent) (result : Except Exc Bytes)
    (final : HandlerState) : Prop where
  /-- The node is given the commands the action stands for. -/
  commands : commands events = requestedCommands lib root
  /-- At most one transaction is proposed. -/
  atMostOne : (dispatches events).length ≤ 1
  /-- A proposal is the last operation. -/
  last : ∀ tx ∈ dispatches events, ∃ before e, events = before ++ [e] ∧ e.1.dispatched = some tx
  /-- A transaction action reports success exactly when it has proposed one. -/
  success : RequestsTransaction lib root → (Announces lib result final 1 ↔ (dispatches events).length = 1)
  /-- No other action proposes one. -/
  others : ¬RequestsTransaction lib root → dispatches events = []

/-- What was proposed is vetted. -/
def AllVetted (lib : Externals) (root : Value) (events : List HandlerEvent) : Prop :=
  ∀ tx ∈ dispatches events, ∃ kind, Vetted lib root (· ∈ events) lib.freshTransaction kind tx

/-- A request that proposed nothing has these effects if it did not report a success either. -/
theorem Effects.of_none {lib : Externals} {root : Value} {events : List HandlerEvent}
    {result : Except Exc Bytes} {final : HandlerState} (hdispatches : dispatches events = [])
    (hcommands : Handler.commands events = requestedCommands lib root)
    (hfailed : RequestsTransaction lib root → ¬Announces lib result final 1) :
    Effects lib root events result final where
  commands := hcommands
  atMostOne := by simp [hdispatches]
  last := by simp [hdispatches]
  success hrequests := by simp [hdispatches, hfailed hrequests]
  others _ := hdispatches

/-- A request that proposed one transaction at its end. -/
theorem Effects.of_sent {lib : Externals} {root : Value} {before : List HandlerEvent} {e : HandlerEvent}
    {tx : Xtransaction} {result : Except Exc Bytes} {final : HandlerState}
    (hrequests : RequestsTransaction lib root) (hbare : Bare before) (he : e.1.dispatched = some tx)
    (hannounces : Announces lib result final 1) : Effects lib root (before ++ [e]) result final := by
  have hdispatches : dispatches (before ++ [e]) = [tx] := by simp [hbare.1, he]
  have hcommand : e.1.isCommand = false := by
    generalize e.1 = op at he
    cases op <;> first | rfl | simp [Op.dispatched] at he
  constructor
  case commands =>
    rw [requestedCommands_eq_nil (not_requestsCommand hrequests)]
    simp [hbare.2, hcommand]
  case atMostOne => simp [hdispatches]
  case last =>
    intro tx' htx'
    obtain rfl : tx' = tx := by simpa [hdispatches] using htx'
    exact ⟨before, e, rfl, he⟩
  case success => simp [hdispatches, hannounces]
  case others => exact fun hnot => absurd hrequests hnot

/-- Every way of serving a request has these effects. -/
theorem serve_wp_effects (lib : Externals) (req : Bytes) :
    (serve lib req).wp transcribing
      (fun response final events => Effects lib (lib.parse req).2 events (.ok response) final ∧
        AllVetted lib (lib.parse req).2 events)
      (fun e final events => Effects lib (lib.parse req).2 events (.error e) final ∧
        AllVetted lib (lib.parse req).2 events) (HandlerState.initial lib) [] := by
  rw [serve, Routine.wp_bind, Routine.wp, construct_run]
  change (handleRequest lib >>= fun _ => getResponse lib).wp _ _ _ _ _
  rw [Routine.wp_bind]
  refine Routine.wp_mono transcribing_mono _ ?_ ?_
    (handleRequest_returns (fields_constructed lib (lib.parse req)))
  · intro _ s' t hreturned
    cases hreturned with
    | refused code hrequests hbare hrsp =>
      apply wp_getResponse transcribing lib hrsp (lookup_failMembers code _)
      intro _
      refine ⟨.of_none hbare.1 ?_ ?_, by simp [AllVetted, hbare.1]⟩
      · exact hbare.2.trans (requestedCommands_eq_nil (not_requestsCommand hrequests)).symm
      · intro _ hannounces
        obtain ⟨-, members, hmembers, hone⟩ := hannounces
        rw [hrsp] at hmembers
        cases hmembers
        simp [lookup_failMembers] at hone
    | sent kind hrequests before e ht hbare he hvetted hrsp =>
      apply wp_getResponse transcribing lib hrsp (lookup_okMembers _)
      intro hannounces
      subst ht
      refine ⟨.of_sent hrequests hbare he hannounces, fun tx htx => ⟨kind, ?_⟩⟩
      obtain rfl : tx = s'.tx := by simpa [hbare.1, he] using htx
      exact hvetted.mono fun e he => List.mem_append_left _ he
    | other hrequests hdispatches hcommands =>
      have hnone (result : Except Exc Bytes) (final : HandlerState) :
          Effects lib (lib.parse req).2 t result final ∧ AllVetted lib (lib.parse req).2 t :=
        ⟨.of_none hdispatches hcommands fun h => absurd h hrequests, by simp [AllVetted, hdispatches]⟩
      apply Routine.wp_of_uses_none transcribing (still_getResponse lib)
      · exact fun response final => hnone (.ok response) final
      · exact fun e final => hnone (.error e) final
  · intro e s' t hthrown
    refine ⟨.of_none hthrown.1 hthrown.2 ?_, by simp [AllVetted, hthrown.1]⟩
    intro _ hannounces
    cases hannounces.1

section Sample

/-- A transfer of "5", signed by its sender. -/
def signedTransfer : Value := .object
  [(str "account", .string (str "T-alice")), (str "action", .string (str "transfer_out")),
    (str "amount", .string (str "5")), (str "destination", .string (str "T-bob")),
    (str "last_digest", .string (str "AQEBAQEBAQEBAQEBAQEBAQEBAQEBAQEBAQEBAQEBAQE=")),
    (str "property_key", .string (str "$$")), (str "signature", .string (str "c2ln")),
    (str "source", .string (str "T-alice")), (str "timestamp", .int 7)]

/-- A server that has received it. -/
def signedExternals : Externals := { sampleExternals with parse := fun _ => (true, signedTransfer) }

/-- One way of serving it sends one proposal. -/
theorem signedTransfer_served : ∃ events result final,
    (serve signedExternals [] (HandlerState.initial signedExternals)).Yields events (result, final) ∧
      (dispatches events).length = 1 := by
  obtain ⟨events, htrace, hyields⟩ := Program.yields_exec service
    (serve signedExternals [] (HandlerState.initial signedExternals)) (sampleWorld, [])
  refine ⟨events, _, _, hyields, ?_⟩
  rw [List.nil_append] at htrace
  rw [← htrace]
  decide +kernel

end Sample

/-- Whatever is replied, a request has exactly the effects it reports. -/
theorem serve_effects (lib : Externals) (req : Bytes) {events : List HandlerEvent}
    {result : Except Exc Bytes} {final : HandlerState}
    (h : (serve lib req (HandlerState.initial lib)).Yields events (result, final)) :
    Effects lib (lib.parse req).2 events result final := by
  have hserved := (Routine.wp_transcribing_iff _ _ _ _ _).mp (serve_wp_effects lib req) events result final h
  cases result with
  | ok response => exact hserved.1
  | error e => exact hserved.1

/-- The sample server sends the transfer and reports a success. -/
theorem serve_effects_signedTransfer : ∃ events result final,
    Announces signedExternals result final 1 ∧ Effects signedExternals signedTransfer events result final := by
  obtain ⟨events, result, final, hyields, hone⟩ := signedTransfer_served
  have heffects := serve_effects signedExternals [] hyields
  exact ⟨events, result, final, (heffects.success ⟨_, rfl, by decide⟩).mpr hone, heffects⟩

/-- Whatever is replied, a proposed transaction is explained by the request and the replies to it. -/
theorem serve_vetted (lib : Externals) (req : Bytes) {events : List HandlerEvent}
    {result : Except Exc Bytes} {final : HandlerState}
    (h : (serve lib req (HandlerState.initial lib)).Yields events (result, final)) {tx : Xtransaction}
    (htx : tx ∈ dispatches events) :
    ∃ kind, Vetted lib (lib.parse req).2 (· ∈ events) lib.freshTransaction kind tx := by
  have hserved := (Routine.wp_transcribing_iff _ _ _ _ _).mp (serve_wp_effects lib req) events result final h
  cases result with
  | ok response => exact hserved.2 tx htx
  | error e => exact hserved.2 tx htx

/-- The transfer the sample server sends is vetted. -/
theorem serve_vetted_signedTransfer : ∃ events tx kind, tx ∈ dispatches events ∧
    Vetted signedExternals signedTransfer (· ∈ events) sampleFresh kind tx := by
  obtain ⟨events, result, final, hyields, hone⟩ := signedTransfer_served
  obtain ⟨tx, htx⟩ := List.exists_mem_of_length_pos (hone ▸ Nat.one_pos)
  obtain ⟨kind, hvetted⟩ := serve_vetted signedExternals [] hyields htx
  exact ⟨events, tx, kind, htx, hvetted⟩

end XrpcServer.Handler
