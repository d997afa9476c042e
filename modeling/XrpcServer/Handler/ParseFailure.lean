import XrpcServer.Handler.Dispatcher
import XrpcServer.Handler.Rows
import XrpcServer.Interaction.Triple

/-!
# A request that does not parse

The constructor records a parse failure in the response and nothing else; the action is then
looked up in whatever the parser left behind. Every action overwrites what was recorded, so a
body that does not parse is never answered with the parse error.
-/

namespace XrpcServer.Handler

open XrpcServer.Text XrpcServer.Chain XrpcServer.Interaction XrpcServer.Json
open XrpcServer.Json (Value)
open Routine (Triple)

/-- The response reports success or another error than a parse failure. -/
def Overwritten (rsp : Value) : Prop := ∃ members, rsp = .object members ∧
  (members.lookup (str "Result") = some (.int 1) ∨
    ∃ code, code ≠ XrpcReturn.serverJsonParseErr ∧
      members.lookup (str "ErrCode") = some (.int code.code))

/-- If the routine returns, it has overwritten the response. -/
abbrev Overwrites {α : Type} (m : HandlerM α) : Prop :=
  Triple (fun _ => True) m fun _ s => Overwritten s.jsRsp

/-- The routine does not restore an overwritten response. -/
abbrev Keeps {α : Type} (m : HandlerM α) : Prop :=
  Triple (fun s => Overwritten s.jsRsp) m fun _ s => Overwritten s.jsRsp

/-- What each of two parts leaves as it is, both leave as it is. -/
theorem Keeps.bind {α β : Type} {m : HandlerM α} {f : α → HandlerM β} (hm : Keeps m)
    (hf : ∀ a, Keeps (f a)) : Keeps (m >>= f) := Triple.bind hm hf

/-- What is overwritten first and then kept is overwritten. -/
theorem Overwrites.bind {α β : Type} {m : HandlerM α} {f : α → HandlerM β} (hm : Overwrites m)
    (hf : ∀ a, Keeps (f a)) : Overwrites (m >>= f) := Triple.bind hm hf

/-- What is overwritten from any state stays so. -/
theorem Overwrites.keeps {α : Type} {m : HandlerM α} (h : Overwrites m) : Keeps m :=
  fun s _ => h s trivial

section Primitives

variable (lib : Externals)

/-- Success takes the place of the recorded error. -/
theorem overwrites_setResultOk : Overwrites setResultOk := by
  intro s _
  rw [wp_setResultOk]
  exact ⟨fun members _ => ⟨_, rfl, .inl (by simp)⟩, fun _ => trivial⟩

/-- So does any other failure. -/
theorem overwrites_setResultFail {code : XrpcReturn} (h : code ≠ .serverJsonParseErr) :
    Overwrites (setResultFail code) := by
  intro s _
  rw [wp_setResultFail]
  exact ⟨fun members _ => ⟨_, rfl, .inr ⟨code, h, by simp [failMembers]⟩⟩, fun _ => trivial⟩

/-- Any other member leaves the verdict in place. -/
theorem keeps_rspSet {key : String} (value : Value) (hkey : key ∉ ["Result", "ErrCode"]) :
    Keeps (rspSet (str key) value) := by
  intro s hs
  obtain ⟨members, hrsp, hverdict⟩ := hs
  have hresult : str "Result" ≠ str key := by
    intro heq
    exact hkey (by simp [str_inj.mp heq.symm])
  have hcode : str "ErrCode" ≠ str key := by
    intro heq
    exact hkey (by simp [str_inj.mp heq.symm])
  rw [wp_rspSet, hrsp]
  refine ⟨fun members' hmembers => ⟨_, rfl, ?_⟩, fun _ => trivial⟩
  cases hmembers
  simpa [hresult, hcode] using hverdict

/-- Returning leaves the response as it is. -/
theorem keeps_pure {α : Type} (a : α) : Keeps (pure a : HandlerM α) := Triple.pure fun _ h => h

/-- So does an operation. -/
theorem keeps_perform (op : Op) : Keeps (Routine.perform op : HandlerM _) :=
  Triple.perform fun _ _ h => h

/-- Reading the state, computing with it and updating another member. -/
theorem keeps_ofState {α β : Type} (f : HandlerState → Except Exc α) {g : α → HandlerM β}
    (hg : ∀ a, Keeps (g a)) : Keeps (do g (← Routine.ofExcept (f (← Routine.read)))) :=
  Keeps.bind (Triple.read fun _ h => h) fun _ => Keeps.bind (Triple.ofExcept fun _ _ _ h => h) hg

/-- So does writing a member of a row. -/
theorem keeps_itemSet (key : String) (value : Value) : Keeps (itemSet key value) :=
  keeps_ofState (fun s => liftJson (s.jsItem.set (str key) value)) fun _ => Triple.update fun _ h => h

/-- So does adding the row to the list. -/
theorem keeps_appendItem : Keeps appendItem :=
  keeps_ofState (fun s => liftJson (s.jsArrayObj.append s.jsItem)) fun _ => Triple.update fun _ h => h

/-- So does reading the row. -/
theorem keeps_itemString (key : String) : Keeps (itemString lib key) :=
  Keeps.bind (Triple.read fun _ h => h) fun _ => Triple.ofExcept fun _ _ _ h => h

/-- Moving the list into the response leaves its error as it is. -/
theorem keeps_rspSetBlocks : Keeps rspSetBlocks :=
  Keeps.bind (Triple.read fun _ h => h) fun _ => keeps_rspSet _ (by decide)

/-- The statements that build rows leave the recorded error as it is. -/
theorem keeps_rows : RowStatements lib fun _ => Keeps where
  pure := keeps_pure
  bind := Keeps.bind
  itemSet key value _ := keeps_itemSet key value
  itemString := keeps_itemString lib
  appendItem := keeps_appendItem
  snapshot _ := keeps_perform _
  setResultOk := overwrites_setResultOk.keeps

end Primitives

section Actions

variable (lib : Externals)

/-- `account_balance` ends with a result of its own. -/
theorem overwrites_accountBalance : Overwrites (accountBalance lib) := by
  refine Triple.after fun account => Triple.after fun assetKey => Triple.after fun (ret, balance) => ?_
  apply Triple.ite (overwrites_setResultFail (by decide))
  apply Triple.ite (overwrites_setResultFail (by decide))
  exact overwrites_setResultOk.bind fun _ => keeps_rspSet _ (by decide)

/-- So does `account_info`, whichever of its branches is taken. -/
theorem overwrites_accountInfo : Overwrites (accountInfo lib) := by
  apply Triple.after
  intro account
  apply Triple.after
  intro reply
  cases reply with
  | none => exact overwrites_setResultFail (by decide)
  | some accountSnap =>
    apply overwrites_setResultOk.bind
    intro _
    apply (keeps_rspSet _ (by decide)).bind
    intro _
    apply (keeps_rspSet _ (by decide)).bind
    intro _
    apply (keeps_rspSet _ (by decide)).bind
    intro _
    apply (keeps_rspSet _ (by decide)).bind
    intro _
    apply (keeps_rspSet _ (by decide)).bind
    intro _
    apply (keeps_rspSet _ (by decide)).bind
    intro _
    apply (keeps_perform _).bind
    intro settleList
    apply Triple.ite (keeps_rspSet _ (by decide))
    apply (keeps_perform _).bind
    intro receiveList
    exact Triple.ite (keeps_rspSet _ (by decide)) (keeps_pure _)

/-- So does `account_history`, once its rows are built. -/
theorem overwrites_accountHistory : Overwrites (accountHistory lib) := by
  apply Triple.after
  intro account
  apply Triple.after
  intro count
  apply Triple.after
  intro perPage
  apply Triple.after
  intro settleList
  apply overwrites_setResultOk.bind
  intro _
  apply ((keeps_rows lib).historyLoop _ _ _ _ _).bind
  intro num
  exact keeps_rspSetBlocks.bind fun _ => keeps_rspSet _ (by decide)

/-- So does `last_digest`. -/
theorem overwrites_lastDigest : Overwrites (lastDigest lib) := by
  apply Triple.after
  intro account
  apply Triple.after
  intro reply
  cases reply with
  | none => exact overwrites_setResultFail (by decide)
  | some localAccount =>
    exact overwrites_setResultOk.bind fun _ => keeps_rspSet _ (by decide)

/-- So does `account_pending`. -/
theorem overwrites_accountPending : Overwrites (accountPending lib) := by
  apply Triple.after
  intro account
  apply Triple.after
  intro count
  apply Triple.after
  intro receiveList
  apply overwrites_setResultOk.bind
  intro _
  apply ((keeps_rows lib).pendingLoop _ _ _).bind
  intro _
  exact keeps_rspSetBlocks.bind fun _ => keeps_rspSet _ (by decide)

/-- So does `query_online_tx`. -/
theorem overwrites_queryOnlineTx : Overwrites (queryOnlineTx lib) := by
  apply Triple.after
  intro count
  apply Triple.after
  intro perPage
  apply Triple.after
  intro reply
  cases reply with
  | none => exact overwrites_setResultFail (by decide)
  | some txList =>
    exact Triple.after fun _ => Triple.after fun _ => Triple.after fun _ => overwrites_setResultOk

/-- So does `query_tps`. -/
theorem overwrites_queryTps : Overwrites queryTps := by
  apply Triple.after
  intro result
  exact Triple.ite (overwrites_setResultFail (by decide)) (Triple.after fun _ => overwrites_setResultOk)

/-- So does `query_property`. -/
theorem overwrites_queryProperty : Overwrites (queryProperty lib) := by
  apply Triple.after
  intro account
  apply Triple.after
  intro reply
  cases reply with
  | none => exact overwrites_setResultFail (by decide)
  | some accountSnap =>
    apply Triple.after
    intro propertyKey
    refine Triple.ite ?_ (overwrites_setResultFail (by decide))
    exact Triple.after fun _ => overwrites_setResultOk

/-- So does `query_all_property`. -/
theorem overwrites_queryAllProperty : Overwrites (queryAllProperty lib) := by
  apply Triple.after
  intro account
  apply Triple.after
  intro reply
  cases reply with
  | none => exact overwrites_setResultFail (by decide)
  | some accountSnap => exact Triple.after fun _ => overwrites_setResultOk

/-- Checks that do not refuse with a parse failure. -/
abbrev RefusesOtherwise (checks : HandlerM (Option XrpcReturn)) : Prop :=
  Triple (fun _ => True) checks fun verdict _ => verdict ≠ some .serverJsonParseErr

/-- The common tail ends with a result of its own, if the checks do not refuse with the recorded code. -/
theorem overwrites_verifyAndSubmit {checks : HandlerM (Option XrpcReturn)}
    (hchecks : RefusesOtherwise checks) : Overwrites (verifyAndSubmit lib checks) := by
  apply Triple.after
  intro s
  apply Triple.after
  intro verified
  refine Triple.ite (overwrites_setResultFail (by decide)) (hchecks.bind fun verdict => ?_)
  cases verdict with
  | none => exact Triple.after fun _ => overwrites_setResultOk
  | some err =>
    intro s herr
    exact overwrites_setResultFail (fun h => herr (by rw [h])) s trivial

/-- A wrong last hash has a code of its own. -/
theorem lastHashCheck_refuses (account : Bytes) : RefusesOtherwise (lastHashCheck account) := by
  apply Triple.after
  intro s
  apply Triple.after
  intro reply
  cases reply with
  | none => exact Triple.pure fun _ _ => by decide
  | some hash => exact Triple.ite (Triple.pure fun _ _ => by decide) (Triple.pure fun _ _ => by decide)

/-- So has a balance that is too small. -/
theorem transferOutChecks_refuses (srcAccount assetKey ammount : Bytes) :
    RefusesOtherwise (transferOutChecks srcAccount assetKey ammount) := by
  refine Triple.after fun (ret, balance) => Triple.ite (Triple.pure fun _ _ => by decide) ?_
  refine Triple.ite (Triple.pure fun _ _ => by decide) ?_
  apply Triple.after
  intro available
  apply Triple.after
  intro requested
  exact Triple.ite (Triple.pure fun _ _ => by decide) (lastHashCheck_refuses _)

/-- So has an account that has been paid. -/
theorem giveChecks_refuses (dstAccount : Bytes) : RefusesOtherwise (giveChecks lib dstAccount) := by
  apply Triple.after
  intro exist
  apply Triple.ite (Triple.pure fun _ _ => by decide)
  apply Triple.after
  intro receiveList
  apply Triple.ite (Triple.pure fun _ _ => by decide)
  exact Triple.after fun settleList =>
    Triple.ite (Triple.pure fun _ _ => by decide) (Triple.pure fun _ _ => by decide)

/-- `transfer_out` ends with a result of its own. -/
theorem overwrites_transferOut (nohash : Bool) : Overwrites (transferOut lib nohash) := by
  apply Triple.after
  intro srcAccount
  apply Triple.after
  intro dstAccount
  apply Triple.after
  intro assetKey
  apply Triple.after
  intro ammount
  apply Triple.after
  intro timestamp
  refine Triple.ite (overwrites_setResultFail (by decide)) (Triple.after fun lastHash => ?_)
  cases lastHash with
  | none => exact overwrites_setResultFail (by decide)
  | some lastHash =>
    exact Triple.after fun _ => Triple.after fun _ =>
      overwrites_verifyAndSubmit lib (transferOutChecks_refuses _ _ _)

/-- So does `give`. -/
theorem overwrites_give : Overwrites (give lib) := by
  apply Triple.after
  intro dstAccount
  apply Triple.after
  intro timestamp
  apply Triple.after
  intro lastHash
  cases lastHash with
  | none => exact overwrites_setResultFail (by decide)
  | some lastHash =>
    exact Triple.after fun _ => Triple.after fun _ =>
      overwrites_verifyAndSubmit lib (giveChecks_refuses lib _)

/-- So does `transfer_in`. -/
theorem overwrites_transferIn (nohash : Bool) : Overwrites (transferIn lib nohash) := by
  apply Triple.after
  intro timestamp
  apply Triple.after
  intro account
  apply Triple.after
  intro lastHash
  cases lastHash with
  | none => exact overwrites_setResultFail (by decide)
  | some lastHash =>
    apply Triple.after
    intro encoded
    apply Triple.after
    intro txDigest
    apply Triple.after
    intro account
    apply Triple.after
    intro _
    apply Triple.after
    intro _
    apply Triple.after
    intro sender
    apply Triple.after
    intro _
    apply Triple.after
    intro amount
    apply Triple.after
    intro _
    apply Triple.after
    intro s
    exact overwrites_verifyAndSubmit lib (lastHashCheck_refuses _)

/-- A verdict of the input check comes with an overwritten response when it is negative. -/
abbrev ChecksInput (m : HandlerM Bool) (pre : HandlerState → Prop) : Prop :=
  Triple pre m fun valid s => valid = false → Overwritten s.jsRsp

/-- A recorded refusal is followed by the negative verdict. -/
theorem checksInput_refuse {code : XrpcReturn} (hcode : code ≠ .serverJsonParseErr)
    {pre : HandlerState → Prop} {m : HandlerM Bool}
    (hm : ChecksInput m fun s => Overwritten s.jsRsp) : ChecksInput (do setResultFail code; m) pre :=
  fun s _ => Triple.bind (overwrites_setResultFail hcode) (fun _ => hm) s trivial

/-- The checks of a property note their own failure. -/
theorem checkInput_overwrites : ChecksInput (checkInput lib) fun _ => True := by
  -- the second test, reached with a valid key only
  have hjoin : ∀ keyValid : Bool, ChecksInput (do
      if keyValid = false then pure false
      else if (← rootString lib "action") = str "account_create" then do
        if ← Routine.perform (Op.existAccount (← rootString lib "account")) then do
          setResultFail .serverAccountExist
          pure false
        else pure true
      else pure true) fun s => keyValid = false → Overwritten s.jsRsp := by
    intro keyValid
    cases keyValid with
    | false => exact Triple.pure fun _ h => h
    | true =>
      apply Triple.after
      intro action
      refine Triple.ite ?_ (Triple.pure fun _ _ => by simp)
      apply Triple.after
      intro account
      apply Triple.after
      intro exist
      refine Triple.ite ?_ (Triple.pure fun _ _ => by simp)
      exact checksInput_refuse (by decide) (Triple.pure fun _ h _ => h)
  have hvalid : Triple (fun _ => True) (do
      let keyValid ← pure true
      if keyValid = false then pure false
      else if (← rootString lib "action") = str "account_create" then do
        if ← Routine.perform (Op.existAccount (← rootString lib "account")) then do
          setResultFail .serverAccountExist
          pure false
        else pure true
      else pure true) fun valid s => valid = false → Overwritten s.jsRsp :=
    Triple.bind (Triple.pure fun _ _ => by simp) hjoin
  apply Triple.after
  intro action
  refine Triple.ite (Triple.after fun key => ?_) hvalid
  refine Triple.ite ?_ hvalid
  exact checksInput_refuse (by decide) (Triple.bind (Triple.pure fun _ h _ => h) hjoin)

/-- `set_property` ends with a result of its own. -/
theorem overwrites_setProperty (nohash : Bool) : Overwrites (setProperty lib nohash) := by
  apply (checkInput_overwrites lib).bind
  intro valid
  cases valid with
  | false => exact Triple.pure fun _ h => h rfl
  | true =>
    apply Triple.after
    intro account
    apply Triple.after
    intro lastHash
    cases lastHash with
    | none => exact overwrites_setResultFail (by decide)
    | some lastHash =>
      exact Triple.after fun _ => Triple.after fun _ =>
        overwrites_verifyAndSubmit lib (Triple.pure fun _ _ => by decide)

/-- So does `account_create`. -/
theorem overwrites_accountCreate (nohash : Bool) : Overwrites (accountCreate lib nohash) := by
  apply (checkInput_overwrites lib).bind
  intro valid
  cases valid with
  | false => exact Triple.pure fun _ h => h rfl
  | true =>
    apply Triple.after
    intro account
    apply Triple.after
    intro amount
    apply Triple.after
    intro timestamp
    exact Triple.after fun _ => Triple.after fun _ =>
      overwrites_verifyAndSubmit lib (Triple.pure fun _ _ => by decide)

/-- Every action but `trigger_elect` overwrites the response if it returns. -/
theorem overwrites_runAction (nohash : Bool) {action : Action} (h : action ≠ .triggerElect) :
    Overwrites (runAction lib nohash action) := by
  cases action with
  | triggerElect => exact absurd rfl h
  | accountBalance => exact overwrites_accountBalance lib
  | accountCreate => exact overwrites_accountCreate lib nohash
  | accountInfo => exact overwrites_accountInfo lib
  | transferOut => exact Triple.after fun source => overwrites_transferOut lib _
  | transferIn => exact overwrites_transferIn lib nohash
  | accountHistory => exact overwrites_accountHistory lib
  | accountPending => exact overwrites_accountPending lib
  | lastDigest => exact overwrites_lastDigest lib
  | tpsQuery => exact overwrites_queryTps
  | setProperty => exact overwrites_setProperty lib nohash
  | queryProperty => exact overwrites_queryProperty lib
  | queryAllProperty => exact overwrites_queryAllProperty lib
  | give => exact overwrites_give lib
  | queryOnlineTx => exact overwrites_queryOnlineTx lib
  | accountDelete =>
    exact Triple.after fun _ => Triple.after fun _ => Triple.after fun _ => Triple.after fun _ =>
      overwrites_setResultOk
  | accountSnapDelete => exact Triple.after fun _ => Triple.after fun _ => overwrites_setResultOk
  | accountSync => exact Triple.after fun _ => Triple.after fun _ => overwrites_setResultOk
  | invalid => exact overwrites_setResultFail (by decide)

/-- `get_response` leaves the recorded error as it is. -/
theorem keeps_getResponse : Keeps (getResponse lib) := by
  have hjoin : Keeps (do
      let s ← Routine.read
      pure (lib.toStyledString s.jsRsp) : HandlerM Bytes) :=
    Keeps.bind (Triple.read fun _ h => h) fun _ => keeps_pure _
  refine Keeps.bind (Triple.read fun _ h => h) fun s => Triple.ite ?_ hjoin
  exact (overwrites_setResultFail (by decide)).keeps.bind fun _ => hjoin

end Actions

/-- A request without an effect, answered with the parse error. -/
structure RejectsUnparsed (lib : Externals) (w : World) (o : ServeOutcome) : Prop where
  noDispatch : dispatches o.trace = []
  noCommand : ∀ e ∈ o.trace, e.1.isCommand = false
  store : o.world.store = w.store
  answer : ∃ members, o.result = .ok (lib.toStyledString (.object members)) ∧
    o.state.jsRsp = .object members ∧ members.lookup (str "Result") = some (.int 0) ∧
    members.lookup (str "ErrCode") = some (.int XrpcReturn.serverJsonParseErr.code)

/-- A verdict that was overwritten is not the parse error. -/
theorem Overwritten.not_parseErr {members : List (Bytes × Value)} (h : Overwritten (.object members))
    (hresult : members.lookup (str "Result") = some (.int 0)) :
    members.lookup (str "ErrCode") ≠ some (.int XrpcReturn.serverJsonParseErr.code) := by
  intro hcode
  obtain ⟨_, ⟨⟩, hone | ⟨code, hne, hother⟩⟩ := h
  · rw [hresult] at hone
    cases hone
  · rw [hcode] at hother
    exact hne (XrpcReturn.code_injective (by simpa using hother.symm))

/-- Unless an election is requested, a served request ends with the response overwritten. -/
theorem overwrites_serve (lib : Externals) (root : Value)
    (hroot : ∀ action, stringOf lib root "action" = .ok action → actionOf action ≠ .triggerElect) :
    Triple (fun s => s.root = root) (handleRequest lib >>= fun _ => getResponse lib)
      fun _ s => Overwritten s.jsRsp := by
  have hread : Triple (fun s => s.root = root) (rootString lib "action")
      fun action _ => actionOf action ≠ .triggerElect := by
    intro s hs
    subst hs
    rw [wp_rootString]
    exact ⟨fun action haction => hroot action haction, fun _ _ => trivial⟩
  refine Triple.bind (hread.bind fun action => ?_) fun _ => keeps_getResponse lib
  intro s haction
  exact (Triple.after fun account => overwrites_runAction lib _ haction :
    Overwrites (do
      let nohash := noHash (← rootString lib "account")
      runAction lib nohash (actionOf action))) s trivial

/-- A requested election is held, or `account` cannot be converted. -/
theorem triggerElect_serve (lib : Externals) (w : World) (s : HandlerState) {action : Bytes}
    (haction : stringOf lib s.root "action" = .ok action) (hkind : actionOf action = .triggerElect) :
    let o := (handleRequest lib >>= fun _ => getResponse lib).run service s w
    (∃ e ∈ o.trace, e.1.isCommand = true) ∨ ∃ e, o.result = .error e := by
  refine (Routine.run_iff_wp service _ s w fun o =>
    (∃ e ∈ o.trace, e.1.isCommand = true) ∨ ∃ e, o.result = .error e).mpr ?_
  cases haccount : stringOf lib s.root "account" with
  | error e => simp [handleRequest, haction, haccount]
  | ok account =>
    simp [handleRequest, haction, haccount, hkind, runAction, triggerElect, getResponse, Op.isCommand]

/-- No body is rejected for not parsing, whatever the parser made of it and left in the root. -/
theorem serve_not_rejectsUnparsed (lib : Externals) (w : World) (req : Bytes) :
    ¬RejectsUnparsed lib w ((serve lib req).run service (HandlerState.initial lib) w) := by
  rw [serve_run]
  intro hrejects
  obtain ⟨-, hcommand, -, members, hresult, hrsp, hzero, hcode⟩ := hrejects
  by_cases helect : ∃ action, stringOf lib (lib.parse req).2 "action" = .ok action ∧
      actionOf action = .triggerElect
  · obtain ⟨action, haction, hkind⟩ := helect
    rcases triggerElect_serve lib w (constructed lib (lib.parse req)) haction hkind with
      ⟨e, he, htrue⟩ | ⟨e, he⟩
    · rw [hcommand e he] at htrue
      cases htrue
    · rw [hresult] at he
      cases he
  · have hoverwritten := (overwrites_serve lib (lib.parse req).2 (by simpa using helect)).of_run service
      (s := constructed lib (lib.parse req)) rfl w hresult
    rw [hrsp] at hoverwritten
    exact hoverwritten.not_parseErr hzero hcode

/-- A request to delete an account without its closing brace. -/
def unclosedDelete : Bytes := str "\x7b\"account\":\"T-alice\",\"action\":\"account_delete\""

/-- Parsing stops at the end of the unclosed request with its members already read. -/
def unclosedExternals : Externals :=
  { sampleExternals with
    parse := fun req =>
      if req = unclosedDelete then
        (false, .object [(str "account", .string (str "T-alice")),
          (str "action", .string (str "account_delete"))])
      else (false, .null) }

/-- The account is deleted, here and on the other nodes. -/
theorem unclosedDelete_not_rejected : (unclosedExternals.parse unclosedDelete).1 = false ∧
    ¬RejectsUnparsed unclosedExternals sampleWorld ((serve unclosedExternals unclosedDelete).run service
      (HandlerState.initial unclosedExternals) sampleWorld) := by
  refine ⟨by decide +kernel, fun hrejects => ?_⟩
  have hcommand : ∃ e ∈ ((serve unclosedExternals unclosedDelete).run service
      (HandlerState.initial unclosedExternals) sampleWorld).trace, e.1.isCommand = true := by
    decide +kernel
  obtain ⟨e, he, htrue⟩ := hcommand
  rw [hrejects.noCommand e he] at htrue
  cases htrue

end XrpcServer.Handler
