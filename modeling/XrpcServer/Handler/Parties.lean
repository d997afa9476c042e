import XrpcServer.Handler.Subjects

/-!
# The accounts the queries are about

Most queries read one account and ask about it. The history goes on to the parties of each
transaction: their names stand in the row object when the tags are looked up, the sender's
replaced by the origin's where the row shows a receipt.
-/

namespace XrpcServer.Handler

open XrpcServer.Text XrpcServer.Chain XrpcServer.Interaction XrpcServer.Json
open XrpcServer.Json (Value)

section History

variable {lib : Externals} {named party : Bytes → Prop} {s : HandlerState}

/-- If the item has an account in this member, it is a party. -/
def ShowsParty (lib : Externals) (party : Bytes → Prop) (field : String) (item : Value) : Prop :=
  ∀ account, stringOf lib item field = .ok account → party account

/-- A field that is set to a party shows one. -/
theorem showsParty_set {item item' : Value} {field : String} {account : Bytes} (hparty : party account)
    (h : item.set (str field) (.string account) = .ok item') : ShowsParty lib party field item' := by
  intro account' haccount
  rw [stringOf_set_self h] at haccount
  cases haccount
  exact hparty

/-- Setting another field changes nothing about it. -/
theorem ShowsParty.set {item item' value : Value} {field key : String} (h : ShowsParty lib party field item)
    (hne : field ≠ key) (hset : item.set (str key) value = .ok item') : ShowsParty lib party field item' := by
  intro account haccount
  rw [stringOf_set_of_ne hne hset] at haccount
  exact h account haccount

/-- A tag is looked up for a party, and only the tag is written into the item. -/
theorem wp_setTag_subjects {field tagField : String} (hne : field ≠ tagField) {userTag : UserTag}
    (hparty : ShowsParty lib party field s.jsItem) {ok : UserTag → HandlerState → Unit → Prop}
    (hok : ∀ userTag' s', (∀ field', field' ≠ tagField → ShowsParty lib party field' s.jsItem →
      ShowsParty lib party field' s'.jsItem) → ok userTag' s' ()) :
    (setTag lib field tagField userTag).wp (subjects lib named party) ok (fun _ _ _ => True) s () := by
  rw [setTag, Routine.wp_bind, wp_itemString]
  refine ⟨fun account _ => ?_, fun _ _ => trivial⟩
  cases userTag.lookup account with
  | some tag =>
    rw [Routine.wp_bind]
    refine wp_itemSet_of_set (fun item hitem => ?_) fun _ => trivial
    exact hok _ _ fun field' hfield' h => h.set hfield' hitem
  | none =>
    rw [Routine.wp_bind]
    refine wp_itemSet_of_set (fun item hitem => ?_) fun _ => trivial
    rw [Routine.wp_bind, wp_itemString]
    refine ⟨fun account haccount => ?_, fun _ _ => trivial⟩
    have hconcerns : (Op.getAccountSnapInfo account).Concerns named party := by
      intro account' heq
      cases heq
      exact Or.inr ⟨rfl, hparty.set hne hitem account haccount⟩
    rw [Routine.wp_bind]
    apply wp_asked hconcerns
    intro reply _
    have hjoin (tag : Bytes) (item' : Value) (hkept : ∀ field', field' ≠ tagField →
        ShowsParty lib party field' s.jsItem → ShowsParty lib party field' item') : (do
          let account ← itemString lib field
          pure ((account, tag) :: userTag) : HandlerM UserTag).wp (subjects lib named party) ok (fun _ _ _ => True)
            { s with jsItem := item' } () := by
      rw [Routine.wp_bind, wp_itemString]
      exact ⟨fun _ _ => hok _ _ hkept, fun _ _ => trivial⟩
    cases reply with
    | none => exact hjoin [] item fun field' hfield' h => h.set hfield' hitem
    | some accountSnap =>
      rw [Routine.wp_ite]
      refine ⟨fun _ => ?_, fun _ => hjoin _ item fun field' hfield' h => h.set hfield' hitem⟩
      rw [Routine.wp_bind]
      refine wp_itemSet_of_set (fun item' hitem' => ?_) fun _ => trivial
      exact hjoin _ item' fun field' hfield' h => (h.set hfield' hitem).set hfield' hitem'

/-- The tags of the two parties of a row. -/
theorem wp_setPropertyValue_subjects {userTag : UserTag} (hsource : ShowsParty lib party "source" s.jsItem)
    (hdestination : ShowsParty lib party "destination" s.jsItem) {ok : UserTag → HandlerState → Unit → Prop}
    (hok : ∀ userTag' s', ok userTag' s' ()) :
    (setPropertyValue lib userTag).wp (subjects lib named party) ok (fun _ _ _ => True) s () := by
  rw [setPropertyValue, Routine.wp_bind]
  apply wp_setTag_subjects (by decide) hsource
  intro sourceTag s₁ hkept
  rw [Routine.wp_bind]
  apply wp_setTag_subjects (by decide) (hkept _ (by decide) hdestination)
  intro destinationTag s₂ _
  rw [Routine.wp_bind]
  exact Routine.wp_of_uses_none _ still_setResultOk (fun _ _ => hok _ _) fun _ _ => trivial

/-- One row of the history. -/
theorem wp_historyRow_subjects {tx : Xtransaction} {userTag : UserTag} (hsource : party (sourceOf lib.types tx))
    (hreceiver : party tx.receiverAddr) {ok : UserTag → HandlerState → Unit → Prop}
    (hok : ∀ userTag' s', ok userTag' s' ()) :
    (historyRow lib tx userTag).wp (subjects lib named party) ok (fun _ _ _ => True) s () := by
  have hstill {m : HandlerM Unit} (hm : Still m) {next : Unit → HandlerM UserTag} {s' : HandlerState}
      (hnext : ∀ s', (next ()).wp (subjects lib named party) ok (fun _ _ _ => True) s' ()) :
      (m >>= next).wp (subjects lib named party) ok (fun _ _ _ => True) s' () := by
    rw [Routine.wp_bind]
    exact Routine.wp_of_uses_none _ hm (fun _ => hnext) fun _ _ => trivial
  -- after the amount, every branch ends with the same statements
  have hjoin (s' : HandlerState) (hshown : ShowsParty lib party "source" s'.jsItem)
      (hshown' : ShowsParty lib party "destination" s'.jsItem) : (do
        let userTag ← setPropertyValue lib userTag
        itemSet "tx_digest" (.string (hashToJsonString lib tx.txDigest))
        itemSet "last_digest" (.string (hashToJsonString lib tx.lastMsgDigest))
        itemSet "rpc_time" (.string (decimalText tx.edgeTimestamp.toNat))
        appendItem
        pure userTag).wp (subjects lib named party) ok (fun _ _ _ => True) s' () := by
    rw [Routine.wp_bind]
    apply wp_setPropertyValue_subjects hshown hshown'
    intro userTag' _
    apply hstill (still_itemSet _ _)
    intro _
    apply hstill (still_itemSet _ _)
    intro _
    apply hstill (still_itemSet _ _)
    intro _
    apply hstill still_appendItem
    exact hok userTag'
  apply hstill (still_itemSet _ _)
  intro s₁
  rw [Routine.wp_bind]
  refine wp_itemSet_of_set (fun item₂ hitem₂ => ?_) fun _ => trivial
  rw [Routine.wp_bind]
  refine wp_itemSet_of_set (fun item₃ hitem₃ => ?_) fun _ => trivial
  rw [Routine.wp_bind]
  refine wp_itemSet_of_set (fun item₄ hitem₄ => ?_) fun _ => trivial
  have hshown' : ShowsParty lib party "destination" item₄ :=
    (showsParty_set hreceiver hitem₃).set (by decide) hitem₄
  -- the sender is shown unless the member is assigned again
  have hshown (hsender : sourceOf lib.types tx = tx.senderAddr) : ShowsParty lib party "source" item₄ :=
    ((showsParty_set (hsender ▸ hsource) hitem₂).set (by decide) hitem₃).set (by decide) hitem₄
  rw [Routine.wp_ite]
  constructor
  · intro htype
    have hsender : sourceOf lib.types tx = tx.senderAddr := if_pos htype
    rw [Routine.wp_bind]
    refine wp_itemSet_of_set (fun item₅ hitem₅ => ?_) fun _ => trivial
    exact hjoin _ ((hshown hsender).set (by decide) hitem₅) (hshown'.set (by decide) hitem₅)
  · intro htype
    have hrest : sourceOf lib.types tx =
        if tx.transactionType = lib.types.transferAssetIn then tx.originSender else tx.senderAddr := if_neg htype
    rw [Routine.wp_ite]
    constructor
    · intro htransfer
      rw [hrest, if_pos htransfer] at hsource
      rw [Routine.wp_bind]
      refine wp_itemSet_of_set (fun item₅ hitem₅ => ?_) fun _ => trivial
      rw [Routine.wp_bind]
      refine wp_itemSet_of_set (fun item₆ hitem₆ => ?_) fun _ => trivial
      exact hjoin _ (showsParty_set hsource hitem₆) ((hshown'.set (by decide) hitem₅).set (by decide) hitem₆)
    · intro htransfer
      exact hjoin _ (hshown (hrest.trans (if_neg htransfer))) hshown'

/-- The whole loop. -/
theorem minds_historyLoop {startNum endNum : ℤ} {settleList : List Xtransaction} {num : ℤ} {userTag : UserTag}
    (hparties : ∀ tx ∈ settleList, party (sourceOf lib.types tx) ∧ party tx.receiverAddr) :
    Minds lib named party (historyLoop lib startNum endNum settleList num userTag) s := by
  induction settleList generalizing num userTag s with
  | nil => trivial
  | cons tx rest ih =>
    have hrest : ∀ tx ∈ rest, party (sourceOf lib.types tx) ∧ party tx.receiverAddr :=
      fun tx htx => hparties tx (List.mem_cons_of_mem _ htx)
    apply minds_ite
    · exact fun _ => ih hrest
    intro _
    apply minds_ite
    · intro _
      have hparty := hparties tx List.mem_cons_self
      exact minds_bind (wp_historyRow_subjects hparty.1 hparty.2 fun _ _ => ih hrest)
    · exact fun _ => ih hrest

end History

section Queries

variable {lib : Externals} {party : Bytes → Prop} {s : HandlerState}

/-- The one question is about the account of the request. -/
theorem AsksOnce.minds {op : Bytes → Op} {m : HandlerM Unit} (h : AsksOnce lib op m)
    (hop : ∀ account, (op account).account = some account) : Minds lib (Named lib s.root) party m s := by
  obtain ⟨next, hnext, rfl⟩ := h
  apply minds_rootString
  intro account haccount
  apply minds_perform (Op.concerns_of_named (hop account) (.account haccount))
  exact fun reply _ => (hnext account reply).minds

/-- `account_balance` concerns the account it is asked for. -/
theorem minds_accountBalance : Minds lib (Named lib s.root) party (accountBalance lib) s := by
  apply minds_rootString
  intro account haccount
  apply minds_rootString
  intro assetKey _
  apply minds_perform (Op.concerns_of_named rfl (.account haccount))
  intro (ret, balance) _
  apply minds_ite fun _ => (still_setResultFail _).minds
  intro _
  apply minds_ite fun _ => (still_setResultFail _).minds
  intro _
  exact still_setResultOk.minds_then fun _ _ => (still_rspSet _ _).minds

/-- So does `account_info`. -/
theorem minds_accountInfo : Minds lib (Named lib s.root) party (accountInfo lib) s := by
  apply minds_rootString
  intro account haccount
  have hnamed : Named lib s.root account := .account haccount
  apply minds_perform (Op.concerns_of_named rfl hnamed)
  intro reply _
  cases reply with
  | none => exact (still_setResultFail _).minds
  | some accountSnap =>
    apply still_setResultOk.minds_then
    intro _ _
    apply (still_rspSet _ _).minds_then
    intro _ _
    apply (still_rspSet _ _).minds_then
    intro _ _
    apply (still_rspSet _ _).minds_then
    intro _ _
    apply (still_rspSet _ _).minds_then
    intro _ _
    apply (still_rspSet _ _).minds_then
    intro _ _
    apply (still_rspSet _ _).minds_then
    intro _ _
    apply minds_perform (Op.concerns_of_named rfl hnamed)
    intro settleList _
    apply minds_ite fun _ => (still_rspSet _ _).minds
    intro _
    apply minds_perform (Op.concerns_of_named rfl hnamed)
    intro receiveList _
    exact minds_ite (fun _ => (still_rspSet _ _).minds) fun _ => trivial

/-- `account_history` concerns the account and the other parties of its units. -/
theorem minds_accountHistory : Minds lib (Named lib s.root) party (accountHistory lib) s := by
  apply minds_rootString
  intro account haccount
  have hnamed : Named lib s.root account := .account haccount
  apply minds_rootInt
  intro count
  apply minds_rootInt
  intro perPage
  apply minds_perform (Op.concerns_of_named rfl hnamed)
  intro settleList hparties
  apply still_setResultOk.minds_then
  intro _ _
  apply (minds_historyLoop (hparties hnamed)).then_still
  intro num
  exact Routine.Uses.bind still_rspSetBlocks fun _ => still_rspSet _ _

/-- `account_pending` concerns the account. -/
theorem minds_accountPending : Minds lib (Named lib s.root) party (accountPending lib) s := by
  apply minds_rootString
  intro account haccount
  apply minds_rootInt
  intro count
  apply minds_perform (Op.concerns_of_named rfl (.account haccount))
  intro receiveList _
  apply still_setResultOk.minds_then
  intro _ _
  apply (still_pendingLoop lib _ _ _).minds_then
  intro _ _
  exact still_rspSetBlocks.minds_then fun _ _ => (still_rspSet _ _).minds

/-- `query_online_tx` asks for no account. -/
theorem minds_queryOnlineTx : Minds lib (Named lib s.root) party (queryOnlineTx lib) s := by
  apply minds_rootInt
  intro count
  apply minds_rootInt
  intro perPage
  apply minds_perform (Op.concerns_of_none rfl)
  intro reply _
  cases reply with
  | none => exact (still_setResultFail _).minds
  | some txList =>
    apply (still_onlineLoop lib _ _ _ _).minds_then
    intro _ _
    apply still_rspSetBlocks.minds_then
    intro _ _
    exact (still_rspSet _ _).minds_then fun _ _ => still_setResultOk.minds

/-- `account_delete` concerns the account that is deleted. -/
theorem minds_accountDelete : Minds lib (Named lib s.root) party (accountDelete lib) s := by
  apply minds_rootString
  intro account haccount
  apply minds_perform (Op.concerns_of_named rfl (.account haccount))
  intro _ _
  apply minds_rootString
  intro account haccount
  apply minds_perform (Op.concerns_of_named rfl (.account haccount))
  exact fun _ _ => still_setResultOk.minds

end Queries

section Requests

variable {lib : Externals} {party : Bytes → Prop} {s : HandlerState}

/-- Every action minds the accounts of its request. -/
theorem minds_runAction {action : Bytes} (haction : stringOf lib s.root "action" = .ok action) (nohash : Bool) :
    Minds lib (Named lib s.root) party (runAction lib nohash (actionOf action)) s := by
  cases hkind : actionOf action with
  | accountBalance => exact minds_accountBalance
  | accountCreate => exact minds_accountCreate
  | accountInfo => exact minds_accountInfo
  | transferOut => exact minds_rootString fun _ _ => minds_transferOut
  | transferIn => exact minds_transferIn
  | accountHistory => exact minds_accountHistory
  | accountPending => exact minds_accountPending
  | lastDigest => exact (asksOnce_lastDigest lib).minds fun _ => rfl
  | tpsQuery =>
    apply minds_perform (Op.concerns_of_none rfl)
    intro result _
    apply minds_ite fun _ => (still_setResultFail _).minds
    exact fun _ => Still.minds_then (Routine.Uses.update _) fun _ _ => still_setResultOk.minds
  | setProperty => exact minds_setProperty
  | queryProperty => exact (asksOnce_queryProperty lib).minds fun _ => rfl
  | queryAllProperty => exact (asksOnce_queryAllProperty lib).minds fun _ => rfl
  | give => exact minds_give haction hkind
  | queryOnlineTx => exact minds_queryOnlineTx
  | accountDelete => exact minds_accountDelete
  | accountSnapDelete => exact (asksOnce_accountSnapDelete lib).minds fun _ => rfl
  | accountSync => exact (asksOnce_accountSync lib).minds fun _ => rfl
  | triggerElect =>
    apply Still.minds_then Routine.Uses.read
    intro s' _
    exact minds_perform (Op.concerns_of_none rfl) fun _ _ => Still.minds (Routine.Uses.update _)
  | invalid => exact (still_setResultFail _).minds

/-- A request asks about the accounts it names, and looks up the tags of the parties it is shown. -/
theorem serve_minds (req : Bytes) :
    Minds lib (Named lib (lib.parse req).2) party (serve lib req) (HandlerState.initial lib) := by
  rw [serve]
  apply minds_bind
  rw [Routine.wp, construct_run]
  change Minds lib _ party (handleRequest lib >>= fun _ => getResponse lib) (constructed lib (lib.parse req))
  apply Minds.then_still _ fun _ => still_getResponse lib
  change Minds lib (Named lib (constructed lib (lib.parse req)).root) party _ _
  apply minds_rootString
  intro action haction
  apply minds_rootString
  intro account _
  exact minds_runAction haction _

end Requests

end XrpcServer.Handler
