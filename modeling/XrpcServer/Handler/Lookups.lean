import XrpcServer.Handler.Questions
import XrpcServer.Interaction.Observation

/-!
# The lookups of the queries

A query asks for one thing, or for a few of different kinds. Only the history may ask for as many
accounts as it has rows: its tag cache holds every account it has looked up, under the name it was
looked up by, so that none is looked up again.
-/

namespace XrpcServer.Handler

open XrpcServer.Text XrpcServer.Chain XrpcServer.Interaction XrpcServer.Json
open XrpcServer.Json (Value)

universe u

section Tags

variable {lib : Externals} {userTag : UserTag} {t : List HandlerEvent}

/-- Assigning a member leaves the others as they are. -/
theorem stringOf_set_of_ne {item item' value : Value} {key key' : String} (hne : key ≠ key')
    (h : item.set (str key') value = .ok item') : stringOf lib item' key = stringOf lib item key := by
  cases hfields : item.fields with
  | none => simp [Value.set, hfields] at h
  | some members =>
    simp only [Value.set, hfields, Except.ok.injEq] at h
    have hkey : str key ≠ str key' := fun heq => hne (str_inj.mp heq)
    simp [← h, stringOf, Value.get, hfields, Value.member, lookup_insertMember, hkey]

/-- The member assigned is read back. -/
theorem stringOf_set_self {item item' : Value} {key : String} {text : Bytes}
    (h : item.set (str key) (.string text) = .ok item') : stringOf lib item' key = .ok text := by
  cases hfields : item.fields with
  | none => simp [Value.set, hfields] at h
  | some members =>
    simp only [Value.set, hfields, Except.ok.injEq] at h
    simp only [← h, stringOf, Value.get, Value.fields_object, Value.member, lookup_insertMember, if_true]
    rfl

/-- The accounts that were looked up are in the cache, and none was looked up twice. -/
def LookedUp (userTag : UserTag) (t : List HandlerEvent) : Prop :=
  Ordered Op.Precedes (fun op => ∃ account, op = .getAccountSnapInfo account ∧ (userTag.lookup account).isSome) t

/-- Accounts were looked up, none of them twice. -/
def Lookups (t : List HandlerEvent) : Prop := Ordered Op.Precedes (fun op => op.kind ∈ [.getAccountSnapInfo]) t

/-- What has filled the cache are lookups. -/
theorem LookedUp.lookups (h : LookedUp userTag t) : Lookups t := by
  refine ⟨fun e he => ?_, h.2⟩
  obtain ⟨account, heq, -⟩ := h.1 e he
  rw [heq]
  exact List.mem_singleton_self _

/-- An account that the cache does not hold is looked up and put into it. -/
theorem LookedUp.lookup (h : LookedUp userTag t) {account : Bytes} (hnew : userTag.lookup account = none)
    (reply : Option XaccountSnap) (tag : Bytes) :
    LookedUp ((account, tag) :: userTag) (t ++ [⟨.getAccountSnapInfo account, reply⟩]) := by
  have hother : ∀ account', (userTag.lookup account').isSome → account' ≠ account := by
    intro account' hsome heq
    rw [heq, hnew] at hsome
    cases hsome
  apply And.intro
  · intro e he
    rcases List.mem_append.mp he with he | he
    · obtain ⟨account', heq, hsome⟩ := h.1 e he
      refine ⟨account', heq, ?_⟩
      rw [lookup_cons_ite, if_neg (hother account' hsome)]
      exact hsome
    · rw [List.mem_singleton.mp he]
      exact ⟨account, rfl, by simp⟩
  · refine List.pairwise_append.mpr ⟨h.2, List.pairwise_singleton _ _, ?_⟩
    intro e he e' he'
    obtain ⟨account', heq, hsome⟩ := h.1 e he
    rw [heq, List.mem_singleton.mp he']
    apply And.intro
    · intro hsame
      exact absurd (Op.getAccountSnapInfo.inj hsame) (hother account' hsome)
    · exact fun hdeletes => absurd hdeletes Bool.false_ne_true

/-- A statement that asks nothing leaves the lookups as they are. -/
theorem Still.wp_lookedUp {α : Type} {m : HandlerM α} (hm : Still m) (h : LookedUp userTag t)
    {ok : α → HandlerState → List HandlerEvent → Prop} {s : HandlerState} (hok : ∀ a s', ok a s' t) :
    m.wp transcribing ok (fun _ _ => Lookups) s t :=
  Routine.wp_of_uses_none transcribing hm hok fun _ _ => h.lookups

/-- Reading a member of the row object, at either exit. -/
theorem wp_itemString {Config : Type u} {spec : OpSpec Op Reply Config} {config : Config} {key : String}
    {ok : Bytes → HandlerState → Config → Prop} {err : Exc → HandlerState → Config → Prop} {s : HandlerState} :
    (itemString lib key).wp spec ok err s config ↔
      (∀ a, stringOf lib s.jsItem key = .ok a → ok a s config) ∧
        ∀ e, stringOf lib s.jsItem key = .error e → err e s config := by
  simp [itemString]

/-- Assigning a member of the row object, which may not be an object. -/
theorem wp_itemSet_of_set {Config : Type u} {spec : OpSpec Op Reply Config} {config : Config} {key : String}
    {value : Value} {ok : Unit → HandlerState → Config → Prop} {err : Exc → HandlerState → Config → Prop}
    {s : HandlerState}
    (hok : ∀ item, s.jsItem.set (str key) value = .ok item → ok () { s with jsItem := item } config)
    (herr : ∀ e, err e s config) : (itemSet key value).wp spec ok err s config := by
  simp only [itemSet, Routine.wp_bind, Routine.wp_read, Routine.wp_ofExcept, Routine.wp_update]
  refine ⟨fun item hitem => hok item ?_, fun e _ => herr e⟩
  cases hset : s.jsItem.set (str key) value with
  | ok item' =>
    rw [hset] at hitem
    cases hitem
    rfl
  | error e =>
    rw [hset] at hitem
    cases hitem

/-- Whatever is replied, a tag is taken from the cache, or its account is looked up and remembered. -/
theorem wp_setTag_lookedUp {field tagField : String} (hne : field ≠ tagField) (h : LookedUp userTag t)
    {ok : UserTag → HandlerState → List HandlerEvent → Prop} {s : HandlerState}
    (hok : ∀ userTag' s' t', LookedUp userTag' t' → ok userTag' s' t') :
    (setTag lib field tagField userTag).wp transcribing ok (fun _ _ => Lookups) s t := by
  rw [setTag, Routine.wp_bind, wp_itemString]
  refine ⟨fun account haccount => ?_, fun _ _ => h.lookups⟩
  cases hcached : userTag.lookup account with
  | some tag =>
    rw [Routine.wp_bind]
    exact (still_itemSet _ _).wp_lookedUp h fun _ s' => hok userTag s' t h
  | none =>
    rw [Routine.wp_bind]
    refine wp_itemSet_of_set (fun item hitem => ?_) fun _ => h.lookups
    have hread : stringOf lib item field = .ok account := (stringOf_set_of_ne hne hitem).trans haccount
    rw [Routine.wp_bind, wp_itemString]
    refine ⟨fun account' haccount' => ?_, fun _ _ => h.lookups⟩
    obtain rfl : account = account' := Except.ok.inj (hread.symm.trans haccount')
    rw [Routine.wp_bind, Routine.wp_perform]
    intro reply
    have hlooked := h.lookup hcached reply
    -- the name it is remembered by is read from the same member again
    have hjoin : ∀ (tag : Bytes) (item' : Value), stringOf lib item' field = .ok account → (do
        let account ← itemString lib field
        pure ((account, tag) :: userTag) : HandlerM UserTag).wp transcribing ok (fun _ _ => Lookups)
          { s with jsItem := item' } (t ++ [⟨.getAccountSnapInfo account, reply⟩]) := by
      intro tag item' hread'
      rw [Routine.wp_bind, wp_itemString]
      refine ⟨fun account' haccount' => ?_, fun _ _ => (hlooked tag).lookups⟩
      obtain rfl : account = account' := Except.ok.inj (hread'.symm.trans haccount')
      exact hok _ _ _ (hlooked tag)
    cases reply with
    | none => exact hjoin [] item hread
    | some accountSnap =>
      rw [Routine.wp_ite]
      refine ⟨fun _ => ?_, fun _ => hjoin _ item hread⟩
      rw [Routine.wp_bind]
      refine wp_itemSet_of_set (fun item' hitem' => ?_) fun _ => (hlooked []).lookups
      exact hjoin _ item' ((stringOf_set_of_ne hne hitem').trans hread)

/-- Both tags of a row. -/
theorem wp_setPropertyValue_lookedUp (h : LookedUp userTag t)
    {ok : UserTag → HandlerState → List HandlerEvent → Prop} {s : HandlerState}
    (hok : ∀ userTag' s' t', LookedUp userTag' t' → ok userTag' s' t') :
    (setPropertyValue lib userTag).wp transcribing ok (fun _ _ => Lookups) s t := by
  rw [setPropertyValue, Routine.wp_bind]
  apply wp_setTag_lookedUp (by decide) h
  intro sourceTag s' t' hsource
  rw [Routine.wp_bind]
  apply wp_setTag_lookedUp (by decide) hsource
  intro destinationTag s'' t'' hdestination
  rw [Routine.wp_bind]
  exact still_setResultOk.wp_lookedUp hdestination fun _ last => hok destinationTag last t'' hdestination

/-- One row of the history. -/
theorem wp_historyRow_lookedUp (tx : Xtransaction) (h : LookedUp userTag t)
    {ok : UserTag → HandlerState → List HandlerEvent → Prop} {s : HandlerState}
    (hok : ∀ userTag' s' t', LookedUp userTag' t' → ok userTag' s' t') :
    (historyRow lib tx userTag).wp transcribing ok (fun _ _ => Lookups) s t := by
  have hset {userTag : UserTag} {t : List HandlerEvent} (h : LookedUp userTag t) (key : String) (value : Value)
      {m : HandlerM UserTag} (hnext : ∀ s, m.wp transcribing ok (fun _ _ => Lookups) s t) (s : HandlerState) :
      (itemSet key value >>= fun _ => m).wp transcribing ok (fun _ _ => Lookups) s t := by
    rw [Routine.wp_bind]
    exact (still_itemSet key value).wp_lookedUp h fun _ s' => hnext s'
  -- after the amount, every branch ends with the same statements
  have hjoin : ∀ s, (do
      let userTag ← setPropertyValue lib userTag
      itemSet "tx_digest" (.string (hashToJsonString lib tx.txDigest))
      itemSet "last_digest" (.string (hashToJsonString lib tx.lastMsgDigest))
      itemSet "rpc_time" (.string (decimalText tx.edgeTimestamp.toNat))
      appendItem
      pure userTag).wp transcribing ok (fun _ _ => Lookups) s t := by
    intro s
    rw [Routine.wp_bind]
    apply wp_setPropertyValue_lookedUp h
    intro userTag' s' t' h'
    refine hset h' _ _ (hset h' _ _ (hset h' _ _ fun last => ?_)) s'
    rw [Routine.wp_bind]
    exact still_appendItem.wp_lookedUp h' fun _ last => hok userTag' last t' h'
  refine hset h _ _ (hset h _ _ (hset h _ _ (hset h _ _ fun typed => ?_))) s
  rw [Routine.wp_ite]
  refine ⟨fun _ => hset h _ _ hjoin typed, fun _ => ?_⟩
  rw [Routine.wp_ite]
  exact ⟨fun _ => hset h _ _ (hset h _ _ hjoin) typed, fun _ => hjoin typed⟩

/-- The whole loop. -/
theorem wp_historyLoop_lookedUp (startNum endNum : ℤ) (settleList : List Xtransaction) (num : ℤ)
    (h : LookedUp userTag t) (s : HandlerState) :
    (historyLoop lib startNum endNum settleList num userTag).wp transcribing (fun _ _ => Lookups)
      (fun _ _ => Lookups) s t := by
  induction settleList generalizing num userTag s t with
  | nil => exact h.lookups
  | cons tx rest ih =>
    rw [historyLoop, Routine.wp_ite]
    refine ⟨fun _ => ih num h s, fun _ => ?_⟩
    rw [Routine.wp_ite]
    refine ⟨fun _ => ?_, fun _ => ih _ h s⟩
    rw [Routine.wp_bind]
    apply wp_historyRow_lookedUp tx h
    intro userTag' s' t' h'
    exact ih _ h' s'

end Tags

/-- The account is read, one question is asked about it, and the rest needs nobody. -/
def AsksOnce (lib : Externals) (op : Bytes → Op) (m : HandlerM Unit) : Prop :=
  ∃ next : (account : Bytes) → Reply (op account) → HandlerM Unit, (∀ account reply, Still (next account reply)) ∧
    m = rootString lib "account" >>= fun account => Routine.perform (op account) >>= next account

/-- What asks once asks one question. -/
theorem AsksOnce.asks {lib : Externals} {op : Bytes → Op} {m : HandlerM Unit} (h : AsksOnce lib op m)
    {kind : OpKind} (hkind : ∀ account, (op account).kind = kind) : Asks m [kind] := by
  obtain ⟨next, hnext, rfl⟩ := h
  apply (still_rootString lib _).asks_then
  intro account
  exact (asks_perform (hkind account ▸ List.mem_singleton_self _)).then_still (hnext account)

section Queries

variable (lib : Externals)

/-- The history looks no account up twice. -/
theorem asks_historyLoop (startNum endNum : ℤ) (settleList : List Xtransaction) (num : ℤ) :
    Asks (historyLoop lib startNum endNum settleList num []) [.getAccountSnapInfo] :=
  Routine.InOrder.of_wp fun s => wp_historyLoop_lookedUp startNum endNum settleList num ordered_nil s

/-- `account_history` asks for the units, then for the snapshots its rows need. -/
theorem asks_accountHistory : Asks (accountHistory lib) [.getSettleBlocks, .getAccountSnapInfo] := by
  apply (still_rootString lib _).asks_then
  intro account
  apply (still_rootInt _).asks_then
  intro count
  apply (still_rootInt _).asks_then
  intro perPage
  apply asks_call .getSettleBlocks rfl _ (by decide)
  intro settleList
  apply still_setResultOk.asks_then
  intro _
  apply (asks_historyLoop lib _ _ _ _).then_still
  intro num
  exact Routine.Uses.bind still_rspSetBlocks fun _ => still_rspSet _ _

/-- The loop over what waits performs nothing. -/
theorem still_pendingLoop (count : ℤ) (receiveList : List Xtransaction) (num : ℤ) :
    Still (pendingLoop lib count receiveList num) := by
  induction receiveList generalizing num with
  | nil => exact Routine.Uses.pure _
  | cons tx rest ih =>
    apply Routine.Uses.ite (Routine.Uses.pure _)
    apply Routine.Uses.bind (still_itemSet _ _)
    intro _
    apply Routine.Uses.bind (still_itemSet _ _)
    intro _
    apply Routine.Uses.bind (still_itemSet _ _)
    intro _
    apply Routine.Uses.bind (still_itemSet _ _)
    intro _
    exact Routine.Uses.bind still_appendItem fun _ => ih _

/-- Nor does the loop over the transactions. -/
theorem still_onlineLoop (startNum endNum : ℤ) (txList : List Xtransaction) (num : ℤ) :
    Still (onlineLoop lib startNum endNum txList num) := by
  induction txList generalizing num with
  | nil => exact Routine.Uses.pure _
  | cons tx rest ih =>
    apply Routine.Uses.ite _ (ih _)
    apply Routine.Uses.bind (still_itemSet _ _)
    intro _
    apply Routine.Uses.bind (still_itemSet _ _)
    intro _
    apply Routine.Uses.bind (still_itemSet _ _)
    intro _
    apply Routine.Uses.bind (still_itemSet _ _)
    intro _
    apply Routine.Uses.bind (still_itemSet _ _)
    intro _
    apply Routine.Uses.bind (still_itemSet _ _)
    intro _
    apply Routine.Uses.bind (still_itemSet _ _)
    intro _
    apply Routine.Uses.bind (still_itemSet _ _)
    intro _
    exact Routine.Uses.bind still_appendItem fun _ => ih _

/-- `account_balance` asks for one balance. -/
theorem asks_accountBalance : Asks (accountBalance lib) [.getAccountBalance] := by
  apply (still_rootString lib _).asks_then
  intro account
  apply (still_rootString lib _).asks_then
  intro assetKey
  apply (asks_perform (List.mem_singleton_self _)).then_still
  intro (ret, balance)
  apply Routine.Uses.ite (still_setResultFail _)
  apply Routine.Uses.ite (still_setResultFail _)
  exact Routine.Uses.bind still_setResultOk fun _ => still_rspSet _ _

/-- `account_info` asks for the snapshot, then for what waits for the account. -/
theorem asks_accountInfo : Asks (accountInfo lib) [.getAccountSnapInfo, .getSettleBlocks, .getReceiveBlocks] := by
  apply (still_rootString lib _).asks_then
  intro account
  apply asks_call .getAccountSnapInfo rfl _ (by decide)
  intro reply
  cases reply with
  | none => exact (still_setResultFail _).asks
  | some accountSnap =>
    apply still_setResultOk.asks_then
    intro _
    apply (still_rspSet _ _).asks_then
    intro _
    apply (still_rspSet _ _).asks_then
    intro _
    apply (still_rspSet _ _).asks_then
    intro _
    apply (still_rspSet _ _).asks_then
    intro _
    apply (still_rspSet _ _).asks_then
    intro _
    apply (still_rspSet _ _).asks_then
    intro _
    apply asks_call .getSettleBlocks rfl _ (by decide)
    intro settleList
    apply Asks.ite (still_rspSet _ _).asks
    apply (asks_perform (List.mem_singleton_self _)).then_still
    intro receiveList
    exact Routine.Uses.ite (still_rspSet _ _) (Routine.Uses.pure _)

/-- `last_digest` asks for the snapshot. -/
theorem asksOnce_lastDigest : AsksOnce lib .getAccountSnapInfo (lastDigest lib) := by
  refine ⟨_, fun account reply => ?_, rfl⟩
  cases reply with
  | none => exact still_setResultFail _
  | some localAccount => exact Routine.Uses.bind still_setResultOk fun _ => still_rspSet _ _

/-- `account_pending` asks for what waits for the account. -/
theorem asks_accountPending : Asks (accountPending lib) [.getReceiveBlocks] := by
  apply (still_rootString lib _).asks_then
  intro account
  apply (still_rootInt _).asks_then
  intro count
  apply (asks_perform (List.mem_singleton_self _)).then_still
  intro receiveList
  apply Routine.Uses.bind still_setResultOk
  intro _
  apply Routine.Uses.bind (still_pendingLoop lib _ _ _)
  intro _
  exact Routine.Uses.bind still_rspSetBlocks fun _ => still_rspSet _ _

/-- `query_online_tx` asks for the transactions. -/
theorem asks_queryOnlineTx : Asks (queryOnlineTx lib) [.queryOnlineTx] := by
  apply (still_rootInt _).asks_then
  intro count
  apply (still_rootInt _).asks_then
  intro perPage
  apply (asks_perform (List.mem_singleton_self _)).then_still
  intro reply
  cases reply with
  | none => exact still_setResultFail _
  | some txList =>
    apply Routine.Uses.bind (still_onlineLoop lib _ _ _ _)
    intro _
    apply Routine.Uses.bind still_rspSetBlocks
    intro _
    exact Routine.Uses.bind (still_rspSet _ _) fun _ => still_setResultOk

/-- `query_tps` asks for the statistic. -/
theorem asks_queryTps : Asks queryTps [.getStatInfo] := by
  apply (asks_perform (List.mem_singleton_self _)).then_still
  intro result
  apply Routine.Uses.ite (still_setResultFail _)
  exact Routine.Uses.bind (Routine.Uses.update _) fun _ => still_setResultOk

/-- `query_property` asks for the snapshot. -/
theorem asksOnce_queryProperty : AsksOnce lib .getAccountSnapInfo (queryProperty lib) := by
  refine ⟨_, fun account reply => ?_, rfl⟩
  cases reply with
  | none => exact still_setResultFail _
  | some accountSnap =>
    apply Routine.Uses.bind (still_rootString lib _)
    intro propertyKey
    exact Routine.Uses.ite (Routine.Uses.bind (still_rspSet _ _) fun _ => still_setResultOk) (still_setResultFail _)

/-- So does `query_all_property`. -/
theorem asksOnce_queryAllProperty : AsksOnce lib .getAccountSnapInfo (queryAllProperty lib) := by
  refine ⟨_, fun account reply => ?_, rfl⟩
  cases reply with
  | none => exact still_setResultFail _
  | some accountSnap => exact Routine.Uses.bind (still_copyProperties _) fun _ => still_setResultOk

end Queries

section Commands

variable (lib : Externals)

/-- The one command of two operations asks the store nothing after the deletion. -/
theorem asks_accountDelete : Asks (accountDelete lib) [.deleteAccount, .syncAccountDelete] := by
  apply (still_rootString lib _).asks_then
  intro account
  apply asks_call .deleteAccount rfl _ (by decide)
  intro _
  apply (still_rootString lib _).asks_then
  intro account
  exact (asks_perform (List.mem_singleton_self _)).then_still fun _ => still_setResultOk

/-- `account_snap_delete` deletes one snapshot. -/
theorem asksOnce_accountSnapDelete : AsksOnce lib .accountSnapDelete (accountSnapDelete lib) :=
  ⟨_, fun _ _ => still_setResultOk, rfl⟩

/-- `account_sync` starts one synchronisation. -/
theorem asksOnce_accountSync : AsksOnce lib .syncAccountSync (accountSync lib) :=
  ⟨_, fun _ _ => still_setResultOk, rfl⟩

/-- `trigger_elect` holds one election. -/
theorem asks_triggerElect : Asks triggerElect [.triggerElect] := by
  apply Still.asks_then Routine.Uses.read
  intro s
  exact (asks_perform (List.mem_singleton_self _)).then_still fun _ => Routine.Uses.update _

/-- Every action keeps the order. -/
theorem asks_runAction (nohash : Bool) (action : Action) : ∃ kinds, Asks (runAction lib nohash action) kinds := by
  cases action with
  | accountBalance => exact ⟨_, asks_accountBalance lib⟩
  | accountCreate => exact ⟨_, asks_accountCreate lib nohash⟩
  | accountInfo => exact ⟨_, asks_accountInfo lib⟩
  | transferOut => exact ⟨_, (still_rootString lib _).asks_then fun source => asks_transferOut lib (noHash source)⟩
  | transferIn => exact ⟨_, asks_transferIn lib nohash⟩
  | accountHistory => exact ⟨_, asks_accountHistory lib⟩
  | accountPending => exact ⟨_, asks_accountPending lib⟩
  | lastDigest => exact ⟨_, (asksOnce_lastDigest lib).asks fun _ => rfl⟩
  | tpsQuery => exact ⟨_, asks_queryTps⟩
  | setProperty => exact ⟨_, asks_setProperty lib nohash⟩
  | queryProperty => exact ⟨_, (asksOnce_queryProperty lib).asks fun _ => rfl⟩
  | queryAllProperty => exact ⟨_, (asksOnce_queryAllProperty lib).asks fun _ => rfl⟩
  | give => exact ⟨_, asks_give lib⟩
  | queryOnlineTx => exact ⟨_, asks_queryOnlineTx lib⟩
  | accountDelete => exact ⟨_, asks_accountDelete lib⟩
  | accountSnapDelete => exact ⟨_, (asksOnce_accountSnapDelete lib).asks fun _ => rfl⟩
  | accountSync => exact ⟨_, (asksOnce_accountSync lib).asks fun _ => rfl⟩
  | triggerElect => exact ⟨_, asks_triggerElect⟩
  | invalid => exact ⟨[], (still_setResultFail _).asks⟩

/-- Whatever is replied, a request asks no question twice and nothing of the store after a deletion. -/
theorem serve_inOrder (req : Bytes) : (serve lib req).InOrder Op.Precedes fun _ => True := by
  have haction : ∀ nohash action, (runAction lib nohash action).InOrder Op.Precedes fun _ => True := by
    intro nohash action
    obtain ⟨kinds, hasks⟩ := asks_runAction lib nohash action
    exact Routine.InOrder.mono hasks fun _ _ => trivial
  apply Routine.InOrder.after_none (still_construct _)
  intro _
  apply Routine.InOrder.before_none _ fun _ => still_getResponse lib
  apply Routine.InOrder.after_none (still_rootString lib _)
  intro action
  apply Routine.InOrder.after_none (still_rootString lib _)
  intro account
  exact haction _ _

end Commands

end XrpcServer.Handler
