import XrpcServer.Handler.Rules
import XrpcServer.Handler.Rows

/-!
# The footprint of queries and node commands

No action besides the five transaction actions contains a dispatch, a digest or a signature:
whatever the replies, their programs only perform inert operations, and read no string past its
end. The loops of the list queries are followed by induction on the list.
-/

namespace XrpcServer.Handler

open XrpcServer.Text XrpcServer.Chain XrpcServer.Interaction XrpcServer.Json
open XrpcServer.Json (Value)

/-- Only inert operations, whatever the replies. -/
def Inert {α : Type} (m : HandlerM α) : Prop := m.Uses fun op => op.isInert

/-- Only plain operations, whatever the replies. -/
def Plain {α : Type} (m : HandlerM α) : Prop := m.Uses fun op => op.isPlain

/-- Neither a digest nor a read past the end of a string, whatever the replies. -/
def Calm {α : Type} (m : HandlerM α) : Prop := m.Uses fun op => op.isCalm

/-- A plain operation is inert and calm. -/
theorem Op.of_isPlain {op : Op} (h : op.isPlain) : op.isInert ∧ op.isCalm := by
  simpa [Op.isPlain] using h

/-- Plain code proposes nothing and touches no server key. -/
theorem Plain.inert {α : Type} {m : HandlerM α} (h : Plain m) : Inert m :=
  Routine.Uses.mono (fun _ hop => (Op.of_isPlain hop).1) h

/-- Plain code takes no digest and reads nothing behind a string. -/
theorem Plain.calm {α : Type} {m : HandlerM α} (h : Plain m) : Calm m :=
  Routine.Uses.mono (fun _ hop => (Op.of_isPlain hop).2) h

/-- Returning performs nothing. -/
theorem plain_pure {α : Type} (a : α) : Plain (pure a : HandlerM α) := Routine.Uses.pure a

/-- Writing members performs nothing. -/
theorem plain_update (f : HandlerState → HandlerState) : Plain (Routine.update f : HandlerM Unit) :=
  Routine.Uses.update f

/-- A plain operation is plain code. -/
theorem plain_perform (op : Op) (h : op.isPlain) : Plain (Routine.perform op : HandlerM _) :=
  Routine.Uses.perform h

/-- Plain code after plain code is plain. -/
theorem Plain.bind {α β : Type} {m : HandlerM α} {f : α → HandlerM β} (hm : Plain m)
    (hf : ∀ a, Plain (f a)) : Plain (m >>= f) := Routine.Uses.bind hm hf

/-- Both branches have to be plain. -/
theorem Plain.ite {α : Type} {c : Prop} [Decidable c] {m m' : HandlerM α} (h : Plain m)
    (h' : Plain m') : Plain (if c then m else m') := Routine.Uses.ite h h'

/-- Reading the private state and computing with it performs nothing. -/
theorem plain_ofState {α β : Type} (f : HandlerState → Except Exc α) {g : α → HandlerM β}
    (hg : ∀ a, Plain (g a)) : Plain (do g (← Routine.ofExcept (f (← Routine.read)))) :=
  Routine.Uses.bind Routine.Uses.read fun s =>
    Routine.Uses.bind (Routine.Uses.ofExcept (f s)) hg

section Primitives

variable (lib : Externals) (key : String)

/-- Reading a text of the request performs nothing. -/
theorem plain_rootString : Plain (rootString lib key) :=
  Routine.Uses.bind Routine.Uses.read fun _ => Routine.Uses.ofExcept _

/-- Nor does reading a number of it. -/
theorem plain_rootInt : Plain (rootInt key) :=
  Routine.Uses.bind Routine.Uses.read fun _ => Routine.Uses.ofExcept _

/-- Nor does reading the row that is being built. -/
theorem plain_itemString : Plain (itemString lib key) :=
  Routine.Uses.bind Routine.Uses.read fun _ => Routine.Uses.ofExcept _

/-- Nor does reading a text as a C string. -/
theorem plain_rootCString : Plain (rootCString key) :=
  Routine.Uses.bind Routine.Uses.read fun _ => Routine.Uses.ofExcept _

/-- Nor does reading the timestamp. -/
theorem plain_rootTimestamp : Plain (rootTimestamp key) :=
  Routine.Uses.bind Routine.Uses.read fun _ =>
    Routine.Uses.bind (Routine.Uses.ofExcept _) fun _ => plain_pure _

/-- Writing members of the transaction performs nothing. -/
theorem plain_modifyTx (f : Xtransaction → Xtransaction) : Plain (modifyTx f) := plain_update _

/-- At most the bytes behind a short string are read to make a digest of it. -/
theorem inert_uint256At (str : Bytes) : Inert (uint256At str) := by
  unfold uint256At
  split
  · exact Routine.Uses.pure _
  · exact Routine.Uses.bind (Routine.Uses.perform rfl) fun _ => Routine.Uses.pure _

/-- Writing a member of the response performs nothing. -/
theorem plain_rspSet (key : Bytes) (value : Value) : Plain (rspSet key value) :=
  plain_ofState (fun s => liftJson (s.jsRsp.set key value)) fun _ => plain_update _

/-- Nor does writing a member of the row. -/
theorem plain_itemSet (value : Value) : Plain (itemSet key value) :=
  plain_ofState (fun s => liftJson (s.jsItem.set (str key) value)) fun _ => plain_update _

/-- Nor does adding the row to the list. -/
theorem plain_appendItem : Plain appendItem :=
  plain_ofState (fun s => liftJson (s.jsArrayObj.append s.jsItem)) fun _ => plain_update _

/-- Nor does noting success. -/
theorem plain_setResultOk : Plain setResultOk := plain_rspSet _ _

/-- Nor does noting a failure. -/
theorem plain_setResultFail (err : XrpcReturn) : Plain (setResultFail err) :=
  (plain_rspSet _ _).bind fun _ => (plain_rspSet _ _).bind fun _ => plain_rspSet _ _

/-- Nor does moving the list into the response. -/
theorem plain_rspSetBlocks : Plain rspSetBlocks :=
  Routine.Uses.bind Routine.Uses.read fun _ => plain_rspSet _ _

end Primitives

section Checks

variable (lib : Externals)

/-- The last digest is looked up or decoded. -/
theorem inert_lastDigestSet (nohash : Bool) (account : Bytes) :
    Inert (lastDigestSet lib nohash account) := by
  refine Routine.Uses.ite ?_ ?_
  · apply Routine.Uses.bind (plain_perform _ rfl).inert
    intro reply
    cases reply <;> exact Routine.Uses.pure _
  · apply Routine.Uses.bind (plain_rootString _ _).inert
    intro encoded
    exact Routine.Uses.bind (inert_uint256At _) fun _ => Routine.Uses.pure _

/-- The checks of a property look at the store at most. -/
theorem plain_checkInput : Plain (checkInput lib) := by
  have hexist : Plain (do
      if (← rootString lib "action") = str "account_create" then do
        if ← Routine.perform (Op.existAccount (← rootString lib "account")) then do
          setResultFail .serverAccountExist
          pure false
        else pure true
      else pure true) := by
    apply (plain_rootString _ _).bind
    intro action
    refine Plain.ite ?_ (plain_pure _)
    apply (plain_rootString _ _).bind
    intro account
    apply (plain_perform _ rfl).bind
    intro exist
    exact Plain.ite ((plain_setResultFail _).bind fun _ => plain_pure _) (plain_pure _)
  have hjoin : ∀ keyValid : Bool, Plain (do
      if keyValid = false then pure false
      else if (← rootString lib "action") = str "account_create" then do
        if ← Routine.perform (Op.existAccount (← rootString lib "account")) then do
          setResultFail .serverAccountExist
          pure false
        else pure true
      else pure true) := fun keyValid => Plain.ite (plain_pure _) hexist
  apply (plain_rootString _ _).bind
  intro action
  refine Plain.ite ?_ ((plain_pure _).bind hjoin)
  apply (plain_rootString _ _).bind
  intro key
  refine Plain.ite ?_ ((plain_pure _).bind hjoin)
  exact (plain_setResultFail _).bind fun _ => (plain_pure _).bind hjoin

/-- The check of the last hash asks the store only. -/
theorem plain_lastHashCheck (account : Bytes) : Plain (lastHashCheck account) := by
  refine Routine.Uses.bind Routine.Uses.read fun s => (plain_perform _ rfl).bind fun reply => ?_
  cases reply with
  | none => exact plain_pure _
  | some hash => exact Plain.ite (plain_pure _) (plain_pure _)

/-- So do the checks of a transfer. -/
theorem plain_transferOutChecks (srcAccount assetKey ammount : Bytes) :
    Plain (transferOutChecks srcAccount assetKey ammount) := by
  refine (plain_perform _ rfl).bind fun (ret, balance) => ?_
  refine Plain.ite (plain_pure _) (Plain.ite (plain_pure _) ?_)
  apply Routine.Uses.bind (Routine.Uses.ofExcept _)
  intro available
  apply Routine.Uses.bind (Routine.Uses.ofExcept _)
  intro requested
  exact Plain.ite (plain_pure _) (plain_lastHashCheck _)

/-- So do the checks of the faucet. -/
theorem plain_giveChecks (dstAccount : Bytes) : Plain (giveChecks lib dstAccount) := by
  apply (plain_perform _ rfl).bind
  intro exist
  apply Plain.ite (plain_pure _)
  apply (plain_perform _ rfl).bind
  intro receiveList
  apply Plain.ite (plain_pure _)
  exact (plain_perform _ rfl).bind fun settleList => Plain.ite (plain_pure _) (plain_pure _)

end Checks

section Transactions

variable {allowed : Op → Prop}

/-- The digest needs one hash. -/
theorem uses_digestTx (hhash : ∀ tx, allowed (.sha256 tx)) : digestTx.Uses allowed := by
  apply Routine.Uses.bind Routine.Uses.read
  intro s
  exact Routine.Uses.bind (Routine.Uses.perform (hhash _)) fun _ => Routine.Uses.update _

/-- The signature needs the key that is looked up for the sender of what it signs. -/
theorem uses_transactionDigestAdd (hmark : allowed .unsignedSender)
    (hsign : ∀ priKey tx, priKeyOf tx.senderAddr = some priKey → allowed (.txHashAndSignCalc priKey tx)) :
    transactionDigestAdd.Uses allowed := by
  apply Routine.Uses.bind Routine.Uses.read
  intro s
  cases hkey : priKeyOf s.tx.senderAddr with
  | none => exact Routine.Uses.bind (Routine.Uses.perform hmark) fun _ => Routine.Uses.pure _
  | some priKey =>
    apply Routine.Uses.bind (Routine.Uses.perform (hsign priKey s.tx hkey))
    intro sealed
    exact Routine.Uses.bind (Routine.Uses.update _) fun _ => Routine.Uses.pure _

/-- `do_transaction` needs the clock, a random number, the shard of an account and one dispatch. -/
theorem uses_doTransaction (lib : Externals) (hclock : allowed .getTimestamp) (hrand : allowed .rand)
    (hshard : ∀ account, allowed (.getAccountShardInfo account))
    (hbroadcast : ∀ msg shard, allowed (.broadcast msg shard)) (hbroadcastEx : ∀ msg, allowed (.broadcastEx msg)) :
    (doTransaction lib).Uses allowed := by
  have hid : getTransactionUniqueId.Uses allowed := by
    apply Routine.Uses.bind (Routine.Uses.perform hclock)
    intro seconds
    exact Routine.Uses.bind (Routine.Uses.perform hrand) fun _ => Routine.Uses.pure _
  apply Routine.Uses.bind Routine.Uses.read
  intro s
  apply Routine.Uses.bind hid
  intro seqno
  apply Routine.Uses.ite (Routine.Uses.perform (hbroadcastEx _))
  exact Routine.Uses.bind (Routine.Uses.perform (hshard _)) fun _ => Routine.Uses.perform (hbroadcast _ _)

end Transactions

section Actions

variable (lib : Externals)

/-- `account_balance` asks for one balance. -/
theorem plain_accountBalance : Plain (accountBalance lib) := by
  apply (plain_rootString _ _).bind
  intro account
  apply (plain_rootString _ _).bind
  intro assetKey
  refine (plain_perform _ rfl).bind fun (ret, balance) => ?_
  refine (plain_setResultFail _).ite ((plain_setResultFail _).ite ?_)
  exact plain_setResultOk.bind fun _ => plain_rspSet _ _

/-- `account_info` asks for the snapshot, and for what waits for the account. -/
theorem plain_accountInfo : Plain (accountInfo lib) := by
  apply (plain_rootString _ _).bind
  intro account
  apply (plain_perform _ rfl).bind
  intro reply
  cases reply with
  | none => exact plain_setResultFail _
  | some accountSnap =>
    apply plain_setResultOk.bind
    intro _
    apply (plain_rspSet _ _).bind
    intro _
    apply (plain_rspSet _ _).bind
    intro _
    apply (plain_rspSet _ _).bind
    intro _
    apply (plain_rspSet _ _).bind
    intro _
    apply (plain_rspSet _ _).bind
    intro _
    apply (plain_rspSet _ _).bind
    intro _
    apply (plain_perform _ rfl).bind
    intro settleList
    apply (plain_rspSet _ _).ite
    exact (plain_perform _ rfl).bind fun receiveList => (plain_rspSet _ _).ite (plain_pure _)

/-- The statements that build rows perform nothing that is not plain. -/
theorem plain_rows : RowStatements lib fun _ => Plain where
  pure := plain_pure
  bind := Plain.bind
  itemSet key value _ := plain_itemSet key value
  itemString := plain_itemString lib
  appendItem := plain_appendItem
  snapshot _ := plain_perform _ rfl
  setResultOk := plain_setResultOk

/-- `account_history` asks for the units of the account. -/
theorem plain_accountHistory : Plain (accountHistory lib) := by
  apply (plain_rootString _ _).bind
  intro account
  apply (plain_rootInt _).bind
  intro count
  apply (plain_rootInt _).bind
  intro perPage
  apply (plain_perform _ rfl).bind
  intro settleList
  apply plain_setResultOk.bind
  intro _
  apply ((plain_rows lib).historyLoop _ _ _ _ _).bind
  intro num
  exact plain_rspSetBlocks.bind fun _ => plain_rspSet _ _

/-- `last_digest` asks for the snapshot. -/
theorem plain_lastDigest : Plain (lastDigest lib) := by
  apply (plain_rootString _ _).bind
  intro account
  apply (plain_perform _ rfl).bind
  intro reply
  cases reply with
  | none => exact plain_setResultFail _
  | some localAccount => exact plain_setResultOk.bind fun _ => plain_rspSet _ _

/-- `account_pending` asks for what waits for the account. -/
theorem plain_accountPending : Plain (accountPending lib) := by
  apply (plain_rootString _ _).bind
  intro account
  apply (plain_rootInt _).bind
  intro count
  apply (plain_perform _ rfl).bind
  intro receiveList
  apply plain_setResultOk.bind
  intro _
  apply ((plain_rows lib).pendingLoop _ _ _).bind
  intro _
  exact plain_rspSetBlocks.bind fun _ => plain_rspSet _ _

/-- `query_online_tx` asks for the transactions. -/
theorem plain_queryOnlineTx : Plain (queryOnlineTx lib) := by
  apply (plain_rootInt _).bind
  intro count
  apply (plain_rootInt _).bind
  intro perPage
  apply (plain_perform _ rfl).bind
  intro reply
  cases reply with
  | none => exact plain_setResultFail _
  | some txList =>
    apply ((plain_rows lib).onlineLoop _ _ _ _).bind
    intro _
    exact plain_rspSetBlocks.bind fun _ => (plain_rspSet _ _).bind fun _ => plain_setResultOk

/-- `query_tps` asks for the statistic. -/
theorem plain_queryTps : Plain queryTps := by
  apply (plain_perform _ rfl).bind
  intro result
  apply (plain_setResultFail _).ite
  exact (plain_update _).bind fun _ => plain_setResultOk

/-- `account_delete` is a command, which is plain. -/
theorem plain_accountDelete : Plain (accountDelete lib) := by
  apply (plain_rootString _ _).bind
  intro account
  apply (plain_perform _ rfl).bind
  intro _
  apply (plain_rootString _ _).bind
  intro account
  apply (plain_perform _ rfl).bind
  intro _
  exact plain_setResultOk

/-- So is `account_snap_delete`. -/
theorem plain_accountSnapDelete : Plain (accountSnapDelete lib) :=
  (plain_rootString _ _).bind fun _ => (plain_perform _ rfl).bind fun _ => plain_setResultOk

/-- So is `account_sync`. -/
theorem plain_accountSync : Plain (accountSync lib) :=
  (plain_rootString _ _).bind fun _ => (plain_perform _ rfl).bind fun _ => plain_setResultOk

/-- `query_property` asks for the snapshot. -/
theorem plain_queryProperty : Plain (queryProperty lib) := by
  apply (plain_rootString _ _).bind
  intro account
  apply (plain_perform _ rfl).bind
  intro reply
  cases reply with
  | none => exact plain_setResultFail _
  | some accountSnap =>
    apply (plain_rootString _ _).bind
    intro propertyKey
    exact Plain.ite ((plain_rspSet _ _).bind fun _ => plain_setResultOk) (plain_setResultFail _)

/-- Copying the properties into the response performs nothing. -/
theorem plain_copyProperties (properties : List (Bytes × Bytes)) :
    Plain (copyProperties properties) := by
  induction properties with
  | nil => exact plain_pure _
  | cons property rest ih => exact (plain_rspSet _ _).bind fun _ => ih

/-- `query_all_property` asks for the snapshot. -/
theorem plain_queryAllProperty : Plain (queryAllProperty lib) := by
  apply (plain_rootString _ _).bind
  intro account
  apply (plain_perform _ rfl).bind
  intro reply
  cases reply with
  | none => exact plain_setResultFail _
  | some accountSnap => exact (plain_copyProperties _).bind fun _ => plain_setResultOk

/-- `trigger_elect` holds the election. -/
theorem plain_triggerElect : Plain triggerElect :=
  Routine.Uses.bind Routine.Uses.read fun _ => (plain_perform _ rfl).bind fun _ => plain_update _

/-- The actions that propose a transaction. -/
def Action.isTransaction : Action → Bool
  | .accountCreate | .transferOut | .transferIn | .setProperty | .give => true
  | _ => false

/-- Every other action is plain. -/
theorem plain_runAction (nohash : Bool) {action : Action} (h : action.isTransaction = false) :
    Plain (runAction lib nohash action) := by
  cases action with
  | accountCreate | transferOut | transferIn | setProperty | give => exact absurd h (by decide)
  | accountBalance => exact plain_accountBalance lib
  | accountInfo => exact plain_accountInfo lib
  | accountHistory => exact plain_accountHistory lib
  | accountPending => exact plain_accountPending lib
  | lastDigest => exact plain_lastDigest lib
  | tpsQuery => exact plain_queryTps
  | queryProperty => exact plain_queryProperty lib
  | queryAllProperty => exact plain_queryAllProperty lib
  | queryOnlineTx => exact plain_queryOnlineTx lib
  | accountDelete => exact plain_accountDelete lib
  | accountSnapDelete => exact plain_accountSnapDelete lib
  | accountSync => exact plain_accountSync lib
  | triggerElect => exact plain_triggerElect
  | invalid => exact plain_setResultFail _

/-- The constructor performs nothing. -/
theorem plain_construct (parsed : Bool × Value) : Plain (construct parsed) :=
  (plain_update _).bind fun _ => (plain_setResultFail _).ite (plain_pure _)

/-- Nor does `get_response`. -/
theorem plain_getResponse : Plain (getResponse lib) := by
  have hjoin : Plain (do
      let s ← Routine.read
      pure (lib.toStyledString s.jsRsp)) := Routine.Uses.bind Routine.Uses.read fun _ => plain_pure _
  apply Routine.Uses.bind Routine.Uses.read
  intro s
  exact Plain.ite ((plain_setResultFail _).bind fun _ => hjoin) hjoin

end Actions

end XrpcServer.Handler
