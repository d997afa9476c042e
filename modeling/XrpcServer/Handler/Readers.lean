import XrpcServer.Handler.Footprint

/-!
# Queries only read

A query performs silent operations: it reads the store and computes, and neither changes the node
nor reaches another one. The statements its code is made of perform nothing at all, except for the
calls themselves; the loops over a list are followed by the rules of `Handler.Rows`.
-/

namespace XrpcServer.Handler

open XrpcServer.Text XrpcServer.Chain XrpcServer.Interaction XrpcServer.Json
open XrpcServer.Json (Value)

/-- No operation at all, whatever the private state. -/
def Still {α : Type} (m : HandlerM α) : Prop := m.Uses fun _ => False

/-- Only silent operations, whatever the replies. -/
def Silently {α : Type} (m : HandlerM α) : Prop := m.Uses fun op => op.isSilent

/-- What performs nothing performs nothing but silent operations. -/
theorem Still.silently {α : Type} {m : HandlerM α} (h : Still m) : Silently m :=
  Routine.Uses.mono (fun _ hop => hop.elim) h

section Statements

variable (lib : Externals) (key : String)

/-- Reading a text of the request performs nothing. -/
theorem still_rootString : Still (rootString lib key) :=
  Routine.Uses.bind Routine.Uses.read fun _ => Routine.Uses.ofExcept _

/-- Nor does reading a number of it. -/
theorem still_rootInt : Still (rootInt key) :=
  Routine.Uses.bind Routine.Uses.read fun _ => Routine.Uses.ofExcept _

/-- Nor does reading the row that is being built. -/
theorem still_itemString : Still (itemString lib key) :=
  Routine.Uses.bind Routine.Uses.read fun _ => Routine.Uses.ofExcept _

/-- Writing a member of the response performs nothing. -/
theorem still_rspSet (key : Bytes) (value : Value) : Still (rspSet key value) := by
  apply Routine.Uses.bind Routine.Uses.read
  intro s
  exact Routine.Uses.bind (Routine.Uses.ofExcept _) fun _ => Routine.Uses.update _

/-- Nor does writing a member of the row. -/
theorem still_itemSet (value : Value) : Still (itemSet key value) := by
  apply Routine.Uses.bind Routine.Uses.read
  intro s
  exact Routine.Uses.bind (Routine.Uses.ofExcept _) fun _ => Routine.Uses.update _

/-- Nor does adding the row to the list. -/
theorem still_appendItem : Still appendItem := by
  apply Routine.Uses.bind Routine.Uses.read
  intro s
  exact Routine.Uses.bind (Routine.Uses.ofExcept _) fun _ => Routine.Uses.update _

/-- Nor does noting success. -/
theorem still_setResultOk : Still setResultOk := still_rspSet _ _

/-- Nor does noting a failure. -/
theorem still_setResultFail (err : XrpcReturn) : Still (setResultFail err) := by
  apply Routine.Uses.bind (still_rspSet _ _)
  intro _
  apply Routine.Uses.bind (still_rspSet _ _)
  intro _
  exact still_rspSet _ _

/-- Nor does moving the list into the response. -/
theorem still_rspSetBlocks : Still rspSetBlocks := by
  apply Routine.Uses.bind Routine.Uses.read
  intro s
  exact still_rspSet _ _

/-- Nor does copying the properties into the response. -/
theorem still_copyProperties (properties : List (Bytes × Bytes)) : Still (copyProperties properties) := by
  induction properties with
  | nil => exact Routine.Uses.pure _
  | cons property rest ih => exact Routine.Uses.bind (still_rspSet _ _) fun _ => ih

/-- The constructor performs nothing. -/
theorem still_construct (parsed : Bool × Value) : Still (construct parsed) := by
  apply Routine.Uses.bind (Routine.Uses.update _)
  intro _
  exact Routine.Uses.ite (still_setResultFail _) (Routine.Uses.pure _)

/-- Nor does `get_response`. -/
theorem still_getResponse : Still (getResponse lib) := by
  have hjoin : Still (do
      let s ← Routine.read
      pure (lib.toStyledString s.jsRsp)) := Routine.Uses.bind Routine.Uses.read fun _ => Routine.Uses.pure _
  apply Routine.Uses.bind Routine.Uses.read
  intro s
  exact Routine.Uses.ite (Routine.Uses.bind (still_setResultFail _) fun _ => hjoin) hjoin

end Statements

/-- A silent call, then a silent continuation. -/
theorem silently_call {α : Type} {op : Op} (hop : op.isSilent) {next : Reply op → HandlerM α}
    (hnext : ∀ reply, Silently (next reply)) : Silently (Routine.perform op >>= next) :=
  Routine.Uses.bind (Routine.Uses.perform hop) hnext

/-- A statement that performs nothing, then a silent continuation. -/
theorem Still.then {α β : Type} {m : HandlerM α} {next : α → HandlerM β} (hm : Still m)
    (hnext : ∀ a, Silently (next a)) : Silently (m >>= next) := Routine.Uses.bind hm.silently hnext

section Queries

variable (lib : Externals)

/-- The statements that build rows are silent. -/
theorem silently_rows : RowStatements lib fun _ => Silently where
  pure := Routine.Uses.pure
  bind := Routine.Uses.bind
  itemSet key value _ := (still_itemSet key value).silently
  itemString key := (still_itemString lib key).silently
  appendItem := still_appendItem.silently
  snapshot _ := Routine.Uses.perform rfl
  setResultOk := still_setResultOk.silently

/-- `account_balance` only looks at the store. -/
theorem silently_accountBalance : Silently (accountBalance lib) := by
  apply (still_rootString lib _).then
  intro account
  apply (still_rootString lib _).then
  intro assetKey
  apply silently_call rfl
  intro answer
  apply Routine.Uses.ite (still_setResultFail _).silently
  apply Routine.Uses.ite (still_setResultFail _).silently
  apply still_setResultOk.then
  intro _
  exact (still_rspSet _ _).silently

/-- So does `account_info`. -/
theorem silently_accountInfo : Silently (accountInfo lib) := by
  apply (still_rootString lib _).then
  intro account
  apply silently_call rfl
  intro reply
  cases reply with
  | none => exact (still_setResultFail _).silently
  | some accountSnap =>
    apply still_setResultOk.then
    intro _
    apply (still_rspSet _ _).then
    intro _
    apply (still_rspSet _ _).then
    intro _
    apply (still_rspSet _ _).then
    intro _
    apply (still_rspSet _ _).then
    intro _
    apply (still_rspSet _ _).then
    intro _
    apply (still_rspSet _ _).then
    intro _
    apply silently_call rfl
    intro settleList
    apply Routine.Uses.ite (still_rspSet _ _).silently
    apply silently_call rfl
    intro receiveList
    exact Routine.Uses.ite (still_rspSet _ _).silently (Routine.Uses.pure _)

/-- So does `account_history`. -/
theorem silently_accountHistory : Silently (accountHistory lib) := by
  apply (still_rootString lib _).then
  intro account
  apply (still_rootInt _).then
  intro count
  apply (still_rootInt _).then
  intro perPage
  apply silently_call rfl
  intro settleList
  apply still_setResultOk.then
  intro _
  apply Routine.Uses.bind ((silently_rows lib).historyLoop _ _ _ _ _)
  intro num
  apply still_rspSetBlocks.then
  intro _
  exact (still_rspSet _ _).silently

/-- So does `last_digest`. -/
theorem silently_lastDigest : Silently (lastDigest lib) := by
  apply (still_rootString lib _).then
  intro account
  apply silently_call rfl
  intro reply
  cases reply with
  | none => exact (still_setResultFail _).silently
  | some localAccount =>
    apply still_setResultOk.then
    intro _
    exact (still_rspSet _ _).silently

/-- So does `account_pending`. -/
theorem silently_accountPending : Silently (accountPending lib) := by
  apply (still_rootString lib _).then
  intro account
  apply (still_rootInt _).then
  intro count
  apply silently_call rfl
  intro receiveList
  apply still_setResultOk.then
  intro _
  apply Routine.Uses.bind ((silently_rows lib).pendingLoop _ _ _)
  intro _
  apply still_rspSetBlocks.then
  intro _
  exact (still_rspSet _ _).silently

/-- So does `query_online_tx`. -/
theorem silently_queryOnlineTx : Silently (queryOnlineTx lib) := by
  apply (still_rootInt _).then
  intro count
  apply (still_rootInt _).then
  intro perPage
  apply silently_call rfl
  intro reply
  cases reply with
  | none => exact (still_setResultFail _).silently
  | some txList =>
    apply Routine.Uses.bind ((silently_rows lib).onlineLoop _ _ _ _)
    intro _
    apply still_rspSetBlocks.then
    intro _
    apply (still_rspSet _ _).then
    intro _
    exact still_setResultOk.silently

/-- So does `query_tps`. -/
theorem silently_queryTps : Silently queryTps := by
  apply silently_call rfl
  intro result
  apply Routine.Uses.ite (still_setResultFail _).silently
  exact Routine.Uses.bind (Routine.Uses.update _) fun _ => still_setResultOk.silently

/-- So does `query_property`. -/
theorem silently_queryProperty : Silently (queryProperty lib) := by
  apply (still_rootString lib _).then
  intro account
  apply silently_call rfl
  intro reply
  cases reply with
  | none => exact (still_setResultFail _).silently
  | some accountSnap =>
    apply (still_rootString lib _).then
    intro propertyKey
    apply Routine.Uses.ite ((still_rspSet _ _).then fun _ => still_setResultOk.silently)
    exact (still_setResultFail _).silently

/-- So does `query_all_property`. -/
theorem silently_queryAllProperty : Silently (queryAllProperty lib) := by
  apply (still_rootString lib _).then
  intro account
  apply silently_call rfl
  intro reply
  cases reply with
  | none => exact (still_setResultFail _).silently
  | some accountSnap =>
    apply (still_copyProperties _).then
    intro _
    exact still_setResultOk.silently

/-- The actions that act on the node itself. -/
def Action.isNodeCommand : Action → Bool
  | .accountDelete | .accountSnapDelete | .accountSync | .triggerElect => true
  | _ => false

/-- All other actions but the transaction actions are silent. -/
theorem silently_runAction (nohash : Bool) {action : Action} (htransaction : action.isTransaction = false)
    (hcommand : action.isNodeCommand = false) : Silently (runAction lib nohash action) := by
  cases action with
  | accountCreate | transferOut | transferIn | setProperty | give => exact absurd htransaction (by decide)
  | accountDelete | accountSnapDelete | accountSync | triggerElect => exact absurd hcommand (by decide)
  | accountBalance => exact silently_accountBalance lib
  | accountInfo => exact silently_accountInfo lib
  | accountHistory => exact silently_accountHistory lib
  | accountPending => exact silently_accountPending lib
  | lastDigest => exact silently_lastDigest lib
  | tpsQuery => exact silently_queryTps
  | queryProperty => exact silently_queryProperty lib
  | queryAllProperty => exact silently_queryAllProperty lib
  | queryOnlineTx => exact silently_queryOnlineTx lib
  | invalid => exact (still_setResultFail _).silently

end Queries

end XrpcServer.Handler
