import XrpcServer.Handler.Requests

/-!
# The loops of the list queries

Rows are built by a handful of statements, so any property of routines that sequencing
preserves passes from these statements to the loops, by induction on the list.
-/

namespace XrpcServer.Handler

open XrpcServer.Text XrpcServer.Chain XrpcServer.Interaction
open XrpcServer.Json (Value)
open Routine (Compositional)

/-- The statements rows are built by have the property. -/
structure RowStatements (lib : Externals) (P : (α : Type) → HandlerM α → Prop) : Prop
    extends Compositional P where
  itemSet : ∀ key (value : Value), value.IsScalar → P Unit (itemSet key value)
  itemString : ∀ key, P Bytes (itemString lib key)
  appendItem : P Unit appendItem
  snapshot : ∀ account, P (Option XaccountSnap) (Routine.perform (Op.getAccountSnapInfo account))
  setResultOk : P Unit setResultOk

namespace RowStatements

variable {lib : Externals} {P : (α : Type) → HandlerM α → Prop} (hP : RowStatements lib P)

include hP

/-- Whatever holds of the statements holds of `set_property_value` for one field. -/
theorem setTag (field tagField : String) (userTag : UserTag) :
    P UserTag (setTag lib field tagField userTag) := by
  apply hP.bind (hP.itemString _)
  intro account
  cases userTag.lookup account with
  | some tag => exact hP.bind (hP.itemSet _ _ trivial) fun _ => hP.pure _
  | none =>
    have hjoin : ∀ value : Bytes, P UserTag (do
        let account ← Handler.itemString lib field
        pure ((account, value) :: userTag)) :=
      fun value => hP.bind (hP.itemString _) fun account => hP.pure _
    refine hP.bind (hP.itemSet _ _ trivial) fun _ => hP.bind (hP.itemString _) fun account => ?_
    apply hP.bind (hP.snapshot _)
    intro reply
    cases reply with
    | none => exact hP.bind (hP.pure _) hjoin
    | some accountSnap =>
      refine hP.ite ?_ (hP.bind (hP.pure _) hjoin)
      exact hP.bind (hP.itemSet _ _ trivial) fun _ => hP.bind (hP.pure _) hjoin

/-- And of `set_property_value`. -/
theorem setPropertyValue (userTag : UserTag) : P UserTag (setPropertyValue lib userTag) := by
  refine hP.bind (hP.setTag _ _ _) fun userTag => hP.bind (hP.setTag _ _ _) fun userTag => ?_
  exact hP.bind hP.setResultOk fun _ => hP.pure _

/-- And of one row of a history. -/
theorem historyRow (tx : Xtransaction) (userTag : UserTag) : P UserTag (historyRow lib tx userTag) := by
  have hjoin : P UserTag (do
      let userTag ← Handler.setPropertyValue lib userTag
      Handler.itemSet "tx_digest" (.string (hashToJsonString lib tx.txDigest))
      Handler.itemSet "last_digest" (.string (hashToJsonString lib tx.lastMsgDigest))
      Handler.itemSet "rpc_time" (.string (decimalText tx.edgeTimestamp.toNat))
      Handler.appendItem
      pure userTag) := by
    refine hP.bind (hP.setPropertyValue _) fun userTag => hP.bind (hP.itemSet _ _ trivial) fun _ => ?_
    refine hP.bind (hP.itemSet _ _ trivial) fun _ => hP.bind (hP.itemSet _ _ trivial) fun _ => ?_
    exact hP.bind hP.appendItem fun _ => hP.pure _
  refine hP.bind (hP.itemSet _ _ trivial) fun _ => hP.bind (hP.itemSet _ _ trivial) fun _ => ?_
  refine hP.bind (hP.itemSet _ _ trivial) fun _ => hP.bind (hP.itemSet _ _ trivial) fun _ => ?_
  refine hP.ite (hP.bind (hP.itemSet _ _ trivial) fun _ => hjoin) (hP.ite ?_ hjoin)
  exact hP.bind (hP.itemSet _ _ trivial) fun _ => hP.bind (hP.itemSet _ _ trivial) fun _ => hjoin

/-- And of the loop of `account_history`. -/
theorem historyLoop (startNum endNum : ℤ) (settleList : List Xtransaction) (num : ℤ)
    (userTag : UserTag) : P ℤ (historyLoop lib startNum endNum settleList num userTag) := by
  induction settleList generalizing num userTag with
  | nil => exact hP.pure _
  | cons tx rest ih =>
    refine hP.ite (ih num userTag) (hP.ite ?_ (ih _ userTag))
    exact hP.bind (hP.historyRow tx userTag) fun userTag => ih _ userTag

/-- And of the loop of `account_pending`. -/
theorem pendingLoop (count : ℤ) (receiveList : List Xtransaction) (num : ℤ) :
    P Unit (pendingLoop lib count receiveList num) := by
  induction receiveList generalizing num with
  | nil => exact hP.pure _
  | cons tx rest ih =>
    apply hP.ite (hP.pure _)
    refine hP.bind (hP.itemSet _ _ trivial) fun _ => hP.bind (hP.itemSet _ _ trivial) fun _ => ?_
    refine hP.bind (hP.itemSet _ _ trivial) fun _ => hP.bind (hP.itemSet _ _ trivial) fun _ => ?_
    exact hP.bind hP.appendItem fun _ => ih _

/-- And of the loop of `query_online_tx`. -/
theorem onlineLoop (startNum endNum : ℤ) (txList : List Xtransaction) (num : ℤ) :
    P Unit (onlineLoop lib startNum endNum txList num) := by
  induction txList generalizing num with
  | nil => exact hP.pure _
  | cons tx rest ih =>
    refine hP.ite ?_ (ih _)
    refine hP.bind (hP.itemSet _ _ trivial) fun _ => hP.bind (hP.itemSet _ _ trivial) fun _ => ?_
    refine hP.bind (hP.itemSet _ _ trivial) fun _ => hP.bind (hP.itemSet _ _ trivial) fun _ => ?_
    refine hP.bind (hP.itemSet _ _ trivial) fun _ => hP.bind (hP.itemSet _ _ trivial) fun _ => ?_
    refine hP.bind (hP.itemSet _ _ trivial) fun _ => hP.bind (hP.itemSet _ _ trivial) fun _ => ?_
    exact hP.bind hP.appendItem fun _ => ih _

end RowStatements

end XrpcServer.Handler
