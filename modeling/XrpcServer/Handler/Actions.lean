import XrpcServer.Handler.Footprint

/-!
# The statements of the transaction actions

The five transaction actions are built from inert routines, a digest, a signature and a dispatch.
A property that sequencing preserves passes from these to every action, and to a whole request.
-/

namespace XrpcServer.Handler

open XrpcServer.Text XrpcServer.Chain XrpcServer.Interaction
open XrpcServer.Json (Value)
open Routine (Compositional)

/-- The statements of the tail the actions share have the property. -/
structure SubmitStatements (lib : Externals) (P : (α : Type) → HandlerM α → Prop) : Prop
    extends Compositional P where
  plain : ∀ {α : Type} {m : HandlerM α}, Plain m → P α m
  doTransaction : P Unit (doTransaction lib)

/-- A transaction that is verified and passes its checks is sent, any other is refused. -/
theorem SubmitStatements.verifyAndSubmit {lib : Externals} {P : (α : Type) → HandlerM α → Prop}
    (hP : SubmitStatements lib P) {checks : HandlerM (Option XrpcReturn)} (hchecks : P _ checks) :
    P Unit (verifyAndSubmit lib checks) := by
  apply hP.bind (hP.plain Routine.Uses.read)
  intro s
  apply hP.bind (hP.plain (plain_perform _ rfl))
  intro verified
  apply hP.ite (hP.plain (plain_setResultFail _))
  apply hP.bind hchecks
  intro verdict
  cases verdict with
  | none => exact hP.bind hP.doTransaction fun _ => hP.plain plain_setResultOk
  | some err => exact hP.plain (plain_setResultFail _)

/-- The statements requests are built by have the property. -/
structure ActionStatements (lib : Externals) (P : (α : Type) → HandlerM α → Prop) : Prop
    extends SubmitStatements lib P where
  inert : ∀ {α : Type} {m : HandlerM α}, Inert m → P α m
  digestTx : P Unit digestTx
  transactionDigestAdd : P Bool transactionDigestAdd

namespace ActionStatements

variable {lib : Externals} {P : (α : Type) → HandlerM α → Prop} (hP : ActionStatements lib P)

include hP

/-- A builder: the transaction is filled and its digest taken. -/
theorem build (f : Xtransaction → Xtransaction) : P Unit (do
    modifyTx f
    Handler.digestTx) := hP.bind (hP.plain (plain_modifyTx f)) fun _ => hP.digestTx

/-- The seal: signed here or by the client, then stamped. -/
theorem txDigestSignatureSet (nohash : Bool) : P Unit (txDigestSignatureSet lib nohash) := by
  have hjoin : P Unit (do
      let now ← Routine.perform Op.timestampNowMs
      modifyTx fun tx => { tx with edgeTimestamp := now }) :=
    hP.bind (hP.plain (plain_perform _ rfl)) fun _ => hP.plain (plain_modifyTx _)
  apply hP.ite (hP.bind hP.transactionDigestAdd fun _ => hjoin)
  apply hP.bind (hP.plain (plain_rootString _ _))
  intro signature
  exact hP.bind (hP.plain (plain_modifyTx _)) fun _ => hjoin

/-- Whatever holds of the statements holds of `account_create`. -/
theorem accountCreate (nohash : Bool) : P Unit (accountCreate lib nohash) := by
  apply hP.bind (hP.plain (plain_checkInput lib))
  intro valid
  apply hP.ite (hP.pure _)
  apply hP.bind (hP.plain (plain_rootString _ _))
  intro account
  apply hP.bind (hP.plain (plain_rootString _ _))
  intro amount
  apply hP.bind (hP.plain (plain_rootTimestamp _))
  intro timestamp
  apply hP.bind (hP.build _)
  intro _
  apply hP.bind (hP.txDigestSignatureSet _)
  intro _
  exact hP.verifyAndSubmit (hP.pure _)

/-- And of `transfer_out`. -/
theorem transferOut (nohash : Bool) : P Unit (transferOut lib nohash) := by
  apply hP.bind (hP.plain (plain_rootString _ _))
  intro srcAccount
  apply hP.bind (hP.plain (plain_rootString _ _))
  intro dstAccount
  apply hP.bind (hP.plain (plain_rootString _ _))
  intro assetKey
  apply hP.bind (hP.plain (plain_rootString _ _))
  intro ammount
  apply hP.bind (hP.plain (plain_rootTimestamp _))
  intro timestamp
  apply hP.ite (hP.plain (plain_setResultFail _))
  apply hP.bind (hP.inert (inert_lastDigestSet _ _ _))
  intro lastHash
  cases lastHash with
  | none => exact hP.plain (plain_setResultFail _)
  | some lastHash =>
    apply hP.bind (hP.build _)
    intro _
    apply hP.bind (hP.txDigestSignatureSet _)
    intro _
    exact hP.verifyAndSubmit (hP.plain (plain_transferOutChecks _ _ _))

/-- And of `give`. -/
theorem give : P Unit (give lib) := by
  apply hP.bind (hP.plain (plain_rootString _ _))
  intro dstAccount
  apply hP.bind (hP.plain (plain_rootTimestamp _))
  intro timestamp
  apply hP.bind (hP.inert (inert_lastDigestSet _ _ _))
  intro lastHash
  cases lastHash with
  | none => exact hP.plain (plain_setResultFail _)
  | some lastHash =>
    apply hP.bind (hP.build _)
    intro _
    apply hP.bind (hP.txDigestSignatureSet _)
    intro _
    exact hP.verifyAndSubmit (hP.plain (plain_giveChecks _ _))

/-- And of `transfer_in`. -/
theorem transferIn (nohash : Bool) : P Unit (transferIn lib nohash) := by
  apply hP.bind (hP.plain (plain_rootTimestamp _))
  intro timestamp
  apply hP.bind (hP.plain (plain_rootString _ _))
  intro account
  apply hP.bind (hP.inert (inert_lastDigestSet _ _ _))
  intro lastHash
  cases lastHash with
  | none => exact hP.plain (plain_setResultFail _)
  | some lastHash =>
    apply hP.bind (hP.plain (plain_rootString _ _))
    intro encoded
    apply hP.bind (hP.inert (inert_uint256At _))
    intro txDigest
    apply hP.bind (hP.plain (plain_rootString _ _))
    intro account
    apply hP.bind (hP.build _)
    intro _
    apply hP.bind (hP.txDigestSignatureSet _)
    intro _
    apply hP.bind (hP.plain (plain_rootString _ _))
    intro sender
    apply hP.bind (hP.plain (plain_modifyTx _))
    intro _
    apply hP.bind (hP.plain (plain_rootString _ _))
    intro amount
    apply hP.bind (hP.plain (plain_modifyTx _))
    intro _
    apply hP.bind (hP.inert Routine.Uses.read)
    intro s
    exact hP.verifyAndSubmit (hP.plain (plain_lastHashCheck _))

/-- And of `transaction_set_property`. -/
theorem transactionSetProperty (lastHash : Uint256) : P Unit (transactionSetProperty lib lastHash) := by
  apply hP.bind (hP.plain (plain_rootString _ _))
  intro account
  apply hP.bind (hP.plain (plain_rootString _ _))
  intro propertyKey
  apply hP.bind (hP.plain (plain_rootString _ _))
  intro propertyValue
  apply hP.bind (hP.plain (plain_rootTimestamp _))
  intro timestamp
  exact hP.build _

/-- And of `set_property`. -/
theorem setProperty (nohash : Bool) : P Unit (setProperty lib nohash) := by
  apply hP.bind (hP.plain (plain_checkInput lib))
  intro valid
  apply hP.ite (hP.pure _)
  apply hP.bind (hP.plain (plain_rootCString _))
  intro account
  apply hP.bind (hP.inert (inert_lastDigestSet _ _ _))
  intro lastHash
  cases lastHash with
  | none => exact hP.plain (plain_setResultFail _)
  | some lastHash =>
    apply hP.bind (hP.transactionSetProperty _)
    intro _
    apply hP.bind (hP.txDigestSignatureSet _)
    intro _
    exact hP.verifyAndSubmit (hP.pure _)

/-- And of the action a request names. -/
theorem runAction (nohash : Bool) (action : Action) : P Unit (runAction lib nohash action) := by
  cases action with
  | accountCreate => exact hP.accountCreate nohash
  | transferOut => exact hP.bind (hP.plain (plain_rootString _ _)) fun source => hP.transferOut _
  | transferIn => exact hP.transferIn nohash
  | setProperty => exact hP.setProperty nohash
  | give => exact hP.give
  | _ => exact hP.plain (plain_runAction lib nohash rfl)

/-- What every statement has, a request has. -/
theorem handleRequest : P Unit (handleRequest lib) := by
  apply hP.bind (hP.plain (plain_rootString _ _))
  intro action
  apply hP.bind (hP.plain (plain_rootString _ _))
  intro account
  exact hP.runAction _ _

/-- And so has all that is done for a request, from its text to its answer. -/
theorem serve (req : Bytes) : P Bytes (serve lib req) := by
  apply hP.bind (hP.plain (plain_construct _))
  intro _
  apply hP.bind hP.handleRequest
  intro _
  exact hP.plain (plain_getResponse lib)

end ActionStatements

end XrpcServer.Handler
