import XrpcServer.Chain.Transaction
import XrpcServer.Json.Value

/-!
# The store as its getters see it

A store content is what its getters return. Found account snapshots carry a nonempty unit
list by construction, since `back()` of an empty vector has no meaning.
-/

namespace XrpcServer.Chain

open XrpcServer.Text

/-- `xaccount_snap_t`, by the answers of its getters. -/
structure XaccountSnap where
  /-- The value `get_balance` writes, if it writes one. -/
  getBalance : Bytes → Option Bytes
  sequenceId : ℕ
  /-- `m_associated_event_hash` of the units of `m_unit_snap`. -/
  unitSnap : List Uint256
  unitSnap_ne_nil : unitSnap ≠ []
  createTime : ℕ
  /-- The result of `get_property` and the value left in its output string. -/
  getProperty : Bytes → Bool × Bytes
  getAllProperty : List (Bytes × Bytes)

/-- `m_unit_snap.back()->m_associated_event_hash`. -/
def XaccountSnap.lastUnitHash (snap : XaccountSnap) : Uint256 :=
  snap.unitSnap.getLast snap.unitSnap_ne_nil

/-- `store_intf_return_type`, up to the codes the server distinguishes. -/
inductive StoreReturn where
  | accountNotExist
  | noPropertyKey
  | other
deriving DecidableEq

/-- A store content, given by what each getter of `xstore_base` returns on it. -/
structure Store where
  getAccountSnapInfo : Bytes → Option XaccountSnap
  getAccountBalance : Bytes → Bytes → StoreReturn × Bytes
  getLastHash : Bytes → Option Uint256
  existAccount : Bytes → Bool
  getReceiveBlocks : Bytes → List Xtransaction
  getSettleBlocks : Bytes → List Xtransaction
  queryOnlineTx : Option (List Xtransaction)
  getStatInfo : Json.Value

/-- The two sources of an account's head digest agree whenever both answer. -/
def Store.HeadsAgree (store : Store) : Prop :=
  ∀ account snap hash, store.getAccountSnapInfo account = some snap →
    store.getLastHash account = some hash → hash = snap.lastUnitHash

end XrpcServer.Chain
