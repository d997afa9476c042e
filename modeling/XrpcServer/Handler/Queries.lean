import XrpcServer.Handler.Transactions

/-!
# Queries and node commands

The actions that propose nothing. The list queries fill one reused row object and append it
to one array; their loops are recursions over the list with the counter, and for the history
also the tag cache, as accumulators. Counters and page bounds are 32-bit integers that wrap.
-/

namespace XrpcServer.Handler

open XrpcServer.Text XrpcServer.Chain XrpcServer.Interaction
open XrpcServer.Json (Value)

/-- 32-bit signed arithmetic, taken as wrapping. -/
def wrap32 (i : ℤ) : ℤ := i.bmod (2 ^ 32)

/-- `xrpc_handler::account_balance`. -/
def accountBalance (lib : Externals) : HandlerM Unit := do
  let account ← rootString lib "account"
  let assetKey ← rootString lib "property_key"
  let (ret, balance) ← Routine.perform (Op.getAccountBalance account assetKey)
  if ret = .accountNotExist then setResultFail .serverAccountNotFound
  else if ret = .noPropertyKey then setResultFail .noPropertyKey
  else do
    setResultOk
    rspSet (str "balance") (.string balance)

/-- `xrpc_handler::account_info`. -/
def accountInfo (lib : Externals) : HandlerM Unit := do
  let account ← rootString lib "account"
  match ← Routine.perform (Op.getAccountSnapInfo account) with
  | none => setResultFail .serverAccountNotFound
  | some accountSnap => do
    setResultOk
    rspSet (str "balance") (.string ((accountSnap.getBalance (str "$$")).getD (str "0")))
    rspSet (str "sequence") (.string (decimalText accountSnap.sequenceId))
    rspSet (str "lasthash") (.string (hashToJsonString lib accountSnap.lastUnitHash))
    rspSet (str "createtime") (.string (decimalText accountSnap.createTime))
    rspSet (str "property_value") (.string (accountSnap.getProperty (str "@name")).2)
    rspSet (str "give") (.int 1)
    let settleList ← Routine.perform (Op.getSettleBlocks account)
    if hasReceipt lib.types settleList then
      rspSet (str "give") (.int 0)
    else do
      let receiveList ← Routine.perform (Op.getReceiveBlocks account)
      if receiveList.length > 0 then rspSet (str "give") (.int 0)
      else pure ()

/-- The map from accounts to tags that `account_history` fills. -/
abbrev UserTag := List (Bytes × Bytes)

/-- One half of `set_property_value`: the tag of the account in member `field`, from the cache
or from the account's snapshot, is written to member `tagField`. -/
def setTag (lib : Externals) (field tagField : String) (userTag : UserTag) : HandlerM UserTag := do
  let account ← itemString lib field
  match userTag.lookup account with
  | some tag => do
    itemSet tagField (.string tag)
    pure userTag
  | none => do
    itemSet tagField (.string [])
    let account ← itemString lib field
    let propertyValue ← do
      match ← Routine.perform (Op.getAccountSnapInfo account) with
      | some accountSnap => do
        let (found, value) := accountSnap.getProperty (str "@name")
        if found then itemSet tagField (.string value)
        pure value
      | none => pure []
    let account ← itemString lib field
    pure ((account, propertyValue) :: userTag)

/-- `xrpc_handler::set_property_value`. -/
def setPropertyValue (lib : Externals) (userTag : UserTag) : HandlerM UserTag := do
  let userTag ← setTag lib "source" "source_tag" userTag
  let userTag ← setTag lib "destination" "destination_tag" userTag
  setResultOk
  pure userTag

/-- The body of the loop of `account_history` for a transaction inside the page. -/
def historyRow (lib : Externals) (tx : Xtransaction) (userTag : UserTag) : HandlerM UserTag := do
  itemSet "transaction_type" (.int tx.transactionType)
  itemSet "source" (.string tx.senderAddr)
  itemSet "destination" (.string tx.receiverAddr)
  itemSet "property_key" (.string (if tx.propertyKey = [] then str "$$" else tx.propertyKey))
  if tx.transactionType = 1 ∨ tx.transactionType = 0 then
    itemSet "amount" (.string tx.transactionParams)
  else if tx.transactionType = lib.types.transferAssetIn then do
    itemSet "amount" (.string tx.originAmount)
    itemSet "source" (.string tx.originSender)
  let userTag ← setPropertyValue lib userTag
  itemSet "tx_digest" (.string (hashToJsonString lib tx.txDigest))
  itemSet "last_digest" (.string (hashToJsonString lib tx.lastMsgDigest))
  itemSet "rpc_time" (.string (decimalText tx.edgeTimestamp.toNat))
  appendItem
  pure userTag

/-- The loop of `account_history`; it answers the final counter. -/
def historyLoop (lib : Externals) (startNum endNum : ℤ) :
    List Xtransaction → ℤ → UserTag → HandlerM ℤ
  | [], num, _ => pure num
  | tx :: rest, num, userTag =>
    if tx.transactionType ≠ lib.types.transferAssetIn ∧
        tx.transactionType ≠ lib.types.transferAssetOut then
      historyLoop lib startNum endNum rest num userTag
    else if startNum ≤ num ∧ num < endNum then do
      let userTag ← historyRow lib tx userTag
      historyLoop lib startNum endNum rest (wrap32 (num + 1)) userTag
    else historyLoop lib startNum endNum rest (wrap32 (num + 1)) userTag

/-- Assign the collected rows: `m_js_rsp["blocks"] = m_js_arrayObj`. -/
def rspSetBlocks : HandlerM Unit := do
  let s ← Routine.read
  rspSet (str "blocks") s.jsArrayObj

/-- `xrpc_handler::account_history`. -/
def accountHistory (lib : Externals) : HandlerM Unit := do
  let account ← rootString lib "account"
  let count ← rootInt "count"
  let perPage ← rootInt "per_page"
  let settleList ← Routine.perform (Op.getSettleBlocks account)
  setResultOk
  let num ← historyLoop lib (wrap32 (count * perPage)) (wrap32 (wrap32 (count + 1) * perPage))
    settleList 0 []
  rspSetBlocks
  rspSet (str "count") (.string (decimalText num))

/-- `xrpc_handler::last_digest`. -/
def lastDigest (lib : Externals) : HandlerM Unit := do
  let account ← rootString lib "account"
  match ← Routine.perform (Op.getAccountSnapInfo account) with
  | none => setResultFail .serverAccountNotFound
  | some localAccount => do
    setResultOk
    rspSet (str "last_digest") (.string (hashToJsonString lib localAccount.lastUnitHash))

/-- The loop of `account_pending`, which stops once the counter reaches the requested count. -/
def pendingLoop (lib : Externals) (count : ℤ) : List Xtransaction → ℤ → HandlerM Unit
  | [], _ => pure ()
  | tx :: rest, num =>
    if count ≤ num then pure ()
    else do
      itemSet "sender" (.string tx.senderAddr)
      itemSet "property_key" (.string tx.propertyKey)
      itemSet "amount" (.string tx.transactionParams)
      itemSet "block" (.string (hashToJsonString lib tx.txDigest))
      appendItem
      pendingLoop lib count rest (wrap32 (num + 1))

/-- `xrpc_handler::account_pending`. -/
def accountPending (lib : Externals) : HandlerM Unit := do
  let account ← rootString lib "account"
  let count ← rootInt "count"
  let receiveList ← Routine.perform (Op.getReceiveBlocks account)
  setResultOk
  pendingLoop lib count receiveList 0
  rspSetBlocks
  rspSet (str "count") (.string (decimalText receiveList.length))

/-- The loop of `query_online_tx`. -/
def onlineLoop (lib : Externals) (startNum endNum : ℤ) : List Xtransaction → ℤ → HandlerM Unit
  | [], _ => pure ()
  | tx :: rest, num => do
    if startNum ≤ num ∧ num < endNum then do
      itemSet "sender" (.string tx.senderAddr)
      itemSet "receiver" (.string tx.receiverAddr)
      itemSet "property_key" (.string tx.propertyKey)
      itemSet "amount" (.string tx.transactionParams)
      itemSet "timestamp" (.string (decimalText tx.timestamp.toNat))
      itemSet "last_digest" (.string (hashToJsonString lib tx.lastMsgDigest))
      itemSet "tx_digest" (.string (hashToJsonString lib tx.txDigest))
      itemSet "rpc_time" (.string (decimalText tx.edgeTimestamp.toNat))
      appendItem
    onlineLoop lib startNum endNum rest (wrap32 (num + 1))

/-- `xrpc_handler::query_online_tx`. -/
def queryOnlineTx (lib : Externals) : HandlerM Unit := do
  let count ← rootInt "count"
  let perPage ← rootInt "per_page"
  match ← Routine.perform Op.queryOnlineTx with
  | none => setResultFail .serverUnkownErr
  | some txList => do
    onlineLoop lib (wrap32 (count * perPage)) (wrap32 (wrap32 (count + 1) * perPage)) txList 0
    rspSetBlocks
    rspSet (str "count") (.string (decimalText txList.length))
    setResultOk

/-- `xrpc_handler::query_tps`. -/
def queryTps : HandlerM Unit := do
  let result ← Routine.perform Op.getStatInfo
  if result.isEmpty then setResultFail .noStatInfo
  else do
    Routine.update fun s => { s with jsRsp := result }
    setResultOk

/-- `xrpc_handler::account_delete`. -/
def accountDelete (lib : Externals) : HandlerM Unit := do
  Routine.perform (Op.deleteAccount (← rootString lib "account"))
  Routine.perform (Op.syncAccountDelete (← rootString lib "account"))
  setResultOk

/-- `xrpc_handler::account_snap_delete`. -/
def accountSnapDelete (lib : Externals) : HandlerM Unit := do
  Routine.perform (Op.accountSnapDelete (← rootString lib "account"))
  setResultOk

/-- `xrpc_handler::account_sync`. -/
def accountSync (lib : Externals) : HandlerM Unit := do
  Routine.perform (Op.syncAccountSync (← rootString lib "account"))
  setResultOk

/-- `xrpc_handler::query_property`. -/
def queryProperty (lib : Externals) : HandlerM Unit := do
  let account ← rootString lib "account"
  match ← Routine.perform (Op.getAccountSnapInfo account) with
  | some accountSnap => do
    let (found, propertyValue) := accountSnap.getProperty (← rootString lib "property_key")
    if found then do
      rspSet (str "property_value") (.string propertyValue)
      setResultOk
    else setResultFail .noPropertyKey
  | none => setResultFail .serverAccountNotFound

/-- The loop of `query_all_property`. -/
def copyProperties : List (Bytes × Bytes) → HandlerM Unit
  | [] => pure ()
  | (key, value) :: rest => do
    rspSet key (.string value)
    copyProperties rest

/-- `xrpc_handler::query_all_property`. -/
def queryAllProperty (lib : Externals) : HandlerM Unit := do
  let account ← rootString lib "account"
  match ← Routine.perform (Op.getAccountSnapInfo account) with
  | some accountSnap => do
    copyProperties accountSnap.getAllProperty
    setResultOk
  | none => setResultFail .serverAccountNotFound

/-- `xrpc_handler::trigger_elect`. The request it hands over carries the null members that
`handle_request` leaves behind when it reads `action` and `account`. -/
def triggerElect : HandlerM Unit := do
  let s ← Routine.read
  let result ← Routine.perform
    (Op.triggerElect ((s.root.touch (str "action")).touch (str "account")))
  Routine.update fun s => { s with jsRsp := result }

end XrpcServer.Handler
