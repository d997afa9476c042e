import XrpcServer.Handler.Utility

/-!
# The five transaction actions

Each action reads its fields, obtains the last digest, lets a builder fill and hash the
shared transaction, signs it, and runs its own checks before the proposal is sent. The
common tail, from `tx_hash_and_sign_verify` to `set_result_ok`, is `verifyAndSubmit` with the
action's remaining checks as argument; a check answers with the code it refuses with.
-/

namespace XrpcServer.Handler

open XrpcServer.Text XrpcServer.Chain XrpcServer.Interaction

/-- Address of the test genesis account. -/
def testGenesisAccountAddress : Bytes := str "T-Um45LZ8HZYUpm5jdWi6bh99mdNjEHkz6w"

/-- Address of the built-in user A. -/
def userAAccountAddress : Bytes := str "T-cEcYfbpbmGvwQbHL349G8khFMcqLmpxig"

/-- Address of the built-in user B. -/
def userBAccountAddress : Bytes := str "T-c1ayVXVmMPajuCTj1ahgWLPyU4m9XUBGk"

/-- Private key of the test genesis account. -/
def testGenesisAccountPriKey : Bytes :=
  [0x83, 0xab, 0x81, 0xe3, 0xcf, 0xe1, 0x44, 0x25, 0xe5, 0x30, 0xea, 0xb1, 0xd3, 0x87, 0xc6, 0xff,
    0x80, 0x50, 0x63, 0x73, 0xc0, 0xa1, 0xcf, 0x5c, 0x63, 0xc7, 0x55, 0x1c, 0x68, 0x40, 0x06, 0xed]

/-- Private key of the built-in user A. -/
def userAPriKey : Bytes :=
  [0x78, 0x09, 0xab, 0xc8, 0xb4, 0xa4, 0x73, 0x88, 0x55, 0xbd, 0xd0, 0xfa, 0xe4, 0x24, 0x0b, 0x6c,
    0x66, 0xd2, 0x00, 0x17, 0xf1, 0x93, 0x2c, 0x30, 0x67, 0x15, 0x39, 0xef, 0xf2, 0xb8, 0x4b, 0xa7]

/-- Private key of the built-in user B. -/
def userBPriKey : Bytes :=
  [0xb2, 0xec, 0x24, 0x76, 0x58, 0x03, 0x40, 0xbe, 0x98, 0x02, 0x33, 0xaa, 0x74, 0xf1, 0x36, 0x7a,
    0x69, 0x4c, 0x60, 0xc5, 0x3b, 0x78, 0xc3, 0x32, 0x15, 0x73, 0xc2, 0x2d, 0xc7, 0x8e, 0x7c, 0x60]

/-- The key the code pairs with an address, if the address is built in. -/
def priKeyOf (address : Bytes) : Option Bytes :=
  if address = testGenesisAccountAddress then some testGenesisAccountPriKey
  else if address = userAAccountAddress then some userAPriKey
  else if address = userBAccountAddress then some userBPriKey
  else none

/-- `xrpc_handler::no_hash`. -/
def noHash (account : Bytes) : Bool :=
  account = testGenesisAccountAddress || account = userAAccountAddress ||
    account = userBAccountAddress

/-- `xrpc_handler::transaction_digest_add`. -/
def transactionDigestAdd : HandlerM Bool := do
  let s ← Routine.read
  match priKeyOf s.tx.senderAddr with
  | some priKey => do
    let sealed ← Routine.perform (Op.txHashAndSignCalc priKey s.tx)
    modifyTx fun tx => { tx with txDigest := sealed.1, txSignature := sealed.2 }
    pure true
  | none => do
    Routine.perform Op.unsignedSender
    pure false

/-- `xrpc_handler::last_digest_set`; `none` stands for the result `false`. -/
def lastDigestSet (lib : Externals) (nohash : Bool) (account : Bytes) : HandlerM (Option Uint256) :=
  if nohash then do
    match ← Routine.perform (Op.getAccountSnapInfo account) with
    | some localAccount => pure (some localAccount.lastUnitHash)
    | none => pure none
  else do
    let encoded ← rootString lib "last_digest"
    let lastHash ← uint256At (lib.base64Decode encoded)
    pure (some lastHash)

/-- `xrpc_handler::tx_digest_signature_set`. -/
def txDigestSignatureSet (lib : Externals) (nohash : Bool) : HandlerM Unit := do
  if nohash then
    let _ ← transactionDigestAdd
  else
    let signature ← rootString lib "signature"
    modifyTx fun tx => { tx with txSignature := jsonStringToSignature lib signature }
  let now ← Routine.perform Op.timestampNowMs
  modifyTx fun tx => { tx with edgeTimestamp := now }

/-- `get_transaction_unique_id`. -/
def getTransactionUniqueId : HandlerM UInt64 := do
  let seconds ← Routine.perform Op.getTimestamp
  let random ← Routine.perform Op.rand
  pure (seconds + UInt64.ofNat random)

/-- `xrpc_handler::do_transaction`. -/
def doTransaction (lib : Externals) : HandlerM Unit := do
  let s ← Routine.read
  let seqno ← getTransactionUniqueId
  let msg : XtopMessage := ⟨.proposalMessage, ⟨s.tx⟩, seqno⟩
  if lib.isRpcNode = false then
    Routine.perform (Op.broadcastEx msg)
  else do
    let shard ← Routine.perform (Op.getAccountShardInfo s.tx.senderAddr)
    Routine.perform (Op.broadcast msg shard)

/-- The tail every transaction action ends with: the hash and signature check, the action's
remaining checks, the proposal, success. -/
def verifyAndSubmit (lib : Externals) (checks : HandlerM (Option XrpcReturn)) : HandlerM Unit := do
  let s ← Routine.read
  let verified ← Routine.perform (Op.txHashAndSignVerify s.tx)
  if verified = false then setResultFail .serverHashSignatureCheckFail
  else do
    match ← checks with
    | some err => setResultFail err
    | none => do
      doTransaction lib
      setResultOk

/-- `xrpc_handler::check_input`; a refusal has been recorded when it answers `false`. -/
def checkInput (lib : Externals) : HandlerM Bool := do
  let keyValid ← do
    if (← rootString lib "action") = str "set_property" then do
      let propertyKey ← rootString lib "property_key"
      -- find_first_of("@") != 0, or some byte of "#$" occurs
      if propertyKey.head? ≠ some 64 ∨ (35 ∈ propertyKey ∨ 36 ∈ propertyKey) then do
        setResultFail .propertyKeyNotValid
        pure false
      else pure true
    else pure true
  if keyValid = false then pure false
  else if (← rootString lib "action") = str "account_create" then do
    if ← Routine.perform (Op.existAccount (← rootString lib "account")) then do
      setResultFail .serverAccountExist
      pure false
    else pure true
  else pure true

/-- `xrpc_handler::account_create`. -/
def accountCreate (lib : Externals) (nohash : Bool) : HandlerM Unit := do
  if (← checkInput lib) = false then pure ()
  else do
    let account ← rootString lib "account"
    let amount ← rootString lib "amount"
    let timestamp ← rootTimestamp "timestamp"
    transactionMakeAccountCreate lib.types account amount timestamp
    txDigestSignatureSet lib nohash
    verifyAndSubmit lib (pure none)

/-- The comparison of the proposed last digest with the account's head. -/
def lastHashCheck (account : Bytes) : HandlerM (Option XrpcReturn) := do
  let s ← Routine.read
  match ← Routine.perform (Op.getLastHash account) with
  | some acctLastHash =>
    if acctLastHash ≠ s.tx.lastMsgDigest then pure (some .lastHashError) else pure none
  | none => pure none

/-- `std::stoll` with its exceptions. -/
def stollOrThrow (s : Bytes) : HandlerM ℤ := Routine.ofExcept ((stoll s).mapError .conversion)

/-- The checks of `transfer_out` after verification: the balance, then the head digest. -/
def transferOutChecks (srcAccount assetKey ammount : Bytes) : HandlerM (Option XrpcReturn) := do
  let (ret, balance) ← Routine.perform (Op.getAccountBalance srcAccount assetKey)
  if ret = .accountNotExist then pure (some .serverAccountNotFound)
  else if ret = .noPropertyKey then pure (some .noPropertyKey)
  else do
    let available ← stollOrThrow balance
    let requested ← stollOrThrow ammount
    if available < requested then pure (some .serverAccountBalanceNotEnough)
    else lastHashCheck srcAccount

/-- `xrpc_handler::transfer_out`. -/
def transferOut (lib : Externals) (nohash : Bool) : HandlerM Unit := do
  let srcAccount ← rootString lib "source"
  let dstAccount ← rootString lib "destination"
  let assetKey ← rootString lib "property_key"
  let ammount ← rootString lib "amount"
  let timestamp ← rootTimestamp "timestamp"
  if srcAccount = dstAccount then setResultFail .senderReceiverTheSame
  else do
    match ← lastDigestSet lib nohash srcAccount with
    | none => setResultFail .serverAccountNotFound
    | some lastHash => do
      transactionMakeTransferOut lib.types srcAccount dstAccount assetKey ammount timestamp lastHash
      txDigestSignatureSet lib nohash
      verifyAndSubmit lib (transferOutChecks srcAccount assetKey ammount)

/-- The loop over a settle list, shared with `account_info`: some entry is a receipt. -/
def hasReceipt (types : TransactionTypes) (settleList : List Xtransaction) : Bool :=
  settleList.any fun tx => tx.transactionType = types.transferAssetIn

/-- The checks of `give` after verification, each a store read of its own: the destination
exists, nothing waits in its receive list, its settle list shows no receipt. -/
def giveChecks (lib : Externals) (dstAccount : Bytes) : HandlerM (Option XrpcReturn) := do
  let exist ← Routine.perform (Op.existAccount dstAccount)
  if exist = false then pure (some .serverAccountNotFound)
  else do
    let receiveList ← Routine.perform (Op.getReceiveBlocks dstAccount)
    if receiveList.length > 0 then pure (some .alreadyGive)
    else do
      let settleList ← Routine.perform (Op.getSettleBlocks dstAccount)
      if hasReceipt lib.types settleList then pure (some .alreadyGive)
      else pure none

/-- `xrpc_handler::give`. -/
def give (lib : Externals) : HandlerM Unit := do
  let dstAccount ← rootString lib "destination"
  let timestamp ← rootTimestamp "timestamp"
  match ← lastDigestSet lib true testGenesisAccountAddress with
  | none => setResultFail .serverAccountNotFound
  | some lastHash => do
    transactionMakeTransferOut lib.types testGenesisAccountAddress dstAccount (str "$$")
      (str "100000") timestamp lastHash
    txDigestSignatureSet lib true
    verifyAndSubmit lib (giveChecks lib dstAccount)

/-- `xrpc_handler::transfer_in`. -/
def transferIn (lib : Externals) (nohash : Bool) : HandlerM Unit := do
  let timestamp ← rootTimestamp "timestamp"
  match ← lastDigestSet lib nohash (← rootString lib "account") with
  | none => setResultFail .serverAccountNotFound
  | some lastHash => do
    let txDigest ← uint256At (lib.base64Decode (← rootString lib "tx_digest"))
    transactionMakeTransferIn lib.types (← rootString lib "account") timestamp txDigest lastHash
    txDigestSignatureSet lib nohash
    let sender ← rootString lib "sender"
    modifyTx fun tx => { tx with originSender := sender }
    let amount ← rootString lib "amount"
    modifyTx fun tx => { tx with originAmount := amount }
    let s ← Routine.read
    verifyAndSubmit lib (lastHashCheck s.tx.senderAddr)

/-- `xrpc_handler::set_property`. -/
def setProperty (lib : Externals) (nohash : Bool) : HandlerM Unit := do
  if (← checkInput lib) = false then pure ()
  else do
    match ← lastDigestSet lib nohash (← rootCString "account") with
    | none => setResultFail .serverAccountNotFound
    | some lastHash => do
      transactionSetProperty lib lastHash
      txDigestSignatureSet lib nohash
      verifyAndSubmit lib (pure none)

end XrpcServer.Handler
