import XrpcServer.Handler.State

/-!
# Transaction builders

`xrpc_utility` fills the shared transaction for each kind of proposal and takes its digest
as the last step. The members a builder does not mention keep their previous values.
-/

namespace XrpcServer.Handler

open XrpcServer.Text XrpcServer.Chain XrpcServer.Interaction

/-- `tx.m_tx_digest = tx.sha256()`. -/
def digestTx : HandlerM Unit := do
  let s ← Routine.read
  let digest ← Routine.perform (Op.sha256 s.tx)
  modifyTx fun tx => { tx with txDigest := digest }

/-- The members `transaction_make_account_create` assigns before hashing. -/
def accountCreateTx (types : TransactionTypes) (account amount : Bytes) (timestamp : UInt64)
    (tx : Xtransaction) : Xtransaction :=
  { tx with
    transactionType := types.createAccount
    senderAddr := account
    receiverAddr := account
    propertyKey := str "$$"
    transactionParams := if amount ≠ [] then amount else str "0"
    timestamp := timestamp
    lastMsgDigest := Uint256.zero
    randomNounce := 0
    workProof := 0 }

/-- `xrpc_utility::transaction_make_account_create`. -/
def transactionMakeAccountCreate (types : TransactionTypes) (account amount : Bytes)
    (timestamp : UInt64) : HandlerM Unit := do
  modifyTx (accountCreateTx types account amount timestamp)
  digestTx

/-- The members `transaction_make_transfer_out` assigns before hashing. -/
def transferOutTx (types : TransactionTypes) (src dst propertyKey amount : Bytes)
    (timestamp : UInt64) (lastHash : Uint256) (tx : Xtransaction) : Xtransaction :=
  { tx with
    transactionType := types.transferAssetOut
    senderAddr := src
    receiverAddr := dst
    propertyKey := propertyKey
    transactionParams := amount
    timestamp := timestamp
    lastMsgDigest := lastHash
    randomNounce := 0
    workProof := 0 }

/-- `xrpc_utility::transaction_make_transfer_out`. -/
def transactionMakeTransferOut (types : TransactionTypes) (src dst propertyKey amount : Bytes)
    (timestamp : UInt64) (lastHash : Uint256) : HandlerM Unit := do
  modifyTx (transferOutTx types src dst propertyKey amount timestamp lastHash)
  digestTx

/-- The members `transaction_make_transfer_in` assigns before hashing. -/
def transferInTx (types : TransactionTypes) (account : Bytes) (timestamp : UInt64)
    (txHash lastHash : Uint256) (tx : Xtransaction) : Xtransaction :=
  { tx with
    transactionType := types.transferAssetIn
    senderAddr := account
    receiverAddr := account
    propertyKey := []
    transactionParams := txHash.1
    timestamp := timestamp
    lastMsgDigest := lastHash
    randomNounce := 0
    workProof := 0 }

/-- `xrpc_utility::transaction_make_transfer_in`. -/
def transactionMakeTransferIn (types : TransactionTypes) (account : Bytes) (timestamp : UInt64)
    (txHash lastHash : Uint256) : HandlerM Unit := do
  modifyTx (transferInTx types account timestamp txHash lastHash)
  digestTx

/-- The members `transaction_set_property` assigns before hashing. -/
def setPropertyTx (types : TransactionTypes) (account propertyKey propertyValue : Bytes)
    (timestamp : UInt64) (lastHash : Uint256) (tx : Xtransaction) : Xtransaction :=
  { tx with
    transactionType := types.dataPropertyOperation
    senderAddr := account
    receiverAddr := account
    propertyKey := propertyKey
    transactionParams := propertyValue
    timestamp := timestamp
    lastMsgDigest := lastHash
    randomNounce := 0
    workProof := 0 }

/-- `xrpc_utility::transaction_set_property`, reading its members from the request. -/
def transactionSetProperty (lib : Externals) (lastHash : Uint256) : HandlerM Unit := do
  let account ← rootString lib "account"
  let propertyKey ← rootString lib "property_key"
  let propertyValue ← rootString lib "property_value"
  let timestamp ← rootTimestamp "timestamp"
  modifyTx (setPropertyTx lib.types account propertyKey propertyValue timestamp lastHash)
  digestTx

/-- `xrpc_utility::json_string_to_signature`. -/
def jsonStringToSignature (lib : Externals) (signature : Bytes) : Bytes := lib.base64Decode signature

/-- `xrpc_utility::hash_to_json_string`, also written out in the query handlers. -/
def hashToJsonString (lib : Externals) (hash : Uint256) : Bytes := lib.base64Encode hash.1

/-- `xrpc_utility::json_string_to_hash`. -/
def jsonStringToHash (lib : Externals) (hash : Bytes) : HandlerM Uint256 :=
  uint256At (lib.base64Decode (cString hash))

end XrpcServer.Handler
