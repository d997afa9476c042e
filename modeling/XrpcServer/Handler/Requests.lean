import XrpcServer.Handler.Queries

/-!
# Handling one request

The dispatcher over the `action` member, the construction of a handler from a request body
and the response it is asked for afterwards. `serve` is the sequence both servers run.
-/

namespace XrpcServer.Handler

open XrpcServer.Text XrpcServer.Chain XrpcServer.Interaction
open XrpcServer.Json (Value)

/-- The actions `handle_request` distinguishes; `invalid` is its final else. -/
inductive Action where
  | accountBalance
  | accountCreate
  | accountInfo
  | transferOut
  | transferIn
  | accountHistory
  | accountPending
  | lastDigest
  | tpsQuery
  | setProperty
  | queryProperty
  | queryAllProperty
  | give
  | queryOnlineTx
  | accountDelete
  | accountSnapDelete
  | accountSync
  | triggerElect
  | invalid
deriving DecidableEq, Repr

/-- The comparison chain of `handle_request`. -/
def actionOf (action : Bytes) : Action :=
  if action = str "account_balance" then .accountBalance
  else if action = str "account_create" then .accountCreate
  else if action = str "account_info" then .accountInfo
  else if action = str "transfer_out" then .transferOut
  else if action = str "transfer_in" then .transferIn
  else if action = str "account_history" then .accountHistory
  else if action = str "account_pending" then .accountPending
  else if action = str "last_digest" then .lastDigest
  else if action = str "tps_query" then .tpsQuery
  else if action = str "set_property" then .setProperty
  else if action = str "query_property" then .queryProperty
  else if action = str "query_all_property" then .queryAllProperty
  else if action = str "give" then .give
  else if action = str "query_online_tx" then .queryOnlineTx
  else if action = str "account_delete" then .accountDelete
  else if action = str "account_snap_delete" then .accountSnapDelete
  else if action = str "account_sync" then .accountSync
  else if action = str "trigger_elect" then .triggerElect
  else .invalid

/-- What `handle_request` does for an action, given whether `account` is built in. -/
def runAction (lib : Externals) (nohash : Bool) : Action → HandlerM Unit
  | .accountBalance => accountBalance lib
  | .accountCreate => accountCreate lib nohash
  | .accountInfo => accountInfo lib
  | .transferOut => do
    let nohash := noHash (← rootString lib "source")
    transferOut lib nohash
  | .transferIn => transferIn lib nohash
  | .accountHistory => accountHistory lib
  | .accountPending => accountPending lib
  | .lastDigest => lastDigest lib
  | .tpsQuery => queryTps
  | .setProperty => setProperty lib nohash
  | .queryProperty => queryProperty lib
  | .queryAllProperty => queryAllProperty lib
  | .give => give lib
  | .queryOnlineTx => queryOnlineTx lib
  | .accountDelete => accountDelete lib
  | .accountSnapDelete => accountSnapDelete lib
  | .accountSync => accountSync lib
  | .triggerElect => triggerElect
  | .invalid => setResultFail .serverActionInvalid

/-- `xrpc_handler::handle_request`. -/
def handleRequest (lib : Externals) : HandlerM Unit := do
  let action ← rootString lib "action"
  let nohash := noHash (← rootString lib "account")
  runAction lib nohash (actionOf action)

/-- `xrpc_handler::get_response`. -/
def getResponse (lib : Externals) : HandlerM Bytes := do
  let s ← Routine.read
  if s.jsRsp.isEmpty then setResultFail .serverUnkownErr
  let s ← Routine.read
  pure (lib.toStyledString s.jsRsp)

/-- The body of the constructor, on a parse result. -/
def construct (parsed : Bool × Value) : HandlerM Unit := do
  Routine.update fun s => { s with root := parsed.2 }
  if parsed.1 = false then setResultFail .serverJsonParseErr

/-- Construct a handler from a request body, let it handle the request, take the response. -/
def serve (lib : Externals) (req : Bytes) : HandlerM Bytes := do
  construct (lib.parse req)
  handleRequest lib
  getResponse lib

section Sample

/-- A digest of equal bytes, for sample requests. -/
def sampleDigest (b : UInt8) : Uint256 := ⟨List.replicate 32 b, by simp⟩

/-- A default-constructed transaction with every member empty. -/
def sampleFresh : Xtransaction where
  transactionType := 0
  senderAddr := []
  receiverAddr := []
  propertyKey := []
  transactionParams := []
  timestamp := 0
  lastMsgDigest := Uint256.zero
  randomNounce := 0
  workProof := 0
  originSender := []
  originAmount := []
  txDigest := Uint256.zero
  txSignature := []
  edgeTimestamp := 0

/-- Base64 on the few strings the sample requests use. -/
def sampleBase64 : List (Bytes × Bytes) :=
  [(str "AQEBAQEBAQEBAQEBAQEBAQEBAQEBAQEBAQEBAQEBAQE=", List.replicate 32 1),
    (str "AgICAgICAgICAgICAgICAgICAgICAgICAgICAgICAgI=", List.replicate 32 2),
    (str "c2ln", str "sig")]

/-- Libraries for sample requests, on a node that broadcasts directly. -/
def sampleExternals : Externals where
  types := ⟨0, 1, 2, 3, by decide⟩
  base64Encode := id
  base64Decode := fun encoded => (sampleBase64.lookup encoded).getD []
  printReal := fun _ => []
  parse := fun _ => (true, .null)
  toStyledString := fun _ => []
  freshTransaction := sampleFresh
  isRpcNode := false

/-- A store in which every account has the same head and the same balance. -/
def sampleStore : Store where
  getAccountSnapInfo := fun _ => some {
    getBalance := fun _ => some (str "1000")
    sequenceId := 1
    unitSnap := [sampleDigest 1]
    unitSnap_ne_nil := by simp
    createTime := 0
    getProperty := fun _ => (false, [])
    getAllProperty := [] }
  getAccountBalance := fun _ _ => (.other, str "1000")
  getLastHash := fun _ => some (sampleDigest 1)
  existAccount := fun _ => true
  getReceiveBlocks := fun _ => []
  getSettleBlocks := fun _ => []
  queryOnlineTx := none
  getStatInfo := .null

/-- The two heads of every account agree in the sample store. -/
theorem sampleStore_headsAgree : sampleStore.HeadsAgree := by
  intro account snap hash hsnap hhash
  cases hsnap
  cases hhash
  rfl

/-- Surroundings for sample requests: the digest ignores the origin members, and a transaction
is found correct when it carries its own digest. -/
def sampleWorld : World where
  store := sampleStore
  deleteAccount := fun _ store => store
  accountSnapDelete := fun _ store => store
  triggerElect := id
  sha256 := fun tx => sampleDigest (UInt8.ofNat tx.transactionParams.length)
  txHashAndSignCalc := fun _ tx => (sampleDigest (UInt8.ofNat tx.transactionParams.length), str "sig")
  txHashAndSignVerify := fun tx =>
    tx.txDigest = sampleDigest (UInt8.ofNat tx.transactionParams.length)
  timestampNowMs := 0
  getTimestamp := 0
  rand := 0
  accountShardInfo := fun _ => ⟨0⟩
  memory := fun _ _ => 0

end Sample

end XrpcServer.Handler
