import XrpcServer.Handler.Operations
import XrpcServer.Handler.ReturnCodes
import XrpcServer.Text.Decimal

/-!
# The handler object and its primitives

The members of `xrpc_handler`, the libraries it computes with, and the small steps every
action is written in: reading a request member with a throwing conversion, assigning a
response or row member, updating the transaction under construction.
-/

namespace XrpcServer.Handler

open XrpcServer.Text XrpcServer.Chain XrpcServer.Interaction
open XrpcServer.Json (Value JsonError)

/-- Exceptions a request can end with. -/
inductive Exc where
  | json (e : JsonError)
  | conversion (e : ConversionError)
deriving DecidableEq

/-- Pure library functions and configuration the handler relies on. -/
structure Externals where
  types : TransactionTypes
  base64Encode : Bytes → Bytes
  base64Decode : Bytes → Bytes
  /-- The text jsoncpp prints for a double. -/
  printReal : ℚ → Bytes
  /-- `xJson::Reader::parse`: success, and the value left in the root. -/
  parse : Bytes → Bool × Value
  toStyledString : Value → Bytes
  /-- A default-constructed transaction. -/
  freshTransaction : Xtransaction
  /-- Whether `xconfig` says this node is of type `enum_node_type_rpc`. -/
  isRpcNode : Bool

/-- The data members of `xrpc_handler`. -/
structure HandlerState where
  root : Value
  jsRsp : Value
  jsArrayObj : Value
  jsItem : Value
  tx : Xtransaction

/-- A member function of `xrpc_handler`. -/
abbrev HandlerM (α : Type) := Routine Op Reply HandlerState Exc α

/-- The members of a new handler before its constructor body runs. -/
def HandlerState.initial (lib : Externals) : HandlerState where
  root := .null
  jsRsp := .null
  jsArrayObj := .null
  jsItem := .null
  tx := lib.freshTransaction

/-- Tag a jsoncpp exception. -/
def liftJson {α : Type} (x : Except JsonError α) : Except Exc α := x.mapError .json

/-- A converted value is the same in the handler. -/
@[simp] theorem liftJson_ok {α : Type} (a : α) : liftJson (.ok a) = .ok a := rfl

/-- A failed conversion throws. -/
@[simp] theorem liftJson_error {α : Type} (e : JsonError) :
    liftJson (.error e : Except JsonError α) = .error (.json e) := rfl

section Reading

variable (lib : Externals) (root : Value) (key : String)

/-- `root[key].asString()`. -/
def stringOf : Except Exc Bytes :=
  liftJson ((root.get (str key)).bind (Value.asString lib.printReal))

/-- `root[key].asCString()`. -/
def cStringOf : Except Exc Bytes := liftJson ((root.get (str key)).bind Value.asCString)

/-- `root[key].asInt64()`. -/
def int64Of : Except Exc ℤ := liftJson ((root.get (str key)).bind Value.asInt64)

/-- `root[key].asInt()`. -/
def intOf : Except Exc ℤ := liftJson ((root.get (str key)).bind Value.asInt)

/-- `m_root[key].asString()`. -/
def rootString : HandlerM Bytes := do
  let s ← Routine.read
  Routine.ofExcept (stringOf lib s.root key)

/-- `m_root[key].asCString()`. -/
def rootCString : HandlerM Bytes := do
  let s ← Routine.read
  Routine.ofExcept (cStringOf s.root key)

/-- `m_root[key].asInt()`. -/
def rootInt : HandlerM ℤ := do
  let s ← Routine.read
  Routine.ofExcept (intOf s.root key)

/-- `m_root[key].asInt64()` stored in an unsigned 64-bit variable. -/
def rootTimestamp (key : String) : HandlerM UInt64 := do
  let s ← Routine.read
  let value ← Routine.ofExcept (int64Of s.root key)
  pure (UInt64.ofInt value)

end Reading

/-- `m_js_rsp[key] = value`. -/
def rspSet (key : Bytes) (value : Value) : HandlerM Unit := do
  let s ← Routine.read
  let rsp ← Routine.ofExcept (liftJson (s.jsRsp.set key value))
  Routine.update fun s => { s with jsRsp := rsp }

/-- `m_js_item[key] = value`. -/
def itemSet (key : String) (value : Value) : HandlerM Unit := do
  let s ← Routine.read
  let item ← Routine.ofExcept (liftJson (s.jsItem.set (str key) value))
  Routine.update fun s => { s with jsItem := item }

/-- `m_js_item[key].asString()`. -/
def itemString (lib : Externals) (key : String) : HandlerM Bytes := do
  let s ← Routine.read
  Routine.ofExcept (stringOf lib s.jsItem key)

/-- `m_js_arrayObj.append(m_js_item)`. -/
def appendItem : HandlerM Unit := do
  let s ← Routine.read
  let rows ← Routine.ofExcept (liftJson (s.jsArrayObj.append s.jsItem))
  Routine.update fun s => { s with jsArrayObj := rows }

/-- Assign members of the transaction under construction. -/
def modifyTx (f : Xtransaction → Xtransaction) : HandlerM Unit :=
  Routine.update fun s => { s with tx := f s.tx }

/-- `xrpc_handler::set_result_ok`. -/
def setResultOk : HandlerM Unit := rspSet (str "Result") (.int 1)

/-- `xrpc_handler::set_result_fail`. -/
def setResultFail (err : XrpcReturn) : HandlerM Unit := do
  rspSet (str "Result") (.int 0)
  rspSet (str "ErrCode") (.int err.code)
  rspSet (str "Reason") (.string (xrpcReturnStr err))

/-- Build a `uint256_t` from a pointer to the first byte of a string: 32 bytes are read, the
terminating zero and whatever follows it in memory included when the string is shorter. -/
def uint256At (s : Bytes) : HandlerM Uint256 :=
  if h : 32 ≤ s.length then pure (Uint256.ofFront s h)
  else do
    let beyond ← Routine.perform (Op.readBeyond s (31 - s.length))
    pure ⟨s ++ 0 :: beyond.1, by
      have hb := beyond.2
      simp only [List.length_append, List.length_cons, hb]
      omega⟩

end XrpcServer.Handler
