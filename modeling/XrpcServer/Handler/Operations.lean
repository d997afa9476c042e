import XrpcServer.Chain.Store
import XrpcServer.Interaction.Execution

/-!
# What the handler asks of its surroundings

Every call that leaves the handler is an operation with a typed reply: store getters and
deletions, digest and signature functions of the chain library, clocks, the dispatcher. The
trace of a request therefore shows every hash taken, every key used and every proposal sent.

`readBeyond` stands for reading memory past the end of a decoded string, and
`unsignedSender` marks the last branch of `transaction_digest_add`, which performs nothing.
-/

namespace XrpcServer.Handler

open XrpcServer.Text XrpcServer.Chain XrpcServer.Interaction
open XrpcServer.Json (Value)

/-- `elect::xshard_info`, which the handler only passes on. -/
structure XshardInfo where
  id : ℕ
deriving DecidableEq

/-- The message types the server sends. -/
inductive XtopMsgType where
  | proposalMessage
deriving DecidableEq

/-- The result of `serialize_no_type`, represented by the transaction it encodes. -/
structure Serialized where
  transaction : Xtransaction
deriving DecidableEq

/-- `xtop_message_t`. -/
structure XtopMessage where
  msgType : XtopMsgType
  content : Serialized
  transactionUniqueSeqno : UInt64
deriving DecidableEq

/-- Calls that leave the handler. -/
inductive Op where
  | getAccountSnapInfo (account : Bytes)
  | getAccountBalance (account key : Bytes)
  | getLastHash (account : Bytes)
  | existAccount (account : Bytes)
  | getReceiveBlocks (account : Bytes)
  | getSettleBlocks (account : Bytes)
  | queryOnlineTx
  | getStatInfo
  | deleteAccount (account : Bytes)
  | accountSnapDelete (account : Bytes)
  | syncAccountDelete (account : Bytes)
  | syncAccountSync (account : Bytes)
  | triggerElect (request : Value)
  | sha256 (tx : Xtransaction)
  | txHashAndSignCalc (priKey : Bytes) (tx : Xtransaction)
  | txHashAndSignVerify (tx : Xtransaction)
  | timestampNowMs
  | getTimestamp
  | rand
  | getAccountShardInfo (account : Bytes)
  | broadcast (msg : XtopMessage) (shard : XshardInfo)
  | broadcastEx (msg : XtopMessage)
  | readBeyond (s : Bytes) (count : ℕ)
  | unsignedSender

/-- Reply of each call. -/
@[reducible] def Reply : Op → Type
  | .getAccountSnapInfo _ => Option XaccountSnap
  | .getAccountBalance _ _ => StoreReturn × Bytes
  | .getLastHash _ => Option Uint256
  | .existAccount _ => Bool
  | .getReceiveBlocks _ => List Xtransaction
  | .getSettleBlocks _ => List Xtransaction
  | .queryOnlineTx => Option (List Xtransaction)
  | .getStatInfo => Value
  | .deleteAccount _ => Unit
  | .accountSnapDelete _ => Unit
  | .syncAccountDelete _ => Unit
  | .syncAccountSync _ => Unit
  | .triggerElect _ => Value
  | .sha256 _ => Uint256
  | .txHashAndSignCalc _ _ => Uint256 × Bytes
  | .txHashAndSignVerify _ => Bool
  | .timestampNowMs => UInt64
  | .getTimestamp => UInt64
  | .rand => ℕ
  | .getAccountShardInfo _ => XshardInfo
  | .broadcast _ _ => Unit
  | .broadcastEx _ => Unit
  | .readBeyond _ count => { bytes : Bytes // bytes.length = count }
  | .unsignedSender => Unit

/-- One request's surroundings: the store content and the answers of the libraries. -/
structure World where
  store : Store
  deleteAccount : Bytes → Store → Store
  accountSnapDelete : Bytes → Store → Store
  triggerElect : Value → Value
  sha256 : Xtransaction → Uint256
  txHashAndSignCalc : Bytes → Xtransaction → Uint256 × Bytes
  txHashAndSignVerify : Xtransaction → Bool
  timestampNowMs : UInt64
  getTimestamp : UInt64
  rand : ℕ
  accountShardInfo : Bytes → XshardInfo
  /-- The byte found at an offset past the end of a string. -/
  memory : Bytes → ℕ → UInt8

/-- How a world answers each call. -/
@[simp] def World.answer (w : World) : (op : Op) → Reply op
  | .getAccountSnapInfo account => w.store.getAccountSnapInfo account
  | .getAccountBalance account key => w.store.getAccountBalance account key
  | .getLastHash account => w.store.getLastHash account
  | .existAccount account => w.store.existAccount account
  | .getReceiveBlocks account => w.store.getReceiveBlocks account
  | .getSettleBlocks account => w.store.getSettleBlocks account
  | .queryOnlineTx => w.store.queryOnlineTx
  | .getStatInfo => w.store.getStatInfo
  | .deleteAccount _ => ()
  | .accountSnapDelete _ => ()
  | .syncAccountDelete _ => ()
  | .syncAccountSync _ => ()
  | .triggerElect request => w.triggerElect request
  | .sha256 tx => w.sha256 tx
  | .txHashAndSignCalc priKey tx => w.txHashAndSignCalc priKey tx
  | .txHashAndSignVerify tx => w.txHashAndSignVerify tx
  | .timestampNowMs => w.timestampNowMs
  | .getTimestamp => w.getTimestamp
  | .rand => w.rand
  | .getAccountShardInfo account => w.accountShardInfo account
  | .broadcast _ _ => ()
  | .broadcastEx _ => ()
  | .readBeyond s count => ⟨(List.range count).map (w.memory s), by simp⟩
  | .unsignedSender => ()

/-- Only the two deletions change a world. -/
@[simp] def World.after (w : World) : Op → World
  | .deleteAccount account => { w with store := w.deleteAccount account w.store }
  | .accountSnapDelete account => { w with store := w.accountSnapDelete account w.store }
  | _ => w

/-- A request's surroundings as a deterministic service. -/
def service : Service Op Reply World where
  answer := World.answer
  after := World.after

/-- The service answers what its world answers. -/
@[simp] theorem service_answer (w : World) (op : Op) : service.answer w op = w.answer op := rfl

/-- And leaves what its world becomes. -/
@[simp] theorem service_after (w : World) (op : Op) : service.after w op = w.after op := rfl

/-- An event of a request. -/
abbrev HandlerEvent := Event Op Reply

/-- The transaction an operation proposes to the network, if it is a dispatch. -/
def Op.dispatched : Op → Option Xtransaction
  | .broadcast msg _ => some msg.content.transaction
  | .broadcastEx msg => some msg.content.transaction
  | _ => none

/-- Operations that change the store, reach other nodes or start an election. -/
def Op.isCommand : Op → Bool
  | .deleteAccount _ | .accountSnapDelete _ | .syncAccountDelete _ | .syncAccountSync _
  | .triggerElect _ => true
  | _ => false

/-- The transaction whose digest an operation computes. -/
def Op.hashed : Op → Option Xtransaction
  | .sha256 tx => some tx
  | .txHashAndSignCalc _ tx => some tx
  | _ => none

/-- The private key an operation uses and the transaction it signs. -/
def Op.signed : Op → Option (Bytes × Xtransaction)
  | .txHashAndSignCalc priKey tx => some (priKey, tx)
  | _ => none

/-- Proposals sent during a request, in order. -/
def dispatches (trace : List HandlerEvent) : List Xtransaction := trace.filterMap fun e => e.1.dispatched

/-- Transactions hashed during a request, in order. -/
def hashes (trace : List HandlerEvent) : List Xtransaction := trace.filterMap fun e => e.1.hashed

/-- Uses of a server-held key during a request, in order. -/
def signings (trace : List HandlerEvent) : List (Bytes × Xtransaction) :=
  trace.filterMap fun e => e.1.signed

/-- Dispatches of two traces in a row. -/
@[simp] theorem dispatches_append (t t' : List HandlerEvent) :
    dispatches (t ++ t') = dispatches t ++ dispatches t' := List.filterMap_append

/-- Dispatches, event by event. -/
@[simp] theorem dispatches_cons (e : HandlerEvent) (t : List HandlerEvent) :
    dispatches (e :: t) = e.1.dispatched.toList ++ dispatches t := by
  cases h : e.1.dispatched <;> simp [dispatches, h]

/-- Hashed transactions of two traces in a row. -/
@[simp] theorem hashes_append (t t' : List HandlerEvent) :
    hashes (t ++ t') = hashes t ++ hashes t' := List.filterMap_append

/-- Hashed transactions, event by event. -/
@[simp] theorem hashes_cons (e : HandlerEvent) (t : List HandlerEvent) :
    hashes (e :: t) = e.1.hashed.toList ++ hashes t := by
  cases h : e.1.hashed <;> simp [hashes, h]

/-- Signatures of two traces in a row. -/
@[simp] theorem signings_append (t t' : List HandlerEvent) :
    signings (t ++ t') = signings t ++ signings t' := List.filterMap_append

/-- Signatures, event by event. -/
@[simp] theorem signings_cons (e : HandlerEvent) (t : List HandlerEvent) :
    signings (e :: t) = e.1.signed.toList ++ signings t := by
  cases h : e.1.signed <;> simp [signings, h]

/-- Neither a dispatch nor a command nor the mark of the unreachable branch. -/
@[simp] def Op.isQuiet : Op → Bool
  | .deleteAccount _ | .accountSnapDelete _ | .syncAccountDelete _ | .syncAccountSync _
  | .triggerElect _ | .broadcast _ _ | .broadcastEx _ | .unsignedSender => false
  | _ => true

/-- Quiet, and no digest is computed either. -/
@[simp] def Op.isSilent : Op → Bool
  | .sha256 _ | .txHashAndSignCalc _ _ => false
  | op => op.isQuiet

/-- Nothing is dispatched in an empty trace. -/
@[simp] theorem dispatches_nil : dispatches [] = [] := rfl

/-- Nothing is hashed in it. -/
@[simp] theorem hashes_nil : hashes [] = [] := rfl

/-- Nothing is signed in it. -/
@[simp] theorem signings_nil : signings [] = [] := rfl

/-- Neither a dispatch nor a digest: what the queries and the node commands are made of. -/
def Op.isInert (op : Op) : Bool := op.isSilent || op.isCommand

/-- An inert operation proposes nothing, hashes nothing and uses no key. -/
theorem Op.of_isInert {op : Op} (h : op.isInert) :
    op.dispatched = none ∧ op.hashed = none ∧ op.signed = none ∧ op ≠ .unsignedSender := by
  cases op <;> first | exact absurd h Bool.false_ne_true | exact ⟨rfl, rfl, rfl, by simp⟩

/-- Neither a digest nor a read past the end of a string. -/
def Op.isCalm : Op → Bool
  | .sha256 _ | .txHashAndSignCalc _ _ | .readBeyond _ _ => false
  | _ => true

/-- Inert and calm. -/
def Op.isPlain (op : Op) : Bool := op.isInert && op.isCalm

/-- A trace of quiet operations. -/
def Quiet (trace : List HandlerEvent) : Prop := ∀ e ∈ trace, e.1.isQuiet

/-- A trace of silent operations. -/
def Silent (trace : List HandlerEvent) : Prop := ∀ e ∈ trace, e.1.isSilent

/-- A quiet operation proposes nothing. -/
theorem Op.dispatched_of_isQuiet {op : Op} (h : op.isQuiet) : op.dispatched = none := by
  cases op <;> first | rfl | exact absurd h (by simp)

/-- A quiet operation is not the mark of the unreachable branch. -/
theorem Op.ne_mark_of_isQuiet {op : Op} (h : op.isQuiet) : op ≠ .unsignedSender := by
  intro hmark
  subst hmark
  cases h

/-- A silent operation is quiet, hashes nothing and uses no key. -/
theorem Op.of_isSilent {op : Op} (h : op.isSilent) :
    op.isQuiet ∧ op.hashed = none ∧ op.signed = none := by
  cases op <;> first | exact ⟨rfl, rfl, rfl⟩ | exact absurd h (by simp)

/-- Both parts of a quiet trace are quiet. -/
@[simp] theorem quiet_append {t t' : List HandlerEvent} : Quiet (t ++ t') ↔ Quiet t ∧ Quiet t' := by
  simp only [Quiet, List.mem_append, or_imp, forall_and]

/-- An empty trace is quiet. -/
@[simp] theorem quiet_nil : Quiet [] := by simp [Quiet]

/-- A quiet trace, event by event. -/
@[simp] theorem quiet_cons {e : HandlerEvent} {t : List HandlerEvent} :
    Quiet (e :: t) ↔ e.1.isQuiet ∧ Quiet t := by
  simp [Quiet]

/-- Both parts of a silent trace are silent. -/
@[simp] theorem silent_append {t t' : List HandlerEvent} :
    Silent (t ++ t') ↔ Silent t ∧ Silent t' := by
  simp only [Silent, List.mem_append, or_imp, forall_and]

/-- An empty trace is silent. -/
@[simp] theorem silent_nil : Silent [] := by simp [Silent]

/-- A silent trace, event by event. -/
@[simp] theorem silent_cons {e : HandlerEvent} {t : List HandlerEvent} :
    Silent (e :: t) ↔ e.1.isSilent ∧ Silent t := by
  simp [Silent]

/-- Silence is stronger than quiet. -/
theorem Silent.quiet {t : List HandlerEvent} (h : Silent t) : Quiet t :=
  fun e he => (Op.of_isSilent (h e he)).1

/-- A quiet trace sends no proposal. -/
theorem dispatches_of_quiet {t : List HandlerEvent} (h : Quiet t) : dispatches t = [] := by
  rw [dispatches, List.filterMap_eq_nil_iff]
  exact fun e he => Op.dispatched_of_isQuiet (h e he)

/-- A silent trace takes no hash. -/
theorem hashes_of_silent {t : List HandlerEvent} (h : Silent t) : hashes t = [] := by
  rw [hashes, List.filterMap_eq_nil_iff]
  exact fun e he => (Op.of_isSilent (h e he)).2.1

/-- A silent trace uses no key. -/
theorem signings_of_silent {t : List HandlerEvent} (h : Silent t) : signings t = [] := by
  rw [signings, List.filterMap_eq_nil_iff]
  exact fun e he => (Op.of_isSilent (h e he)).2.2

end XrpcServer.Handler
