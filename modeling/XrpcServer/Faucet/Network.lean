import XrpcServer.Chain.HeadChain
import XrpcServer.Handler.Transactions
import XrpcServer.Interaction.Interference

/-!
# The network a faucet runs in

The state shared by concurrent requests: the chain with its heads, the receive and settle
lists of every account, and all proposals ever sent. A proposal stays in flight, so it can be
delayed, overtaken and delivered again; anyone may send proposals. Reads of the store are
answered from the current state, and everything else a handler asks for is answered anyhow.
-/

namespace XrpcServer.Faucet

open XrpcServer.Text XrpcServer.Chain XrpcServer.Interaction XrpcServer.Handler

/-- Transactions are linked by their sender and their last digest. -/
def linking : Linking Xtransaction Bytes Uint256 where
  sender := Xtransaction.senderAddr
  lastDigest := Xtransaction.lastMsgDigest

/-- The shared state. -/
structure Network extends HeadChain Xtransaction Bytes Uint256 where
  receive : Bytes → List Xtransaction
  settle : Bytes → List Xtransaction
  /-- Proposals sent so far, by anyone. -/
  flight : List Xtransaction
  /-- Proposals sent by `give` requests. -/
  given : List Xtransaction

/-- A proposal is settled: it extends the head of its sender; a payment appears in the receive
list of its receiver, a receipt moves an entry from the receive to the settle list of its
account; all other entries stay. -/
structure Settles (types : TransactionTypes) (tx : Xtransaction) (c c' : Network) : Prop where
  inFlight : tx ∈ c.flight
  extends_ : HeadChain.Extends linking tx c.toHeadChain c'.toHeadChain
  flight : c'.flight = c.flight
  given : c'.given = c.given
  settle : ∀ account, c.settle account ⊆ c'.settle account
  /-- Entries leave a receive list only by a receipt of its account. -/
  receive : ∀ account, ¬(tx.transactionType = types.transferAssetIn ∧ account = tx.senderAddr) →
    c.receive account ⊆ c'.receive account
  payment : tx.transactionType = types.transferAssetOut → tx ∈ c'.receive tx.receiverAddr
  receipt : tx.transactionType = types.transferAssetIn → tx ∈ c'.settle tx.senderAddr ∧
    ∃ entry, (c.receive tx.senderAddr).erase entry ⊆ c'.receive tx.senderAddr

/-- What happens besides the handlers: somebody sends a proposal, or one settles. -/
inductive Environment (types : TransactionTypes) : Network → Network → Prop
  | inject (c : Network) (tx : Xtransaction) : Environment types c { c with flight := tx :: c.flight }
  | settle {c c' : Network} (tx : Xtransaction) (h : Settles types tx c c') : Environment types c c'

/-- A `give` request sends a proposal. -/
def Network.send (c : Network) (tx : Xtransaction) : Network :=
  { c with flight := tx :: c.flight, given := tx :: c.given }

/-- How a handler's calls are answered in the network. -/
def commits : Commits Op Reply Network
  | c, .getAccountSnapInfo account, reply, c' =>
    c' = c ∧ ∀ snap : XaccountSnap, reply = some snap → snap.lastUnitHash = c.head account
  | c, .getReceiveBlocks account, reply, c' => c' = c ∧ reply = c.receive account
  | c, .getSettleBlocks account, reply, c' => c' = c ∧ reply = c.settle account
  | c, .broadcast msg _, _, c' => c' = c.send msg.content.transaction
  | c, .broadcastEx msg, _, c' => c' = c.send msg.content.transaction
  | c, _, _, c' => c' = c

/-- Only a dispatch changes the network. -/
theorem commits_reads {op : Op} (hop : op.dispatched = none) (c : Network) (reply : Reply op)
    (c' : Network) (h : commits c op reply c') : c' = c := by
  cases op
  case broadcast => simp [Op.dispatched] at hop
  case broadcastEx => simp [Op.dispatched] at hop
  case getAccountSnapInfo => exact h.1
  case getReceiveBlocks => exact h.1
  case getSettleBlocks => exact h.1
  all_goals exact h

/-- A dispatch sends its transaction. -/
theorem commits_sends {op : Op} {tx : Xtransaction} (hop : op.dispatched = some tx) (c : Network)
    (reply : Reply op) : commits c op reply (c.send tx) := by
  cases op
  case broadcast =>
    obtain rfl := Option.some.inj hop
    rfl
  case broadcastEx =>
    obtain rfl := Option.some.inj hop
    rfl
  all_goals simp [Op.dispatched] at hop

end XrpcServer.Faucet
