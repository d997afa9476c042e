import XrpcServer.Accounts.OneHead
import XrpcServer.Accounts.Solvency
import XrpcServer.Faucet.PaidOnce
import XrpcServer.Grpc.OnNode
import XrpcServer.Http.OnNode

/-!
# The servers on the chain

What holds of every pool of requests holds of both servers, in every state of every run: the threads of
the asynchronous calls and the event loop of the HTTP server are hosts of such requests.
-/

namespace XrpcServer.Accounts

open XrpcServer.Text XrpcServer.Chain XrpcServer.Interaction XrpcServer.Handler

/-- A state of the node in a run of one of the servers, begun in an initial state. -/
inductive Served {Node : Type} (commits : Commits Op Reply Node) (environment : Node → Node → Prop)
    (spawnable : Program Op Reply (Except Exc Bytes × HandlerState) → Prop) (initial : Node → Prop) : Node → Prop
  | threads {Thread : Type} [Fintype Thread] [DecidableEq Thread] {lib : Externals} {c : Node}
    {s : Grpc.OnNode Node Thread} (hinitial : initial c)
    (h : Relation.ReflTransGen (Grpc.NodeStep lib commits environment spawnable) ⟨c, .initial Thread⟩ s) :
    Served commits environment spawnable initial s.node
  | server {lib : Externals} {c : Node} {s : Http.OnNode Node} (hinitial : initial c)
    (h : Relation.ReflTransGen (Http.NodeStep lib commits environment spawnable) ⟨c, .started, none⟩ s) :
    Served commits environment spawnable initial s.node

section Hosts

variable {Node : Type} {commits : Commits Op Reply Node} {environment : Node → Node → Prop}
  {spawnable : Program Op Reply (Except Exc Bytes × HandlerState) → Prop} {initial : Node → Prop} {c : Node}

/-- Either server keeps valid what every pool of its handlers keeps valid. -/
theorem Served.valid (h : Served commits environment spawnable initial c) (sharing : Sharing Node)
    (hinitial : ∀ c, initial c → sharing.valid c)
    (henvironment : ∀ c c', sharing.valid c → environment c c' → sharing.valid c' ∧ sharing.grows c c')
    (hspawnable : ∀ p, spawnable p → ∀ c, sharing.valid c → sharing.Safe commits p c) : sharing.valid c := by
  cases h with
  | threads hstart hrun =>
    exact ((Grpc.nodeSteps_covered hstart hrun).2.sound sharing hinitial henvironment hspawnable).1
  | server hstart hrun =>
    exact ((Http.nodeSteps_covered hstart hrun).2.sound sharing hinitial henvironment hspawnable).1

end Hosts

/-- Of all the proposals that requests naming one head lead to, either server sees at most one settled. -/
theorem Served.settled_le_one {account : Bytes} {digest : Uint256} {c : Ledger}
    (h : Served commits Environment (Serves (NamesHead account digest)) Ledger.Initial c) :
    (c.history.countP fun tx => tx ∈ c.proposed) ≤ 1 := by
  have hvalid := h.valid (oneHeadSharing account digest) (fun c hinitial => hinitial.oneHead)
    (fun c c' hvalid henv => ⟨hvalid.environment henv, trivial⟩) (fun p hp c _ => NamesHead.safe_of_serves hp c)
  exact OneHead.settled_le_one hvalid

/-- A transfer either server has signed is covered when it settles. -/
theorem Served.covers {c c' : Ledger} (h : Served commits Environment (Serves ServerTransfer) Ledger.Initial c)
    {tx : Xtransaction} (htx : tx ∈ c.proposed) (hsettles : Settles tx c c') :
    Covers (c.balance tx.senderAddr tx.propertyKey) tx.transactionParams := by
  have hvalid := h.valid solvency (fun c hinitial => hinitial.solvent)
    (fun c c' hsolvent henv => hsolvent.environment henv) (fun p hp c _ => ServerTransfer.safe_of_serves hp c)
  exact Solvent.covers hvalid htx hsettles

/-- At most one transaction that either server has sent for `give` settles for each destination. -/
theorem Served.given_le_one {types : TransactionTypes} {c : Faucet.Network}
    (h : Served Faucet.commits (Faucet.Environment types) (Faucet.ServesGive types) Faucet.Network.Initial c)
    (destination : Bytes) :
    (c.history.countP fun tx => tx ∈ c.given ∧ tx.receiverAddr = destination) ≤ 1 := by
  have hvalid := h.valid (Faucet.sharing types) (fun c hinitial => hinitial.valid types)
    (fun c c' hvalid henv => Faucet.Environment.respects hvalid henv) (fun p hp c _ => hp.safe c)
  exact hvalid.given_settled_le_one destination

end XrpcServer.Accounts
