import XrpcServer.Faucet.Network
import XrpcServer.Handler.Proposing

/-!
# The ledger that requests read and write

The state shared by concurrent requests, seen by what an account spends: its head, its balances,
and the proposals sent. An account's balances change only when an entry of the account itself is
taken, so they belong to its head. Proposals stay in flight, anyone may send them, and a proposal
settles when it names the head its sender has at that moment.
-/

namespace XrpcServer.Accounts

open XrpcServer.Text XrpcServer.Chain XrpcServer.Interaction XrpcServer.Handler
open XrpcServer.Faucet (linking)

/-- The shared state. -/
structure Ledger extends HeadChain Xtransaction Bytes Uint256 where
  balance : Bytes → Bytes → StoreReturn × Bytes
  /-- Proposals sent so far, by anyone. -/
  flight : List Xtransaction
  /-- Proposals sent by the requests under consideration. -/
  proposed : List Xtransaction

/-- A proposal is settled: it extends the head of its sender, and only the balances of its sender
may change. -/
structure Settles (tx : Xtransaction) (c c' : Ledger) : Prop where
  inFlight : tx ∈ c.flight
  extends_ : HeadChain.Extends linking tx c.toHeadChain c'.toHeadChain
  flight : c'.flight = c.flight
  proposed : c'.proposed = c.proposed
  balance : ∀ account, account ≠ tx.senderAddr → c'.balance account = c.balance account

/-- What happens besides the requests: somebody sends a proposal, or one settles. -/
inductive Environment : Ledger → Ledger → Prop
  | inject (c : Ledger) (tx : Xtransaction) : Environment c { c with flight := tx :: c.flight }
  | settle {c c' : Ledger} (tx : Xtransaction) (h : Settles tx c c') : Environment c c'

/-- A request sends a proposal. -/
def Ledger.send (c : Ledger) (tx : Xtransaction) : Ledger :=
  { c with flight := tx :: c.flight, proposed := tx :: c.proposed }

/-- How the calls of a request are answered. -/
def commits : Commits Op Reply Ledger
  | c, .getAccountSnapInfo account, reply, c' =>
    c' = c ∧ ∀ snap : XaccountSnap, reply = some snap → snap.lastUnitHash = c.head account
  | c, .getLastHash account, reply, c' =>
    c' = c ∧ ∀ hash : Uint256, reply = some hash → hash = c.head account
  | c, .getAccountBalance account key, reply, c' => c' = c ∧ reply = c.balance account key
  | c, .broadcast msg _, _, c' => c' = c.send msg.content.transaction
  | c, .broadcastEx msg, _, c' => c' = c.send msg.content.transaction
  | c, _, _, c' => c' = c

/-- Only a dispatch changes the ledger. -/
theorem commits_reads {op : Op} (hop : op.dispatched = none) (c : Ledger) (reply : Reply op) (c' : Ledger)
    (h : commits c op reply c') : c' = c := by
  cases op
  case broadcast => simp [Op.dispatched] at hop
  case broadcastEx => simp [Op.dispatched] at hop
  case getAccountSnapInfo => exact h.1
  case getLastHash => exact h.1
  case getAccountBalance => exact h.1
  all_goals exact h

/-- A dispatch sends its transaction, and nothing else happens. -/
theorem commits_sends {op : Op} {tx : Xtransaction} (hop : op.dispatched = some tx) (c : Ledger)
    (reply : Reply op) (c' : Ledger) : commits c op reply c' ↔ c' = c.send tx := by
  cases op
  case broadcast =>
    obtain rfl := Option.some.inj hop
    rfl
  case broadcastEx =>
    obtain rfl := Option.some.inj hop
    rfl
  all_goals simp [Op.dispatched] at hop

/-- Before the first request is served: heads are used digests, and nothing has settled since. -/
structure Ledger.Initial (c : Ledger) : Prop where
  head_used : ∀ account, c.head account ∈ c.used
  history : c.history = []
  proposed : c.proposed = []

/-- Such a ledger is well linked. -/
theorem Ledger.Initial.linked {c : Ledger} (h : c.Initial) : c.WellLinked linking := by
  have hchain (account : Bytes) : c.chainOf linking account = [] := by
    rw [HeadChain.chainOf, h.history, List.filter_nil]
  constructor
  case head_used => exact h.head_used
  case spent_used => simp [h.history]
  case nodup => simp [hchain]
  case head_unspent => simp [hchain]

/-- Programs that serve a request of a kind, on any node. -/
def Serves (requests : Externals → Json.Value → Prop)
    (p : Program Op Reply (Except Exc Bytes × HandlerState)) : Prop :=
  ∃ lib req, requests lib (lib.parse req).2 ∧ p = serve lib req (HandlerState.initial lib)

section Serving

variable {sharing : Sharing Ledger}

/-- Serving respects a sharing when handling does. -/
theorem safe_serve {lib : Externals} {req : Bytes} {c : Ledger}
    (h : (handleRequest lib).wp (sharing.spec commits) (fun _ _ _ => True) (fun _ _ _ => True)
      (constructed lib (lib.parse req)) c) :
    sharing.Safe commits (serve lib req (HandlerState.initial lib)) c := by
  have hserve : (serve lib req).wp (sharing.spec commits) (fun _ _ _ => True) (fun _ _ _ => True)
      (HandlerState.initial lib) c := by
    rw [serve, Routine.wp_bind, Routine.wp, construct_run]
    change (handleRequest lib >>= fun _ => getResponse lib).wp _ _ _ _ c
    rw [Routine.wp_bind]
    refine Routine.wp_mono (sharing.spec_mono commits) _ ?_ ?_ h
    · intro _ s' c' _
      simp [getResponse]
    · exact fun _ _ _ h => h
  exact Program.wp_mono (sharing.spec_mono commits) _ (fun _ _ _ => trivial) hserve

/-- An operation that dispatches nothing continues in some later valid ledger. -/
theorem wp_reads {op : Op} (hop : op.dispatched = none) {s : HandlerState} {c : Ledger}
    {ok : Reply op → HandlerState → Ledger → Prop} {err : Exc → HandlerState → Ledger → Prop}
    (h : ∀ reply later, sharing.valid later → sharing.grows c later → commits later op reply later →
      ok reply s later) : (Routine.perform op).wp (sharing.spec commits) ok err s c :=
  Sharing.spec_of_reads sharing commits (commits_reads hop) h

/-- The transaction is sent to some later valid ledger. -/
theorem wp_sends {lib : Externals} {s : HandlerState} {c : Ledger}
    {ok : Unit → HandlerState → Ledger → Prop} {err : Exc → HandlerState → Ledger → Prop}
    (h : ∀ later, sharing.valid later → sharing.grows c later → sharing.valid (later.send s.tx) ∧
      sharing.grows later (later.send s.tx) ∧ ok () s (later.send s.tx)) :
    (doTransaction lib).wp (sharing.spec commits) ok err s c := by
  simp only [doTransaction, getTransactionUniqueId, Routine.wp_bind, Routine.wp_read]
  apply wp_reads rfl
  intro seconds c₁ _ hgrows₁ _
  apply wp_reads rfl
  intro random c₂ _ hgrows₂ _
  have hgrown := sharing.trans hgrows₁ hgrows₂
  simp only [Routine.wp_pure, Routine.wp_ite]
  constructor
  · intro _ before hvalid hgrows _ after hcommits
    obtain rfl := (commits_sends rfl before _ after).mp hcommits
    exact h before hvalid (sharing.trans hgrown hgrows)
  · intro _
    rw [Routine.wp_bind]
    apply wp_reads rfl
    intro shard c₃ _ hgrows₃ _ before hvalid hgrows _ after hcommits
    obtain rfl := (commits_sends rfl before _ after).mp hcommits
    exact h before hvalid (sharing.trans hgrown (sharing.trans hgrows₃ hgrows))

end Serving

section Sample

/-- A request may be served alone up to its proposal. -/
theorem reachable_sent (requests : Externals → Json.Value → Prop) (lib : Externals) (req : Bytes)
    (hrequests : requests lib (lib.parse req).2) {c : Ledger} (hinitial : c.Initial)
    {w : World} (hanswers : ∀ op : Op, op.isQuiet → commits c op (w.answer op) c) {tx : Xtransaction}
    (hawaits : ((serve lib req (HandlerState.initial lib)).advance Op.isQuiet w.answer).awaits.bind
      Op.dispatched = some tx) :
    ∃ threads, Pool.Reachable commits Environment (Serves requests) Ledger.Initial ⟨c.send tx, threads⟩ := by
  have hstart : Pool.Reachable commits Environment (Serves requests) Ledger.Initial ⟨c, []⟩ := .start hinitial
  have hspawned := hstart.step (.spawn (serve lib req (HandlerState.initial lib)) ⟨lib, req, hrequests, rfl⟩)
  have hchecked := hspawned.advance Op.isQuiet w.answer hanswers
  cases hrest : (serve lib req (HandlerState.initial lib)).advance Op.isQuiet w.answer with
  | ret value => simp [hrest, Program.awaits] at hawaits
  | call op next =>
    rw [hrest] at hchecked hawaits
    have hop : op.dispatched = some tx := hawaits
    exact ⟨_, hchecked.perform ((commits_sends hop c (w.answer op) _).mpr rfl)⟩

/-- A ledger in which every account has one head and one balance. -/
def sampleLedger : Ledger where
  head := fun _ => sampleDigest 1
  history := []
  used := {sampleDigest 1}
  balance := fun _ _ => (.other, str "1000")
  flight := []
  proposed := []

/-- The sample store answers for this ledger. -/
theorem sampleLedger_answers (op : Op) (hquiet : op.isQuiet) :
    commits sampleLedger op (sampleWorld.answer op) sampleLedger := by
  cases op
  case getAccountSnapInfo =>
    refine ⟨rfl, fun snap hsnap => ?_⟩
    obtain rfl := Option.some.inj hsnap
    rfl
  case getLastHash =>
    refine ⟨rfl, fun hash hhash => ?_⟩
    obtain rfl := Option.some.inj hhash
    rfl
  case getAccountBalance => exact ⟨rfl, rfl⟩
  case broadcast => simp at hquiet
  case broadcastEx => simp at hquiet
  all_goals rfl

/-- The ledger after a proposal was sent and has settled. -/
def settledLedger (tx : Xtransaction) : Ledger :=
  { sampleLedger.send tx with
    head := fun account => if account = tx.senderAddr then sampleDigest 2 else sampleDigest 1
    history := [tx]
    used := {sampleDigest 2, sampleDigest 1} }

/-- A proposal that names the one head settles. -/
theorem settledLedger_settles {tx : Xtransaction} (htx : tx.lastMsgDigest = sampleDigest 1) :
    Settles tx (sampleLedger.send tx) (settledLedger tx) := by
  constructor
  case inFlight => exact List.mem_cons_self
  case extends_ =>
    constructor
    case lastDigest => exact htx
    case fresh =>
      intro hused
      simp only [settledLedger, linking, if_true] at hused
      have heq : sampleDigest 2 = sampleDigest 1 := hused
      exact absurd heq (by decide)
    case others =>
      intro account haccount
      exact if_neg haccount
    case history => rfl
    case used => simp [settledLedger, linking, Ledger.send, sampleLedger]
  case flight => rfl
  case proposed => rfl
  case balance => exact fun _ _ => rfl

end Sample

end XrpcServer.Accounts
