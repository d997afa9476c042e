import XrpcServer.Faucet.Give

/-!
# A destination is paid once

Any number of `give` requests run over one network, their calls interleaved in any order with
each other and with proposals settling. In every state reached, at most one transaction sent
by a `give` has settled for each destination.
-/

namespace XrpcServer.Faucet

open XrpcServer.Text XrpcServer.Chain XrpcServer.Interaction XrpcServer.Handler
open XrpcServer.Json (Value)

/-- Programs that serve a `give` request, on any node of a network. -/
def ServesGive (types : TransactionTypes) (p : Program Op Reply (Except Exc Bytes × HandlerState)) :
    Prop :=
  ∃ lib req, lib.types = types ∧ stringOf lib (lib.parse req).2 "action" = .ok (str "give") ∧
    p = serve lib req (HandlerState.initial lib)

/-- Before the first `give` request is served: heads are used digests, and nothing has settled
since. The lists of the accounts and the proposals in flight are arbitrary. -/
structure Network.Initial (c : Network) : Prop where
  head_used : ∀ account, c.head account ∈ c.used
  history : c.history = []
  given : c.given = []

/-- Such a network satisfies the invariant. -/
theorem Network.Initial.valid {c : Network} (h : c.Initial) (types : TransactionTypes) :
    Valid types c := by
  constructor
  case linked =>
    have hchain (account : Bytes) : c.chainOf linking account = [] := by
      rw [HeadChain.chainOf, h.history, List.filter_nil]
    constructor
    case head_used => exact h.head_used
    case spent_used => simp [h.history]
    case nodup => simp [hchain]
    case head_unspent => simp [hchain]
  case marked => simp [h.history]
  case given => simp [h.given]

/-- Serving a `give` request respects the sharing in every valid network. -/
theorem ServesGive.safe {types : TransactionTypes}
    {p : Program Op Reply (Except Exc Bytes × HandlerState)} (h : ServesGive types p) (c : Network) :
    (sharing types).Safe commits p c := by
  obtain ⟨lib, req, htypes, haction, rfl⟩ := h
  have hserve : (serve lib req).wp (faucetSpec types) (fun _ _ _ => True) anyExit
      (HandlerState.initial lib) c := by
    rw [serve, Routine.wp_bind, Routine.wp, construct_run]
    change (handleRequest lib >>= fun _ => getResponse lib).wp _ _ _ _ c
    rw [Routine.wp_bind]
    have hanswered : (handleRequest lib).wp (faucetSpec types) (fun _ _ _ => True) anyExit
        (constructed lib (lib.parse req)) c := wp_handleRequest_give htypes haction
    refine Routine.wp_mono ((sharing types).spec_mono commits) _ ?_ ?_ hanswered
    · intro _ s' c' _
      simp [getResponse]
    · exact fun _ _ _ h => h
  refine Program.wp_mono ((sharing types).spec_mono commits) _ ?_ hserve
  exact fun _ _ _ => trivial

/-- At most one transaction sent by `give` settles for each destination. -/
theorem give_settles_once (types : TransactionTypes)
    (pool : Pool Op Reply Network (Except Exc Bytes × HandlerState))
    (h : Pool.Reachable commits (Environment types) (ServesGive types) Network.Initial pool)
    (destination : Bytes) :
    (pool.shared.history.countP fun tx =>
      tx ∈ pool.shared.given ∧ tx.receiverAddr = destination) ≤ 1 := by
  have hsound : pool.Sound commits (sharing types) := by
    apply h.sound
    · exact fun c hinitial => hinitial.valid types
    · exact fun c c' hvalid henv => Environment.respects hvalid henv
    · exact fun p hp c _ => hp.safe c
  exact hsound.1.given_settled_le_one destination

section Sample

/-- A `give` request for T-bob. -/
def giveToBob : Value :=
  .object [(str "action", .string (str "give")), (str "destination", .string (str "T-bob"))]

/-- A network in which every account has one head and empty lists. -/
def sampleNetwork : Network where
  head := fun _ => sampleDigest 1
  history := []
  used := {sampleDigest 1}
  receive := fun _ => []
  settle := fun _ => []
  flight := []
  given := []

/-- The proposal a faucet sends for T-bob there. -/
def bobsPayment : Xtransaction :=
  { sampleFresh with
    transactionType := 1
    senderAddr := testGenesisAccountAddress
    receiverAddr := str "T-bob"
    propertyKey := str "$$"
    transactionParams := str "100000"
    lastMsgDigest := sampleDigest 1
    txDigest := sampleDigest 6
    txSignature := str "sig" }

/-- A server that has received this request. -/
def faucetExternals : Externals := { sampleExternals with parse := fun _ => (true, giveToBob) }

/-- The network after the proposal was sent and has settled. -/
def paidNetwork : Network :=
  { sampleNetwork.send bobsPayment with
    head := fun account =>
      if account = testGenesisAccountAddress then sampleDigest 2 else sampleDigest 1
    history := [bobsPayment]
    used := {sampleDigest 2, sampleDigest 1}
    receive := fun account => if account = str "T-bob" then [bobsPayment] else [] }

/-- The payment settles. -/
theorem paidNetwork_settles :
    Settles faucetExternals.types bobsPayment (sampleNetwork.send bobsPayment) paidNetwork := by
  constructor
  case inFlight => exact List.mem_cons_self
  case extends_ =>
    constructor
    case lastDigest => rfl
    case fresh =>
      intro hused
      have heq : sampleDigest 2 = sampleDigest 1 := hused
      exact absurd heq (by decide)
    case others =>
      intro account haccount
      exact if_neg haccount
    case history => rfl
    case used => rfl
  case flight => rfl
  case given => rfl
  case settle => exact fun _ => List.Subset.refl _
  case receive => exact fun _ _ => List.nil_subset _
  case payment => exact fun _ => List.mem_cons_self
  case receipt => exact fun hreceipt => absurd hreceipt (by decide)

/-- The sample store answers for this network. -/
theorem sampleNetwork_answers (op : Op) (hquiet : op.isQuiet) :
    commits sampleNetwork op (sampleWorld.answer op) sampleNetwork := by
  cases op
  case getAccountSnapInfo =>
    refine ⟨rfl, fun snap hsnap => ?_⟩
    obtain rfl := Option.some.inj hsnap
    rfl
  case getReceiveBlocks => exact ⟨rfl, rfl⟩
  case getSettleBlocks => exact ⟨rfl, rfl⟩
  case broadcast => simp at hquiet
  case broadcastEx => simp at hquiet
  all_goals rfl

/-- A reachable pool in which the payment of one request has settled. -/
theorem paidNetwork_reachable : ∃ pool : Pool Op Reply Network (Except Exc Bytes × HandlerState),
    Pool.Reachable commits (Environment faucetExternals.types) (ServesGive faucetExternals.types)
      Network.Initial pool ∧ pool.shared = paidNetwork := by
  have hstart : Pool.Reachable commits (Environment faucetExternals.types)
      (ServesGive faucetExternals.types) Network.Initial ⟨sampleNetwork, []⟩ :=
    .start ⟨fun _ => rfl, rfl, rfl⟩
  have hspawned := hstart.step (.spawn (serve faucetExternals [] (HandlerState.initial faucetExternals))
    ⟨faucetExternals, [], rfl, by decide, rfl⟩)
  have hchecked := hspawned.advance Op.isQuiet sampleWorld.answer sampleNetwork_answers
  have hawaits : ((serve faucetExternals [] (HandlerState.initial faucetExternals)).advance
      Op.isQuiet sampleWorld.answer).awaits.bind Op.dispatched = some bobsPayment := by
    decide +kernel
  cases hrest : (serve faucetExternals [] (HandlerState.initial faucetExternals)).advance
      Op.isQuiet sampleWorld.answer with
  | ret value => simp [hrest, Program.awaits] at hawaits
  | call op next =>
    rw [hrest] at hchecked hawaits
    have hop : op.dispatched = some bobsPayment := hawaits
    have hsent := hchecked.perform (commits_sends hop sampleNetwork (sampleWorld.answer op))
    exact ⟨_, hsent.step (.interfere (.settle bobsPayment paidNetwork_settles)), rfl⟩

/-- There the payment has settled exactly once. -/
theorem give_settles_once_sample : (paidNetwork.history.countP fun tx =>
    tx ∈ paidNetwork.given ∧ tx.receiverAddr = str "T-bob") = 1 := by
  obtain ⟨pool, hreachable, hpool⟩ := paidNetwork_reachable
  have hle := give_settles_once faucetExternals.types pool hreachable (str "T-bob")
  rw [hpool] at hle
  have hsettled : 0 < paidNetwork.history.countP fun tx =>
      tx ∈ paidNetwork.given ∧ tx.receiverAddr = str "T-bob" := by
    decide
  omega

end Sample

end XrpcServer.Faucet
