import XrpcServer.Interaction.Replay
import XrpcServer.Handler.Readers

/-!
# The questions of a request

Whatever is replied, a request asks no question twice, reads past the end of a decoded string apart,
and asks the store nothing after a deletion. The kinds of the operations are enough to see it, except
in the history, where the tag cache remembers the accounts that were looked up.
-/

namespace XrpcServer.Handler

open XrpcServer.Text XrpcServer.Chain XrpcServer.Interaction XrpcServer.Json
open XrpcServer.Json (Value)

/-- The operations without their arguments. -/
inductive OpKind where
  | getAccountSnapInfo
  | getAccountBalance
  | getLastHash
  | existAccount
  | getReceiveBlocks
  | getSettleBlocks
  | queryOnlineTx
  | getStatInfo
  | deleteAccount
  | accountSnapDelete
  | syncAccountDelete
  | syncAccountSync
  | triggerElect
  | sha256
  | txHashAndSignCalc
  | txHashAndSignVerify
  | timestampNowMs
  | getTimestamp
  | rand
  | getAccountShardInfo
  | broadcast
  | broadcastEx
  | readBeyond
  | unsignedSender
deriving DecidableEq

/-- Forget the arguments. -/
def Op.kind : Op → OpKind
  | .getAccountSnapInfo _ => .getAccountSnapInfo
  | .getAccountBalance _ _ => .getAccountBalance
  | .getLastHash _ => .getLastHash
  | .existAccount _ => .existAccount
  | .getReceiveBlocks _ => .getReceiveBlocks
  | .getSettleBlocks _ => .getSettleBlocks
  | .queryOnlineTx => .queryOnlineTx
  | .getStatInfo => .getStatInfo
  | .deleteAccount _ => .deleteAccount
  | .accountSnapDelete _ => .accountSnapDelete
  | .syncAccountDelete _ => .syncAccountDelete
  | .syncAccountSync _ => .syncAccountSync
  | .triggerElect _ => .triggerElect
  | .sha256 _ => .sha256
  | .txHashAndSignCalc _ _ => .txHashAndSignCalc
  | .txHashAndSignVerify _ => .txHashAndSignVerify
  | .timestampNowMs => .timestampNowMs
  | .getTimestamp => .getTimestamp
  | .rand => .rand
  | .getAccountShardInfo _ => .getAccountShardInfo
  | .broadcast _ _ => .broadcast
  | .broadcastEx _ => .broadcastEx
  | .readBeyond _ _ => .readBeyond
  | .unsignedSender => .unsignedSender

/-- Questions that the store content answers. -/
def OpKind.asksStore : OpKind → Bool
  | .getAccountSnapInfo | .getAccountBalance | .getLastHash | .existAccount | .getReceiveBlocks
  | .getSettleBlocks | .queryOnlineTx | .getStatInfo => true
  | _ => false

/-- Operations that change the store content. -/
def OpKind.deletes : OpKind → Bool
  | .deleteAccount | .accountSnapDelete => true
  | _ => false

/-- Any operation of the first kind may come before any of the second. -/
def OpKind.precedes (kind kind' : OpKind) : Bool :=
  (kind ≠ kind' || kind = .readBeyond) && !(kind.deletes && kind'.asksStore)

/-- The first operation may come before the second: they are not the same question, unless it is a
read past the end of a string, and the store is not asked after a deletion. -/
def Op.Precedes (op op' : Op) : Prop :=
  (op = op' → op.kind = .readBeyond) ∧ (op.kind.deletes → op'.kind.asksStore = false)

/-- Different kinds are different questions. -/
theorem Op.precedes_of_kind {op op' : Op} (h : op.kind.precedes op'.kind) : op.Precedes op' := by
  simp only [OpKind.precedes, Bool.and_eq_true, Bool.or_eq_true, decide_eq_true_eq, Bool.not_eq_true',
    Bool.and_eq_false_iff] at h
  apply And.intro
  · intro heq
    exact h.1.resolve_left fun hne => hne (congrArg Op.kind heq)
  · intro hdeletes
    exact h.2.resolve_left (by simp [hdeletes])

/-- Only questions of these kinds, none of them asked where it may not be. -/
def Asks {α : Type} (m : HandlerM α) (kinds : List OpKind) : Prop :=
  m.InOrder Op.Precedes fun op => op.kind ∈ kinds

section Rules

variable {α β : Type} {m : HandlerM α} {next : α → HandlerM β} {kinds kinds' : List OpKind}

/-- What performs nothing asks nothing. -/
theorem Still.asks (h : Still m) : Asks m kinds := Routine.InOrder.of_uses_none h

/-- Returning asks nothing. -/
theorem asks_pure (a : α) : Asks (pure a) kinds := Still.asks (Routine.Uses.pure a)

/-- An operation asks one question. -/
theorem asks_perform {op : Op} (h : op.kind ∈ kinds) : Asks (Routine.perform op) kinds :=
  Routine.InOrder.perform h

/-- More kinds of questions may be allowed. -/
theorem Asks.mono (h : Asks m kinds) (hsubset : kinds ⊆ kinds') : Asks m kinds' :=
  Routine.InOrder.mono h fun _ hop => hsubset hop

/-- Both branches ask questions of the kinds. -/
theorem Asks.ite {c : Prop} [Decidable c] {m' : HandlerM α} (h : Asks m kinds) (h' : Asks m' kinds) :
    Asks (if c then m else m') kinds := Routine.InOrder.ite h h'

/-- Questions of kinds that may precede the kinds that follow. -/
theorem Asks.then (hm : Asks m kinds) (hnext : ∀ a, Asks (next a) kinds')
    (hkinds : ∀ kind ∈ kinds, ∀ kind' ∈ kinds', kind.precedes kind') : Asks (m >>= next) (kinds ++ kinds') := by
  have hprecedes : ∀ op op', op.kind ∈ kinds → op'.kind ∈ kinds' → Op.Precedes op op' :=
    fun op op' hop hop' => Op.precedes_of_kind (hkinds _ hop _ hop')
  exact (Routine.InOrder.bind hm hnext hprecedes).mono fun _ hop => List.mem_append.mpr hop

/-- Questions of one kind, then others. -/
theorem Asks.first {kind : OpKind} (hm : Asks m [kind]) (hnext : ∀ a, Asks (next a) kinds)
    (hkinds : ∀ kind' ∈ kinds, kind.precedes kind') : Asks (m >>= next) (kind :: kinds) := by
  apply hm.then hnext
  intro kind' hkind'
  rw [List.mem_singleton.mp hkind']
  exact hkinds

/-- One question, then others. -/
theorem asks_call {op : Op} (kind : OpKind) (hop : op.kind = kind) {next : Reply op → HandlerM β}
    (hnext : ∀ reply, Asks (next reply) kinds) (hkinds : ∀ kind' ∈ kinds, kind.precedes kind') :
    Asks (Routine.perform op >>= next) (kind :: kinds) :=
  (asks_perform (hop ▸ List.mem_singleton_self _)).first hnext hkinds

/-- A statement that asks nothing, then others. -/
theorem Still.asks_then (hm : Still m) (hnext : ∀ a, Asks (next a) kinds) : Asks (m >>= next) kinds :=
  Routine.InOrder.after_none hm hnext

/-- Questions, then a statement that asks nothing. -/
theorem Asks.then_still (hm : Asks m kinds) (hnext : ∀ a, Still (next a)) : Asks (m >>= next) kinds :=
  Routine.InOrder.before_none hm hnext

end Rules

section Statements

variable (lib : Externals)

/-- Reading a text as a C string performs nothing. -/
theorem still_rootCString (key : String) : Still (rootCString key) :=
  Routine.Uses.bind Routine.Uses.read fun _ => Routine.Uses.ofExcept _

/-- Nor does reading the timestamp. -/
theorem still_rootTimestamp (key : String) : Still (rootTimestamp key) :=
  Routine.Uses.bind Routine.Uses.read fun _ =>
    Routine.Uses.bind (Routine.Uses.ofExcept _) fun _ => Routine.Uses.pure _

/-- Nor does writing members of the transaction. -/
theorem still_modifyTx (f : Xtransaction → Xtransaction) : Still (modifyTx f) := Routine.Uses.update _

/-- A digest is completed from behind the string. -/
theorem asks_uint256At (s : Bytes) : Asks (uint256At s) [.readBeyond] := by
  unfold uint256At
  split
  · exact asks_pure _
  · exact (asks_perform (List.mem_singleton_self _)).then_still fun _ => Routine.Uses.pure _

/-- The last digest is looked up in the snapshot, or decoded. -/
theorem asks_lastDigestSet (nohash : Bool) (account : Bytes) :
    Asks (lastDigestSet lib nohash account) [.getAccountSnapInfo, .readBeyond] := by
  apply Asks.ite
  · apply (asks_perform List.mem_cons_self).then_still
    intro reply
    cases reply <;> exact Routine.Uses.pure _
  · apply (still_rootString lib _).asks_then
    intro encoded
    apply Asks.then_still _ fun _ => Routine.Uses.pure _
    exact (asks_uint256At _).mono (List.subset_cons_self _ _)

/-- A builder takes one digest. -/
theorem asks_digestTx : Asks digestTx [.sha256] := by
  apply Still.asks_then Routine.Uses.read
  intro s
  exact (asks_perform (List.mem_singleton_self _)).then_still fun _ => still_modifyTx _

/-- The server signs with the key of the sender, or logs that there is none. -/
theorem asks_transactionDigestAdd : Asks transactionDigestAdd [.txHashAndSignCalc, .unsignedSender] := by
  apply Still.asks_then Routine.Uses.read
  intro s
  cases priKeyOf s.tx.senderAddr with
  | none =>
    apply (asks_perform _).then_still fun _ => Routine.Uses.pure _
    simp [Op.kind]
  | some priKey =>
    apply (asks_perform List.mem_cons_self).then_still
    intro sealed
    exact Routine.Uses.bind (still_modifyTx _) fun _ => Routine.Uses.pure _

/-- The kinds of questions a signature takes. -/
def sealKinds : List OpKind := [.txHashAndSignCalc, .unsignedSender, .timestampNowMs]

/-- A transaction is sealed by the server or with the signature of the client, and dated. -/
theorem asks_txDigestSignatureSet (nohash : Bool) : Asks (txDigestSignatureSet lib nohash) sealKinds := by
  have hstamp : Asks (do
      let now ← Routine.perform Op.timestampNowMs
      modifyTx fun tx => { tx with edgeTimestamp := now }) [.timestampNowMs] :=
    (asks_perform (List.mem_singleton_self _)).then_still fun _ => still_modifyTx _
  apply Asks.ite
  · apply Asks.then asks_transactionDigestAdd (fun _ => hstamp)
    decide
  · apply (still_rootString lib _).asks_then
    intro signature
    apply (still_modifyTx _).asks_then
    intro _
    exact hstamp.mono (by simp [sealKinds])

/-- The kinds of questions a proposal takes. -/
def dispatchKinds : List OpKind := [.getTimestamp, .rand, .broadcastEx, .getAccountShardInfo, .broadcast]

/-- A dispatch reads the clock and draws a random number, and asks for a shard if it sends to one. -/
theorem asks_doTransaction : Asks (doTransaction lib) dispatchKinds := by
  have hid : Asks getTransactionUniqueId [.getTimestamp, .rand] := by
    apply asks_call .getTimestamp rfl _ (by decide)
    intro seconds
    exact (asks_perform (List.mem_singleton_self _)).then_still fun _ => Routine.Uses.pure _
  apply Still.asks_then Routine.Uses.read
  intro s
  apply Asks.then hid _ (by decide)
  intro seqno
  have hsend : Asks (do
      let shard ← Routine.perform (Op.getAccountShardInfo s.tx.senderAddr)
      Routine.perform (Op.broadcast ⟨.proposalMessage, ⟨s.tx⟩, seqno⟩ shard)) [.getAccountShardInfo, .broadcast] :=
    asks_call .getAccountShardInfo rfl (fun shard => asks_perform (List.mem_singleton_self _)) (by decide)
  apply Asks.ite
  · exact asks_perform (by simp [Op.kind])
  · exact hsend.mono (List.subset_cons_self _ _)

/-- The tail of a transaction action, whose checks take other kinds of questions. -/
theorem asks_verifyAndSubmit {checks : HandlerM (Option XrpcReturn)} {kinds : List OpKind}
    (hchecks : Asks checks kinds)
    (hkinds : ∀ kind ∈ kinds, OpKind.txHashAndSignVerify.precedes kind ∧ ∀ kind' ∈ dispatchKinds, kind.precedes kind') :
    Asks (verifyAndSubmit lib checks) (.txHashAndSignVerify :: (kinds ++ dispatchKinds)) := by
  apply Still.asks_then Routine.Uses.read
  intro s
  apply asks_call .txHashAndSignVerify rfl
  · intro verified
    apply Asks.ite (still_setResultFail _).asks
    apply hchecks.then _ fun kind hkind => (hkinds kind hkind).2
    intro decision
    cases decision with
    | some err => exact (still_setResultFail err).asks
    | none => exact (asks_doTransaction lib).then_still fun _ => still_setResultOk
  · intro kind hkind
    rcases List.mem_append.mp hkind with hkind | hkind
    · exact (hkinds kind hkind).1
    · have hafter : ∀ kind ∈ dispatchKinds, OpKind.txHashAndSignVerify.precedes kind := by decide
      exact hafter kind hkind

end Statements

section Actions

variable (lib : Externals)

/-- The checks of a property ask whether the account exists. -/
theorem asks_checkInput : Asks (checkInput lib) [.existAccount] := by
  have hexist : Asks (do
      if (← rootString lib "action") = str "account_create" then do
        if ← Routine.perform (Op.existAccount (← rootString lib "account")) then do
          setResultFail .serverAccountExist
          pure false
        else pure true
      else pure true) [.existAccount] := by
    apply (still_rootString lib _).asks_then
    intro action
    apply Asks.ite _ (asks_pure _)
    apply (still_rootString lib _).asks_then
    intro account
    apply (asks_perform (List.mem_singleton_self _)).then_still
    intro exist
    apply Routine.Uses.ite _ (Routine.Uses.pure _)
    exact Routine.Uses.bind (still_setResultFail _) fun _ => Routine.Uses.pure _
  have hjoin : ∀ keyValid : Bool, Asks (do
      if keyValid = false then pure false
      else if (← rootString lib "action") = str "account_create" then do
        if ← Routine.perform (Op.existAccount (← rootString lib "account")) then do
          setResultFail .serverAccountExist
          pure false
        else pure true
      else pure true) [.existAccount] := fun keyValid => Asks.ite (asks_pure _) hexist
  have hplain : ∀ keyValid : Bool, Still (pure keyValid : HandlerM Bool) := fun _ => Routine.Uses.pure _
  apply (still_rootString lib _).asks_then
  intro action
  apply Asks.ite _ ((hplain _).asks_then hjoin)
  apply (still_rootString lib _).asks_then
  intro key
  apply Asks.ite _ ((hplain _).asks_then hjoin)
  apply (still_setResultFail _).asks_then
  intro _
  exact (hplain _).asks_then hjoin

/-- The last hash is asked for once. -/
theorem asks_lastHashCheck (account : Bytes) : Asks (lastHashCheck account) [.getLastHash] := by
  apply Still.asks_then Routine.Uses.read
  intro s
  apply (asks_perform (List.mem_singleton_self _)).then_still
  intro reply
  cases reply with
  | none => exact Routine.Uses.pure _
  | some hash => exact Routine.Uses.ite (Routine.Uses.pure _) (Routine.Uses.pure _)

/-- The balance is asked for before the last hash. -/
theorem asks_transferOutChecks (srcAccount assetKey ammount : Bytes) :
    Asks (transferOutChecks srcAccount assetKey ammount) [.getAccountBalance, .getLastHash] := by
  apply asks_call .getAccountBalance rfl _ (by decide)
  intro (ret, balance)
  apply Asks.ite (asks_pure _)
  apply Asks.ite (asks_pure _)
  apply Still.asks_then (Routine.Uses.ofExcept _)
  intro available
  apply Still.asks_then (Routine.Uses.ofExcept _)
  intro requested
  exact Asks.ite (asks_pure _) (asks_lastHashCheck _)

/-- The faucet asks whether the account exists, and what it has been paid. -/
theorem asks_giveChecks (dstAccount : Bytes) :
    Asks (giveChecks lib dstAccount) [.existAccount, .getReceiveBlocks, .getSettleBlocks] := by
  apply asks_call .existAccount rfl _ (by decide)
  intro exist
  apply Asks.ite (asks_pure _)
  apply asks_call .getReceiveBlocks rfl _ (by decide)
  intro receiveList
  apply Asks.ite (asks_pure _)
  apply (asks_perform (List.mem_singleton_self _)).then_still
  intro settleList
  exact Routine.Uses.ite (Routine.Uses.pure _) (Routine.Uses.pure _)

/-- A builder takes the digest last. -/
theorem asks_modify_digestTx (f : Xtransaction → Xtransaction) :
    Asks (do
      modifyTx f
      digestTx) [.sha256] := (still_modifyTx f).asks_then fun _ => asks_digestTx

/-- A transaction is built, sealed, and then checked and sent by other kinds of questions. -/
theorem asks_sealed {make rest : HandlerM Unit} {kinds : List OpKind} (nohash : Bool)
    (hmake : Asks make [.sha256]) (hrest : Asks rest kinds)
    (hkinds : ∀ kind ∈ .sha256 :: sealKinds, ∀ kind' ∈ kinds, kind.precedes kind') :
    Asks (do
      make
      txDigestSignatureSet lib nohash
      rest) (.sha256 :: (sealKinds ++ kinds)) := by
  have htail : Asks (do
      txDigestSignatureSet lib nohash
      rest) (sealKinds ++ kinds) := by
    apply (asks_txDigestSignatureSet lib nohash).then fun _ => hrest
    exact fun kind hkind => hkinds kind (List.mem_cons_of_mem _ hkind)
  apply hmake.first fun _ => htail
  intro kind hkind
  rcases List.mem_append.mp hkind with hseal | hrest
  · have hafter : ∀ kind ∈ sealKinds, OpKind.sha256.precedes kind := by decide
    exact hafter kind hseal
  · exact hkinds .sha256 List.mem_cons_self kind hrest

/-- A transaction's head is asked for first, and a missing account is refused. -/
theorem asks_headed (nohash : Bool) (account : Bytes) {next : Uint256 → HandlerM Unit} {kinds : List OpKind}
    (hnext : ∀ lastHash, Asks (next lastHash) kinds)
    (hkinds : ∀ kind ∈ [OpKind.getAccountSnapInfo, .readBeyond], ∀ kind' ∈ kinds, kind.precedes kind') :
    Asks (do
      match ← lastDigestSet lib nohash account with
      | none => setResultFail .serverAccountNotFound
      | some lastHash => next lastHash) (.getAccountSnapInfo :: .readBeyond :: kinds) := by
  apply (asks_lastDigestSet lib nohash account).then _ hkinds
  intro reply
  cases reply with
  | none => exact (still_setResultFail _).asks
  | some lastHash => exact hnext lastHash

/-- The kinds of questions a transaction takes from its digest on, with those of its checks. -/
def draftKinds (checks : List OpKind) : List OpKind :=
  .sha256 :: (sealKinds ++ (.txHashAndSignVerify :: (checks ++ dispatchKinds)))

/-- The questions of `account_create`, in their order. -/
theorem asks_accountCreate (nohash : Bool) : Asks (accountCreate lib nohash) (.existAccount :: draftKinds []) := by
  apply (asks_checkInput lib).first _ (by decide)
  intro admitted
  apply Asks.ite (asks_pure _)
  apply (still_rootString lib _).asks_then
  intro account
  apply (still_rootString lib _).asks_then
  intro amount
  apply (still_rootTimestamp _).asks_then
  intro timestamp
  apply asks_sealed lib nohash (asks_modify_digestTx _) _ (by decide)
  exact asks_verifyAndSubmit lib (asks_pure none) (by decide)

/-- The questions of `transfer_out`, in their order. -/
theorem asks_transferOut (nohash : Bool) : Asks (transferOut lib nohash)
    (.getAccountSnapInfo :: .readBeyond :: draftKinds [.getAccountBalance, .getLastHash]) := by
  apply (still_rootString lib _).asks_then
  intro srcAccount
  apply (still_rootString lib _).asks_then
  intro dstAccount
  apply (still_rootString lib _).asks_then
  intro assetKey
  apply (still_rootString lib _).asks_then
  intro ammount
  apply (still_rootTimestamp _).asks_then
  intro timestamp
  apply Asks.ite (still_setResultFail _).asks
  apply asks_headed lib nohash srcAccount _ (by decide)
  intro lastHash
  apply asks_sealed lib nohash (asks_modify_digestTx _) _ (by decide)
  exact asks_verifyAndSubmit lib (asks_transferOutChecks _ _ _) (by decide)

/-- The questions of `give`, in their order. -/
theorem asks_give : Asks (give lib)
    (.getAccountSnapInfo :: .readBeyond :: draftKinds [.existAccount, .getReceiveBlocks, .getSettleBlocks]) := by
  apply (still_rootString lib _).asks_then
  intro dstAccount
  apply (still_rootTimestamp _).asks_then
  intro timestamp
  apply asks_headed lib true testGenesisAccountAddress _ (by decide)
  intro lastHash
  apply asks_sealed lib true (asks_modify_digestTx _) _ (by decide)
  exact asks_verifyAndSubmit lib (asks_giveChecks lib _) (by decide)

/-- The questions of `transfer_in`, in their order; two strings may be too short. -/
theorem asks_transferIn (nohash : Bool) : Asks (transferIn lib nohash)
    (.getAccountSnapInfo :: .readBeyond :: .readBeyond :: draftKinds [.getLastHash]) := by
  apply (still_rootTimestamp _).asks_then
  intro timestamp
  apply (still_rootString lib _).asks_then
  intro account
  apply asks_headed lib nohash account _ (by decide)
  intro lastHash
  apply (still_rootString lib _).asks_then
  intro encoded
  apply (asks_uint256At _).first _ (by decide)
  intro txDigest
  apply (still_rootString lib _).asks_then
  intro account
  apply asks_sealed lib nohash (asks_modify_digestTx _) _ (by decide)
  apply (still_rootString lib _).asks_then
  intro sender
  apply (still_modifyTx _).asks_then
  intro _
  apply (still_rootString lib _).asks_then
  intro amount
  apply (still_modifyTx _).asks_then
  intro _
  apply Still.asks_then Routine.Uses.read
  intro s
  exact asks_verifyAndSubmit lib (asks_lastHashCheck _) (by decide)

/-- The questions of `set_property`, in their order. -/
theorem asks_setProperty (nohash : Bool) : Asks (setProperty lib nohash)
    (.existAccount :: .getAccountSnapInfo :: .readBeyond :: draftKinds []) := by
  apply (asks_checkInput lib).first _ (by decide)
  intro admitted
  apply Asks.ite (asks_pure _)
  apply (still_rootCString _).asks_then
  intro account
  apply asks_headed lib nohash account _ (by decide)
  intro lastHash
  apply asks_sealed lib nohash _ _ (by decide)
  · apply (still_rootString lib _).asks_then
    intro account
    apply (still_rootString lib _).asks_then
    intro propertyKey
    apply (still_rootString lib _).asks_then
    intro propertyValue
    apply (still_rootTimestamp _).asks_then
    intro timestamp
    exact asks_modify_digestTx _
  · exact asks_verifyAndSubmit lib (asks_pure none) (by decide)

end Actions

end XrpcServer.Handler
