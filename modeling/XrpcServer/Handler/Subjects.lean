import XrpcServer.Handler.ListRows
import XrpcServer.Handler.Lookups
import XrpcServer.Interaction.Confinement

/-!
# The accounts a request is about

A request asks the node about the accounts it names and about no others, with one exception: the
history of an account shows tags of the parties of its transactions, which are looked up in their
snapshots. The faucet's own account is named by the code.
-/

namespace XrpcServer.Handler

open XrpcServer.Text XrpcServer.Chain XrpcServer.Interaction XrpcServer.Json
open XrpcServer.Json (Value)

/-- The account an operation is about. -/
def Op.account : Op → Option Bytes
  | .getAccountSnapInfo account | .getAccountBalance account _ | .getLastHash account
  | .existAccount account | .getReceiveBlocks account | .getSettleBlocks account
  | .deleteAccount account | .accountSnapDelete account | .syncAccountDelete account
  | .syncAccountSync account | .getAccountShardInfo account => some account
  | _ => none

/-- The accounts a request names. -/
inductive Named (lib : Externals) (root : Value) : Bytes → Prop
  | account {account : Bytes} (h : stringOf lib root "account" = .ok account) : Named lib root account
  | source {account : Bytes} (h : stringOf lib root "source" = .ok account) : Named lib root account
  | destination {account : Bytes} (h : stringOf lib root "destination" = .ok account) :
    Named lib root account
  /-- `set_property` reads the account as a C string. -/
  | cAccount {account : Bytes} (h : cStringOf root "account" = .ok account) : Named lib root account
  /-- `give` pays from the account the code names. -/
  | faucet {action : Bytes} (h : stringOf lib root "action" = .ok action) (hgive : actionOf action = .give) :
    Named lib root testGenesisAccountAddress

/-- The operation is about no account, about a named one, or looks up the tag of a party. -/
def Op.Concerns (named party : Bytes → Prop) (op : Op) : Prop :=
  ∀ account, op.account = some account → named account ∨ op = .getAccountSnapInfo account ∧ party account

/-- The settle list of a named account shows transactions of these parties. -/
def ShowsParties (types : TransactionTypes) (named party : Bytes → Prop) : (op : Op) → Reply op → Prop
  | .getSettleBlocks account, settleList => named account →
      ∀ tx ∈ settleList, party (sourceOf types tx) ∧ party tx.receiverAddr
  | _, _ => True

/-- Only operations that concern these accounts, as long as the parties are shown. -/
def subjects (lib : Externals) (named party : Bytes → Prop) : OpSpec Op Reply Unit :=
  relying (ShowsParties lib.types named party) (Op.Concerns named party)

/-- From this state on, the statements ask about these accounts only. -/
def Minds {α : Type} (lib : Externals) (named party : Bytes → Prop) (m : HandlerM α) (s : HandlerState) : Prop :=
  m.wp (subjects lib named party) (fun _ _ _ => True) (fun _ _ _ => True) s ()

section Statements

variable {lib : Externals} {named party : Bytes → Prop} {s : HandlerState} {α β : Type}

/-- An operation about no account concerns no other one. -/
theorem Op.concerns_of_none {op : Op} (h : op.account = none) : op.Concerns named party := by
  intro account haccount
  rw [h] at haccount
  cases haccount

/-- Nor does one about a named account. -/
theorem Op.concerns_of_named {op : Op} {account : Bytes} (h : op.account = some account)
    (hnamed : named account) : op.Concerns named party := by
  intro account' haccount
  rw [h] at haccount
  cases haccount
  exact Or.inl hnamed

/-- Where nothing is asked, nothing is asked about others. -/
theorem Still.minds {m : HandlerM α} (h : Still m) : Minds lib named party m s :=
  Routine.wp_of_uses_none _ h (fun _ _ => trivial) fun _ _ => trivial

/-- Statements one after the other. -/
theorem minds_bind {m : HandlerM α} {f : α → HandlerM β}
    (h : m.wp (subjects lib named party) (fun a s' _ => Minds lib named party (f a) s') (fun _ _ _ => True) s ()) :
    Minds lib named party (m >>= f) s := by
  rw [Minds, Routine.wp_bind]
  exact h

/-- A member of the request is read. -/
theorem minds_rootString {key : String} {f : Bytes → HandlerM β}
    (h : ∀ text, stringOf lib s.root key = .ok text → Minds lib named party (f text) s) :
    Minds lib named party (rootString lib key >>= f) s := by
  apply minds_bind
  rw [wp_rootString]
  exact ⟨h, fun _ _ => trivial⟩

/-- Reading a C string concerns nobody, and what comes after it may rely on the text. -/
theorem minds_rootCString {key : String} {f : Bytes → HandlerM β}
    (h : ∀ text, cStringOf s.root key = .ok text → Minds lib named party (f text) s) :
    Minds lib named party (rootCString key >>= f) s := by
  apply minds_bind
  rw [wp_rootCString]
  exact ⟨h, fun _ _ => trivial⟩

/-- Reading a number concerns nobody. -/
theorem minds_rootInt {key : String} {f : ℤ → HandlerM β} (h : ∀ i, Minds lib named party (f i) s) :
    Minds lib named party (rootInt key >>= f) s := by
  apply minds_bind
  rw [wp_rootInt]
  exact ⟨fun i _ => h i, fun _ _ => trivial⟩

/-- Nor does reading the timestamp. -/
theorem minds_rootTimestamp {key : String} {f : UInt64 → HandlerM β} (h : ∀ i, Minds lib named party (f i) s) :
    Minds lib named party (rootTimestamp key >>= f) s := by
  apply minds_bind
  rw [wp_rootTimestamp]
  exact ⟨fun i _ => h (UInt64.ofInt i), fun _ _ => trivial⟩

/-- The node is asked, and replies as is relied on. -/
theorem wp_asked {op : Op} (hop : op.Concerns named party) {ok : Reply op → HandlerState → Unit → Prop}
    {err : Exc → HandlerState → Unit → Prop}
    (h : ∀ reply, ShowsParties lib.types named party op reply → ok reply s ()) :
    (Routine.perform op).wp (subjects lib named party) ok err s () := ⟨hop, h⟩

/-- An operation has to concern the parties, and what it shows may be relied on. -/
theorem minds_perform {op : Op} (hop : op.Concerns named party) {f : Reply op → HandlerM β}
    (h : ∀ reply, ShowsParties lib.types named party op reply → Minds lib named party (f reply) s) :
    Minds lib named party (Routine.perform op >>= f) s :=
  minds_bind (wp_asked hop h)

/-- A statement that asks nothing comes first. -/
theorem Still.minds_then {m : HandlerM α} {f : α → HandlerM β} (hm : Still m)
    (h : ∀ a s', Minds lib named party (f a) s') : Minds lib named party (m >>= f) s :=
  minds_bind (Routine.wp_of_uses_none _ hm h fun _ _ => trivial)

/-- A statement that asks nothing comes last. -/
theorem Minds.then_still {m : HandlerM α} {f : α → HandlerM β} (h : Minds lib named party m s)
    (hf : ∀ a, Still (f a)) : Minds lib named party (m >>= f) s :=
  minds_bind (Routine.wp_mono relying_mono m (fun a _ _ _ => (hf a).minds) (fun _ _ _ h => h) h)

/-- Each branch may rely on its condition. -/
theorem minds_ite {c : Prop} [Decidable c] {m m' : HandlerM α} (h : c → Minds lib named party m s)
    (h' : ¬c → Minds lib named party m' s) : Minds lib named party (if c then m else m') s := by
  rw [Minds, Routine.wp_ite]
  exact ⟨h, h'⟩

end Statements

section Drafting

variable {lib : Externals} {named party : Bytes → Prop} {s : HandlerState} {β : Type}

/-- A digest is decoded. -/
theorem wp_uint256At_subjects {decoded : Bytes} {ok : Uint256 → HandlerState → Unit → Prop}
    {err : Exc → HandlerState → Unit → Prop} (h : ∀ digest, ok digest s ()) :
    (uint256At decoded).wp (subjects lib named party) ok err s () := by
  rw [uint256At, Routine.wp_dite]
  refine ⟨fun _ => h _, fun _ => ?_⟩
  rw [Routine.wp_bind]
  exact wp_asked (Op.concerns_of_none rfl) fun _ _ => h _

/-- The last digest is that of a named account, or one the client sent. -/
theorem minds_lastDigestSet {nohash : Bool} {account : Bytes} (hnamed : named account)
    {f : Option Uint256 → HandlerM β} (h : ∀ lastHash, Minds lib named party (f lastHash) s) :
    Minds lib named party (lastDigestSet lib nohash account >>= f) s := by
  apply minds_bind
  rw [lastDigestSet, Routine.wp_ite]
  constructor
  · intro _
    rw [Routine.wp_bind]
    apply wp_asked (Op.concerns_of_named rfl hnamed)
    intro reply _
    cases reply <;> exact h _
  · intro _
    rw [Routine.wp_bind, wp_rootString]
    refine ⟨fun encoded _ => ?_, fun _ _ => trivial⟩
    rw [Routine.wp_bind]
    exact wp_uint256At_subjects fun digest => h (some digest)

/-- The transaction is built and its digest taken. -/
theorem minds_built {g : Xtransaction → Xtransaction} {f : Unit → HandlerM β}
    (h : ∀ s' : HandlerState, s'.tx.senderAddr = (g s.tx).senderAddr →
      Minds lib named party (f ()) s') :
    Minds lib named party ((do
      modifyTx g
      digestTx) >>= f) s := by
  apply minds_bind
  rw [Routine.wp_bind, wp_modifyTx, digestTx, Routine.wp_bind, Routine.wp_read, Routine.wp_bind]
  exact wp_asked (Op.concerns_of_none rfl) fun _ _ => h _ rfl

/-- The transaction is signed and stamped. -/
theorem minds_sealed {nohash : Bool} {f : Unit → HandlerM β}
    (h : ∀ s' : HandlerState, s'.tx.senderAddr = s.tx.senderAddr →
      Minds lib named party (f ()) s') : Minds lib named party (txDigestSignatureSet lib nohash >>= f) s := by
  have hstamped (s' : HandlerState) (hsender : s'.tx.senderAddr = s.tx.senderAddr) :
      (do
        let now ← Routine.perform Op.timestampNowMs
        modifyTx fun tx => { tx with edgeTimestamp := now }).wp (subjects lib named party)
        (fun a s'' _ => Minds lib named party (f a) s'') (fun _ _ _ => True) s' () := by
    rw [Routine.wp_bind]
    exact wp_asked (Op.concerns_of_none rfl) fun _ _ => h _ hsender
  apply minds_bind
  rw [txDigestSignatureSet, Routine.wp_ite]
  constructor
  · intro _
    rw [Routine.wp_bind, transactionDigestAdd, Routine.wp_bind, Routine.wp_read]
    cases priKeyOf s.tx.senderAddr with
    | some priKey =>
      rw [Routine.wp_bind]
      apply wp_asked (Op.concerns_of_none rfl)
      intro signed _
      rw [Routine.wp_bind, wp_modifyTx, Routine.wp_pure]
      exact hstamped _ rfl
    | none =>
      rw [Routine.wp_bind]
      exact wp_asked (Op.concerns_of_none rfl) fun _ _ => hstamped s rfl
  · intro _
    rw [Routine.wp_bind, wp_rootString]
    refine ⟨fun signature _ => ?_, fun _ _ => trivial⟩
    rw [Routine.wp_bind, wp_modifyTx]
    exact hstamped _ rfl

/-- A request that is checked goes on from its own root. -/
theorem minds_checkInput (hnamed : ∀ account, stringOf lib s.root "account" = .ok account → named account)
    {f : Bool → HandlerM β} (hrefused : ∀ s', Minds lib named party (f false) s')
    (h : Minds lib named party (f true) s) : Minds lib named party (checkInput lib >>= f) s := by
  have hrefuses (code : XrpcReturn) : (do
      setResultFail code
      pure false : HandlerM Bool).wp (subjects lib named party) (fun valid s' _ => Minds lib named party (f valid) s')
        (fun _ _ _ => True) s () := by
    rw [Routine.wp_bind, wp_setResultFail]
    exact ⟨fun _ _ => hrefused _, fun _ => trivial⟩
  have hjoin : (do
      if (← rootString lib "action") = str "account_create" then do
        if ← Routine.perform (Op.existAccount (← rootString lib "account")) then do
          setResultFail .serverAccountExist
          pure false
        else pure true
      else pure true).wp (subjects lib named party) (fun valid s' _ => Minds lib named party (f valid) s')
        (fun _ _ _ => True) s () := by
    rw [Routine.wp_bind, wp_rootString]
    refine ⟨fun action _ => ?_, fun _ _ => trivial⟩
    rw [Routine.wp_ite]
    refine ⟨fun _ => ?_, fun _ => h⟩
    rw [Routine.wp_bind, wp_rootString]
    refine ⟨fun account haccount => ?_, fun _ _ => trivial⟩
    rw [Routine.wp_bind]
    apply wp_asked (Op.concerns_of_named rfl (hnamed account haccount))
    intro exist _
    rw [Routine.wp_ite]
    exact ⟨fun _ => hrefuses _, fun _ => h⟩
  apply minds_bind
  rw [checkInput, Routine.wp_bind, wp_rootString]
  refine ⟨fun action _ => ?_, fun _ _ => trivial⟩
  rw [Routine.wp_ite]
  refine ⟨fun _ => ?_, fun _ => hjoin⟩
  rw [Routine.wp_bind, wp_rootString]
  refine ⟨fun key _ => ?_, fun _ _ => trivial⟩
  rw [Routine.wp_ite]
  exact ⟨fun _ => hrefuses _, fun _ => hjoin⟩

/-- A transaction of a named account is verified, checked and sent. -/
theorem minds_verifyAndSubmit {checks : HandlerM (Option XrpcReturn)} (hnamed : named s.tx.senderAddr)
    (hchecks : checks.wp (subjects lib named party) (fun _ s' _ => s'.tx = s.tx) (fun _ _ _ => True) s ()) :
    Minds lib named party (verifyAndSubmit lib checks) s := by
  apply minds_bind
  rw [Routine.wp_read]
  apply minds_perform (Op.concerns_of_none rfl)
  intro verified _
  apply minds_ite
  · exact fun _ => (still_setResultFail _).minds
  intro _
  apply minds_bind
  refine Routine.wp_mono relying_mono checks (fun verdict s' _ htx => ?_) (fun _ _ _ h => h) hchecks
  cases verdict with
  | some err => exact (still_setResultFail err).minds
  | none =>
    apply minds_bind
    rw [doTransaction, Routine.wp_bind, Routine.wp_read, getTransactionUniqueId, Routine.wp_bind, Routine.wp_bind]
    apply wp_asked (Op.concerns_of_none rfl)
    intro seconds _
    rw [Routine.wp_bind]
    apply wp_asked (Op.concerns_of_none rfl)
    intro random _
    rw [Routine.wp_pure, Routine.wp_ite]
    constructor
    · intro _
      exact wp_asked (Op.concerns_of_none rfl) fun _ _ => still_setResultOk.minds
    · intro _
      rw [Routine.wp_bind]
      apply wp_asked (Op.concerns_of_named rfl (htx ▸ hnamed))
      intro shard _
      exact wp_asked (Op.concerns_of_none rfl) fun _ _ => still_setResultOk.minds

end Drafting

section Checks

variable {lib : Externals} {named party : Bytes → Prop} {s : HandlerState}

/-- The head of a named account is compared. -/
theorem wp_lastHashCheck_subjects {account : Bytes} (hnamed : named account) :
    (lastHashCheck account).wp (subjects lib named party) (fun _ s' _ => s'.tx = s.tx) (fun _ _ _ => True) s () := by
  rw [lastHashCheck, Routine.wp_bind, Routine.wp_read, Routine.wp_bind]
  apply wp_asked (Op.concerns_of_named rfl hnamed)
  intro reply _
  cases reply with
  | none => rfl
  | some acctLastHash =>
    rw [Routine.wp_ite]
    exact ⟨fun _ => rfl, fun _ => rfl⟩

/-- The balance and the head of the paying account. -/
theorem wp_transferOutChecks_subjects {srcAccount assetKey ammount : Bytes} (hnamed : named srcAccount) :
    (transferOutChecks srcAccount assetKey ammount).wp (subjects lib named party) (fun _ s' _ => s'.tx = s.tx)
      (fun _ _ _ => True) s () := by
  rw [transferOutChecks, Routine.wp_bind]
  apply wp_asked (Op.concerns_of_named rfl hnamed)
  intro reply _
  simp only [Routine.wp_ite, Routine.wp_bind, stollOrThrow, Routine.wp_ofExcept, implies_true, and_true]
  refine ⟨fun _ => rfl, fun _ => ⟨fun _ => rfl, fun _ _ _ _ _ => ⟨fun _ => rfl, fun _ => ?_⟩⟩⟩
  exact wp_lastHashCheck_subjects hnamed

/-- The three reads of the faucet about the account it would pay. -/
theorem wp_giveChecks_subjects {dstAccount : Bytes} (hnamed : named dstAccount) :
    (giveChecks lib dstAccount).wp (subjects lib named party) (fun _ s' _ => s'.tx = s.tx)
      (fun _ _ _ => True) s () := by
  rw [giveChecks, Routine.wp_bind]
  apply wp_asked (Op.concerns_of_named rfl hnamed)
  intro exist _
  rw [Routine.wp_ite]
  refine ⟨fun _ => rfl, fun _ => ?_⟩
  rw [Routine.wp_bind]
  apply wp_asked (Op.concerns_of_named rfl hnamed)
  intro receiveList _
  rw [Routine.wp_ite]
  refine ⟨fun _ => rfl, fun _ => ?_⟩
  rw [Routine.wp_bind]
  apply wp_asked (Op.concerns_of_named rfl hnamed)
  intro settleList _
  rw [Routine.wp_ite]
  exact ⟨fun _ => rfl, fun _ => rfl⟩

end Checks

section Transactions

variable {lib : Externals} {party : Bytes → Prop} {s : HandlerState} {nohash : Bool}

/-- `account_create` concerns the account that is created. -/
theorem minds_accountCreate : Minds lib (Named lib s.root) party (accountCreate lib nohash) s := by
  apply minds_checkInput fun _ => .account
  · exact fun _ => trivial
  apply minds_rootString
  intro account haccount
  apply minds_rootString
  intro amount _
  apply minds_rootTimestamp
  intro timestamp
  apply minds_built
  intro s₁ hsender₁
  apply minds_sealed
  intro s₂ hsender₂
  apply minds_verifyAndSubmit
  · rw [hsender₂, hsender₁]
    exact .account haccount
  · rfl

/-- `transfer_out` concerns the source. -/
theorem minds_transferOut : Minds lib (Named lib s.root) party (transferOut lib nohash) s := by
  apply minds_rootString
  intro srcAccount hsource
  apply minds_rootString
  intro dstAccount _
  apply minds_rootString
  intro assetKey _
  apply minds_rootString
  intro ammount _
  apply minds_rootTimestamp
  intro timestamp
  apply minds_ite
  · exact fun _ => (still_setResultFail _).minds
  intro _
  apply minds_lastDigestSet (.source hsource)
  intro lastHash
  cases lastHash with
  | none => exact (still_setResultFail _).minds
  | some lastHash =>
    apply minds_built
    intro s₁ hsender₁
    apply minds_sealed
    intro s₂ hsender₂
    apply minds_verifyAndSubmit
    · rw [hsender₂, hsender₁]
      exact .source hsource
    · exact wp_transferOutChecks_subjects (.source hsource)

/-- `give` concerns the genesis account and the destination. -/
theorem minds_give {action : Bytes} (haction : stringOf lib s.root "action" = .ok action)
    (hgive : actionOf action = .give) : Minds lib (Named lib s.root) party (give lib) s := by
  have hfaucet : Named lib s.root testGenesisAccountAddress := .faucet haction hgive
  apply minds_rootString
  intro dstAccount hdestination
  apply minds_rootTimestamp
  intro timestamp
  apply minds_lastDigestSet hfaucet
  intro lastHash
  cases lastHash with
  | none => exact (still_setResultFail _).minds
  | some lastHash =>
    apply minds_built
    intro s₁ hsender₁
    apply minds_sealed
    intro s₂ hsender₂
    apply minds_verifyAndSubmit
    · rw [hsender₂, hsender₁]
      exact hfaucet
    · exact wp_giveChecks_subjects (.destination hdestination)

/-- `transfer_in` concerns the account that receives. -/
theorem minds_transferIn : Minds lib (Named lib s.root) party (transferIn lib nohash) s := by
  apply minds_rootTimestamp
  intro timestamp
  apply minds_rootString
  intro account haccount
  apply minds_lastDigestSet (.account haccount)
  intro lastHash
  cases lastHash with
  | none => exact (still_setResultFail _).minds
  | some lastHash =>
    apply minds_rootString
    intro encoded _
    apply minds_bind
    apply wp_uint256At_subjects
    intro txDigest
    apply minds_rootString
    intro account haccount
    apply minds_built
    intro s₁ hsender₁
    apply minds_sealed
    intro s₂ hsender₂
    have hnamed : Named lib s.root s₂.tx.senderAddr := by
      rw [hsender₂, hsender₁]
      exact .account haccount
    apply minds_rootString
    intro sender _
    apply minds_bind
    rw [wp_modifyTx]
    apply minds_rootString
    intro amount _
    apply minds_bind
    rw [wp_modifyTx]
    apply minds_bind
    rw [Routine.wp_read]
    exact minds_verifyAndSubmit hnamed (wp_lastHashCheck_subjects hnamed)

/-- `set_property` concerns the account it is set for. -/
theorem minds_setProperty : Minds lib (Named lib s.root) party (setProperty lib nohash) s := by
  apply minds_checkInput fun _ => .account
  · exact fun _ => trivial
  apply minds_rootCString
  intro account haccount
  apply minds_lastDigestSet (.cAccount haccount)
  intro lastHash
  cases lastHash with
  | none => exact (still_setResultFail _).minds
  | some lastHash =>
    simp only [transactionSetProperty, Routine.bind_assoc]
    apply minds_rootString
    intro account haccount
    apply minds_rootString
    intro propertyKey _
    apply minds_rootString
    intro propertyValue _
    apply minds_rootTimestamp
    intro timestamp
    rw [← Routine.bind_assoc]
    apply minds_built
    intro s₁ hsender₁
    apply minds_sealed
    intro s₂ hsender₂
    apply minds_verifyAndSubmit
    · rw [hsender₂, hsender₁]
      exact .account haccount
    · rfl

end Transactions

end XrpcServer.Handler
