import XrpcServer.Faucet.Invariant
import XrpcServer.Handler.Rules

/-!
# A `give` request relies on the order of its reads

The head digest of the genesis account is read first, the receive list of the destination
before its settle list. What is learnt from each read is stated so that it survives whatever
happens before the next one: a payment that waits or was received after the empty receive list
was seen comes after the digest was read, or its receipt is still to be seen.
-/

namespace XrpcServer.Faucet

open XrpcServer.Text XrpcServer.Chain XrpcServer.Interaction XrpcServer.Handler

variable {types : TransactionTypes} {c c' : Network} {tx : Xtransaction} {account : Bytes}

/-- A payment of the faucet under construction, its head digest read. -/
structure Prepared (types : TransactionTypes) (account : Bytes) (tx : Xtransaction) (c : Network) :
    Prop where
  payment : tx.transactionType = types.transferAssetOut
  sender : tx.senderAddr = testGenesisAccountAddress
  receiver : tx.receiverAddr = account
  reached : c.Reached linking testGenesisAccountAddress tx.lastMsgDigest

/-- A digest that was reached stays reached. -/
theorem Prepared.of_grows (h : Prepared types account tx c) (hgrows : Grows c c') :
    Prepared types account tx c' :=
  ⟨h.payment, h.sender, h.receiver, (hgrows.before _ h.reached).1⟩

/-- The receive list was seen empty: an earlier payment, if any, has left a receipt. -/
structure NothingWaits (types : TransactionTypes) (account : Bytes) (tx : Xtransaction)
    (c : Network) : Prop where
  prepared : Prepared types account tx c
  unpaid : UnpaidBefore types c account tx.lastMsgDigest ∨ hasReceipt types (c.settle account) = true

/-- Receipts are kept, and nothing is added before a reached digest. -/
theorem NothingWaits.of_grows (h : NothingWaits types account tx c) (hgrows : Grows c c') :
    NothingWaits types account tx c' := by
  refine ⟨h.prepared.of_grows hgrows, ?_⟩
  rcases h.unpaid with hunpaid | hreceipt
  · exact Or.inl (hunpaid.of_grows hgrows h.prepared.reached)
  · exact Or.inr (hasReceipt_of_subset (hgrows.settle account) hreceipt)

/-- What is before a digest was settled by the genesis account. -/
theorem mem_history_of_mem_before {digest : Uint256} {tx : Xtransaction}
    (h : tx ∈ c.before linking testGenesisAccountAddress digest) : tx ∈ c.history := by
  have hchain : tx ∈ c.chainOf linking testGenesisAccountAddress :=
    (List.takeWhile_prefix _).subset h
  exact (List.mem_filter.mp hchain).1

/-- An empty receive list in a valid network. -/
theorem Prepared.nothingWaits (h : Prepared types account tx c) (hvalid : Valid types c)
    (hempty : c.receive account = []) : NothingWaits types account tx c := by
  refine ⟨h, ?_⟩
  by_cases hreceipt : hasReceipt types (c.settle account) = true
  · exact Or.inr hreceipt
  · left
    intro paid hpaid hpays
    obtain ⟨hpayment, rfl⟩ := hpays
    have hmarked := hvalid.marked paid (mem_history_of_mem_before hpaid) hpayment
    rcases hmarked with hwaiting | hmoved
    · exact hwaiting hempty
    · exact hreceipt hmoved

/-- A settle list without receipts completes what has to be known about a proposal. -/
theorem NothingWaits.proposal (h : NothingWaits types account tx c)
    (hsettle : hasReceipt types (c.settle account) = false) : FaucetProposal types c tx := by
  obtain ⟨⟨hpayment, hsender, rfl, hreached⟩, hunpaid⟩ := h
  rw [hsettle] at hunpaid
  exact ⟨hpayment, hsender, hreached, hunpaid.resolve_right (by simp)⟩

/-- Sending such a proposal keeps the invariant. -/
theorem FaucetProposal.send (h : FaucetProposal types c tx) (hvalid : Valid types c) :
    Valid types (c.send tx) ∧ Grows c (c.send tx) := by
  have hgrows : Grows c (c.send tx) := ⟨fun _ => List.Subset.refl _, fun _ hreached => ⟨hreached, rfl⟩⟩
  refine ⟨⟨hvalid.linked, hvalid.marked, fun tx' htx' => ?_⟩, hgrows⟩
  rcases List.mem_cons.mp htx' with rfl | hbefore
  · exact h.of_grows hgrows
  · exact (hvalid.given tx' hbefore).of_grows hgrows

section Handlers

variable {lib : Externals} {s : HandlerState} {ok : Unit → HandlerState → Network → Prop}

/-- What the handlers are run under. -/
abbrev faucetSpec (types : TransactionTypes) : OpSpec Op Reply Network :=
  (sharing types).spec commits

/-- No exception does harm. -/
abbrev anyExit : Exc → HandlerState → Network → Prop := fun _ _ _ => True

/-- An operation that dispatches nothing continues in some later valid network. -/
theorem wp_reads {op : Op} (hop : op.dispatched = none)
    {ok : Reply op → HandlerState → Network → Prop}
    (h : ∀ reply later, Valid types later → Grows c later → commits later op reply later →
      ok reply s later) : (Routine.perform op).wp (faucetSpec types) ok anyExit s c :=
  Sharing.spec_of_reads (sharing types) commits (commits_reads hop) h

/-- The dispatch of a proposal keeps the invariant. -/
theorem wp_doTransaction (h : FaucetProposal types c s.tx) (hok : ∀ later, ok () s later) :
    (doTransaction lib).wp (faucetSpec types) ok anyExit s c := by
  simp only [doTransaction, getTransactionUniqueId, Routine.wp_bind, Routine.wp_read]
  apply wp_reads rfl
  intro seconds c₁ _ hgrows₁ _
  apply wp_reads rfl
  intro random c₂ _ hgrows₂ _
  have h₂ := (h.of_grows hgrows₁).of_grows hgrows₂
  simp only [Routine.wp_pure, Routine.wp_ite]
  constructor
  · intro _ before hvalid hgrows _ after hcommits
    obtain rfl : after = before.send s.tx := hcommits
    have hkept := (h₂.of_grows hgrows).send hvalid
    exact ⟨hkept.1, hkept.2, hok _⟩
  · intro _
    rw [Routine.wp_bind]
    apply wp_reads rfl
    intro shard c₃ _ hgrows₃ _ before hvalid hgrows _ after hcommits
    obtain rfl : after = before.send s.tx := hcommits
    have hkept := ((h₂.of_grows hgrows₃).of_grows hgrows).send hvalid
    exact ⟨hkept.1, hkept.2, hok _⟩

/-- The checks of `give` pass only when a proposal may be sent. -/
theorem wp_giveChecks (htypes : lib.types = types) (h : Prepared types account s.tx c)
    {ok : Option XrpcReturn → HandlerState → Network → Prop}
    (hrefused : ∀ code later, ok (some code) s later)
    (hpassed : ∀ later, FaucetProposal types later s.tx → ok none s later) :
    (giveChecks lib account).wp (faucetSpec types) ok anyExit s c := by
  rw [giveChecks, Routine.wp_bind]
  apply wp_reads rfl
  intro exist c₁ _ hgrows₁ _
  rw [Routine.wp_ite]
  constructor
  · exact fun _ => hrefused _ _
  intro _
  rw [Routine.wp_bind]
  apply wp_reads rfl
  intro receiveList c₂ hvalid₂ hgrows₂ hreceive
  rw [Routine.wp_ite]
  constructor
  · exact fun _ => hrefused _ _
  intro hlength
  -- the list was empty in this state
  have hempty : c₂.receive account = [] := by
    rw [← hreceive.2, ← List.length_eq_zero_iff]
    omega
  have hwaits := ((h.of_grows hgrows₁).of_grows hgrows₂).nothingWaits hvalid₂ hempty
  rw [Routine.wp_bind]
  apply wp_reads rfl
  intro settleList c₃ _ hgrows₃ hsettle
  rw [Routine.wp_ite]
  constructor
  · exact fun _ => hrefused _ _
  intro hreceipt
  apply hpassed
  apply (hwaits.of_grows hgrows₃).proposal
  rw [← hsettle.2, ← htypes]
  simpa using hreceipt

/-- The tail of `give` keeps the invariant. -/
theorem wp_verifyAndSubmit_give (htypes : lib.types = types) (h : Prepared types account s.tx c) :
    (verifyAndSubmit lib (giveChecks lib account)).wp (faucetSpec types) (fun _ _ _ => True) anyExit s c := by
  rw [verifyAndSubmit, Routine.wp_bind, Routine.wp_read, Routine.wp_bind]
  apply wp_reads rfl
  intro verified c₁ _ hgrows₁ _
  rw [Routine.wp_ite]
  constructor
  · intro _
    simp
  intro _
  rw [Routine.wp_bind]
  apply wp_giveChecks htypes (h.of_grows hgrows₁)
  · intro code later
    simp
  · intro later hproposal
    simp only [Routine.wp_bind]
    apply wp_doTransaction hproposal
    intro last
    simp

/-- `give` keeps the invariant. -/
theorem wp_give (htypes : lib.types = types) :
    (give lib).wp (faucetSpec types) (fun _ _ _ => True) anyExit s c := by
  simp only [give, lastDigestSet, Routine.wp_bind, wp_rootString, wp_rootTimestamp, if_true, implies_true,
    and_true]
  intro dst _ timestamp _
  apply wp_reads rfl
  intro snap c₁ hvalid₁ _ hsnap
  cases snap with
  | none => simp
  | some snap =>
    have hhead : snap.lastUnitHash = c₁.head testGenesisAccountAddress := hsnap.2 snap rfl
    simp only [Routine.wp_pure, transactionMakeTransferOut, digestTx, Routine.wp_bind, wp_modifyTx,
      Routine.wp_read]
    apply wp_reads rfl
    intro digest c₂ _ hgrows₂ _
    have hkey : priKeyOf testGenesisAccountAddress = some testGenesisAccountPriKey := by decide
    simp only [txDigestSignatureSet, transactionDigestAdd, transferOutTx, if_true, Routine.wp_bind,
      Routine.wp_read, hkey]
    apply wp_reads rfl
    intro sealed c₃ _ hgrows₃ _
    simp only [wp_modifyTx, Routine.wp_pure]
    apply wp_reads rfl
    intro now c₄ _ hgrows₄ _
    apply wp_verifyAndSubmit_give htypes
    have hprepared : Prepared types dst
        (transferOutTx lib.types testGenesisAccountAddress dst (str "$$") (str "100000")
          (UInt64.ofInt timestamp)
          snap.lastUnitHash s.tx) c₁ :=
      ⟨by rw [← htypes]; rfl, rfl, rfl, Or.inl hhead⟩
    have hlater := ((hprepared.of_grows hgrows₂).of_grows hgrows₃).of_grows hgrows₄
    exact ⟨hlater.payment, hlater.sender, hlater.receiver, hlater.reached⟩

/-- A request whose action is `give` keeps the invariant. -/
theorem wp_handleRequest_give (htypes : lib.types = types)
    (haction : stringOf lib s.root "action" = .ok (str "give")) :
    (handleRequest lib).wp (faucetSpec types) (fun _ _ _ => True) anyExit s c := by
  simp only [handleRequest, Routine.wp_bind, wp_rootString, implies_true, and_true]
  intro action hread account _
  obtain rfl : str "give" = action := by simpa [haction] using hread
  exact wp_give htypes

end Handlers

end XrpcServer.Faucet
