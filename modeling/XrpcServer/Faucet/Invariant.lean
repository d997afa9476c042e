import XrpcServer.Faucet.Network

/-!
# Why a destination is paid once

Every payment that settled has left a mark on its receiver, and every proposal of the faucet
was sent for a receiver the genesis account had not paid before the head the proposal names
was spent. A second payment would come after the first on the genesis chain, so the first
would have been taken before the head named by the second.
-/

namespace XrpcServer.Faucet

open XrpcServer.Text XrpcServer.Chain XrpcServer.Interaction XrpcServer.Handler

variable (types : TransactionTypes)

/-- The account has received something: it waits in the receive list or was moved on. -/
def Marked (c : Network) (account : Bytes) : Prop :=
  c.receive account ≠ [] ∨ hasReceipt types (c.settle account) = true

/-- The genesis account paid nothing to this account before the digest was spent. -/
def UnpaidBefore (c : Network) (account : Bytes) (digest : Uint256) : Prop :=
  ∀ tx ∈ c.before linking testGenesisAccountAddress digest,
    ¬(tx.transactionType = types.transferAssetOut ∧ tx.receiverAddr = account)

/-- A proposal of the faucet, with what was known when its head digest was read. -/
structure FaucetProposal (c : Network) (tx : Xtransaction) : Prop where
  payment : tx.transactionType = types.transferAssetOut
  sender : tx.senderAddr = testGenesisAccountAddress
  reached : c.Reached linking testGenesisAccountAddress tx.lastMsgDigest
  unpaid : UnpaidBefore types c tx.receiverAddr tx.lastMsgDigest

/-- The invariant of the network. -/
structure Valid (c : Network) : Prop where
  linked : c.WellLinked linking
  marked : ∀ tx ∈ c.history, tx.transactionType = types.transferAssetOut →
    Marked types c tx.receiverAddr
  given : ∀ tx ∈ c.given, FaucetProposal types c tx

/-- How the network grows: settle lists keep their entries, and what the genesis account sent
before a digest it has reached is spent stays the same. -/
structure Grows (c c' : Network) : Prop where
  settle : ∀ account, c.settle account ⊆ c'.settle account
  before : ∀ digest, c.Reached linking testGenesisAccountAddress digest →
    c'.Reached linking testGenesisAccountAddress digest ∧
      c'.before linking testGenesisAccountAddress digest =
        c.before linking testGenesisAccountAddress digest

/-- What the handlers rely on and keep. -/
def sharing : Sharing Network where
  valid := Valid types
  grows := Grows
  refl _ := ⟨fun _ => List.Subset.refl _, fun _ h => ⟨h, rfl⟩⟩
  trans h h' := by
    refine ⟨fun account => List.Subset.trans (h.settle account) (h'.settle account), fun digest hreached => ?_⟩
    obtain ⟨hreached, hbefore⟩ := h.before digest hreached
    obtain ⟨hreached', hbefore'⟩ := h'.before digest hreached
    exact ⟨hreached', hbefore'.trans hbefore⟩

variable {types}

/-- Receipts do not disappear. -/
theorem hasReceipt_of_subset {settleList settleList' : List Xtransaction}
    (hsubset : settleList ⊆ settleList') (h : hasReceipt types settleList = true) :
    hasReceipt types settleList' = true := by
  simp only [hasReceipt, List.any_eq_true] at h ⊢
  obtain ⟨tx, htx, hreceipt⟩ := h
  exact ⟨tx, hsubset htx, hreceipt⟩

/-- What was unpaid stays unpaid. -/
theorem UnpaidBefore.of_grows {c c' : Network} {account : Bytes} {digest : Uint256}
    (h : UnpaidBefore types c account digest) (hgrows : Grows c c')
    (hreached : c.Reached linking testGenesisAccountAddress digest) :
    UnpaidBefore types c' account digest := by
  intro tx htx
  rw [(hgrows.before digest hreached).2] at htx
  exact h tx htx

/-- A proposal of the faucet remains one. -/
theorem FaucetProposal.of_grows {c c' : Network} {tx : Xtransaction}
    (h : FaucetProposal types c tx) (hgrows : Grows c c') : FaucetProposal types c' tx :=
  ⟨h.payment, h.sender, (hgrows.before _ h.reached).1, h.unpaid.of_grows hgrows h.reached⟩

/-- A mark is not lost when a proposal settles. -/
theorem Marked.of_settles {c c' : Network} {tx : Xtransaction} (hsettles : Settles types tx c c')
    {account : Bytes} (h : Marked types c account) : Marked types c' account := by
  rcases h with hwaiting | hreceipt
  · by_cases hown : tx.transactionType = types.transferAssetIn ∧ account = tx.senderAddr
    · -- the waiting entry may be the one this receipt moves
      obtain ⟨htype, rfl⟩ := hown
      right
      simp only [hasReceipt, List.any_eq_true]
      exact ⟨tx, (hsettles.receipt htype).1, by simp [htype]⟩
    · left
      obtain ⟨entry, hentry⟩ := List.exists_mem_of_ne_nil _ hwaiting
      exact List.ne_nil_of_mem (hsettles.receive account hown hentry)
  · exact Or.inr (hasReceipt_of_subset (hsettles.settle account) hreceipt)

/-- The environment respects the sharing. -/
theorem Environment.respects {c c' : Network} (hvalid : Valid types c) (h : Environment types c c') :
    Valid types c' ∧ Grows c c' := by
  cases h with
  | inject tx =>
    have hgrows : Grows c { c with flight := tx :: c.flight } :=
      ⟨fun _ => List.Subset.refl _, fun _ hreached => ⟨hreached, rfl⟩⟩
    exact ⟨⟨hvalid.linked, hvalid.marked, fun tx' htx' => (hvalid.given tx' htx').of_grows hgrows⟩,
      hgrows⟩
  | settle tx hsettles =>
    have hgrows : Grows c c' :=
      ⟨hsettles.settle, fun digest => hvalid.linked.before_of_extends hsettles.extends_⟩
    refine ⟨⟨hvalid.linked.of_extends hsettles.extends_, ?_, ?_⟩, hgrows⟩
    · intro tx' htx' hpayment
      rw [hsettles.extends_.history] at htx'
      rcases List.mem_append.mp htx' with htx' | htx'
      · exact (hvalid.marked tx' htx' hpayment).of_settles hsettles
      · obtain rfl : tx' = tx := by simpa using htx'
        exact Or.inl (List.ne_nil_of_mem (hsettles.payment hpayment))
    · intro tx' htx'
      rw [hsettles.given] at htx'
      exact (hvalid.given tx' htx').of_grows hgrows

/-- In a valid network no two proposals of the faucet with one receiver have settled. -/
theorem Valid.given_settled_le_one {c : Network} (hvalid : Valid types c) (account : Bytes) :
    (c.history.countP fun tx => tx ∈ c.given ∧ tx.receiverAddr = account) ≤ 1 := by
  by_contra hlt
  -- both payments lie on the chain of the genesis account
  have hchain : (c.history.countP fun tx => tx ∈ c.given ∧ tx.receiverAddr = account) =
      (c.chainOf linking testGenesisAccountAddress).countP fun tx =>
        tx ∈ c.given ∧ tx.receiverAddr = account := by
    rw [HeadChain.chainOf, List.countP_filter]
    refine List.countP_congr fun tx _ => ?_
    simp only [decide_eq_true_eq, Bool.and_eq_true]
    exact ⟨fun h => ⟨h, (hvalid.given tx h.1).sender⟩, fun h => h.1⟩
  rw [hchain, not_le] at hlt
  obtain ⟨front, tx, back, hsplit, htx, first, hfirst, hfirstGiven⟩ := HeadChain.exists_second hlt
  simp only [decide_eq_true_eq] at htx hfirstGiven
  have hunpaid := (hvalid.given tx htx.1).unpaid
  have hbefore := hvalid.linked.before_lastDigest hsplit
  refine hunpaid first ?_ ⟨(hvalid.given first hfirstGiven.1).payment, ?_⟩
  · exact hbefore ▸ hfirst
  · rw [hfirstGiven.2, htx.2]

end XrpcServer.Faucet
