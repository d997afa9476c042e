import XrpcServer.Accounts.Ledger

/-!
# Transfers the server signs are covered when they settle

`transfer_out` compares the amount with the balance long before its proposal settles. Where the
server signs, the head is read before the balance and is the digest the proposal names. Heads do not
come back: if the account still has this head when the proposal settles, it has had it all the time,
and the balance that was read is still its balance.
-/

namespace XrpcServer.Accounts

open XrpcServer.Text XrpcServer.Chain XrpcServer.Interaction XrpcServer.Handler
open XrpcServer.Faucet (linking)
open XrpcServer.Json (Value)

/-- A balance, as the store answers it, is not below an amount. -/
def Covers (answer : StoreReturn × Bytes) (amount : Bytes) : Prop :=
  answer.1 ≠ .accountNotExist ∧ answer.1 ≠ .noPropertyKey ∧ ∃ available requested,
    stoll answer.2 = .ok available ∧ stoll amount = .ok requested ∧ requested ≤ available

/-- While the account has the head this transaction names, its balance covers the amount. -/
structure Backed (c : Ledger) (tx : Xtransaction) : Prop where
  reached : c.Reached linking tx.senderAddr tx.lastMsgDigest
  covered : c.head tx.senderAddr = tx.lastMsgDigest →
    Covers (c.balance tx.senderAddr tx.propertyKey) tx.transactionParams

/-- The invariant: the ledger is well linked, and all proposals are backed. -/
structure Solvent (c : Ledger) : Prop where
  linked : c.WellLinked linking
  backed : ∀ tx ∈ c.proposed, Backed c tx

/-- How the ledger grows: a digest that is the head later was the head all the time since it was
reached, with the same balances. -/
def Grows (c c' : Ledger) : Prop :=
  ∀ account digest, c.Reached linking account digest → c'.Reached linking account digest ∧
    (c'.head account = digest → c.head account = digest ∧ c'.balance account = c.balance account)

/-- What the requests rely on and keep. -/
def solvency : Sharing Ledger where
  valid := Solvent
  grows := Grows
  refl _ _ _ h := ⟨h, fun hhead => ⟨hhead, rfl⟩⟩
  trans h h' account digest hreached := by
    obtain ⟨hreached', hback⟩ := h account digest hreached
    obtain ⟨hreached'', hback'⟩ := h' account digest hreached'
    refine ⟨hreached'', fun hhead => ?_⟩
    obtain ⟨hhead', hbalance'⟩ := hback' hhead
    obtain ⟨hhead, hbalance⟩ := hback hhead'
    exact ⟨hhead, hbalance'.trans hbalance⟩

section Growth

variable {c c' : Ledger} {tx : Xtransaction}

/-- What was read while the account had its head stays true of that head. -/
theorem Backed.of_grows (h : Backed c tx) (hgrows : Grows c c') : Backed c' tx := by
  obtain ⟨hreached, hback⟩ := hgrows _ _ h.reached
  refine ⟨hreached, fun hhead => ?_⟩
  obtain ⟨hhead, hbalance⟩ := hback hhead
  rw [hbalance]
  exact h.covered hhead

/-- A settled entry moves the head of its sender to a digest that was never reached. -/
theorem Settles.grows (hlinked : c.WellLinked linking) (h : Settles tx c c') : Grows c c' := by
  intro account digest hreached
  refine ⟨(hlinked.before_of_extends h.extends_ hreached).1, fun hhead => ?_⟩
  by_cases haccount : account = tx.senderAddr
  · have hused : digest ∈ c.used := by
      rcases hreached with rfl | hspent
      · exact hlinked.head_used account
      · obtain ⟨entry, hentry, rfl⟩ := List.mem_map.mp hspent
        exact hlinked.spent_used entry (List.mem_filter.mp hentry).1
    subst haccount
    rw [← hhead] at hused
    exact absurd hused h.extends_.fresh
  · rw [h.extends_.others account haccount] at hhead
    exact ⟨hhead, h.balance account haccount⟩

/-- The environment respects the sharing. -/
theorem Solvent.environment (hsolvent : Solvent c) (h : Environment c c') : Solvent c' ∧ Grows c c' := by
  cases h with
  | inject tx =>
    have hgrows : Grows c { c with flight := tx :: c.flight } := solvency.refl c
    exact ⟨⟨hsolvent.linked, fun tx htx => (hsolvent.backed tx htx).of_grows hgrows⟩, hgrows⟩
  | settle tx hsettles =>
    have hgrows := hsettles.grows hsolvent.linked
    refine ⟨⟨hsolvent.linked.of_extends hsettles.extends_, fun tx' htx' => ?_⟩, hgrows⟩
    rw [hsettles.proposed] at htx'
    exact (hsolvent.backed tx' htx').of_grows hgrows

/-- So does sending a backed transaction. -/
theorem Backed.send (h : Backed c tx) (hsolvent : Solvent c) :
    Solvent (c.send tx) ∧ Grows c (c.send tx) := by
  have hgrows : Grows c (c.send tx) := solvency.refl c
  refine ⟨⟨hsolvent.linked, fun tx' htx' => ?_⟩, hgrows⟩
  rcases List.mem_cons.mp htx' with rfl | htx'
  · exact h.of_grows hgrows
  · exact (hsolvent.backed tx' htx').of_grows hgrows

end Growth

section Handlers

variable {lib : Externals} {s : HandlerState} {c : Ledger}

/-- A head that was read has been reached. -/
def HeadRead (e : HandlerEvent) (c : Ledger) : Prop :=
  ∀ account snap, e = ⟨.getAccountSnapInfo account, some snap⟩ → c.Reached linking account snap.lastUnitHash

/-- Quiet operations are observed by the heads they read. -/
theorem observing_heads : Observing (solvency.spec commits) (fun op : Op => op.isQuiet) (fun _ => True) HeadRead := by
  apply Sharing.observes
  · exact fun op hop => commits_reads (Op.dispatched_of_isQuiet hop)
  · intro e c c' hgrows hread account snap he
    exact (hgrows _ _ (hread account snap he)).1
  · intro op _ c reply _ hcommits account snap he
    cases he
    exact Or.inl (hcommits.2 snap rfl)

/-- The balance is read after the head, so what passes the check is backed. -/
theorem wp_balanceChecked (hreached : c.Reached linking s.tx.senderAddr s.tx.lastMsgDigest) :
    (verifyAndSubmit lib (transferOutChecks s.tx.senderAddr s.tx.propertyKey s.tx.transactionParams)).wp
      (solvency.spec commits) (fun _ _ _ => True) (fun _ _ _ => True) s c := by
  rw [verifyAndSubmit, Routine.wp_bind, Routine.wp_read, Routine.wp_bind]
  apply wp_reads rfl
  intro verified c₁ _ hgrows₁ _
  rw [Routine.wp_ite]
  refine ⟨fun _ => by simp, fun _ => ?_⟩
  rw [transferOutChecks, Routine.wp_bind, Routine.wp_bind]
  apply wp_reads rfl
  intro answer c₂ _ hgrows₂ hanswer
  obtain ⟨-, rfl⟩ := hanswer
  have hreached₂ := (hgrows₂ _ _ (hgrows₁ _ _ hreached).1).1
  rw [Routine.wp_ite]
  refine ⟨fun _ => by simp, fun hfound => ?_⟩
  rw [Routine.wp_ite]
  refine ⟨fun _ => by simp, fun hkey => ?_⟩
  rw [Routine.wp_bind, stollOrThrow, Routine.wp_ofExcept]
  refine ⟨fun available havailable => ?_, fun _ _ => trivial⟩
  rw [Routine.wp_bind, stollOrThrow, Routine.wp_ofExcept]
  refine ⟨fun requested hrequested => ?_, fun _ _ => trivial⟩
  rw [Routine.wp_ite]
  refine ⟨fun _ => by simp, fun hle => ?_⟩
  have hbacked : Backed c₂ s.tx := by
    refine ⟨hreached₂, fun _ => ⟨hfound, hkey, available, requested, ?_⟩⟩
    exact ⟨ok_of_mapError havailable, ok_of_mapError hrequested, not_lt.mp hle⟩
  have hsend (later : Ledger) (hgrows : Grows c₂ later) :
      (do
        doTransaction lib
        setResultOk).wp (solvency.spec commits) (fun _ _ _ => True) (fun _ _ _ => True) s later := by
    rw [Routine.wp_bind]
    apply wp_sends
    intro last hsolvent hlater
    obtain ⟨hkept, hgrown⟩ := ((hbacked.of_grows hgrows).of_grows hlater).send hsolvent
    exact ⟨hkept, hgrown, by simp⟩
  rw [lastHashCheck, Routine.wp_bind, Routine.wp_read, Routine.wp_bind]
  apply wp_reads rfl
  intro reply c₃ _ hgrows₃ _
  cases reply with
  | none => exact hsend c₃ hgrows₃
  | some hash =>
    rw [Routine.wp_ite]
    refine ⟨fun _ => by simp, fun _ => hsend c₃ hgrows₃⟩

/-- `transfer_out` signed by the server keeps the invariant. -/
theorem wp_serverTransferOut {nohash : Bool} (hnohash : nohash = true)
    (hbuiltin : ∀ source, stringOf lib s.root "source" = .ok source → noHash source) :
    (transferOut lib nohash).wp (solvency.spec commits) (fun _ _ _ => True) (fun _ _ _ => True) s c := by
  subst hnohash
  simp only [transferOut, transactionMakeTransferOut, Routine.wp_bind, wp_rootString, wp_rootTimestamp,
    implies_true, and_true]
  intro source hsource destination _ assetKey _ ammount _ timestamp _
  rw [Routine.wp_ite]
  refine ⟨fun _ => by simp, fun _ => ?_⟩
  rw [Routine.wp_bind]
  apply wp_lastDigest observing_heads _ _ trivial
  · exact fun _ => trivial
  · intro later _
    simp
  intro lastHash c₁ _ _ hlastHash
  apply wp_built observing_heads _ (hbuiltin source hsource).symm trivial
  · exact fun _ _ _ _ _ => trivial
  intro tx c₂ _ hgrows hsealed
  have hreached : c₂.Reached linking source lastHash := by
    cases hlastHash.mono hgrows with
    | head _ hsnap => exact hsnap _ _ rfl
    | client hclient => cases hclient
  cases hsealed with
  | server => exact wp_balanceChecked hreached
  | client => exact wp_balanceChecked hreached

end Handlers

/-- A transfer from an account the server holds the key of. -/
structure ServerTransfer (lib : Externals) (root : Value) : Prop where
  action : stringOf lib root "action" = .ok (str "transfer_out")
  builtin : ∀ source, stringOf lib root "source" = .ok source → noHash source

/-- Serving it keeps the invariant. -/
theorem ServerTransfer.safe {lib : Externals} {req : Bytes} (h : ServerTransfer lib (lib.parse req).2)
    (c : Ledger) : solvency.Safe commits (serve lib req (HandlerState.initial lib)) c := by
  apply safe_serve
  simp only [handleRequest, Routine.wp_bind, wp_rootString, implies_true, and_true]
  intro action haction account _
  obtain rfl : str "transfer_out" = action := by
    have hread := h.action.symm.trans haction
    exact Except.ok.inj hread
  have hkind : actionOf (str "transfer_out") = .transferOut := by decide
  rw [hkind, runAction, Routine.wp_bind, wp_rootString]
  refine ⟨fun source hsource => ?_, fun _ _ => trivial⟩
  exact wp_serverTransferOut (h.builtin source hsource) h.builtin

/-- So does every program that serves such a request. -/
theorem ServerTransfer.safe_of_serves {p : Program Op Reply (Except Exc Bytes × HandlerState)}
    (h : Serves ServerTransfer p) (c : Ledger) : solvency.Safe commits p c := by
  obtain ⟨lib, req, hrequest, rfl⟩ := h
  exact hrequest.safe c

/-- The invariant holds before the first request is served. -/
theorem Ledger.Initial.solvent {c : Ledger} (h : c.Initial) : Solvent c :=
  ⟨h.linked, by simp [h.proposed]⟩

/-- While it holds, what settles is covered. -/
theorem Solvent.covers {c c' : Ledger} (h : Solvent c) {tx : Xtransaction} (htx : tx ∈ c.proposed)
    (hsettles : Settles tx c c') : Covers (c.balance tx.senderAddr tx.propertyKey) tx.transactionParams :=
  (h.backed tx htx).covered hsettles.extends_.lastDigest.symm

/-- Whatever is settled in between, a transfer the server has signed is covered by the balance its
account has when it settles. -/
theorem serverTransfer_covered (pool : Pool Op Reply Ledger (Except Exc Bytes × HandlerState))
    (h : Pool.Reachable commits Environment (Serves ServerTransfer) Ledger.Initial pool) {tx : Xtransaction}
    (htx : tx ∈ pool.shared.proposed) {c' : Ledger} (hsettles : Settles tx pool.shared c') :
    Covers (pool.shared.balance tx.senderAddr tx.propertyKey) tx.transactionParams := by
  have hsound : pool.Sound commits solvency := by
    apply h.sound
    · exact fun c hinitial => hinitial.solvent
    · exact fun c c' hsolvent henv => hsolvent.environment henv
    · exact fun p hp c _ => ServerTransfer.safe_of_serves hp c
  exact hsound.1.covers htx hsettles

section Sample

/-- A transfer of "5" from a built-in account. -/
def builtinTransfer : Value := .object
  [(str "account", .string userAAccountAddress), (str "action", .string (str "transfer_out")),
    (str "amount", .string (str "5")), (str "destination", .string (str "T-bob")),
    (str "property_key", .string (str "$$")), (str "source", .string userAAccountAddress),
    (str "timestamp", .int 7)]

/-- A server that has received it. -/
def builtinExternals : Externals := { sampleExternals with parse := fun _ => (true, builtinTransfer) }

/-- What the sample server proposes for it. -/
def usersPayment : Xtransaction :=
  { sampleFresh with
    transactionType := 1
    senderAddr := userAAccountAddress
    receiverAddr := str "T-bob"
    propertyKey := str "$$"
    transactionParams := str "5"
    timestamp := 7
    lastMsgDigest := sampleDigest 1
    txDigest := sampleDigest 1
    txSignature := str "sig" }

/-- It is a transfer the server signs. -/
theorem builtinTransfer_server : ServerTransfer builtinExternals builtinTransfer := by
  refine ⟨by decide, fun source hsource => ?_⟩
  obtain rfl : userAAccountAddress = source := Except.ok.inj hsource
  decide

/-- When its proposal settles in the sample ledger, the balance covers it. -/
theorem serverTransfer_covered_sample : Covers (sampleLedger.balance userAAccountAddress (str "$$")) (str "5") := by
  have hinitial : sampleLedger.Initial := ⟨fun _ => rfl, rfl, rfl⟩
  obtain ⟨threads, hsent⟩ := reachable_sent ServerTransfer builtinExternals [] builtinTransfer_server hinitial
    sampleLedger_answers (by decide +kernel : _ = some usersPayment)
  exact serverTransfer_covered _ hsent List.mem_cons_self (settledLedger_settles rfl)

end Sample

end XrpcServer.Accounts
