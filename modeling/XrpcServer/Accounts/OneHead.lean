import XrpcServer.Accounts.Ledger
import XrpcServer.Handler.AnyReplies

/-!
# Requests that name one head exclude each other

A client signs for an account and a last digest. Its requests can be served again and again, by any
node and side by side with others that name the same digest: every proposal they lead to extends
this one head, and a head is extended once.
-/

namespace XrpcServer.Accounts

open XrpcServer.Text XrpcServer.Chain XrpcServer.Interaction XrpcServer.Handler
open XrpcServer.Faucet (linking)
open XrpcServer.Json (Value)

/-- The actions a client signs for an account, with the member that names the account. -/
def signedActions : List (Action × String) :=
  [(.transferOut, "source"), (.transferIn, "account"), (.setProperty, "account")]

/-- A transfer, a receipt or a property change that its client has signed for this account, with
this last digest. -/
structure NamesHead (account : Bytes) (digest : Uint256) (lib : Externals) (root : Value) : Prop where
  spender : ∃ entry ∈ signedActions, stringOf lib root "action" = .ok (str entry.1.text) ∧
    stringOf lib root entry.2 = .ok account
  client : noHash account = false
  named : ∃ encoded, stringOf lib root "last_digest" = .ok encoded ∧
    ∃ hlength : 32 ≤ (lib.base64Decode encoded).length,
      Uint256.ofFront (lib.base64Decode encoded) hlength = digest

section Requests

variable {account : Bytes} {digest : Uint256} {lib : Externals} {root : Value}

/-- Only transaction actions name a head. -/
theorem NamesHead.requestsTransaction (h : NamesHead account digest lib root) {action : Bytes}
    (haction : stringOf lib root "action" = .ok action) : (actionOf action).isTransaction := by
  obtain ⟨entry, hentry, hkind, -⟩ := h.spender
  rw [haction] at hkind
  rw [Except.ok.inj hkind, actionOf_text]
  revert hentry
  generalize entry = e
  revert e
  decide

/-- Sealing a transaction changes neither its sender nor the digest it names. -/
theorem link_of_sealed {known : HandlerEvent → Prop} {built tx : Xtransaction}
    (h : Sealed lib root known built tx) :
    tx.senderAddr = built.senderAddr ∧ tx.lastMsgDigest = built.lastMsgDigest := by
  cases h <;> exact ⟨rfl, rfl⟩

/-- The digest a client names is the one it sent. -/
theorem NamesHead.lastDigest_eq (h : NamesHead account digest lib root) {known : HandlerEvent → Prop}
    {owner : Bytes} {lastHash : Uint256} (hlast : LastDigest lib root known (noHash account) owner lastHash) :
    lastHash = digest := by
  obtain ⟨encoded, hencoded, hlength, rfl⟩ := h.named
  cases hlast with
  | head hnohash =>
    rw [h.client] at hnohash
    cases hnohash
  | client _ hencoded' hdecoded =>
    rw [hencoded] at hencoded'
    cases hencoded'
    cases hdecoded with
    | inside => rfl
    | beyond hshort => exact absurd hlength hshort

/-- What such a request proposes extends the head it names. -/
theorem NamesHead.link (h : NamesHead account digest lib root) {known : HandlerEvent → Prop}
    {fresh tx : Xtransaction} {kind : Action} (hvetted : Vetted lib root known fresh kind tx) :
    tx.senderAddr = account ∧ tx.lastMsgDigest = digest := by
  obtain ⟨entry, hentry, haction, haccount⟩ := h.spender
  have hkind : kind = entry.1 := by
    rw [hvetted.requested] at haction
    rw [← actionOf_text kind, ← actionOf_text entry.1, Except.ok.inj haction]
  -- the action decides which member named the account
  have hcomposed := hvetted.composed
  simp only [signedActions, List.mem_cons, List.not_mem_nil, or_false] at hentry
  rcases hentry with rfl | rfl | rfl
  · subst hkind
    cases hcomposed with
    | transferOut hsource _ _ _ _ _ hlastHash hsealed =>
      rw [haccount] at hsource
      cases hsource
      obtain ⟨hsender, hdigest⟩ := link_of_sealed hsealed
      exact ⟨hsender, hdigest.trans (h.lastDigest_eq hlastHash)⟩
  · subst hkind
    cases hcomposed with
    | transferIn hown _ hlastHash _ _ hsealed _ _ =>
      rw [haccount] at hown
      cases hown
      obtain ⟨hsender, hdigest⟩ := link_of_sealed hsealed
      exact ⟨hsender, hdigest.trans (h.lastDigest_eq hlastHash)⟩
  · subst hkind
    cases hcomposed with
    | setProperty hown _ _ _ _ _ hlastHash hsealed =>
      rw [haccount] at hown
      cases hown
      obtain ⟨hsender, hdigest⟩ := link_of_sealed hsealed
      exact ⟨hsender, hdigest.trans (h.lastDigest_eq hlastHash)⟩

end Requests

section Pool

variable (account : Bytes) (digest : Uint256)

/-- The invariant: the ledger is well linked, and the requests propose to extend the one head. -/
structure OneHead (c : Ledger) : Prop where
  linked : c.WellLinked linking
  proposed : ∀ tx ∈ c.proposed, tx.senderAddr = account ∧ tx.lastMsgDigest = digest

/-- Nothing has to be remembered between two calls. -/
def oneHeadSharing : Sharing Ledger where
  valid := OneHead account digest
  grows _ _ := True
  refl _ := trivial
  trans _ _ := trivial

variable {account digest}

/-- The environment keeps the invariant. -/
theorem OneHead.environment {c c' : Ledger} (h : OneHead account digest c) (henv : Environment c c') :
    OneHead account digest c' := by
  cases henv with
  | inject tx => exact ⟨h.linked, h.proposed⟩
  | settle tx hsettles => exact ⟨h.linked.of_extends hsettles.extends_, hsettles.proposed ▸ h.proposed⟩

/-- So does every request that names the head. -/
theorem NamesHead.safe {lib : Externals} {req : Bytes}
    (h : NamesHead account digest lib (lib.parse req).2) (c : Ledger) :
    (oneHeadSharing account digest).Safe commits (serve lib req (HandlerState.initial lib)) c := by
  apply safe_serve
  have hobserving : Observing ((oneHeadSharing account digest).spec commits)
      (fun op : Op => op.isQuiet) (fun _ => True) fun _ _ => True := by
    apply Sharing.observes
    · exact fun op hop => commits_reads (Op.dispatched_of_isQuiet hop)
    · exact fun _ _ _ _ _ => trivial
    · exact fun _ _ _ _ _ _ => trivial
  apply wp_handleRequest hobserving (s := constructed lib (lib.parse req)) ?exits trivial
  case exits =>
    constructor
    case refused => simp
    case thrown => simp
    case sent =>
      intro kind s' later _ _ hvetted
      rw [Routine.wp_bind]
      apply wp_sends
      intro c' hvalid _
      refine ⟨⟨hvalid.linked, ?_⟩, trivial, by simp⟩
      intro tx htx
      rcases List.mem_cons.mp htx with rfl | htx
      · exact h.link hvetted
      · exact hvalid.proposed tx htx
  intro action account' haction _ hkind
  have htransaction := h.requestsTransaction haction
  rw [hkind] at htransaction
  cases htransaction

/-- Entries of one sender with one last digest are settled at most once. -/
theorem countP_history_le_one {c : Ledger} (h : c.WellLinked linking) (account : Bytes) (digest : Uint256) :
    (c.history.countP fun tx => tx.senderAddr = account ∧ tx.lastMsgDigest = digest) ≤ 1 := by
  have hchain : (c.history.countP fun tx => tx.senderAddr = account ∧ tx.lastMsgDigest = digest) =
      ((c.chainOf linking account).map linking.lastDigest).count digest := by
    rw [HeadChain.chainOf, List.count, List.countP_map, List.countP_filter]
    refine List.countP_congr fun tx _ => ?_
    simp only [linking, Function.comp, Bool.and_eq_true, decide_eq_true_eq, beq_iff_eq]
    exact ⟨fun h => ⟨h.2, decide_eq_true h.1⟩, fun h => ⟨of_decide_eq_true h.2, h.1⟩⟩
  rw [hchain]
  exact List.nodup_iff_count_le_one.mp (h.nodup account) digest

/-- While the invariant holds, at most one of the proposals has settled. -/
theorem OneHead.settled_le_one {c : Ledger} (h : OneHead account digest c) :
    (c.history.countP fun tx => tx ∈ c.proposed) ≤ 1 := by
  refine le_trans (List.countP_mono_left fun tx _ htx => ?_) (countP_history_le_one h.linked account digest)
  simpa using h.proposed tx (by simpa using htx)

/-- It holds before the first request is served. -/
theorem Ledger.Initial.oneHead {c : Ledger} (h : c.Initial) : OneHead account digest c :=
  ⟨h.linked, by simp [h.proposed]⟩

/-- A program that serves such a request respects it. -/
theorem NamesHead.safe_of_serves {p : Program Op Reply (Except Exc Bytes × HandlerState)}
    (h : Serves (NamesHead account digest) p) (c : Ledger) : (oneHeadSharing account digest).Safe commits p c := by
  obtain ⟨lib, req, hnames, rfl⟩ := h
  exact hnames.safe c

/-- However often and wherever requests that name one head are served, at most one of all the
proposals they lead to settles. -/
theorem namesHead_settles_once (account : Bytes) (digest : Uint256)
    (pool : Pool Op Reply Ledger (Except Exc Bytes × HandlerState))
    (h : Pool.Reachable commits Environment (Serves (NamesHead account digest)) Ledger.Initial pool) :
    (pool.shared.history.countP fun tx => tx ∈ pool.shared.proposed) ≤ 1 := by
  have hsound : pool.Sound commits (oneHeadSharing account digest) := by
    apply h.sound
    · exact fun c hinitial => hinitial.oneHead
    · exact fun c c' hvalid henv => ⟨hvalid.environment henv, trivial⟩
    · exact fun p hp c _ => NamesHead.safe_of_serves hp c
  exact hsound.1.settled_le_one

end Pool

section Sample

/-- The sample transfer names the one head of the sample ledger. -/
theorem signedTransfer_namesHead :
    NamesHead (str "T-alice") (sampleDigest 1) signedExternals signedTransfer where
  spender := ⟨(.transferOut, "source"), by simp [signedActions], by decide, by decide⟩
  client := by decide
  named := ⟨str "AQEBAQEBAQEBAQEBAQEBAQEBAQEBAQEBAQEBAQEBAQE=", by decide, by decide, by decide⟩

/-- What the sample server proposes for it. -/
def alicesPayment : Xtransaction :=
  { sampleFresh with
    transactionType := 1
    senderAddr := str "T-alice"
    receiverAddr := str "T-bob"
    propertyKey := str "$$"
    transactionParams := str "5"
    timestamp := 7
    lastMsgDigest := sampleDigest 1
    txDigest := sampleDigest 1
    txSignature := str "sig" }

/-- Once it was served and its proposal has settled, exactly one has. -/
theorem namesHead_settles_once_sample : ((settledLedger alicesPayment).history.countP fun tx =>
    tx ∈ (settledLedger alicesPayment).proposed) = 1 := by
  have hinitial : sampleLedger.Initial := ⟨fun _ => rfl, rfl, rfl⟩
  obtain ⟨threads, hsent⟩ := reachable_sent (NamesHead (str "T-alice") (sampleDigest 1)) signedExternals []
    signedTransfer_namesHead hinitial sampleLedger_answers (by decide +kernel : _ = some alicesPayment)
  have hsettled := hsent.step (.interfere (.settle alicesPayment (settledLedger_settles rfl)))
  have hle : ((settledLedger alicesPayment).history.countP fun tx =>
      tx ∈ (settledLedger alicesPayment).proposed) ≤ 1 :=
    namesHead_settles_once (str "T-alice") (sampleDigest 1) _ hsettled
  have hpos : 0 < (settledLedger alicesPayment).history.countP fun tx =>
      tx ∈ (settledLedger alicesPayment).proposed := by
    decide
  omega

end Sample

end XrpcServer.Accounts
