import XrpcServer.Handler.Pages

/-!
# The shape of a list response

The rows are collected in a member that is null before the first one is appended. A list query
that selects at least one transaction answers an array with one object for each of them; one that
selects none answers null.
-/

namespace XrpcServer.Handler

open XrpcServer.Text XrpcServer.Chain XrpcServer.Interaction XrpcServer.Json XrpcServer.Paging
open XrpcServer.Json (Value)

/-- The `blocks` member is an array with one object for each of the transactions. -/
def AnswersArray (shows : Xtransaction → List (Bytes × Value)) (txs : List Xtransaction)
    (o : HandlerOutcome) : Prop :=
  ∃ members rows, o.state.jsRsp = .object members ∧ members.lookup (str "blocks") = some (.array rows) ∧
    List.Forall₂ (fun row tx => Shows (shows tx) row) rows txs

/-- The array of `account_pending` shows the first transactions that wait, as many as the request
asks for and the list has, and the `count` member is the length of the list. -/
def AnswersPending (lib : Externals) (count : ℤ) (receiveList : List Xtransaction) (o : HandlerOutcome) :
    Prop :=
  ∃ shown : ℕ, (shown : ℤ) = min (max count 0) receiveList.length ∧
    AnswersArray (pendingEntries lib) (receiveList.take shown) o ∧
    countOf o = some (.string (decimalText receiveList.length))

/-- Rows are answered as an array when there are any. -/
theorem answersArray_iff {shows : Xtransaction → List (Bytes × Value)} {txs : List Xtransaction}
    {rows : List Value} {n : ℤ} {o : HandlerOutcome} (hlists : ListsRows o rows n)
    (hshows : List.Forall₂ (fun row tx => Shows (shows tx) row) rows txs) :
    AnswersArray shows txs o ↔ txs ≠ [] := by
  obtain ⟨members, hrsp, -, hblocks, -⟩ := hlists.rsp
  constructor
  · intro harray hempty
    obtain ⟨members', rows', hrsp', hblocks', -⟩ := harray
    obtain rfl : members = members' := Value.object.inj (hrsp.symm.trans hrsp')
    rw [hempty, List.forall₂_nil_right_iff] at hshows
    rw [hblocks, hshows] at hblocks'
    cases hblocks'
  · intro hne
    cases rows with
    | nil => exact absurd (List.forall₂_nil_left_iff.mp hshows) hne
    | cons row rest => exact ⟨members, row :: rest, hrsp, hblocks, hshows⟩

/-- Rows and waiting transactions correspond. -/
theorem forall₂_pendingRows (lib : Externals) (txs : List Xtransaction) :
    List.Forall₂ (fun row tx => Shows (pendingEntries lib tx) row)
      (reusedRows (pendingEntries lib) [] txs) txs := by
  rw [reusedRows, List.forall₂_map_left_iff]
  apply forall₂_reuse
  intro tx members
  exact ⟨_, rfl, by simp [pendingEntries]⟩

/-- The pending query answers an array when something waits and something is asked for. -/
theorem answersPending_iff {lib : Externals} {w : World} {root : Value} {account : Bytes} {count : ℤ}
    (hasks : ReadsRequest lib root .accountPending account) (hcount : intOf root "count" = .ok count) :
    AnswersPending lib count (w.store.getReceiveBlocks account) (handled lib w root) ↔
      0 < count ∧ w.store.getReceiveBlocks account ≠ [] := by
  have hlists := listsRows_accountPending (w := w) hasks hcount
  generalize w.store.getReceiveBlocks account = receiveList at hlists ⊢
  have hshown : receiveList.take count.toNat = receiveList.take (min count.toNat receiveList.length) := by
    rw [List.take_eq_take_iff, min_assoc, min_self]
  have harray := answersArray_iff hlists (forall₂_pendingRows lib _)
  rw [hshown] at harray
  constructor
  · intro hpending
    obtain ⟨shown, hnumber, hrows, -⟩ := hpending
    obtain rfl : shown = min count.toNat receiveList.length := by omega
    have hne := harray.mp hrows
    rw [ne_eq, List.take_eq_nil_iff, not_or] at hne
    exact ⟨by omega, hne.2⟩
  · intro hselects
    obtain ⟨hpositive, hwaits⟩ := hselects
    have hlength : 0 < receiveList.length := List.length_pos_iff.mpr hwaits
    refine ⟨min count.toNat receiveList.length, by omega, harray.mpr ?_, hlists.countOf_eq⟩
    rw [ne_eq, List.take_eq_nil_iff, not_or]
    exact ⟨by omega, hwaits⟩

/-- A list query answers an array exactly when it selects a transaction. -/
theorem answersArray_iff_selects (lib : Externals) (w : World) (root : Value) (account : Bytes)
    (count : ℤ) (hcount : intOf root "count" = .ok count) :
    (ReadsRequest lib root .accountHistory account → ∀ perPage, intOf root "per_page" = .ok perPage →
      (AnswersArray (transferMembers lib) (window (pageWindow count perPage) (transfersOf lib w account))
          (handled lib w root) ↔ WrappedPageMeets count perPage (transfersOf lib w account).length)) ∧
    (ReadsRequest lib root .queryOnlineTx account → ∀ perPage, intOf root "per_page" = .ok perPage →
      ∀ txList, w.store.queryOnlineTx = some txList →
      (AnswersArray (onlineEntries lib) (window (pageWindow count perPage) txList)
          (handled lib w root) ↔ WrappedPageMeets count perPage txList.length)) ∧
    (ReadsRequest lib root .accountPending account →
      (AnswersPending lib count (w.store.getReceiveBlocks account) (handled lib w root) ↔
        0 < count ∧ w.store.getReceiveBlocks account ≠ [])) := by
  constructor
  · intro hasks perPage hperPage
    have hlists := listsRows_accountHistory (w := w) hasks ⟨hcount, hperPage⟩
    rw [answersArray_iff hlists (forall₂_historyRows lib w.store _), ne_eq, window_eq_nil_iff, not_not]
  constructor
  · intro hasks perPage hperPage txList hlist
    have hlists := listsRows_queryOnlineTx hasks ⟨hcount, hperPage⟩ hlist
    rw [answersArray_iff hlists (forall₂_onlineRows lib _), ne_eq, window_eq_nil_iff, not_not]
  · intro hasks
    exact answersPending_iff hasks hcount

/-- Nothing waits, and null is answered. -/
theorem answersPending_fails : ¬AnswersPending sampleExternals 1 []
    (handled sampleExternals (sampleListWorld []) (samplePage .accountPending 1 1)) := by
  have hpage : AsksPage (samplePage .accountPending 1 1) 1 1 := asksPage_samplePage _ (by decide) (by decide)
  have hiff := answersPending_iff (w := sampleListWorld [])
    (readsRequest_samplePage sampleExternals .accountPending 1 1) hpage.count
  intro hpending
  exact (hiff.mp hpending).2 rfl

/-- The three queries on a list of one transfer. -/
theorem answersArray_iff_selects_sample :
    (AnswersArray (transferMembers sampleExternals)
        (window (pageWindow 0 1) (transfersOf sampleExternals (sampleListWorld [sampleTransfer]) []))
        (handled sampleExternals (sampleListWorld [sampleTransfer]) (samplePage .accountHistory 0 1)) ↔
      WrappedPageMeets 0 1 1) ∧
    (AnswersArray (onlineEntries sampleExternals) (window (pageWindow 0 1) [sampleTransfer])
        (handled sampleExternals (sampleListWorld [sampleTransfer]) (samplePage .queryOnlineTx 0 1)) ↔
      WrappedPageMeets 0 1 1) ∧
    (AnswersPending sampleExternals 0 [sampleTransfer]
        (handled sampleExternals (sampleListWorld [sampleTransfer]) (samplePage .accountPending 0 1)) ↔
      0 < (0 : ℤ) ∧ [sampleTransfer] ≠ []) := by
  have hpage (kind : Action) : AsksPage (samplePage kind 0 1) 0 1 :=
    asksPage_samplePage kind (by decide) (by decide)
  exact ⟨(answersArray_iff_selects sampleExternals (sampleListWorld [sampleTransfer]) _ [] 0
      (hpage .accountHistory).count).1 (readsRequest_samplePage _ _ _ _) 1 (hpage _).perPage,
    (answersArray_iff_selects sampleExternals (sampleListWorld [sampleTransfer]) _ [] 0
      (hpage .queryOnlineTx).count).2.1 (readsRequest_samplePage _ _ _ _) 1 (hpage _).perPage _ rfl,
    (answersArray_iff_selects sampleExternals (sampleListWorld [sampleTransfer]) _ [] 0
      (hpage .accountPending).count).2.2 (readsRequest_samplePage _ _ _ _)⟩

end XrpcServer.Handler
