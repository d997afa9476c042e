import XrpcServer.Handler.ListResponses

/-!
# Pages of the history and of the online transactions

As long as the 32-bit products do not wrap, consecutive pages tile the list, with one row for
each transaction and in its order. When they do wrap, a page far outside the list may show
transactions of the list; the theorem on empty pages says exactly when.
-/

namespace XrpcServer.Handler

open XrpcServer.Text XrpcServer.Chain XrpcServer.Interaction XrpcServer.Json XrpcServer.Paging
open XrpcServer.Json (Value)

/-- The row is an object that holds the given members. -/
def Shows (entries : List (Bytes × Value)) (row : Value) : Prop :=
  ∃ members, row = .object members ∧ ∀ entry ∈ entries, members.lookup entry.1 = some entry.2

/-- What the history shows of a transaction besides the tags. -/
def transferMembers (lib : Externals) (tx : Xtransaction) : List (Bytes × Value) :=
  [(str "transaction_type", .int tx.transactionType),
    (str "source", .string (sourceOf lib.types tx)), (str "destination", .string tx.receiverAddr),
    (str "property_key", .string (shownKey tx)),
    (str "tx_digest", .string (hashToJsonString lib tx.txDigest)),
    (str "last_digest", .string (hashToJsonString lib tx.lastMsgDigest)),
    (str "rpc_time", .string (decimalText tx.edgeTimestamp.toNat))] ++
    (amountOf lib.types tx).toList.map fun amount => (str "amount", .string amount)

/-- The transaction behind a tagged row. -/
theorem map_tagTxs (lib : Externals) (store : Store) (txs : List Xtransaction) (userTag : UserTag) :
    (tagTxs lib store txs userTag).map TaggedTx.tx = txs := by
  induction txs generalizing userTag with
  | nil => rfl
  | cons tx rest ih => simp [tagTxs, tagTx, ih]

/-- Whatever the reused object held before, a row of the history shows its transaction. -/
theorem shows_historyEntries (lib : Externals) (row : TaggedTx) (members : List (Bytes × Value)) :
    Shows (transferMembers lib row.tx) (.object (assignMembers (historyEntries lib row) members)) := by
  refine ⟨_, rfl, ?_⟩
  unfold transferMembers historyEntries transferEntries sourceOf amountOf
  split_ifs <;> simp [headEntries, tailEntries]

/-- Rows and transactions of the history correspond. -/
theorem forall₂_historyRows (lib : Externals) (store : Store) (txs : List Xtransaction) :
    List.Forall₂ (fun row tx => Shows (transferMembers lib tx) row) (historyRows lib store [] [] txs) txs := by
  have hrows := forall₂_reuse (R := fun members (row : TaggedTx) =>
    Shows (transferMembers lib row.tx) (.object members)) (shows_historyEntries lib) []
    (tagTxs lib store txs [])
  have htxs := map_tagTxs lib store txs []
  rw [historyRows, List.forall₂_map_left_iff]
  generalize tagTxs lib store txs [] = rows at hrows htxs ⊢
  subst htxs
  exact List.forall₂_map_right_iff.mpr hrows

/-- Rows and transactions of the online query correspond. -/
theorem forall₂_onlineRows (lib : Externals) (txs : List Xtransaction) :
    List.Forall₂ (fun row tx => Shows (onlineEntries lib tx) row)
      (reusedRows (onlineEntries lib) [] txs) txs := by
  rw [reusedRows, List.forall₂_map_left_iff]
  apply forall₂_reuse
  intro tx members
  exact ⟨_, rfl, by simp [onlineEntries]⟩

/-- What a series of page requests answers, each transaction of the list being shown once. -/
structure Tiles (shows : Xtransaction → List (Bytes × Value)) (response : ℕ → HandlerOutcome) (p k : ℕ)
    (txs : List Xtransaction) : Prop where
  returned : ∀ c < k, (response c).result = .ok ()
  rows : List.Forall₂ (fun row tx => Shows (shows tx) row)
    ((List.range k).map fun c => rowsOf (response c)).flatten txs
  length : ∀ c < k, (rowsOf (response c)).length = min p (txs.length - c * p)
  count : ∀ c < k, countOf (response c) = some (.string (decimalText txs.length))

/-- Within the 32-bit range the window of a page is the page. -/
theorem window_pageWindow {p k c : ℕ} (hp : 1 ≤ p) (hrange : k * p < 2 ^ 31) (hc : c < k)
    {txs : List Xtransaction} (hcover : txs.length ≤ k * p) :
    window (pageWindow c p) txs = page p c txs := by
  have hcount : c + 1 ≤ (c + 1) * p := Nat.le_mul_of_pos_right _ hp
  have hlast : (c + 1) * p ≤ k * p := Nat.mul_le_mul_right p hc
  have hfirst : c * p ≤ (c + 1) * p := Nat.mul_le_mul_right p (Nat.le_succ c)
  rw [← window_page, window, window]
  apply windowFrom_congr
  intro j hj
  have hstart : wrap32 ((c : ℤ) * p) = (c * p : ℕ) := by
    rw [← Nat.cast_mul]
    apply wrap32_of_mem <;> omega
  have hnext : wrap32 ((c : ℤ) + 1) = (c + 1 : ℕ) := by
    rw [← Nat.cast_succ]
    apply wrap32_of_mem <;> omega
  have hend : wrap32 (((c + 1 : ℕ) : ℤ) * p) = ((c + 1) * p : ℕ) := by
    rw [← Nat.cast_mul]
    apply wrap32_of_mem <;> omega
  have hposition : wrap32 ((0 + j : ℕ) : ℤ) = (0 + j : ℕ) := by
    apply wrap32_of_mem <;> omega
  simp only [pageWindow, inWindow, hstart, hnext, hend, hposition, Nat.cast_le, Nat.cast_lt]

/-- Responses whose rows show the pages of a list tile the list. -/
theorem tiles_of_listsRows {shows : Xtransaction → List (Bytes × Value)} {response : ℕ → HandlerOutcome}
    {p k : ℕ} {txs : List Xtransaction} {rows : ℕ → List Value} (hcover : txs.length ≤ k * p)
    (hlists : ∀ c < k, ListsRows (response c) (rows c) txs.length)
    (hshows : ∀ c < k, List.Forall₂ (fun row tx => Shows (shows tx) row) (rows c) (page p c txs)) :
    Tiles shows response p k txs where
  returned c hc := (hlists c hc).result
  rows := by
    apply forall₂_flatten_pages _ hcover
    intro c hc
    rw [(hlists c hc).rowsOf_eq]
    exact hshows c hc
  length c hc := by
    rw [(hlists c hc).rowsOf_eq, (hshows c hc).length_eq, length_page]
  count c hc := (hlists c hc).countOf_eq

/-- The pages of the history and of the online transactions tile their lists. -/
theorem pages_tile (lib : Externals) (w : World) (account : Bytes) (request : ℕ → Value) (p k : ℕ)
    (hp : 1 ≤ p) (hrange : k * p ≤ 2 ^ 31 - 1) (hpage : ∀ c < k, AsksPage (request c) c p) :
    ((∀ c < k, ReadsRequest lib (request c) .accountHistory account) →
      (transfersOf lib w account).length ≤ k * p →
      Tiles (transferMembers lib) (fun c => handled lib w (request c)) p k (transfersOf lib w account)) ∧
    ∀ txList, (∀ c < k, ∃ account, ReadsRequest lib (request c) .queryOnlineTx account) →
      w.store.queryOnlineTx = some txList → txList.length ≤ k * p →
      Tiles (onlineEntries lib) (fun c => handled lib w (request c)) p k txList := by
  constructor
  · intro hasks hcover
    apply tiles_of_listsRows hcover
    · intro c hc
      have hlists := listsRows_accountHistory (w := w) (hasks c hc) (hpage c hc)
      rwa [wrap32_of_mem (by omega) (by omega)] at hlists
    · intro c hc
      rw [window_pageWindow hp (by omega) hc hcover]
      exact forall₂_historyRows lib w.store _
  · intro txList hasks hlist hcover
    apply tiles_of_listsRows hcover
    · intro c hc
      obtain ⟨account, haccount⟩ := hasks c hc
      exact listsRows_queryOnlineTx haccount (hpage c hc) hlist
    · intro c hc
      rw [window_pageWindow hp (by omega) hc hcover]
      exact forall₂_onlineRows lib _

/-- Two pages of two tile a list of three transfers, for both queries. -/
theorem pages_tile_sample :
    Tiles (transferMembers sampleExternals)
      (fun c => handled sampleExternals (sampleListWorld (List.replicate 3 sampleTransfer))
        (samplePage .accountHistory c 2)) 2 2 (List.replicate 3 sampleTransfer) ∧
    Tiles (onlineEntries sampleExternals)
      (fun c => handled sampleExternals (sampleListWorld (List.replicate 3 sampleTransfer))
        (samplePage .queryOnlineTx c 2)) 2 2 (List.replicate 3 sampleTransfer) := by
  have hpage (kind : Action) : ∀ c < 2, AsksPage (samplePage kind (c : ℕ) 2) (c : ℕ) (2 : ℕ) := by
    intro c hc
    apply asksPage_samplePage <;> omega
  constructor
  · exact (pages_tile sampleExternals (sampleListWorld (List.replicate 3 sampleTransfer)) []
      (fun c => samplePage .accountHistory c 2) 2 2 (by decide) (by decide) (hpage _)).1
      (fun c _ => readsRequest_samplePage _ _ _ _) (by decide)
  · exact (pages_tile sampleExternals (sampleListWorld (List.replicate 3 sampleTransfer)) []
      (fun c => samplePage .queryOnlineTx c 2) 2 2 (by decide) (by decide) (hpage _)).2
      (List.replicate 3 sampleTransfer) (fun c _ => ⟨_, readsRequest_samplePage _ _ _ _⟩) rfl (by decide)

section EmptyPages

/-- A position of a list of `n` transactions lies in the page, in exact arithmetic. -/
def PageMeets (count perPage : ℤ) (n : ℕ) : Prop :=
  ∃ i < n, count * perPage ≤ i ∧ i < (count + 1) * perPage

/-- A page outside the list is answered without rows. -/
def EmptyOutside (count perPage : ℤ) (n : ℕ) (o : HandlerOutcome) : Prop :=
  ¬PageMeets count perPage n → rowsOf o = []

/-- A position lies in the window that the wrapped bounds and the wrapped counter make. -/
def WrappedPageMeets (count perPage : ℤ) (n : ℕ) : Prop :=
  ∃ i < n, wrap32 (count * perPage) ≤ wrap32 i ∧ wrap32 i < wrap32 (wrap32 (count + 1) * perPage)

/-- A page selects something when a position of the list lies in its wrapped window. -/
theorem window_eq_nil_iff {count perPage : ℤ} {txs : List Xtransaction} :
    window (pageWindow count perPage) txs = [] ↔ ¬WrappedPageMeets count perPage txs.length := by
  rw [window, windowFrom_eq_nil_iff]
  simp [WrappedPageMeets, pageWindow, inWindow]

/-- Rows that show a window are absent when the window is. -/
theorem emptyOutside_of_listsRows {shows : Xtransaction → List (Bytes × Value)} {count perPage : ℤ}
    {txs : List Xtransaction} {rows : List Value} {m : ℤ} {o : HandlerOutcome} (hlists : ListsRows o rows m)
    (hshows : List.Forall₂ (fun row tx => Shows (shows tx) row) rows
      (window (pageWindow count perPage) txs)) :
    EmptyOutside count perPage txs.length o ↔
      PageMeets count perPage txs.length ∨ ¬WrappedPageMeets count perPage txs.length := by
  have hempty : rows = [] ↔ ¬WrappedPageMeets count perPage txs.length := by
    rw [← window_eq_nil_iff, ← List.length_eq_zero_iff, hshows.length_eq, List.length_eq_zero_iff]
  rw [EmptyOutside, hlists.rowsOf_eq, hempty, or_iff_not_imp_left]

/-- A page outside the list is answered without rows exactly when the wrapped window misses the
list as well. -/
theorem emptyOutside_iff (lib : Externals) (w : World) (root : Value) (account : Bytes) (count perPage : ℤ)
    (hpage : AsksPage root count perPage) :
    (ReadsRequest lib root .accountHistory account →
      (EmptyOutside count perPage (transfersOf lib w account).length (handled lib w root) ↔
        PageMeets count perPage (transfersOf lib w account).length ∨
          ¬WrappedPageMeets count perPage (transfersOf lib w account).length)) ∧
    ∀ txList, ReadsRequest lib root .queryOnlineTx account → w.store.queryOnlineTx = some txList →
      (EmptyOutside count perPage txList.length (handled lib w root) ↔
        PageMeets count perPage txList.length ∨ ¬WrappedPageMeets count perPage txList.length) := by
  constructor
  · intro hasks
    exact emptyOutside_of_listsRows (listsRows_accountHistory hasks hpage)
      (forall₂_historyRows lib w.store _)
  · intro txList hasks hlist
    exact emptyOutside_of_listsRows (listsRows_queryOnlineTx hasks hpage hlist)
      (forall₂_onlineRows lib _)

/-- One transfer is shown on a page that starts at position `2 ^ 32`. -/
theorem emptyOutside_fails : ¬EmptyOutside 65536 65536 1
    (handled sampleExternals (sampleListWorld [sampleTransfer])
      (samplePage .accountHistory 65536 65536)) := by
  have hlists := listsRows_accountHistory (w := sampleListWorld [sampleTransfer])
    (readsRequest_samplePage sampleExternals .accountHistory 65536 65536)
    (asksPage_samplePage .accountHistory (by decide) (by decide))
  have hoff : ¬PageMeets 65536 65536 1 := by
    rintro ⟨i, hi, hstart, -⟩
    omega
  have hshown : window (pageWindow 65536 65536)
      (transfersOf sampleExternals (sampleListWorld [sampleTransfer]) []) = [sampleTransfer] := by decide
  intro hempty
  have hnone := hempty hoff
  rw [hlists.rowsOf_eq, hshown] at hnone
  cases hnone

/-- Both queries on a page that holds a transfer. -/
theorem emptyOutside_iff_sample :
    (EmptyOutside 0 1 1 (handled sampleExternals (sampleListWorld [sampleTransfer])
        (samplePage .accountHistory 0 1)) ↔ PageMeets 0 1 1 ∨ ¬WrappedPageMeets 0 1 1) ∧
      (EmptyOutside 0 1 1 (handled sampleExternals (sampleListWorld [sampleTransfer])
        (samplePage .queryOnlineTx 0 1)) ↔ PageMeets 0 1 1 ∨ ¬WrappedPageMeets 0 1 1) :=
  ⟨(emptyOutside_iff sampleExternals (sampleListWorld [sampleTransfer]) (samplePage .accountHistory 0 1)
      [] 0 1 (asksPage_samplePage _ (by decide) (by decide))).1 (readsRequest_samplePage _ _ _ _),
    (emptyOutside_iff sampleExternals (sampleListWorld [sampleTransfer]) (samplePage .queryOnlineTx 0 1)
      [] 0 1 (asksPage_samplePage _ (by decide) (by decide))).2 [sampleTransfer]
      (readsRequest_samplePage _ _ _ _) rfl⟩

end EmptyPages

end XrpcServer.Handler
