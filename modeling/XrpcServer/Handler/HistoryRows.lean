import XrpcServer.Handler.ListResponses

/-!
# A row of the history depends on its own transaction only

The history builds all rows in one object and looks every tag up once. The cache only ever
holds what the store answers, and every transfer assigns the same members, so that neither the
cache nor the object shows in the rows.
-/

namespace XrpcServer.Handler

open XrpcServer.Text XrpcServer.Chain XrpcServer.Interaction XrpcServer.Json XrpcServer.Paging
open XrpcServer.Json (Value)

section Cache

variable (lib : Externals) {store : Store}

/-- The cache holds tags the store would answer. -/
def Cached (store : Store) (userTag : UserTag) : Prop :=
  ∀ account tag, userTag.lookup account = some tag → tag = tagOf store account

/-- `get_property` leaves its output empty when it finds nothing. -/
def ClearsMissing (store : Store) : Prop :=
  ∀ account snap key, store.getAccountSnapInfo account = some snap →
    (snap.getProperty key).1 = false → (snap.getProperty key).2 = []

/-- Then the cache remembers the tag that was shown. -/
theorem rememberedTag_eq (h : ClearsMissing store) (account : Bytes) :
    rememberedTag store account = tagOf store account := by
  unfold rememberedTag tagOf
  cases hsnap : store.getAccountSnapInfo account with
  | none => rfl
  | some snap =>
    cases hfound : (snap.getProperty (str "@name")).1 with
    | true => simp [hfound]
    | false => simp [hfound, h account snap _ hsnap hfound]

/-- A tag from the cache is the store's tag. -/
theorem Cached.shownTag_eq {userTag : UserTag} (h : Cached store userTag) (account : Bytes) :
    shownTag store userTag account = tagOf store account := by
  unfold shownTag
  cases hlookup : userTag.lookup account with
  | none => rfl
  | some tag => exact h account tag hlookup

/-- Showing a tag keeps the cache right. -/
theorem Cached.rememberTag (hclears : ClearsMissing store) {userTag : UserTag} (h : Cached store userTag)
    (account : Bytes) : Cached store (rememberTag store userTag account) := by
  unfold Handler.rememberTag
  split
  · exact h
  · intro account' tag hlookup
    rw [lookup_cons_ite] at hlookup
    by_cases heq : account' = account
    · rw [if_pos heq] at hlookup
      cases hlookup
      rw [heq, rememberedTag_eq hclears]
    · rw [if_neg heq] at hlookup
      exact h account' tag hlookup

/-- A row with the store's tags. -/
def storeTags (store : Store) (tx : Xtransaction) : TaggedTx where
  tx := tx
  sourceTag := tagOf store (sourceOf lib.types tx)
  destinationTag := tagOf store tx.receiverAddr

/-- All rows show the store's tags. -/
theorem tagTxs_eq_map (hclears : ClearsMissing store) (txs : List Xtransaction) {userTag : UserTag}
    (h : Cached store userTag) : tagTxs lib store txs userTag = txs.map (storeTags lib store) := by
  induction txs generalizing userTag with
  | nil => rfl
  | cons tx rest ih =>
    have hsource := h.rememberTag hclears (sourceOf lib.types tx)
    have hdestination := hsource.rememberTag hclears tx.receiverAddr
    have hrest : tagTxs lib store rest (rememberTags lib store tx userTag) = _ := ih hdestination
    rw [tagTxs, List.map_cons, hrest]
    simp only [tagTx, storeTags, h.shownTag_eq, hsource.shownTag_eq]

end Cache

section Fresh

variable (lib : Externals) (store : Store)

/-- The source of a transfer: the origin sender for a transfer in, the sender for a transfer out. -/
def transferSource (types : TransactionTypes) (tx : Xtransaction) : Bytes :=
  if tx.transactionType = types.transferAssetIn then tx.originSender else tx.senderAddr

/-- The amount of a transfer: the origin amount for a transfer in, the params for a transfer out. -/
def transferAmount (types : TransactionTypes) (tx : Xtransaction) : Bytes :=
  if tx.transactionType = types.transferAssetIn then tx.originAmount else tx.transactionParams

/-- The members of a transfer's row, with its tags read from the store. -/
def freshEntries (tx : Xtransaction) : List (Bytes × Value) :=
  [(str "transaction_type", .int tx.transactionType),
    (str "source", .string (transferSource lib.types tx)), (str "destination", .string tx.receiverAddr),
    (str "property_key", .string (shownKey tx)),
    (str "amount", .string (transferAmount lib.types tx)),
    (str "source_tag", .string (tagOf store (transferSource lib.types tx))),
    (str "destination_tag", .string (tagOf store tx.receiverAddr)),
    (str "tx_digest", .string (hashToJsonString lib tx.txDigest)),
    (str "last_digest", .string (hashToJsonString lib tx.lastMsgDigest)),
    (str "rpc_time", .string (decimalText tx.edgeTimestamp.toNat))]

/-- A transfer's row built in an empty object. -/
def freshRow (tx : Xtransaction) : Value := .object (assignMembers (freshEntries lib store tx) [])

/-- The codes the transfers have among the transaction types. -/
structure TransferCodes (types : TransactionTypes) : Prop where
  out : types.transferAssetOut = 0 ∨ types.transferAssetOut = 1
  in_ne_zero : types.transferAssetIn ≠ 0
  in_ne_one : types.transferAssetIn ≠ 1

variable {lib store} {tx : Xtransaction}

/-- A transfer in is told from a transfer out by its code. -/
theorem isTransfer_cases (hcodes : TransferCodes lib.types) (h : isTransfer lib.types tx) :
    (tx.transactionType = lib.types.transferAssetIn ∧
        ¬(tx.transactionType = 1 ∨ tx.transactionType = 0)) ∨
      (tx.transactionType ≠ lib.types.transferAssetIn ∧
        (tx.transactionType = 1 ∨ tx.transactionType = 0)) := by
  have hzero := hcodes.in_ne_zero
  have hone := hcodes.in_ne_one
  have hout := hcodes.out
  simp only [isTransfer, decide_eq_true_eq] at h
  omega

/-- The keys of a row. -/
def rowKeys : List Bytes :=
  [str "transaction_type", str "source", str "destination", str "property_key", str "amount",
    str "source_tag", str "destination_tag", str "tx_digest", str "last_digest", str "rpc_time"]

/-- Every transfer assigns all the keys. -/
theorem mem_historyEntries_keys (hcodes : TransferCodes lib.types) (h : isTransfer lib.types tx)
    (key : Bytes) :
    key ∈ (historyEntries lib (storeTags lib store tx)).map Prod.fst ↔ key ∈ rowKeys := by
  unfold historyEntries transferEntries storeTags
  rcases isTransfer_cases hcodes h with ⟨hin, hkind⟩ | ⟨hin, hkind⟩
  · simp only [if_neg hkind, if_pos hin]
    simp only [headEntries, tailEntries, rowKeys, List.map_append, List.map_cons, List.map_nil,
      List.mem_append, List.mem_cons, List.not_mem_nil, or_false]
    tauto
  · simp only [if_pos hkind]
    simp [headEntries, tailEntries, rowKeys]

/-- Assigned to an empty object, the members of a row are those of the fresh row. -/
theorem assignMembers_historyEntries (hcodes : TransferCodes lib.types) (h : isTransfer lib.types tx) :
    assignMembers (historyEntries lib (storeTags lib store tx)) [] =
      assignMembers (freshEntries lib store tx) [] := by
  apply (sortedMembers_nil.assignMembers _).ext (sortedMembers_nil.assignMembers _)
  intro key
  unfold historyEntries transferEntries freshEntries storeTags transferSource transferAmount sourceOf
  rcases isTransfer_cases hcodes h with ⟨hin, hkind⟩ | ⟨hin, hkind⟩
  · simp only [if_neg hkind, if_pos hin]
    by_cases hsource : key = str "source"
    · simp [headEntries, tailEntries, hsource]
    · simp [headEntries, tailEntries, hsource]
  · simp only [if_pos hkind, if_neg hin]
    simp [headEntries, tailEntries]

/-- The rows of the history are the rows built afresh. -/
theorem historyRows_eq_map (hclears : ClearsMissing store) (hcodes : TransferCodes lib.types)
    {txs : List Xtransaction} (htxs : ∀ tx ∈ txs, isTransfer lib.types tx) :
    historyRows lib store [] [] txs = txs.map (freshRow lib store) := by
  have hcached : Cached store [] := by
    intro account tag hlookup
    cases hlookup
  rw [historyRows, tagTxs_eq_map lib hclears txs hcached]
  have hkeys : ∀ row ∈ txs.map (storeTags lib store), ∀ key,
      key ∈ (historyEntries lib row).map Prod.fst ↔ key ∈ rowKeys := by
    intro row hrow key
    obtain ⟨tx, htx, rfl⟩ := List.mem_map.mp hrow
    exact mem_historyEntries_keys hcodes (htxs tx htx) key
  rw [reuse_eq_map sortedMembers_nil (by simp) hkeys, List.map_map, List.map_map]
  apply List.map_congr_left
  intro tx htx
  simp only [Function.comp_apply, assignMembers_historyEntries hcodes (htxs tx htx), freshRow]

end Fresh

/-- The history answers, for each transfer in the window, the row that an empty object and the store
alone would give. -/
theorem historyRows_fresh (lib : Externals) (w : World) (root : Value) (account : Bytes)
    (count perPage : ℤ) (hasks : ReadsRequest lib root .accountHistory account)
    (hpage : AsksPage root count perPage) (hclears : ClearsMissing w.store)
    (hcodes : TransferCodes lib.types) :
    rowsOf (handled lib w root) =
      (window (pageWindow count perPage) (transfersOf lib w account)).map (freshRow lib w.store) := by
  rw [(listsRows_accountHistory hasks hpage).rowsOf_eq]
  apply historyRows_eq_map hclears hcodes
  intro tx htx
  exact (List.mem_filter.mp (mem_of_mem_windowFrom htx)).2

/-- A transfer out and a transfer in on one page. -/
theorem historyRows_fresh_sample :
    rowsOf (handled sampleExternals (sampleListWorld [sampleTransfer, { sampleFresh with transactionType := 2 }])
        (samplePage .accountHistory 0 2)) =
      (window (pageWindow 0 2) (transfersOf sampleExternals
        (sampleListWorld [sampleTransfer, { sampleFresh with transactionType := 2 }]) [])).map
        (freshRow sampleExternals sampleStore) := by
  apply historyRows_fresh sampleExternals
    (sampleListWorld [sampleTransfer, { sampleFresh with transactionType := 2 }])
    (samplePage .accountHistory 0 2) [] 0 2 (readsRequest_samplePage _ _ _ _)
    (asksPage_samplePage _ (by decide) (by decide))
  · intro account snap key hsnap _
    cases hsnap
    rfl
  · exact ⟨Or.inr rfl, by decide, by decide⟩

end XrpcServer.Handler
