import XrpcServer.Handler.Submission
import XrpcServer.Paging.Window

/-!
# What the list queries collect

The loops of the list queries are executed on a fixed store. The rows they append are, in
order, the rows of the transactions in a window of the list; a property of single rows that is
shown along an invariant of the reused row object and of the tag cache holds for all of them.
-/

namespace XrpcServer.Handler

open XrpcServer.Text XrpcServer.Chain XrpcServer.Interaction XrpcServer.Json XrpcServer.Paging
open XrpcServer.Json (Value)

/-- The array of the rows collected so far, null before the first one. -/
def rowsValue : List Value → Value
  | [] => .null
  | row :: rows => .array (row :: rows)

/-- Appending a row. -/
theorem append_rowsValue (rows : List Value) (row : Value) :
    (rowsValue rows).append row = .ok (rowsValue (rows ++ [row])) := by
  cases rows <;> rfl

section Items

universe u

variable {Config : Type u} {spec : OpSpec Op Reply Config} {err : Exc → HandlerState → Config → Prop}
  {s : HandlerState} {config : Config} {members : List (Bytes × Value)}

/-- Assigning a member of the row object. -/
theorem wp_itemSet (hitem : s.jsItem.fields = some members) (key : String) (value : Value)
    (ok : Unit → HandlerState → Config → Prop) : (itemSet key value).wp spec ok err s config ↔
      ok () { s with jsItem := .object (insertMember (str key) value members) } config := by
  simp [itemSet, Value.set, hitem]

/-- Assigning another member of a row object that is already under construction. -/
theorem wp_itemSet_object (root rsp array : Value) (tx : Xtransaction) (key : String)
    (value : Value) (ok : Unit → HandlerState → Config → Prop) :
    (itemSet key value).wp spec ok err ⟨root, rsp, array, .object members, tx⟩ config ↔
      ok () ⟨root, rsp, array, .object (insertMember (str key) value members), tx⟩ config :=
  wp_itemSet rfl key value ok

/-- A member of the row object that is a string. -/
theorem stringOf_object (lib : Externals) {key : String} {b : Bytes}
    (hmember : members.lookup (str key) = some (.string b)) : stringOf lib (.object members) key = .ok b := by
  simp [stringOf, Value.get, Value.member, hmember, Except.bind, Value.asString]

/-- Appending the row object. -/
theorem wp_appendItem {rows : List Value} (hrows : s.jsArrayObj = rowsValue rows)
    (ok : Unit → HandlerState → Config → Prop) : appendItem.wp spec ok err s config ↔
      ok () { s with jsArrayObj := rowsValue (rows ++ [s.jsItem]) } config := by
  simp [appendItem, hrows, append_rowsValue]

end Items

section Tags

variable (store : Store)

/-- The tag of an account: its `@name` property, empty without one. -/
def tagOf (account : Bytes) : Bytes :=
  match store.getAccountSnapInfo account with
  | some snap => if (snap.getProperty (str "@name")).1 then (snap.getProperty (str "@name")).2 else []
  | none => []

/-- What the cache remembers of an account: whatever `get_property` left in its output. -/
def rememberedTag (account : Bytes) : Bytes :=
  match store.getAccountSnapInfo account with
  | some snap => (snap.getProperty (str "@name")).2
  | none => []

/-- The tag shown for an account. -/
def shownTag (userTag : UserTag) (account : Bytes) : Bytes :=
  (userTag.lookup account).getD (tagOf store account)

/-- A row with the tag of an account. -/
def tagMember (userTag : UserTag) (tagField : String) (account : Bytes)
    (members : List (Bytes × Value)) : List (Bytes × Value) :=
  insertMember (str tagField) (.string (shownTag store userTag account)) members

/-- The cache after an account was shown. -/
def rememberTag (userTag : UserTag) (account : Bytes) : UserTag :=
  if (userTag.lookup account).isSome then userTag
  else (account, rememberedTag store account) :: userTag

variable {lib : Externals} {w : World} {err : Exc → HandlerState → Config → Prop} {s : HandlerState}
  {t : List HandlerEvent} {members : List (Bytes × Value)} {userTag : UserTag}

/-- `setTag` writes the tag of the account it finds in the row. -/
theorem wp_setTag {field tagField : String} {account : Bytes} (hne : field ≠ tagField)
    (hitem : s.jsItem = .object members) (haccount : members.lookup (str field) = some (.string account))
    {ok : UserTag → HandlerState → Config → Prop}
    (hok : ∀ t', ok (rememberTag w.store userTag account)
      { s with jsItem := .object (tagMember w.store userTag tagField account members) } (w, t')) :
    (setTag lib field tagField userTag).wp service.spec ok err s (w, t) := by
  have hread : stringOf lib (.object members) field = .ok account := stringOf_object lib haccount
  have hkept (value : Value) :
      stringOf lib (.object (insertMember (str tagField) value members)) field = .ok account := by
    apply stringOf_object
    rw [lookup_insertMember, if_neg (by simpa using hne), haccount]
  cases hcached : userTag.lookup account with
  | some tag =>
    simp only [rememberTag, tagMember, shownTag, hcached, Option.isSome_some, if_true,
      Option.getD_some] at hok
    simp [setTag, itemString, hread, hcached, itemSet, hitem, Value.set, hok]
  | none =>
    simp only [rememberTag, tagMember, shownTag, rememberedTag, tagOf, hcached, Option.isSome_none,
      Bool.false_eq_true, if_false, Option.getD_none] at hok
    cases hsnap : w.store.getAccountSnapInfo account with
    | none =>
      simp only [hsnap] at hok
      simp [setTag, itemString, hread, hcached, itemSet, hitem, Value.set, hkept, hsnap, hok]
    | some snap =>
      cases hfound : (snap.getProperty (str "@name")).1 <;>
        simp only [hsnap, hfound, Bool.false_eq_true, if_false, if_true] at hok <;>
        simp [setTag, itemString, hread, hcached, itemSet, hitem, Value.set, hkept, hsnap, hfound, hok]

end Tags

section History

variable (lib : Externals)

/-- The transactions the history shows. -/
def isTransfer (types : TransactionTypes) (tx : Xtransaction) : Bool :=
  tx.transactionType = types.transferAssetIn ∨ tx.transactionType = types.transferAssetOut

/-- The account the history shows as the source. -/
def sourceOf (types : TransactionTypes) (tx : Xtransaction) : Bytes :=
  if tx.transactionType = 1 ∨ tx.transactionType = 0 then tx.senderAddr
  else if tx.transactionType = types.transferAssetIn then tx.originSender
  else tx.senderAddr

/-- The amount the history shows, if it shows one. -/
def amountOf (types : TransactionTypes) (tx : Xtransaction) : Option Bytes :=
  if tx.transactionType = 1 ∨ tx.transactionType = 0 then some tx.transactionParams
  else if tx.transactionType = types.transferAssetIn then some tx.originAmount
  else none

/-- The asset the history shows. -/
def shownKey (tx : Xtransaction) : Bytes := if tx.propertyKey = [] then str "$$" else tx.propertyKey

/-- A transaction with the tags of its source and of its destination. -/
structure TaggedTx where
  tx : Xtransaction
  sourceTag : Bytes
  destinationTag : Bytes

/-- The members of a row that come before its tags, in the order they are assigned. -/
def headEntries (tx : Xtransaction) : List (Bytes × Value) :=
  [(str "transaction_type", .int tx.transactionType), (str "source", .string tx.senderAddr),
    (str "destination", .string tx.receiverAddr), (str "property_key", .string (shownKey tx))]

/-- The members that depend on the type of the transaction. -/
def transferEntries (types : TransactionTypes) (tx : Xtransaction) : List (Bytes × Value) :=
  if tx.transactionType = 1 ∨ tx.transactionType = 0 then
    [(str "amount", .string tx.transactionParams)]
  else if tx.transactionType = types.transferAssetIn then
    [(str "amount", .string tx.originAmount), (str "source", .string tx.originSender)]
  else []

/-- The tags of a row and the members that come after them. -/
def tailEntries (row : TaggedTx) : List (Bytes × Value) :=
  [(str "source_tag", .string row.sourceTag), (str "destination_tag", .string row.destinationTag),
    (str "tx_digest", .string (hashToJsonString lib row.tx.txDigest)),
    (str "last_digest", .string (hashToJsonString lib row.tx.lastMsgDigest)),
    (str "rpc_time", .string (decimalText row.tx.edgeTimestamp.toNat))]

/-- All assignments of one row of the history. -/
def historyEntries (row : TaggedTx) : List (Bytes × Value) :=
  headEntries row.tx ++ transferEntries lib.types row.tx ++ tailEntries lib row

/-- The cache after a row. -/
def rememberTags (store : Store) (tx : Xtransaction) (userTag : UserTag) : UserTag :=
  rememberTag store (rememberTag store userTag (sourceOf lib.types tx)) tx.receiverAddr

/-- The row of a transaction with the tags the cache provides. -/
def tagTx (store : Store) (tx : Xtransaction) (userTag : UserTag) : TaggedTx where
  tx := tx
  sourceTag := shownTag store userTag (sourceOf lib.types tx)
  destinationTag := shownTag store (rememberTag store userTag (sourceOf lib.types tx)) tx.receiverAddr

/-- The rows of some transactions with the tags the growing cache provides. -/
def tagTxs (store : Store) : List Xtransaction → UserTag → List TaggedTx
  | [], _ => []
  | tx :: rest, userTag => tagTx lib store tx userTag :: tagTxs store rest (rememberTags lib store tx userTag)

/-- The source and the destination a row shows. -/
theorem lookup_transferEntries (tx : Xtransaction) (members : List (Bytes × Value)) :
    (assignMembers (headEntries tx ++ transferEntries lib.types tx) members).lookup (str "source") =
        some (.string (sourceOf lib.types tx)) ∧
      (assignMembers (headEntries tx ++ transferEntries lib.types tx) members).lookup (str "destination") =
        some (.string tx.receiverAddr) := by
  unfold transferEntries sourceOf
  split_ifs <;> simp [headEntries]

variable {lib} {w : World} {err : Exc → HandlerState → Config → Prop} {s : HandlerState}
  {t : List HandlerEvent} {members rsp : List (Bytes × Value)} {rows : List Value} {userTag : UserTag}

/-- `setPropertyValue` writes the tags of the source and the destination it finds in the row. -/
theorem wp_setPropertyValue {source destination : Bytes} (hitem : s.jsItem = .object members)
    (hsource : members.lookup (str "source") = some (.string source))
    (hdestination : members.lookup (str "destination") = some (.string destination))
    (hrsp : s.jsRsp.fields = some rsp) {ok : UserTag → HandlerState → Config → Prop}
    (hok : ∀ t', ok (rememberTag w.store (rememberTag w.store userTag source) destination)
      { s with
        jsItem := .object (tagMember w.store (rememberTag w.store userTag source) "destination_tag"
          destination (tagMember w.store userTag "source_tag" source members))
        jsRsp := .object (okMembers rsp) } (w, t')) :
    (setPropertyValue lib userTag).wp service.spec ok err s (w, t) := by
  rw [setPropertyValue, Routine.wp_bind]
  apply wp_setTag (by decide) hitem hsource
  intro t'
  rw [Routine.wp_bind]
  have hkept : (tagMember w.store userTag "source_tag" source members).lookup (str "destination") =
      some (.string destination) := by simp [tagMember, hdestination]
  apply wp_setTag (by decide) rfl hkept
  intro t''
  simp only [Routine.wp_bind, wp_setResultOk, hrsp, Option.some.injEq, forall_eq', reduceCtorEq,
    false_implies, and_true, Routine.wp_pure]
  exact hok t''

/-- One row of the history. -/
theorem wp_historyRow {tx : Xtransaction} (hitem : s.jsItem.fields = some members)
    (hrows : s.jsArrayObj = rowsValue rows) (hrsp : s.jsRsp.fields = some rsp)
    {ok : UserTag → HandlerState → Config → Prop}
    (hok : ∀ t', ok (rememberTags lib w.store tx userTag)
      { s with
        jsItem := .object (assignMembers (historyEntries lib (tagTx lib w.store tx userTag)) members)
        jsArrayObj := rowsValue (rows ++
          [.object (assignMembers (historyEntries lib (tagTx lib w.store tx userTag)) members)])
        jsRsp := .object (okMembers rsp) } (w, t')) :
    (historyRow lib tx userTag).wp service.spec ok err s (w, t) := by
  obtain ⟨hsource, hdestination⟩ := lookup_transferEntries lib tx members
  -- after the tags, every branch ends with the same statements
  have hjoin : (do
      let userTag ← setPropertyValue lib userTag
      itemSet "tx_digest" (.string (hashToJsonString lib tx.txDigest))
      itemSet "last_digest" (.string (hashToJsonString lib tx.lastMsgDigest))
      itemSet "rpc_time" (.string (decimalText tx.edgeTimestamp.toNat))
      appendItem
      pure userTag).wp service.spec ok err
        { s with
          jsItem := .object (assignMembers (headEntries tx ++ transferEntries lib.types tx) members) }
        (w, t) := by
    rw [Routine.wp_bind]
    apply wp_setPropertyValue rfl hsource hdestination (by exact hrsp)
    intro t'
    simp only [Routine.wp_bind, wp_itemSet_object]
    apply (wp_appendItem (by exact hrows) _).mpr
    simpa [historyEntries, tailEntries, tagTx, tagMember, rememberTags] using hok t'
  simp only [historyRow, Routine.wp_bind, wp_itemSet hitem, wp_itemSet_object, Routine.wp_ite]
  simp only [headEntries, shownKey, transferEntries, assignMembers_append, assignMembers_cons,
    assignMembers_nil] at hjoin
  split_ands
  · intro hkind
    simpa [hkind] using hjoin
  · intro hkind
    simp only [hkind, if_false] at hjoin
    split_ands
    · intro hin
      simpa [hin] using hjoin
    · intro hin
      simpa [hin] using hjoin

/-- The rows the history builds in its one row object. -/
def historyRows (lib : Externals) (store : Store) (members : List (Bytes × Value)) (userTag : UserTag)
    (txs : List Xtransaction) : List Value :=
  (reuse (historyEntries lib) members (tagTxs lib store txs userTag)).map .object

/-- The positions a page takes, compared by counters that wrap. -/
def inWindow (startNum endNum : ℤ) (i : ℕ) : Bool := startNum ≤ wrap32 i ∧ wrap32 i < endNum

/-- Counters wrap along. -/
theorem wrap32_succ (i : ℕ) : wrap32 (wrap32 i + 1) = wrap32 ((i + 1 : ℕ) : ℤ) := by
  simp only [wrap32, Nat.cast_add, Nat.cast_one, Int.bmod_add_bmod]

/-- The loop of the history appends the rows of the transfers in its window and answers how many
transfers there are. -/
theorem wp_historyLoop {startNum endNum : ℤ} {settleList : List Xtransaction} (i : ℕ)
    (hitem : s.jsItem.fields = some members) (hrows : s.jsArrayObj = rowsValue rows)
    (hrsp : s.jsRsp = .object (okMembers rsp)) {ok : ℤ → HandlerState → Config → Prop}
    (hok : ∀ item t', ok (wrap32 ((i + (settleList.filter (isTransfer lib.types)).length : ℕ) : ℤ))
      { s with
        jsItem := item
        jsArrayObj := rowsValue (rows ++ historyRows lib w.store members userTag
          (windowFrom (inWindow startNum endNum) i (settleList.filter (isTransfer lib.types)))) } (w, t')) :
    (historyLoop lib startNum endNum settleList (wrap32 i) userTag).wp service.spec ok err s (w, t) := by
  induction settleList generalizing i s t members rows userTag with
  | nil =>
    have := hok s.jsItem t
    simpa [historyLoop, windowFrom, historyRows, tagTxs, reuse, ← hrows] using this
  | cons tx rest ih =>
    rw [historyLoop]
    by_cases hkind : isTransfer lib.types tx
    · have hskip : ¬(tx.transactionType ≠ lib.types.transferAssetIn ∧
          tx.transactionType ≠ lib.types.transferAssetOut) := by
        simpa [isTransfer, or_iff_not_imp_left] using hkind
      rw [if_neg hskip, wrap32_succ]
      rw [List.filter_cons_of_pos hkind] at hok
      cases hinside : inWindow startNum endNum i with
      | true =>
        rw [if_pos (by simpa [inWindow] using hinside), Routine.wp_bind]
        apply wp_historyRow hitem hrows (by rw [hrsp, Value.fields_object])
        intro t'
        have hagain : Value.object (okMembers (okMembers rsp)) = s.jsRsp := by
          rw [hrsp, okMembers, okMembers, insertMember_insertMember]
        apply ih _ rfl rfl (by rw [hagain, hrsp])
        intro item t''
        simpa [windowFrom, hinside, historyRows, tagTxs, reuse, hagain, Nat.add_assoc,
          Nat.add_comm 1] using hok item t''
      | false =>
        rw [if_neg (by simpa [inWindow] using hinside)]
        apply ih _ hitem hrows hrsp
        intro item t'
        simpa [windowFrom, hinside, Nat.add_assoc, Nat.add_comm 1] using hok item t'
    · have hskip : tx.transactionType ≠ lib.types.transferAssetIn ∧
          tx.transactionType ≠ lib.types.transferAssetOut := by
        simpa [isTransfer] using hkind
      rw [if_pos hskip]
      rw [List.filter_cons_of_neg hkind] at hok
      exact ih _ hitem hrows hrsp hok

end History

section Lists

variable {lib : Externals} {w : World} {err : Exc → HandlerState → Config → Prop} {s : HandlerState}
  {t : List HandlerEvent} {members : List (Bytes × Value)} {rows : List Value}

/-- The assignments of one row of `query_online_tx`. -/
def onlineEntries (lib : Externals) (tx : Xtransaction) : List (Bytes × Value) :=
  [(str "sender", .string tx.senderAddr), (str "receiver", .string tx.receiverAddr),
    (str "property_key", .string tx.propertyKey), (str "amount", .string tx.transactionParams),
    (str "timestamp", .string (decimalText tx.timestamp.toNat)),
    (str "last_digest", .string (hashToJsonString lib tx.lastMsgDigest)),
    (str "tx_digest", .string (hashToJsonString lib tx.txDigest)),
    (str "rpc_time", .string (decimalText tx.edgeTimestamp.toNat))]

/-- The assignments of one row of `account_pending`. -/
def pendingEntries (lib : Externals) (tx : Xtransaction) : List (Bytes × Value) :=
  [(str "sender", .string tx.senderAddr), (str "property_key", .string tx.propertyKey),
    (str "amount", .string tx.transactionParams),
    (str "block", .string (hashToJsonString lib tx.txDigest))]

/-- The rows of transactions, built in one object. -/
def reusedRows (entries : Xtransaction → List (Bytes × Value)) (members : List (Bytes × Value))
    (txs : List Xtransaction) : List Value := (reuse entries members txs).map .object

/-- The loop of `query_online_tx` appends the rows of the transactions in its window. -/
theorem wp_onlineLoop {startNum endNum : ℤ} {txList : List Xtransaction} (i : ℕ)
    (hitem : s.jsItem.fields = some members) (hrows : s.jsArrayObj = rowsValue rows)
    {ok : Unit → HandlerState → Config → Prop}
    (hok : ∀ item, ok ()
      { s with
        jsItem := item
        jsArrayObj := rowsValue (rows ++ reusedRows (onlineEntries lib) members
          (windowFrom (inWindow startNum endNum) i txList)) } (w, t)) :
    (onlineLoop lib startNum endNum txList (wrap32 i)).wp service.spec ok err s (w, t) := by
  induction txList generalizing i s members rows with
  | nil => simpa [onlineLoop, windowFrom, reusedRows, reuse, ← hrows] using hok s.jsItem
  | cons tx rest ih =>
    cases hinside : inWindow startNum endNum i with
    | true =>
      rw [onlineLoop, if_pos (by simpa [inWindow] using hinside), wrap32_succ]
      simp only [Routine.wp_bind, wp_itemSet hitem, wp_itemSet_object]
      apply (wp_appendItem (by exact hrows) _).mpr
      apply ih _ rfl rfl
      intro item
      simpa [windowFrom, hinside, reusedRows, reuse, onlineEntries] using hok item
    | false =>
      rw [onlineLoop, if_neg (by simpa [inWindow] using hinside), wrap32_succ]
      apply ih _ hitem hrows
      intro item
      simpa [windowFrom, hinside] using hok item

/-- A counter that has not left the range is its own value. -/
theorem wrap32_of_mem {i : ℤ} (hlow : -2 ^ 31 ≤ i) (hhigh : i < 2 ^ 31) : wrap32 i = i := by
  unfold wrap32
  apply Int.bmod_eq_of_le <;> omega

/-- The loop of `account_pending` appends the rows of the first `count` transactions. -/
theorem wp_pendingLoop {count : ℤ} {receiveList : List Xtransaction} (i : ℕ)
    (hcount : count < 2 ^ 31) (hi : i ≤ count.toNat) (hitem : s.jsItem.fields = some members)
    (hrows : s.jsArrayObj = rowsValue rows) {ok : Unit → HandlerState → Config → Prop}
    (hok : ∀ item, ok ()
      { s with
        jsItem := item
        jsArrayObj := rowsValue (rows ++ reusedRows (pendingEntries lib) members
          (receiveList.take (count.toNat - i))) } (w, t)) :
    (pendingLoop lib count receiveList (wrap32 i)).wp service.spec ok err s (w, t) := by
  have hwrap : wrap32 (i : ℤ) = i := wrap32_of_mem (by omega) (by omega)
  induction receiveList generalizing i s members rows with
  | nil => simpa [pendingLoop, reusedRows, reuse, ← hrows] using hok s.jsItem
  | cons tx rest ih =>
    rw [pendingLoop]
    rw [hwrap]
    rcases le_or_gt count i with hstop | hgo
    · rw [if_pos hstop]
      have hzero : count.toNat - i = 0 := by omega
      simpa [hzero, reusedRows, reuse, ← hrows] using hok s.jsItem
    · rw [if_neg (not_le.mpr hgo), ← hwrap, wrap32_succ]
      have hroom : count.toNat - i = (count.toNat - (i + 1)) + 1 := by omega
      simp only [Routine.wp_bind, wp_itemSet hitem, wp_itemSet_object]
      apply (wp_appendItem (by exact hrows) _).mpr
      apply ih _ (by omega) rfl rfl _ (wrap32_of_mem (by omega) (by omega))
      intro item
      simpa [hroom, reusedRows, reuse, pendingEntries] using hok item

end Lists

end XrpcServer.Handler
