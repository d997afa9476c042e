import XrpcServer.Handler.Drafts
import XrpcServer.Handler.ListRows

/-!
# The responses of the list queries

A list query answers its rows in `blocks` and the length of the whole list in `count`. Which
rows these are is known from its loop; here the query is followed from the request to the
response.
-/

namespace XrpcServer.Handler

open XrpcServer.Text XrpcServer.Chain XrpcServer.Interaction XrpcServer.Json XrpcServer.Paging
open XrpcServer.Json (Value)

/-- The request asks for page `count` of `perPage` rows. -/
structure AsksPage (root : Value) (count perPage : ℤ) : Prop where
  count : intOf root "count" = .ok count
  perPage : intOf root "per_page" = .ok perPage

/-- Rows and a length are answered. -/
structure ListsRows (o : HandlerOutcome) (rows : List Value) (n : ℤ) : Prop where
  result : o.result = .ok ()
  rsp : ∃ members, o.state.jsRsp = .object members ∧
    members.lookup (str "Result") = some (.int 1) ∧
    members.lookup (str "blocks") = some (rowsValue rows) ∧
    members.lookup (str "count") = some (.string (decimalText n))

/-- The rows of a response; without a `blocks` array there are none. -/
def rowsOf (o : HandlerOutcome) : List Value :=
  match o.state.jsRsp with
  | .object members =>
    match members.lookup (str "blocks") with
    | some (.array rows) => rows
    | _ => []
  | _ => []

/-- The `count` member of a response. -/
def countOf (o : HandlerOutcome) : Option Value :=
  match o.state.jsRsp with
  | .object members => members.lookup (str "count")
  | _ => none

/-- The rows that were answered are the rows of the response. -/
theorem ListsRows.rowsOf_eq {o : HandlerOutcome} {rows : List Value} {n : ℤ} (h : ListsRows o rows n) :
    rowsOf o = rows := by
  obtain ⟨members, hrsp, -, hblocks, -⟩ := h.rsp
  cases rows <;> simp [rowsOf, hrsp, hblocks, rowsValue]

/-- The length that was answered is the count of the response. -/
theorem ListsRows.countOf_eq {o : HandlerOutcome} {rows : List Value} {n : ℤ} (h : ListsRows o rows n) :
    countOf o = some (.string (decimalText n)) := by
  obtain ⟨members, hrsp, -, -, hcount⟩ := h.rsp
  simp [countOf, hrsp, hcount]

/-- The window of a page, with the bounds the code computes. -/
def pageWindow (count perPage : ℤ) : ℕ → Bool :=
  inWindow (wrap32 (count * perPage)) (wrap32 (wrap32 (count + 1) * perPage))

/-- The transactions an account's history is made of. -/
def transfersOf (lib : Externals) (w : World) (account : Bytes) : List Xtransaction :=
  (w.store.getSettleBlocks account).filter (isTransfer lib.types)

/-- What `asInt` admits fits 32 bits. -/
theorem intOf_mem {root : Value} {key : String} {i : ℤ} (h : intOf root key = .ok i) :
    -2 ^ 31 ≤ i ∧ i < 2 ^ 31 := by
  unfold intOf at h
  cases hget : root.get (str key) with
  | error e =>
    rw [hget] at h
    cases h
  | ok v =>
    rw [hget] at h
    cases hvalue : v.asInt with
    | error e =>
      simp [Except.bind, hvalue] at h
    | ok j =>
      have hmem := Value.asInteger_mem (by norm_num) (by norm_num) hvalue
      simp only [Except.bind, hvalue, liftJson_ok, Except.ok.injEq] at h
      omega

section Responses

variable {lib : Externals} {w : World} {root : Value} {account : Bytes} {count perPage : ℤ}

/-- The history answers the transfers in the window of the page. -/
theorem listsRows_accountHistory (hasks : ReadsRequest lib root .accountHistory account)
    (hpage : AsksPage root count perPage) :
    ListsRows (handled lib w root)
      (historyRows lib w.store [] [] (window (pageWindow count perPage) (transfersOf lib w account)))
      (wrap32 (transfersOf lib w account).length) := by
  rw [hasks.handled_eq, Routine.run_iff_wp service _ _ _ (fun o => ListsRows o _ _)]
  simp only [runAction, accountHistory, constructed_parsed, Routine.wp_bind, wp_rootString, wp_rootInt,
    hasks.haccount, hpage.count, hpage.perPage, Except.ok.injEq, forall_eq', reduceCtorEq, false_implies,
    implies_true, and_true, Routine.wp_perform, Service.spec_apply, service_answer, service_after,
    World.answer, World.after, wp_setResultOk, Value.fields_null, Option.some.injEq]
  apply wp_historyLoop 0 rfl (show Value.null = rowsValue [] from rfl) rfl
  intro item t'
  simp only [rspSetBlocks, Routine.wp_bind, Routine.wp_read, wp_rspSet, Value.fields_object,
    Option.some.injEq, forall_eq', reduceCtorEq, false_implies, and_true]
  exact ⟨rfl, _, rfl, by simp, by simp; rfl, by simp; rfl⟩

/-- The online query answers the transactions in the window of the page. -/
theorem listsRows_queryOnlineTx (hasks : ReadsRequest lib root .queryOnlineTx account)
    (hpage : AsksPage root count perPage) {txList : List Xtransaction}
    (hlist : w.store.queryOnlineTx = some txList) :
    ListsRows (handled lib w root)
      (reusedRows (onlineEntries lib) [] (window (pageWindow count perPage) txList)) txList.length := by
  rw [hasks.handled_eq, Routine.run_iff_wp service _ _ _ (fun o => ListsRows o _ _)]
  simp only [runAction, queryOnlineTx, constructed_parsed, Routine.wp_bind, wp_rootInt, hpage.count,
    hpage.perPage, Except.ok.injEq, forall_eq', reduceCtorEq, false_implies, implies_true, and_true,
    Routine.wp_perform, Service.spec_apply, service_answer, service_after, World.answer, World.after,
    hlist]
  apply wp_onlineLoop 0 rfl (show Value.null = rowsValue [] from rfl)
  intro item
  simp only [rspSetBlocks, Routine.wp_bind, Routine.wp_read, wp_rspSet, Value.fields_object,
    Value.fields_null, Option.some.injEq, forall_eq', reduceCtorEq, false_implies, and_true, wp_setResultOk]
  exact ⟨rfl, _, rfl, by simp, by simp; rfl, by simp⟩

/-- The pending query answers the first transactions that wait for the account. -/
theorem listsRows_accountPending (hasks : ReadsRequest lib root .accountPending account)
    (hcount : intOf root "count" = .ok count) :
    ListsRows (handled lib w root)
      (reusedRows (pendingEntries lib) [] ((w.store.getReceiveBlocks account).take count.toNat))
      (w.store.getReceiveBlocks account).length := by
  rw [hasks.handled_eq, Routine.run_iff_wp service _ _ _ (fun o => ListsRows o _ _)]
  simp only [runAction, accountPending, constructed_parsed, Routine.wp_bind, wp_rootString, wp_rootInt,
    hasks.haccount, hcount, Except.ok.injEq, forall_eq', reduceCtorEq, false_implies, implies_true,
    and_true, Routine.wp_perform, Service.spec_apply, service_answer, service_after, World.answer,
    World.after, wp_setResultOk, Value.fields_null, Option.some.injEq]
  apply wp_pendingLoop 0 (intOf_mem hcount).2 (Nat.zero_le _) rfl (show Value.null = rowsValue [] from rfl)
  intro item
  simp only [rspSetBlocks, Routine.wp_bind, Routine.wp_read, wp_rspSet, Value.fields_object,
    Option.some.injEq, forall_eq', reduceCtorEq, false_implies, and_true]
  exact ⟨rfl, _, rfl, by simp, by simp, by simp⟩

end Responses

section Sample

/-- A sample request for a page. -/
def samplePage (kind : Action) (count perPage : ℤ) : Value :=
  .object [(str "account", .string []), (str "action", .string (str kind.text)),
    (str "count", .int count), (str "per_page", .int perPage)]

/-- What a sample request asks for. -/
theorem readsRequest_samplePage (lib : Externals) (kind : Action) (count perPage : ℤ) :
    ReadsRequest lib (samplePage kind count perPage) kind [] :=
  ⟨rfl, rfl⟩

/-- Which page a sample request asks for. -/
theorem asksPage_samplePage (kind : Action) {count perPage : ℤ} (hcount : -2 ^ 31 ≤ count ∧ count ≤ 2 ^ 31 - 1)
    (hperPage : -2 ^ 31 ≤ perPage ∧ perPage ≤ 2 ^ 31 - 1) :
    AsksPage (samplePage kind count perPage) count perPage := by
  have hread : (Value.int count).asInt = .ok count := if_pos hcount
  have hread' : (Value.int perPage).asInt = .ok perPage := if_pos hperPage
  constructor
  · simp [samplePage, intOf, Value.get, Value.member, Except.bind, lookup_cons_ite, hread]
  · simp [samplePage, intOf, Value.get, Value.member, Except.bind, lookup_cons_ite, hread']

/-- A sample transfer. -/
def sampleTransfer : Xtransaction := { sampleFresh with transactionType := 1 }

/-- A store whose lists consist of the same transactions for every account. -/
def sampleListStore (txs : List Xtransaction) : Store :=
  { sampleStore with
    getReceiveBlocks := fun _ => txs
    getSettleBlocks := fun _ => txs
    queryOnlineTx := some txs }

/-- The sample surroundings with that store. -/
def sampleListWorld (txs : List Xtransaction) : World :=
  { sampleWorld with store := sampleListStore txs }

end Sample

end XrpcServer.Handler
