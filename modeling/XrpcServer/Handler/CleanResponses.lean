import XrpcServer.Handler.ListResponses
import XrpcServer.Handler.Refusals

/-!
# Clean responses

A handler that returns leaves either the three members of a failure or a success without any
trace of one. The transaction actions write their response once; the queries fill it step by
step, and none of their steps writes the members of a failure.
-/

namespace XrpcServer.Handler

open XrpcServer.Text XrpcServer.Chain XrpcServer.Interaction XrpcServer.Json XrpcServer.Paging
open XrpcServer.Json (Value)

/-- Neither of the members that only a failure has. -/
def Unfailed (members : List (Bytes × Value)) : Prop :=
  members.lookup (str "ErrCode") = none ∧ members.lookup (str "Reason") = none

/-- A success, and nothing of a failure. -/
def CleanSuccess (rsp : Value) : Prop :=
  ∃ members, rsp = .object members ∧ members.lookup (str "Result") = some (.int 1) ∧ Unfailed members

/-- The three members of a failure, and nothing else. -/
def CleanFailure (rsp : Value) : Prop :=
  ∃ code : XrpcReturn, code ≠ .ok ∧
    rsp = .object [(str "ErrCode", .int code.code), (str "Reason", .string (str code.name)),
      (str "Result", .int 0)]

/-- A response that is one or the other. -/
def Clean (rsp : Value) : Prop := CleanSuccess rsp ∨ CleanFailure rsp

/-- A failure recorded in an empty response is clean. -/
theorem clean_failMembers {code : XrpcReturn} (h : code ≠ .ok) :
    Clean (.object (failMembers code [])) := by
  right
  refine ⟨code, h, ?_⟩
  rw [failMembers, xrpcReturnStr_eq_name]
  have hcode : str "ErrCode" < str "Result" := by decide
  have hreason : str "ErrCode" < str "Reason" := by decide
  have hresult : str "Reason" < str "Result" := by decide
  have hreason' : ¬str "Reason" < str "ErrCode" := by decide
  simp [insertMember, hcode, hresult, hreason']

/-- A success without the members of a failure is clean. -/
theorem clean_object {members : List (Bytes × Value)}
    (hresult : members.lookup (str "Result") = some (.int 1))
    (hcode : members.lookup (str "ErrCode") = none) (hreason : members.lookup (str "Reason") = none) :
    Clean (.object members) := Or.inl ⟨members, rfl, hresult, hcode, hreason⟩

/-- A success recorded last is clean when nothing failed before. -/
theorem clean_okMembers {members : List (Bytes × Value)} (h : Unfailed members) :
    Clean (.object (okMembers members)) := by
  obtain ⟨hcode, hreason⟩ := h
  apply clean_object <;> simp [okMembers, hcode, hreason]

/-- A transaction action that returns leaves a clean response. -/
theorem Concludes.clean {lib : Externals} {w : World} {rsp : Value} {taken : List Xtransaction}
    {keys : List (Bytes × Xtransaction)} {x : Except Stop Xtransaction} {o : HandlerOutcome}
    (h : Concludes lib w rsp [] taken keys x o)
    (hrefuses : RefusesWith (fun code => code ≠ .ok) (fun _ => True) x) (hresult : o.result = .ok ()) :
    Clean o.state.jsRsp := by
  rcases x with (e | code) | final
  · obtain ⟨hthrown, -⟩ := h
    rw [hresult] at hthrown
    cases hthrown
  · obtain ⟨-, hrsp, -⟩ := h
    rw [hrsp]
    exact clean_failMembers hrefuses
  · obtain ⟨-, hrsp, -⟩ := h
    rw [hrsp]
    exact clean_okMembers ⟨rfl, rfl⟩

section Queries

variable (lib : Externals) (w : World) (root : Value)

/-- The statistics are absent, or an object without the members of a failure. -/
def StatInfoUnfailed (stat : Value) : Prop :=
  stat = .null ∨ ∃ members, stat = .object members ∧ Unfailed members

/-- Stored property keys start with `@`, `$` or `#`. -/
def PropertyKeysMarked (store : Store) : Prop :=
  ∀ account snap, store.getAccountSnapInfo account = some snap →
    ∀ entry ∈ snap.getAllProperty, entry.1.head? ∈ [some 64, some 36, some 35]

/-- If the routine returns, it leaves a clean response. -/
def LeavesClean (m : HandlerM Unit) : Prop :=
  m.wp service.spec (fun _ s _ => Clean s.jsRsp) (fun _ _ _ => True) (constructed lib (true, root)) (w, [])

/-- `account_balance` leaves a clean response. -/
theorem leavesClean_accountBalance : LeavesClean lib w root (accountBalance lib) := by
  simp [LeavesClean, accountBalance, constructed_parsed, clean_failMembers, clean_object]

/-- So does `account_info`, with or without a receipt. -/
theorem leavesClean_accountInfo : LeavesClean lib w root (accountInfo lib) := by
  simp only [LeavesClean, accountInfo, constructed_parsed, Routine.wp_bind, wp_rootString]
  refine ⟨fun account _ => ?_, fun _ _ => trivial⟩
  cases hsnap : w.store.getAccountSnapInfo account with
  | none => simp [hsnap, clean_failMembers]
  | some snap => simp [hsnap, clean_object]

/-- So does `last_digest`. -/
theorem leavesClean_lastDigest : LeavesClean lib w root (lastDigest lib) := by
  simp only [LeavesClean, lastDigest, constructed_parsed, Routine.wp_bind, wp_rootString]
  refine ⟨fun account _ => ?_, fun _ _ => trivial⟩
  cases hsnap : w.store.getAccountSnapInfo account with
  | none => simp [hsnap, clean_failMembers]
  | some snap => simp [hsnap, clean_object]

/-- So does `query_tps`, unless the statistic itself tells of a failure. -/
theorem leavesClean_queryTps (hstat : StatInfoUnfailed w.store.getStatInfo) :
    LeavesClean lib w root queryTps := by
  rcases hstat with hnull | ⟨members, hmembers, hunfailed⟩
  · simp [LeavesClean, queryTps, constructed_parsed, hnull, Value.isEmpty, clean_failMembers]
  · have hclean := clean_okMembers hunfailed
    simp [LeavesClean, queryTps, constructed_parsed, hmembers, clean_failMembers]
    intro _
    exact hclean

/-- So does `query_property`. -/
theorem leavesClean_queryProperty : LeavesClean lib w root (queryProperty lib) := by
  simp only [LeavesClean, queryProperty, constructed_parsed, Routine.wp_bind, wp_rootString]
  refine ⟨fun account _ => ?_, fun _ _ => trivial⟩
  cases hsnap : w.store.getAccountSnapInfo account with
  | none => simp [hsnap, clean_failMembers]
  | some snap => simp [hsnap, clean_failMembers, clean_object]

/-- So do the commands, and a request without a valid action. -/
theorem leavesClean_command :
    LeavesClean lib w root (accountDelete lib) ∧ LeavesClean lib w root (accountSnapDelete lib) ∧
      LeavesClean lib w root (accountSync lib) ∧
      LeavesClean lib w root (setResultFail .serverActionInvalid) := by
  simp [LeavesClean, accountDelete, accountSnapDelete, accountSync, constructed_parsed,
    clean_failMembers, clean_object]

/-- So does `account_history`. -/
theorem leavesClean_accountHistory : LeavesClean lib w root (accountHistory lib) := by
  simp only [LeavesClean, accountHistory, constructed_parsed, Routine.wp_bind, wp_rootString, wp_rootInt]
  refine ⟨fun account _ => ⟨fun count _ => ⟨fun perPage _ => ?_, fun _ _ => trivial⟩,
    fun _ _ => trivial⟩, fun _ _ => trivial⟩
  simp only [Routine.wp_perform, Service.spec_apply, wp_setResultOk, Value.fields_null,
    Option.some.injEq, forall_eq', reduceCtorEq, false_implies, and_true]
  apply wp_historyLoop 0 rfl (show Value.null = rowsValue [] from rfl) rfl
  intro item t
  simp [rspSetBlocks, clean_object]

/-- So does `account_pending`. -/
theorem leavesClean_accountPending : LeavesClean lib w root (accountPending lib) := by
  simp only [LeavesClean, accountPending, constructed_parsed, Routine.wp_bind, wp_rootString, wp_rootInt]
  refine ⟨fun account _ => ⟨fun count hcount => ?_, fun _ _ => trivial⟩, fun _ _ => trivial⟩
  simp only [Routine.wp_perform, Service.spec_apply, wp_setResultOk, Value.fields_null,
    Option.some.injEq, forall_eq', reduceCtorEq, false_implies, and_true]
  apply wp_pendingLoop 0 (intOf_mem hcount).2 (Nat.zero_le _) rfl (show Value.null = rowsValue [] from rfl)
  intro item
  simp [rspSetBlocks, clean_object]

/-- So does `query_online_tx`. -/
theorem leavesClean_queryOnlineTx : LeavesClean lib w root (queryOnlineTx lib) := by
  simp only [LeavesClean, queryOnlineTx, constructed_parsed, Routine.wp_bind, wp_rootInt]
  refine ⟨fun count _ => ⟨fun perPage _ => ?_, fun _ _ => trivial⟩, fun _ _ => trivial⟩
  cases hlist : w.store.queryOnlineTx with
  | none => simp [hlist, clean_failMembers]
  | some txList =>
    simp only [Routine.wp_perform, Service.spec_apply, service_answer, service_after, World.answer,
      World.after, hlist, Routine.wp_bind]
    apply wp_onlineLoop 0 rfl (show Value.null = rowsValue [] from rfl)
    intro item
    simp [rspSetBlocks, clean_object]

/-- Copying properties into a response. -/
theorem wp_copyProperties_assign {spec : OpSpec Op Reply Config} {err : Exc → HandlerState → Config → Prop}
    (properties : List (Bytes × Bytes)) {s : HandlerState} {c : Config} {members : List (Bytes × Value)}
    (hs : s.jsRsp.fields = some members) {ok : Unit → HandlerState → Config → Prop}
    (hok : ∀ rsp, rsp.fields = some (assignMembers (properties.map fun entry =>
      (entry.1, Value.string entry.2)) members) → ok () { s with jsRsp := rsp } c) :
    (copyProperties properties).wp spec ok err s c := by
  induction properties generalizing s members with
  | nil => exact hok s.jsRsp hs
  | cons entry rest ih =>
    rw [copyProperties, Routine.wp_bind, wp_rspSet, hs]
    refine ⟨fun members' hmembers => ?_, fun h => by cases h⟩
    cases hmembers
    exact ih rfl hok

/-- So does `query_all_property`, whose marked keys are no members of a failure. -/
theorem leavesClean_queryAllProperty (hkeys : PropertyKeysMarked w.store) :
    LeavesClean lib w root (queryAllProperty lib) := by
  simp only [LeavesClean, queryAllProperty, constructed_parsed, Routine.wp_bind, wp_rootString]
  refine ⟨fun account _ => ?_, fun _ _ => trivial⟩
  cases hsnap : w.store.getAccountSnapInfo account with
  | none => simp [hsnap, clean_failMembers]
  | some snap =>
    simp only [Routine.wp_perform, Service.spec_apply, service_answer, service_after, World.answer,
      World.after, hsnap, Routine.wp_bind]
    apply wp_copyProperties_assign _ rfl
    intro rsp hrsp
    have hunmarked (key : String) (hkey : (str key).head? ∉ [some 64, some 36, some 35]) :
        (assignMembers (snap.getAllProperty.map fun entry => (entry.1, Value.string entry.2)) []).lookup
          (str key) = none := by
      rw [lookup_assignMembers_of_not_mem, List.lookup_nil]
      intro hmem
      simp only [List.map_map, List.mem_map, Function.comp_apply] at hmem
      obtain ⟨entry, hentry, heq⟩ := hmem
      have hmarked := hkeys account snap hsnap entry hentry
      rw [heq] at hmarked
      exact hkey hmarked
    have hclean := clean_okMembers ⟨hunmarked "ErrCode" (by decide), hunmarked "Reason" (by decide)⟩
    simpa [hrsp, okMembers] using hclean

/-- Every action but `trigger_elect` and the transaction actions leaves a clean response if it
returns. -/
theorem leavesClean_runAction (hstat : StatInfoUnfailed w.store.getStatInfo)
    (hkeys : PropertyKeysMarked w.store) (nohash : Bool) {action : Action}
    (hkind : action.isTransaction = false) (helect : action ≠ .triggerElect) :
    LeavesClean lib w root (runAction lib nohash action) := by
  obtain ⟨hdelete, hsnapDelete, hsync, hinvalid⟩ := leavesClean_command lib w root
  cases action with
  | accountCreate | transferOut | transferIn | setProperty | give => exact absurd hkind (by decide)
  | triggerElect => exact absurd rfl helect
  | accountBalance => exact leavesClean_accountBalance lib w root
  | accountInfo => exact leavesClean_accountInfo lib w root
  | accountHistory => exact leavesClean_accountHistory lib w root
  | accountPending => exact leavesClean_accountPending lib w root
  | lastDigest => exact leavesClean_lastDigest lib w root
  | tpsQuery => exact leavesClean_queryTps lib w root hstat
  | queryProperty => exact leavesClean_queryProperty lib w root
  | queryAllProperty => exact leavesClean_queryAllProperty lib w root hkeys
  | queryOnlineTx => exact leavesClean_queryOnlineTx lib w root
  | accountDelete => exact hdelete
  | accountSnapDelete => exact hsnapDelete
  | accountSync => exact hsync
  | invalid => exact hinvalid

end Queries

/-- A parsed request that does not ask for an election and is handled without an exception is
answered with a clean success or a clean failure. -/
theorem handleRequest_clean (lib : Externals) (w : World) (req : Bytes) (root : Value)
    (hparse : lib.parse req = (true, root))
    (helect : stringOf lib root "action" ≠ .ok (str "trigger_elect"))
    (hstat : StatInfoUnfailed w.store.getStatInfo) (hkeys : PropertyKeysMarked w.store)
    (hreturn : ((handleRequest lib).run service (constructed lib (lib.parse req)) w).result = .ok ()) :
    Clean ((handleRequest lib).run service (constructed lib (lib.parse req)) w).state.jsRsp := by
  rw [hparse] at hreturn ⊢
  have hfields : (constructed lib (true, root)).jsRsp.fields = some [] := rfl
  have hhandles := handleRequest_handles lib w (constructed lib (true, root)) hfields
  have hroot : (constructed lib (true, root)).root = root := rfl
  unfold Handles at hhandles
  rcases haction : stringOf lib root "action" with e | action
  · simp only [requestAction, hroot, haction, except_bind_error] at hhandles
    exact hhandles.clean (RefusesWith.thrown e) hreturn
  rcases haccount : stringOf lib root "account" with e | account
  · simp only [requestAction, hroot, haction, haccount, except_bind_ok, except_bind_error] at hhandles
    exact hhandles.clean (RefusesWith.thrown e) hreturn
  simp only [requestAction, hroot, haction, haccount, except_bind_ok, except_pure] at hhandles
  cases hdraft : actionDraft lib w root (constructed lib (true, root)).tx (noHash account)
      (actionOf action) with
  | some draft =>
    have hrefuses := refuses_actionDraft lib w root _ hdraft
    simp only [hdraft, Fulfils] at hhandles
    rcases draft with stop | draft
    · have hstop : RefusesWith (· ∈ ordinaryCodes) (fun _ => True) (.error stop : Except Stop Xtransaction) := by
        cases stop with
        | thrown e => trivial
        | refused code => exact hrefuses
      exact hhandles.clean (hstop.mono fun code => ne_ok_of_mem_ordinaryCodes) hreturn
    · have haccept := Draft.Refuses.accept lib w root hrefuses
      exact hhandles.clean (haccept.mono fun code => ne_ok_of_mayRefuse) hreturn
  | none =>
    have hkind : actionOf action ≠ .triggerElect := by
      intro hkind
      rw [eq_text_of_actionOf hkind (by decide)] at haction
      exact helect haction
    have hclean := leavesClean_runAction lib w root hstat hkeys (noHash account)
      (actionDraft_eq_none.mp hdraft) hkind
    rw [handleRequest_run lib w (constructed lib (true, root)) haction haccount] at hreturn ⊢
    refine (Routine.run_iff_wp service _ (constructed lib (true, root)) w
      (fun o => o.result = .ok () → Clean o.state.jsRsp)).mpr ?_ hreturn
    apply Routine.wp_mono service.spec_mono _ _ _ hclean
    · intro _ s _ hs _
      exact hs
    · intro e s _ _ herror
      cases herror

/-- Libraries whose parser finds a sample request in every body. -/
def sampleParsing : Externals :=
  { sampleExternals with parse := fun _ => (true, samplePage .accountHistory 0 1) }

/-- A history of one transfer is answered with a clean response. -/
theorem handleRequest_clean_sample :
    Clean ((handleRequest sampleParsing).run service (constructed sampleParsing (sampleParsing.parse []))
      (sampleListWorld [sampleTransfer])).state.jsRsp := by
  apply handleRequest_clean sampleParsing (sampleListWorld [sampleTransfer]) []
    (samplePage .accountHistory 0 1) rfl
  · rw [(readsRequest_samplePage sampleParsing .accountHistory 0 1).haction]
    decide
  · exact Or.inl rfl
  · intro account snap hsnap entry hentry
    cases hsnap
    cases hentry
  · exact (listsRows_accountHistory (readsRequest_samplePage sampleParsing .accountHistory 0 1)
      (asksPage_samplePage .accountHistory (by decide) (by decide))).result

end XrpcServer.Handler
