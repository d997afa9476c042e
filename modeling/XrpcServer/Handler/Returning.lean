import XrpcServer.Handler.Answerable
import XrpcServer.Handler.Rows

/-!
# Queries that return

The queries and node commands are executed symbolically. No statement of their loops can
throw on the rows the loops build, so a query returns exactly when the members it reads
convert.
-/

namespace XrpcServer.Handler

open XrpcServer.Text XrpcServer.Chain XrpcServer.Interaction XrpcServer.Json
open XrpcServer.Json (Value)

/-- The request was handled, and a response can be taken. -/
def Responds (o : HandlerOutcome) : Prop := o.result = .ok () ∧ o.state.jsRsp ≠ .array []

/-- Precondition for that. -/
def Returns (m : HandlerM Unit) (s : HandlerState) (c : Config) : Prop :=
  m.wp service.spec (fun _ s' _ => s'.jsRsp ≠ .array []) (fun _ _ _ => False) s c

/-- A run responds exactly when it returns. -/
theorem responds_iff_returns (m : HandlerM Unit) (s : HandlerState) (w : World) :
    Responds (m.run service s w) ↔ Returns m s (w, []) := by
  rw [Routine.run_iff_wp service m s w Responds]
  simp [Responds, Returns]

/-- No exception is left to chance. -/
abbrev noExit : Exc → HandlerState → Config → Prop := fun _ _ _ => False

section Loops

variable (lib : Externals)

/-- The members the list queries build their rows in. -/
structure BuildsRows (s : HandlerState) : Prop where
  item : ∃ members, s.jsItem.fields = some members ∧ ∀ entry ∈ members, entry.2.IsScalar
  rows : ∀ value, ∃ rows, s.jsArrayObj.append value = .ok (.array rows)
  rsp : ∃ members, s.jsRsp.fields = some members

/-- The routine returns and leaves members that rows can be built in. -/
def Survives {α : Type} (m : HandlerM α) : Prop :=
  ∀ s c, BuildsRows s → m.wp service.spec (fun _ s' _ => BuildsRows s') noExit s c

/-- Assigning a scalar to a row of scalars leaves a row of scalars. -/
theorem scalar_insertMember {key : Bytes} {value : Value} {members : List (Bytes × Value)}
    (hvalue : value.IsScalar) (h : ∀ entry ∈ members, entry.2.IsScalar) :
    ∀ entry ∈ insertMember key value members, entry.2.IsScalar := by
  intro entry hentry
  rcases mem_insertMember hentry with rfl | hmem
  · exact hvalue
  · exact h entry hmem

/-- No statement of a row can throw. -/
theorem survives_rowStatements : RowStatements lib fun _ m => Survives m where
  pure a s c h := h
  bind {α β m f} hm hf s c h := by
    rw [Routine.wp_bind]
    exact Routine.wp_mono service.spec_mono m (fun a s' c' h' => hf a s' c' h') (fun _ _ _ h' => h')
      (hm s c h)
  itemSet key value hvalue s c h := by
    obtain ⟨members, hmembers, hscalar⟩ := h.item
    have hset : s.jsItem.set (str key) value = .ok (.object (insertMember (str key) value members)) := by
      simp only [Value.set, hmembers]
    simp only [itemSet, Routine.wp_bind, Routine.wp_read, hset, liftJson_ok, Routine.wp_ofExcept]
    simp
    exact ⟨⟨_, rfl, scalar_insertMember hvalue hscalar⟩, h.rows, h.rsp⟩
  itemString key s c h := by
    obtain ⟨members, hmembers, hscalar⟩ := h.item
    have htext : HasText s.jsItem key := by
      refine ⟨members, hmembers, ?_⟩
      cases hlookup : members.lookup (str key) with
      | none => simp [Value.member, hlookup, Value.IsScalar]
      | some value =>
        obtain ⟨before, after, rfl, -⟩ := List.lookup_eq_some_iff.mp hlookup
        simpa [Value.member, hlookup] using hscalar (str key, value) (by simp)
    have hread := (stringOf_eq_ok_iff lib).mpr htext
    simp [itemString, hread]
    exact h
  appendItem s c h := by
    obtain ⟨rows, hrows⟩ := h.rows s.jsItem
    simp [appendItem, hrows]
    exact ⟨h.item, fun value => ⟨_, rfl⟩, h.rsp⟩
  snapshot account s c h := h
  setResultOk s c h := by
    obtain ⟨members, hmembers⟩ := h.rsp
    simp [hmembers]
    exact ⟨h.item, h.rows, _, rfl⟩

/-- Whatever rows were collected can be put into the response. -/
theorem Survives.wp_rspSetBlocks {α : Type} {m : HandlerM α} (hm : Survives m) {s : HandlerState}
    (h : BuildsRows s) (c : Config) :
    m.wp service.spec (fun _ s' c' =>
      rspSetBlocks.wp service.spec (fun _ s'' _ => s''.jsRsp.fields ≠ none) noExit s' c') noExit s c := by
  have hset : ∀ s' c', BuildsRows s' →
      rspSetBlocks.wp service.spec (fun _ s'' _ => s''.jsRsp.fields ≠ none) noExit s' c' := by
    intro s' c' h'
    obtain ⟨members, hmembers⟩ := h'.rsp
    simp [rspSetBlocks, hmembers]
  exact Routine.wp_mono service.spec_mono m (fun _ s' c' => hset s' c') (fun _ _ _ h' => h') (hm s c h)

/-- Properties can be copied into a response that has members. -/
theorem wp_copyProperties (properties : List (Bytes × Bytes)) (s : HandlerState) (c : Config)
    {members : List (Bytes × Value)} (hs : s.jsRsp.fields = some members) :
    (copyProperties properties).wp service.spec (fun _ s' _ => s'.jsRsp.fields ≠ none) noExit s c := by
  induction properties generalizing s members with
  | nil => simp [copyProperties, hs]
  | cons entry rest ih =>
    obtain ⟨key, value⟩ := entry
    rw [copyProperties, Routine.wp_bind, wp_rspSet, hs]
    refine ⟨fun members' _ => ?_, by simp⟩
    exact ih _ rfl

end Loops

section Queries

variable (lib : Externals) (w : World) (s : HandlerState) (t : List HandlerEvent)
  {members : List (Bytes × Value)}

/-- A text is read from a member that has one. -/
theorem wp_rootString_noExit (key : String) (ok : Bytes → HandlerState → Config → Prop) (c : Config) :
    (rootString lib key).wp service.spec ok noExit s c ↔
      HasText s.root key ∧ ok (textOf lib s.root key) s c := by
  rw [wp_rootString, ← stringOf_eq_ok_iff lib]
  cases h : stringOf lib s.root key <;> simp [textOf, h, Except.toOption]

/-- A number is read from a member that has one. -/
theorem wp_rootInt_noExit (key : String) (ok : ℤ → HandlerState → Config → Prop) (c : Config) :
    (rootInt key).wp service.spec ok noExit s c ↔
      ∃ i, intOf s.root key = .ok i ∧ ok i s c := by
  rw [wp_rootInt]
  cases h : intOf s.root key <;> simp

/-- Two page members are read and used without a condition. -/
theorem exists_page_iff {p q : ℤ → Prop} {r : ℤ → ℤ → Prop} (hr : ∀ i j, r i j) :
    (∃ i, p i ∧ ∃ j, q j ∧ r i j) ↔ (∃ i, p i) ∧ ∃ j, q j := by
  simp only [hr, and_true, exists_and_right]

/-- A query or a node command returns exactly when it has what it needs. -/
theorem returns_runAction_iff (hs : s.jsRsp.fields = some members) (haccount : HasText s.root "account")
    (hitem : s.jsItem = .null) (hrows : s.jsArrayObj = .null) (nohash : Bool) {kind : Action}
    (hkind : kind.isTransaction = false) :
    Returns (runAction lib nohash kind) s (w, t) ↔ ActionAnswerable lib w s.root s.tx kind := by
  have hbuilds : ∀ rsp members, rsp.fields = some members → BuildsRows { s with jsRsp := rsp } := by
    intro rsp members hrsp
    refine ⟨⟨[], ?_, by simp⟩, fun value => ⟨[value], ?_⟩, members, hrsp⟩
    · simp only [hitem, Value.fields_null]
    · simp only [hrows, Value.append]
  have hloops := survives_rowStatements lib
  cases kind <;> try exact absurd hkind (by decide)
  case accountBalance =>
    simp only [Returns, runAction, accountBalance, Routine.wp_bind, wp_rootString_noExit]
    simp [ActionAnswerable, haccount, hs]
  case accountInfo =>
    simp only [Returns, runAction, accountInfo, Routine.wp_bind, wp_rootString_noExit]
    cases hsnap : w.store.getAccountSnapInfo (textOf lib s.root "account") <;>
      simp [ActionAnswerable, haccount, hs, hsnap]
  case accountHistory =>
    simp only [Returns, runAction, accountHistory, Routine.wp_bind, wp_rootString_noExit,
      wp_rootInt_noExit]
    simp [ActionAnswerable, haccount, hs, ← intOf_ok_iff]
    exact exists_page_iff fun count perPage =>
      Survives.wp_rspSetBlocks (hloops.historyLoop _ _ _ _ _) (hbuilds _ _ rfl) _
  case accountPending =>
    simp only [Returns, runAction, accountPending, Routine.wp_bind, wp_rootString_noExit,
      wp_rootInt_noExit]
    simp [ActionAnswerable, haccount, hs, ← intOf_ok_iff]
    refine exists_congr fun count => and_iff_left ?_
    exact Survives.wp_rspSetBlocks (hloops.pendingLoop _ _ _) (hbuilds _ _ rfl) _
  case lastDigest =>
    simp only [Returns, runAction, lastDigest, Routine.wp_bind, wp_rootString_noExit]
    cases hsnap : w.store.getAccountSnapInfo (textOf lib s.root "account") <;>
      simp [ActionAnswerable, haccount, hs, hsnap]
  case tpsQuery =>
    simp [Returns, runAction, queryTps, ActionAnswerable, hs]
  case queryProperty =>
    simp only [Returns, runAction, queryProperty, Routine.wp_bind, wp_rootString_noExit]
    cases hsnap : w.store.getAccountSnapInfo (textOf lib s.root "account") with
    | none => simp [ActionAnswerable, haccount, hs, hsnap]
    | some snap =>
      simp [ActionAnswerable, haccount, hs, hsnap, -wp_rootString, wp_rootString_noExit]
  case queryAllProperty =>
    simp only [Returns, runAction, queryAllProperty, Routine.wp_bind, wp_rootString_noExit]
    cases hsnap : w.store.getAccountSnapInfo (textOf lib s.root "account") with
    | none => simp [ActionAnswerable, haccount, hs, hsnap]
    | some snap =>
      simp [ActionAnswerable, haccount, hsnap]
      exact wp_copyProperties _ _ _ hs
  case queryOnlineTx =>
    simp only [Returns, runAction, queryOnlineTx, Routine.wp_bind, wp_rootInt_noExit]
    cases hlist : w.store.queryOnlineTx with
    | none => simp [ActionAnswerable, hs, hlist, ← intOf_ok_iff]
    | some txList =>
      simp [ActionAnswerable, hlist, ← intOf_ok_iff]
      exact exists_page_iff fun count perPage =>
        Survives.wp_rspSetBlocks (hloops.onlineLoop _ _ _ _) (hbuilds _ _ hs) _
  case accountDelete =>
    simp only [Returns, runAction, accountDelete, Routine.wp_bind, wp_rootString_noExit]
    simp [-wp_rootString, ActionAnswerable, haccount, hs]
  case accountSnapDelete =>
    simp only [Returns, runAction, accountSnapDelete, Routine.wp_bind, wp_rootString_noExit]
    simp [ActionAnswerable, haccount, hs]
  case accountSync =>
    simp only [Returns, runAction, accountSync, Routine.wp_bind, wp_rootString_noExit]
    simp [ActionAnswerable, haccount, hs]
  case triggerElect => simp [Returns, runAction, triggerElect, ActionAnswerable]
  case invalid => simp [Returns, runAction, ActionAnswerable, hs]

end Queries

end XrpcServer.Handler
