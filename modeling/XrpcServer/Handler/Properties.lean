import XrpcServer.Handler.CleanResponses

/-!
# Stored properties

The properties of an account are copied into the object that also holds the members of a response.
A key that a `set_property` request may store starts with `@`, so it is none of these members: the
response to `query_all_property` shows every stored property, whatever was stored before.
-/

namespace XrpcServer.Handler

open XrpcServer.Text XrpcServer.Chain XrpcServer.Interaction XrpcServer.Json XrpcServer.Paging
open XrpcServer.Json (Value)

/-- The stored properties of an account. -/
abbrev Properties := Bytes → Option Bytes

/-- A transaction on the property of an account is applied. -/
def applyProperty (stored : Properties) (tx : Xtransaction) : Properties :=
  Function.update stored tx.propertyKey (some tx.transactionParams)

/-- A request, and what it finds when it is handled. -/
structure Asked where
  root : Value
  world : World

/-- What is stored after a request: its proposals are applied. -/
def afterRequest (lib : Externals) (stored : Properties) (asked : Asked) : Properties :=
  (dispatches (handled lib asked.world asked.root).trace).foldl applyProperty stored

/-- What is stored after a sequence of requests. -/
def afterRequests (lib : Externals) (stored : Properties) (requests : List Asked) : Properties :=
  requests.foldl (afterRequest lib) stored

/-- Keys are marked by `$`, or are keys that `check_input` admits. -/
def KeysMarked (stored : Properties) : Prop :=
  ∀ key, (stored key).isSome → key.head? = some 36 ∨ ValidPropertyKey key

/-- The getters of a snapshot read the stored properties. -/
structure ReadsProperties (snap : XaccountSnap) (stored : Properties) : Prop where
  nodup : (snap.getAllProperty.map Prod.fst).Nodup
  all : ∀ key value, (key, value) ∈ snap.getAllProperty ↔ stored key = some value
  found : ∀ key, (snap.getProperty key).1 = (stored key).isSome
  value : ∀ key value, stored key = some value → (snap.getProperty key).2 = value

/-- One member for each stored property, which holds its value, and `Result`. -/
def AnswersProperties (stored : Properties) (o : HandlerOutcome) : Prop :=
  o.result = .ok () ∧ ∃ members, o.state.jsRsp = .object members ∧ (members.map Prod.fst).Nodup ∧
    ∀ key value, (key, value) ∈ members ↔
      (key, value) = (str "Result", .int 1) ∨ ∃ text, stored key = some text ∧ value = .string text

/-- The value of a stored property, and the missing key otherwise. -/
def AnswersProperty (stored : Properties) (key : Bytes) (o : HandlerOutcome) : Prop :=
  o.result = .ok () ∧
    match stored key with
    | some value =>
      o.state.jsRsp = .object (okMembers (insertMember (str "property_value") (.string value) []))
    | none => o.state.jsRsp = .object (failMembers .noPropertyKey [])

section Runs

variable {lib : Externals} {account : Bytes} {stored : Properties}

/-- A `set_property` request proposes keys that `check_input` admits only. -/
theorem validPropertyKey_of_dispatched {asked : Asked}
    (hasks : ReadsRequest lib asked.root .setProperty account) :
    ∀ tx ∈ dispatches (handled lib asked.world asked.root).trace, ValidPropertyKey tx.propertyKey := by
  intro tx htx
  rw [dispatches_handleRequest, Option.mem_toList] at htx
  obtain ⟨draft, hdraft, haccept⟩ := admitted_eq_some.mp htx
  obtain ⟨signed, hseal, hfinish, -, -⟩ := Draft.accept_eq_ok.mp haccept
  cases hdraft with
  | accountCreate reads => cases hasks.kind_eq reads.haction
  | transferOut reads => cases hasks.kind_eq reads.haction
  | give reads => cases hasks.kind_eq reads.haction
  | transferIn reads => cases hasks.kind_eq reads.haction
  | @setProperty _ _ propertyKey _ _ _ reads =>
    cases hfinish
    have hkey : tx.propertyKey = propertyKey := congrArg Payload.propertyKey (sealTx_payload hseal)
    rw [hkey]
    exact reads.hvalid

/-- Applying a proposal keeps the keys marked. -/
theorem KeysMarked.applyProperty (h : KeysMarked stored) {tx : Xtransaction}
    (hvalid : ValidPropertyKey tx.propertyKey) : KeysMarked (applyProperty stored tx) := by
  intro key hkey
  by_cases heq : key = tx.propertyKey
  · exact Or.inr (heq ▸ hvalid)
  · rw [Handler.applyProperty, Function.update_of_ne heq] at hkey
    exact h key hkey

/-- A request keeps the keys marked. -/
theorem KeysMarked.afterRequest (h : KeysMarked stored) {asked : Asked}
    (hasks : ReadsRequest lib asked.root .setProperty account) :
    KeysMarked (afterRequest lib stored asked) := by
  have hvalid := validPropertyKey_of_dispatched hasks
  unfold Handler.afterRequest
  generalize dispatches (handled lib asked.world asked.root).trace = txs at hvalid
  induction txs generalizing stored with
  | nil => exact h
  | cons tx rest ih =>
    apply ih (h.applyProperty (hvalid tx List.mem_cons_self))
    exact fun tx' htx' => hvalid tx' (List.mem_cons_of_mem _ htx')

/-- Every sequence of requests keeps the keys marked. -/
theorem KeysMarked.afterRequests (h : KeysMarked stored) {requests : List Asked}
    (hasks : ∀ asked ∈ requests, ReadsRequest lib asked.root .setProperty account) :
    KeysMarked (afterRequests lib stored requests) := by
  induction requests generalizing stored with
  | nil => exact h
  | cons asked rest ih =>
    apply ih (h.afterRequest (hasks asked List.mem_cons_self))
    exact fun asked' hasked' => hasks asked' (List.mem_cons_of_mem _ hasked')

/-- A marked key is none of the members a response has by itself. -/
theorem KeysMarked.result_absent (h : KeysMarked stored) : stored (str "Result") = none := by
  by_contra hstored
  rcases h _ (Option.isSome_iff_ne_none.mpr hstored) with hhead | hvalid
  · exact absurd hhead (by decide)
  · exact absurd hvalid (by decide)

end Runs

section Responses

variable {lib : Externals} {w : World} {root : Value} {account : Bytes} {stored : Properties}
  {snap : XaccountSnap}

/-- Properties whose keys differ from each other and from `Result` are all shown. -/
theorem answersProperties_queryAllProperty (hasks : ReadsRequest lib root .queryAllProperty account)
    (hsnap : w.store.getAccountSnapInfo account = some snap) (hreads : ReadsProperties snap stored)
    (habsent : stored (str "Result") = none) : AnswersProperties stored (handled lib w root) := by
  rw [hasks.handled_eq, Routine.run_iff_wp service _ _ _ (AnswersProperties stored)]
  simp only [runAction, queryAllProperty, constructed_parsed, Routine.wp_bind, wp_rootString, hasks.haccount,
    Except.ok.injEq, forall_eq', reduceCtorEq, false_implies, implies_true, and_true, Routine.wp_perform,
    Service.spec_apply, service_answer, service_after, World.answer, World.after, hsnap]
  apply wp_copyProperties_assign _ rfl
  intro rsp hrsp
  let entries : List (Bytes × Value) := snap.getAllProperty.map fun entry => (entry.1, .string entry.2)
  have hkeys : entries.map Prod.fst = snap.getAllProperty.map Prod.fst := by simp [entries]
  have hnodup : (entries.map Prod.fst).Nodup := hkeys ▸ hreads.nodup
  have hcopied : (assignMembers entries []).Perm entries := by
    have hperm : (assignMembers entries []).Perm (entries ++ []) :=
      assignMembers_perm (by rwa [List.append_nil])
    rwa [List.append_nil] at hperm
  have hnew : str "Result" ∉ entries.map Prod.fst := by
    intro hmem
    rw [hkeys] at hmem
    obtain ⟨entry, hentry, hkey⟩ := List.mem_map.mp hmem
    have hstored := (hreads.all entry.1 entry.2).mp hentry
    rw [hkey, habsent] at hstored
    cases hstored
  have hanswered : (okMembers (assignMembers entries [])).Perm ((str "Result", .int 1) :: entries) := by
    refine (insertMember_perm ?_ _).trans (hcopied.cons _)
    rwa [(hcopied.map Prod.fst).mem_iff]
  simp only [wp_setResultOk, hrsp, Option.some.injEq, forall_eq', reduceCtorEq, false_implies, and_true]
  refine ⟨rfl, _, rfl, ?_, ?_⟩
  · apply (hanswered.map Prod.fst).nodup_iff.mpr
    exact List.nodup_cons.mpr ⟨hnew, hnodup⟩
  · intro key value
    have hentries : (key, value) ∈ entries ↔ ∃ text, stored key = some text ∧ value = .string text := by
      simp only [entries, List.mem_map, Prod.exists, Prod.mk.injEq, ← hreads.all]
      constructor
      · intro hentry
        obtain ⟨key', text, hmem, rfl, rfl⟩ := hentry
        exact ⟨text, hmem, rfl⟩
      · intro hentry
        obtain ⟨text, hmem, rfl⟩ := hentry
        exact ⟨key, text, hmem, rfl, rfl⟩
    exact hanswered.mem_iff.trans (List.mem_cons.trans (or_congr_right hentries))

/-- A single property is answered from the same map. -/
theorem answersProperty_queryProperty {key : Bytes} (hasks : ReadsRequest lib root .queryProperty account)
    (hkey : stringOf lib root "property_key" = .ok key)
    (hsnap : w.store.getAccountSnapInfo account = some snap) (hreads : ReadsProperties snap stored) :
    AnswersProperty stored key (handled lib w root) := by
  rw [hasks.handled_eq, Routine.run_iff_wp service _ _ _ (AnswersProperty stored key)]
  have hfound := hreads.found key
  simp only [runAction, queryProperty, constructed_parsed, Routine.wp_bind, wp_rootString, hasks.haccount,
    Except.ok.injEq, forall_eq', reduceCtorEq, false_implies, implies_true, and_true, Routine.wp_perform,
    Service.spec_apply, service_answer, service_after, World.answer, World.after, hsnap, hkey]
  cases hstored : stored key with
  | some value =>
    have hvalue := hreads.value key value hstored
    rw [hstored] at hfound
    simp [AnswersProperty, hstored, hfound, hvalue, okMembers]
  | none =>
    rw [hstored] at hfound
    simp [AnswersProperty, hstored, hfound]

end Responses

/-- After every sequence of `set_property` requests on an account whose keys were marked by `$`, the
queries show the stored properties. -/
theorem properties_shown (lib : Externals) (account : Bytes) (stored : Properties) (requests : List Asked)
    (hmarked : ∀ key, (stored key).isSome → key.head? = some 36)
    (hrequests : ∀ asked ∈ requests, ReadsRequest lib asked.root .setProperty account) (w : World)
    (snap : XaccountSnap) (hsnap : w.store.getAccountSnapInfo account = some snap)
    (hreads : ReadsProperties snap (afterRequests lib stored requests)) :
    (∀ root, ReadsRequest lib root .queryAllProperty account →
      AnswersProperties (afterRequests lib stored requests) (handled lib w root)) ∧
    ∀ root key, ReadsRequest lib root .queryProperty account →
      stringOf lib root "property_key" = .ok key →
      AnswersProperty (afterRequests lib stored requests) key (handled lib w root) := by
  have hkept : KeysMarked (afterRequests lib stored requests) :=
    KeysMarked.afterRequests (fun key hkey => Or.inl (hmarked key hkey)) hrequests
  constructor
  · intro root hasks
    exact answersProperties_queryAllProperty hasks hsnap hreads hkept.result_absent
  · intro root key hasks hkey
    exact answersProperty_queryProperty hasks hkey hsnap hreads

section Sample

/-- A request to store the name of an account. -/
def setName : Value :=
  .object [(str "account", .string (str "T-alice")), (str "action", .string (str "set_property")),
    (str "property_key", .string (str "@name")), (str "property_value", .string (str "alice"))]

/-- A request for one property of the account, or for all of them. -/
def askProperty (kind : Action) : Value :=
  .object [(str "account", .string (str "T-alice")), (str "action", .string (str kind.text)),
    (str "property_key", .string (str "@name"))]

/-- The properties before, one of them marked. -/
def sampleStored : Properties := fun key => if key = str "$$" then some (str "100") else none

/-- A snapshot that lists the properties afterwards. -/
def sampleSnap : XaccountSnap where
  getBalance := fun _ => none
  sequenceId := 1
  unitSnap := [sampleDigest 1]
  unitSnap_ne_nil := List.cons_ne_nil _ _
  createTime := 0
  getProperty := fun key =>
    if key = str "@name" then (true, str "alice")
    else if key = str "$$" then (true, str "100")
    else (false, [])
  getAllProperty := [(str "@name", str "alice"), (str "$$", str "100")]

/-- The sample surroundings with this snapshot. -/
def sampleNamedWorld : World :=
  { sampleWorld with store := { sampleStore with getAccountSnapInfo := fun _ => some sampleSnap } }

/-- The name is stored. -/
theorem sampleSnap_reads : ReadsProperties sampleSnap
    (afterRequests sampleExternals sampleStored [⟨setName, sampleWorld⟩]) := by
  have hsent : (dispatches (handled sampleExternals sampleWorld setName).trace).map
      (fun tx => (tx.propertyKey, tx.transactionParams)) = [(str "@name", str "alice")] := by
    decide +kernel
  obtain ⟨tx, htx, hproperty⟩ := List.map_eq_singleton_iff.mp hsent
  obtain ⟨hkey, hvalue⟩ := Prod.mk.inj hproperty
  have hstored : afterRequests sampleExternals sampleStored [⟨setName, sampleWorld⟩] = fun key =>
      if key = str "@name" then some (str "alice") else if key = str "$$" then some (str "100") else none := by
    funext key
    simp only [afterRequests, afterRequest, List.foldl_cons, List.foldl_nil, htx, applyProperty, hkey, hvalue,
      Function.update_apply, sampleStored]
  rw [hstored]
  constructor
  case nodup => decide
  case all =>
    intro key value
    simp only [sampleSnap, List.mem_cons, Prod.mk.injEq, List.not_mem_nil, or_false]
    by_cases hname : key = str "@name"
    · simp [hname, eq_comm]
    · by_cases hbalance : key = str "$$"
      · simp [hbalance, eq_comm]
      · simp [hname, hbalance]
  case found =>
    intro key
    simp only [sampleSnap]
    split_ifs <;> rfl
  case value =>
    intro key value
    simp only [sampleSnap]
    split_ifs <;> simp

/-- Both queries after the name was stored. -/
theorem properties_shown_sample :
    AnswersProperties (afterRequests sampleExternals sampleStored [⟨setName, sampleWorld⟩])
        (handled sampleExternals sampleNamedWorld (askProperty .queryAllProperty)) ∧
      AnswersProperty (afterRequests sampleExternals sampleStored [⟨setName, sampleWorld⟩]) (str "@name")
        (handled sampleExternals sampleNamedWorld (askProperty .queryProperty)) := by
  have hmarked : ∀ key, (sampleStored key).isSome → key.head? = some 36 := by
    intro key hkey
    by_cases heq : key = str "$$"
    · rw [heq]
      decide
    · simp [sampleStored, heq] at hkey
  have hrequests : ∀ asked ∈ [(⟨setName, sampleWorld⟩ : Asked)],
      ReadsRequest sampleExternals asked.root .setProperty (str "T-alice") := by
    intro asked hasked
    obtain rfl := List.mem_singleton.mp hasked
    exact ⟨by decide, by decide⟩
  have hshown := properties_shown sampleExternals (str "T-alice") sampleStored [⟨setName, sampleWorld⟩]
    hmarked hrequests sampleNamedWorld sampleSnap rfl sampleSnap_reads
  exact ⟨hshown.1 _ ⟨by decide, by decide⟩, hshown.2 _ _ ⟨by decide, by decide⟩ (by decide)⟩

end Sample

end XrpcServer.Handler
