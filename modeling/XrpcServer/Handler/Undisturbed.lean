import XrpcServer.Handler.Lookups

/-!
# Requests as if undisturbed

While a request is served, others may change the node between any two of its questions. What it
answers could still have come from a node that stood still: as no question is asked twice, the replies
that were given make up one world, and the request served against that world goes the same way.
-/

namespace XrpcServer.Handler

open XrpcServer.Text XrpcServer.Chain XrpcServer.Interaction

section Recorded

variable {events : List HandlerEvent}

/-- A read past the end of a string has found a byte. -/
def Found (events : List HandlerEvent) (s : Bytes) (i : ℕ) (byte : UInt8) : Prop :=
  ∃ count, ∃ beyond : Reply (.readBeyond s count),
    ⟨.readBeyond s count, beyond⟩ ∈ events ∧ beyond.1[i]? = some byte

/-- Reads past the end of the same string have found the same bytes. -/
def MemoryAgrees (events : List HandlerEvent) : Prop :=
  ∀ s i byte byte', Found events s i byte → Found events s i byte' → byte' = byte

/-- Nothing disagrees where nothing was read. -/
theorem memoryAgrees_of_kinds {kinds : List OpKind} (h : events.map (fun e => e.1.kind) = kinds)
    (hnone : .readBeyond ∉ kinds) : MemoryAgrees events := by
  intro s i byte byte' ⟨count, beyond, hread, _⟩
  have hmem : OpKind.readBeyond ∈ events.map fun e => e.1.kind :=
    List.mem_map_of_mem (f := fun e : HandlerEvent => e.1.kind) hread
  exact absurd (h ▸ hmem) hnone

/-- The world that gives the replies of a transcript, and those of another world to all else. -/
noncomputable def World.replying (w : World) (events : List HandlerEvent) : World where
  store := {
    getAccountSnapInfo := fun account => recorded events w.answer (.getAccountSnapInfo account)
    getAccountBalance := fun account key => recorded events w.answer (.getAccountBalance account key)
    getLastHash := fun account => recorded events w.answer (.getLastHash account)
    existAccount := fun account => recorded events w.answer (.existAccount account)
    getReceiveBlocks := fun account => recorded events w.answer (.getReceiveBlocks account)
    getSettleBlocks := fun account => recorded events w.answer (.getSettleBlocks account)
    queryOnlineTx := recorded events w.answer .queryOnlineTx
    getStatInfo := recorded events w.answer .getStatInfo }
  deleteAccount := w.deleteAccount
  accountSnapDelete := w.accountSnapDelete
  triggerElect := fun request => recorded events w.answer (.triggerElect request)
  sha256 := fun tx => recorded events w.answer (.sha256 tx)
  txHashAndSignCalc := fun priKey tx => recorded events w.answer (.txHashAndSignCalc priKey tx)
  txHashAndSignVerify := fun tx => recorded events w.answer (.txHashAndSignVerify tx)
  timestampNowMs := recorded events w.answer .timestampNowMs
  getTimestamp := recorded events w.answer .getTimestamp
  rand := recorded events w.answer .rand
  accountShardInfo := fun account => recorded events w.answer (.getAccountShardInfo account)
  memory := fun s i => someOr (Found events s i) (w.memory s i)

/-- It gives the bytes that were found. -/
theorem memory_replying (w : World) (hmemory : MemoryAgrees events) {s : Bytes} {i : ℕ} {byte : UInt8}
    (h : Found events s i byte) : (w.replying events).memory s i = byte :=
  someOr_eq (w.memory s i) h fun byte' h' => hmemory s i byte byte' h h'

/-- It gives the replies of a transcript in which no question is asked twice. -/
theorem answer_replying (w : World) (hordered : events.Pairwise fun e e' => e.1.Precedes e'.1)
    (hmemory : MemoryAgrees events) : ∀ e ∈ events, (w.replying events).answer e.1 = e.2 := by
  rintro ⟨op, reply⟩ he
  have hrecorded : op.kind ≠ .readBeyond → recorded events w.answer op = reply := by
    intro hkind
    apply recorded_eq w.answer he
    intro reply' he'
    exact reply_unique (fun op => op.kind = .readBeyond) (hordered.imp fun hprecedes => hprecedes.1) hkind he he'
  cases op with
  | readBeyond s count =>
    apply Subtype.ext
    apply List.ext_getElem
    · simp [reply.2]
    · intro i _ hi
      have hfound : Found events s i (reply.1[i]) := ⟨count, reply, he, List.getElem?_eq_getElem hi⟩
      simpa using memory_replying w hmemory hfound
  | deleteAccount _ | accountSnapDelete _ | syncAccountDelete _ | syncAccountSync _ | broadcast _ _
  | broadcastEx _ | unsignedSender => rfl
  | _ => exact hrecorded (by simp [Op.kind])

/-- All other replies are those of the other world. -/
theorem answer_replying_of_not_asked (w : World) {op : Op} (hkind : op.kind ≠ .readBeyond)
    (h : ∀ e ∈ events, e.1 ≠ op) : (w.replying events).answer op = w.answer op := by
  have hnone : recorded events w.answer op = w.answer op :=
    someOr_of_not (w.answer op) fun _ hasked => h _ hasked rfl
  cases op with
  | readBeyond s count => exact absurd rfl hkind
  | deleteAccount _ | accountSnapDelete _ | syncAccountDelete _ | syncAccountSync _ | broadcast _ _
  | broadcastEx _ | unsignedSender => rfl
  | _ => exact hnone

end Recorded

/-- Operations in order do not disturb one another. -/
theorem Op.Precedes.spares {op op' : Op} (h : op.Precedes op') : service.Spares op op' := by
  intro w
  cases op with
  | deleteAccount _ | accountSnapDelete _ =>
    have hstore := h.2 rfl
    cases op' <;> first | rfl | cases hstore
  | _ => rfl

section Sample

/-- A node that is another one at each question. -/
def restless : Service Op Reply (ℕ → World) where
  answer worlds op := (worlds 0).answer op
  after worlds _ n := worlds (n + 1)

/-- A server that has received a request for the details of an account. -/
def infoExternals : Externals := { sampleExternals with
  parse := fun _ => (true, .object
    [(str "account", .string (str "T-alice")), (str "action", .string (str "account_info"))]) }

/-- A receipt shows up after the account was looked up, and is gone again at the next question. -/
def flickering (n : ℕ) : World := { sampleWorld with
  store := { sampleStore with
    getSettleBlocks := fun _ => if n = 1 then [{ sampleFresh with transactionType := 2 }] else [] } }

/-- The sample request, two questions of which meet different nodes. -/
theorem info_disturbed : ∃ events result final,
    (serve infoExternals [] (HandlerState.initial infoExternals)).Yields events (result, final) ∧
      MemoryAgrees events ∧ events.map (fun e => e.1.kind) = [.getAccountSnapInfo, .getSettleBlocks] := by
  obtain ⟨events, htrace, hyields⟩ := Program.yields_exec restless
    (serve infoExternals [] (HandlerState.initial infoExternals)) (flickering, [])
  have hkinds : events.map (fun e => e.1.kind) = [.getAccountSnapInfo, .getSettleBlocks] := by
    rw [List.nil_append] at htrace
    rw [← htrace]
    decide +kernel
  exact ⟨events, _, _, hyields, memoryAgrees_of_kinds hkinds (by decide), hkinds⟩

end Sample

/-- Served against the world of its replies, a request goes the same way. -/
theorem run_replying (lib : Externals) (req : Bytes) (w : World) {events : List HandlerEvent}
    {result : Except Exc Bytes} {final : HandlerState}
    (h : (serve lib req (HandlerState.initial lib)).Yields events (result, final)) (hmemory : MemoryAgrees events) :
    ∃ last, (serve lib req).run service (HandlerState.initial lib) (w.replying events) =
      ⟨result, final, last, events⟩ := by
  obtain ⟨-, hordered⟩ := serve_inOrder lib req _ events _ h
  have hspares : events.Pairwise fun e e' => service.Spares e.1 e'.1 :=
    hordered.imp fun hprecedes => hprecedes.spares
  obtain ⟨last, hreplays⟩ := Service.exists_replays (answer_replying w hordered hmemory) hspares
  exact ⟨last, hreplays.run h⟩

/-- Whatever the replies, and whoever changes the node in between: the request asks no question twice and
nothing of the store after a deletion, and it goes as it would against one world that nobody else
changes, which is any other world but for the questions of the request. -/
theorem serve_undisturbed (lib : Externals) (req : Bytes) (w : World) {events : List HandlerEvent}
    {result : Except Exc Bytes} {final : HandlerState}
    (h : (serve lib req (HandlerState.initial lib)).Yields events (result, final)) :
    events.Pairwise (fun e e' => e.1.Precedes e'.1) ∧
    (MemoryAgrees events → ∃ w' last,
      (serve lib req).run service (HandlerState.initial lib) w' = ⟨result, final, last, events⟩ ∧
        w'.deleteAccount = w.deleteAccount ∧ w'.accountSnapDelete = w.accountSnapDelete ∧
        ∀ op, op.kind ≠ .readBeyond → (∀ e ∈ events, e.1 ≠ op) → w'.answer op = w.answer op) := by
  refine ⟨(serve_inOrder lib req _ events _ h).2, fun hmemory => ?_⟩
  obtain ⟨last, hrun⟩ := run_replying lib req w h hmemory
  refine ⟨w.replying events, last, hrun, rfl, rfl, ?_⟩
  exact fun op hkind hasked => answer_replying_of_not_asked w hkind hasked

/-- The sample request asks two questions, and is answered as by a node that stands still. -/
theorem serve_undisturbed_sample : ∃ events result final w' last,
    events.map (fun e => e.1.kind) = [.getAccountSnapInfo, .getSettleBlocks] ∧
      events.Pairwise (fun e e' => e.1.Precedes e'.1) ∧
      (serve infoExternals []).run service (HandlerState.initial infoExternals) w' =
        ⟨result, final, last, events⟩ := by
  obtain ⟨events, result, final, hyields, hmemory, hkinds⟩ := info_disturbed
  obtain ⟨hordered, hserved⟩ := serve_undisturbed infoExternals [] sampleWorld hyields
  obtain ⟨w', last, hrun, -⟩ := hserved hmemory
  exact ⟨events, result, final, w', last, hkinds, hordered, hrun⟩

end XrpcServer.Handler
